import LogTail.Error
import LogTail.Json.Parser
import LogTail.Json.Printer
import LogTail.Json.Record
import LogTail.WatchState

/-!
# Documents of saved states

A document holds one entry a watch, under the key of the watch. An entry is any JSON value; the one that
a watch writes has a version and its state. Entries that are not understood are kept as they are.
-/

namespace LogTail

/-- The entries of a document by increasing key. -/
structure Document where
  watches : List (String × Json)

namespace Document

def version : Nat := 1

/-- How deeply an entry may be nested, so that the whole document stays within 127 levels. -/
def depthLimit : Nat := 125

def empty : Document := ⟨[]⟩

def isBlankByte (b : UInt8) : Bool := b = 0x20 || b = 0x09 || b = 0x0a || b = 0x0c || b = 0x0d

def keys (d : Document) : List String := d.watches.map (·.1)

def find? (d : Document) (key : String) : Option Json :=
  (d.watches.find? fun e => e.1 == key).map (·.2)

def insert (d : Document) (key : String) (value : Json) : Document :=
  ⟨Json.insertSorted key value d.watches⟩

def erase (d : Document) (key : String) : Document := ⟨d.watches.filter fun e => e.1 != key⟩

def put (d : Document) (key : String) : Option Json → Document
  | some entry => d.insert key entry
  | none => d.erase key

/-- An entry as a document holds it; none for one that is nested too deeply or is no value. -/
def held? (j : Json) : Option Json := if depthLimit < j.depth then none else j.canonical?

def ofJson? (j : Json) : Option Document := do
  let fs ← j.toFields? ["watches"]
  let entries ← fs.optional? "watches" [] Json.toObject?
  let entries ← entries.mapM fun e => (held? e.2).map (e.1, ·)
  some (entries.foldl (fun d e => d.insert e.1 e.2) empty)

/-- The document of the bytes of a file; blanks alone are an empty one. -/
def ofBytes? (bytes : Bytes) : Option Document :=
  if bytes.all isBlankByte then some empty else (Json.ofBytes? bytes).bind ofJson?

def toBytes (d : Document) : Bytes :=
  Text.Utf8.encode (Json.object [("watches", .object d.watches)]).pretty

def entryOf? (state : WatchState) : Option Json :=
  state.toJson?.bind fun j => (Json.object [("version", .ofNat version), ("state", j)]).canonical?

def stateOf (key : String) (entry : Json) : Except StateError WatchState :=
  let written := (entry.get? "version").bind Json.toWord?
  match written.filter (version < ·) with
  | some v => .error (.unsupportedVersion key v)
  | none =>
    let state : Option WatchState := do
      let fs ← entry.toFields? ["version", "state"]
      let _ ← fs.required? "version" (Json.toNatUpTo? 255)
      fs.required? "state" WatchState.ofJson?
    match state with
    | some state => .ok state
    | none => .error (.corrupted key)

def load (d : Document) (key : String) : Except StateError (Option WatchState) :=
  match d.find? key with
  | none => .ok none
  | some entry => (stateOf key entry).map some

end Document

end LogTail
