import LogTail.Saved.Document
import LogTail.World

/-!
# State files

The document of all watches is kept in one file. Saving writes the whole document into a temporary file
and renames that over the old one, so that a save that is interrupted leaves the old document in place.

* A save or removal that fails changes neither the handle nor the file.
* Handles that were opened apart do not see each other's changes.
-/

namespace LogTail

/-- A handle on a state file; without a path the document is never written. -/
structure StateFile where
  path : Option Path
  document : Document

namespace StateFile

def inMemory : StateFile := ⟨none, .empty⟩

/-- Opens a state file; a missing one is an empty document. -/
def openAt (path : Path) (w : World) : Except StateError StateFile × World :=
  match w.look fun d => d.readAll path with
  | (.error .notFound, w) => (.ok ⟨some path, .empty⟩, w)
  | (.error c, w) => (.error (.unreadable path c), w)
  | (.ok bytes, w) =>
    match Document.ofBytes? bytes with
    | some document => (.ok ⟨some path, document⟩, w)
    | none => (.error (.notJson path), w)

def makeParent (path : Path) (w : World) : Except StateError Unit × World :=
  match path.parent? with
  | none => (.ok (), w)
  | some parent =>
    if parent.bytes = [] then (.ok (), w)
    else
      match w.act fun d => d.makeDirectories parent with
      | (.ok (), w) => (.ok (), w)
      | (.error c, w) => (.error (.noDirectory parent c), w)

def writeBeside (temporary path : Path) (bytes : Bytes) (w : World) : Except Cause Unit × World :=
  match w.act fun d => d.write temporary [] with
  | (.error c, w) => (.error c, w)
  | (.ok (), w) =>
    match w.act fun d => d.write temporary bytes with
    | (.error c, w) => (.error c, w)
    | (.ok (), w) =>
      match w.sync with
      | (.error c, w) => (.error c, w)
      | (.ok (), w) => w.act fun d => d.rename temporary path

/-- Replaces a file by another content. A temporary file that could not be moved is removed. -/
def replaceFile (path : Path) (bytes : Bytes) (w : World) : Except StateError Unit × World :=
  match makeParent path w with
  | (.error e, w) => (.error e, w)
  | (.ok (), w) =>
    let temporary := path.withExtension s!"{w.calls}.tmp"
    match writeBeside temporary path bytes w with
    | (.ok (), w) => (.ok (), w)
    | (.error c, w) => (.error (.unwritable path c), (w.act fun d => d.remove temporary).2)

/-- Puts an entry under a key, or takes it out, and writes the document. If it cannot be written, what was under the
key before is put back. -/
def setEntry (f : StateFile) (key : String) (entry : Option Json) (w : World) :
    Except StateError Unit × StateFile × World :=
  let previous := f.document.find? key
  let document := f.document.put key entry
  match f.path with
  | none => (.ok (), { f with document := document }, w)
  | some path =>
    match replaceFile path document.toBytes w with
    | (.ok (), w) => (.ok (), { f with document := document }, w)
    | (.error e, w) => (.error e, { f with document := document.put key previous }, w)

def save (f : StateFile) (key : String) (state : WatchState) (w : World) :
    Except StateError Unit × StateFile × World :=
  match Document.entryOf? state with
  | none => (.error .pathNotText, f, w)
  | some entry => f.setEntry key (some entry) w

def remove (f : StateFile) (key : String) (w : World) : Except StateError Unit × StateFile × World :=
  f.setEntry key none w

def load (f : StateFile) (key : String) : Except StateError (Option WatchState) := f.document.load key

end StateFile

/-- A store that holds the state of one watch for as long as it lives, and counts the saves. -/
structure MemoryStore where
  current : Option WatchState := none
  saves : Nat := 0

def MemoryStore.save (m : MemoryStore) (state : WatchState) : MemoryStore := ⟨some state, m.saves + 1⟩

end LogTail
