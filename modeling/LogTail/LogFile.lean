import LogTail.Digest
import LogTail.FileId
import LogTail.Path

/-!
# Tracked files

One file as a watch remembers it: where it was found, which file it is, and how far it was read. Its
`tail` holds the bytes of a record without an end, which were read already and lie just before
`processed`.
-/

namespace LogTail

/-- A file known to a watch. -/
structure LogFile where
  path : Path
  /-- Time of the last change in seconds. -/
  mtime : Int
  id : FileId
  /-- Bytes at the last scan. -/
  size : Nat
  /-- Where the bytes end that were delivered, filtered out, or kept as tail. -/
  processed : Nat
  digest : Digest
  /-- Place in the order of a cycle. -/
  seq : Nat
  /-- Refusals in a row. They are counted without a bound; a word holds them up to `retryMax`. -/
  retry : Nat := 0
  /-- The last bytes read had no terminator. -/
  incomplete : Bool := false
  tail : Bytes := []
  /-- The rest of a record that was too long is being skipped. -/
  skipping : Bool := false
  /-- Which file of the cycle before this one is a copy of. -/
  copyOf : Option Nat := none
  deriving DecidableEq, Inhabited

namespace LogFile

def unread (f : LogFile) : Nat := f.size - f.processed

def tailStart (f : LogFile) : Nat := f.processed - f.tail.length

def resetProgress (f : LogFile) : LogFile :=
  { f with processed := 0, incomplete := false, tail := [], skipping := false }

def fileName? (f : LogFile) : Option String := f.path.fileName?.bind Text.Utf8.decode?

/-- Whether the tail is a last record that is delivered once nothing can follow it. -/
def hasFinalTail (f : LogFile) : Bool := !f.tail.isEmpty && !f.skipping

def fieldNames : List String :=
  ["path", "mtime", "file_id", "size", "processed_size", "digest", "seq", "retry", "incomplete", "tail",
    "big_rec"]

/-- The written form; none for a path that is no text. What the file is a copy of is not written. -/
def toJson? (f : LogFile) : Option Json :=
  f.path.toText?.map fun path =>
    .object [("path", .string path), ("mtime", .ofInt f.mtime), ("file_id", f.id.toJson),
      ("size", .ofNat f.size), ("processed_size", .ofNat f.processed), ("digest", f.digest.toJson),
      ("seq", .ofNat f.seq), ("retry", .ofNat f.retry), ("incomplete", .bool f.incomplete),
      ("tail", .string (Text.Base64.encode f.tail)), ("big_rec", .bool f.skipping)]

/-- The largest count of refusals that can be read. -/
def retryMax : Nat := 4294967295

/-- The file of its written form. The fields from `retry` on may be missing. -/
def ofJson? (j : Json) : Option LogFile := do
  let fs ← j.toFields? fieldNames
  let path ← fs.required? "path" Json.toText?
  let mtime ← fs.required? "mtime" Json.toSigned?
  let id ← fs.required? "file_id" FileId.ofJson?
  let size ← fs.required? "size" Json.toWord?
  let processed ← fs.required? "processed_size" Json.toWord?
  let digest ← fs.required? "digest" Digest.ofJson?
  let seq ← fs.required? "seq" Json.toWord?
  let retry ← fs.optional? "retry" 0 (Json.toNatUpTo? retryMax)
  let incomplete ← fs.optional? "incomplete" false Json.toBool?
  let tail ← fs.optional? "tail" [] Digest.bytesOfJson?
  let skipping ← fs.optional? "big_rec" false Json.toBool?
  some ⟨.ofText path, mtime, id, size, processed, digest, seq, retry, incomplete, tail, skipping, none⟩

end LogFile

end LogTail
