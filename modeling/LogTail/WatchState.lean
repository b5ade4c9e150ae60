import LogTail.LogFile

/-!
# State of a watch

What a watch remembers between two cycles, and between two runs of the agent.
-/

namespace LogTail

/-- The files of a watch in the order of the last cycle, and where it has got to. -/
structure WatchState where
  /-- How far the file that was processed last was read, and its time. -/
  lastSize : Nat := 0
  lastMtime : Int := 0
  /-- The end of the record that was delivered last, and the time of its file. -/
  lastSizeSent : Nat := 0
  lastMtimeSent : Int := 0
  /-- Start at the end of the files that are there; for the first cycle only. -/
  skipOldData : Bool := false
  /-- Tell files by their identity, and not by their content. -/
  useIdentity : Bool := false
  files : List LogFile := []
  /-- Bytes processed since the watch began. -/
  processedBytes : Nat := 0
  deriving DecidableEq, Inhabited

namespace WatchState

def fresh (skipOldData : Bool) : WatchState :=
  { skipOldData := skipOldData, useIdentity := FileId.supported }

/-- Whether a file has bytes to read, or one that is not the newest has a last record to deliver. -/
def hasPending (s : WatchState) : Bool :=
  s.files.any (fun f => 0 < f.unread) || s.files.dropLast.any LogFile.hasFinalTail

def fieldNames : List String :=
  ["last_size", "last_mtime", "last_size_sent", "last_mtime_sent", "skip_old_data", "use_inode", "files",
    "processed_bytes"]

def toJson? (s : WatchState) : Option Json :=
  (s.files.mapM LogFile.toJson?).map fun files =>
    .object [("last_size", .ofNat s.lastSize), ("last_mtime", .ofInt s.lastMtime),
      ("last_size_sent", .ofNat s.lastSizeSent), ("last_mtime_sent", .ofInt s.lastMtimeSent),
      ("skip_old_data", .bool s.skipOldData), ("use_inode", .bool s.useIdentity),
      ("files", .array files), ("processed_bytes", .ofNat s.processedBytes)]

def ofJson? (j : Json) : Option WatchState := do
  let fs ← j.toFields? fieldNames
  let lastSize ← fs.required? "last_size" Json.toWord?
  let lastMtime ← fs.required? "last_mtime" Json.toSigned?
  let lastSizeSent ← fs.required? "last_size_sent" Json.toWord?
  let lastMtimeSent ← fs.required? "last_mtime_sent" Json.toSigned?
  let skipOldData ← fs.required? "skip_old_data" Json.toBool?
  let useIdentity ← fs.required? "use_inode" Json.toBool?
  let items ← fs.required? "files" Json.toArray?
  let files ← items.mapM LogFile.ofJson?
  let processedBytes ← fs.required? "processed_bytes" Json.toWord?
  some ⟨lastSize, lastMtime, lastSizeSent, lastMtimeSent, skipOldData, useIdentity, files, processedBytes⟩

end WatchState

end LogTail
