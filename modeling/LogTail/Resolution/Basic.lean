import LogTail.Resolution.Copies

/-!
# Resolution of a scan

The candidates of a scan are reconciled with the files tracked before: a candidate continues a tracked
file, or is a copy of one, or is new; a tracked file that no candidate continues or copies has rotated
away. Ties are not guessed: a candidate in a tie is new.
-/

namespace LogTail

inductive Transition where
  /-- The same file, grown or renamed or neither. -/
  | unchanged
  /-- The same file, cut or written anew in place. -/
  | truncated
  /-- A new file that holds a copy of a tracked one. -/
  | rotatedCopy
  /-- A file that nothing is known of. -/
  | new
  deriving DecidableEq

/-- The files of a cycle in the order of reading, what became of each, the tracked files that rotated
away, which are read first, and the paths in a tie. -/
structure Resolution where
  files : List LogFile
  transitions : List Transition
  rotatedAway : List LogFile
  ambiguous : List Path
  deriving Inhabited

namespace Resolution

def track (c : Candidate) (seq : Nat) : LogFile :=
  { path := c.path, mtime := c.mtime, id := c.id, size := c.size, processed := 0,
    digest := Digest.of c.head, seq := seq }

def continueFile (old : LogFile) (c : Candidate) (seq : Nat) (truncated : Bool) : LogFile :=
  let file := { old with
    path := c.path, mtime := c.mtime, id := c.id, size := c.size, digest := Digest.of c.head,
    seq := seq, copyOf := none }
  if truncated then { file.resetProgress with retry := 0 } else file

/-- A copy with the progress of its source, no further than the bytes they are known to share. A shared
part that ends inside the tail of the source leaves the whole of that record to be read; one that ends
inside a record that was delivered leaves the rest of it to be skipped. -/
def copyFile (encoding : Encoding) (source : LogFile) (place : Nat) (c : Candidate) (seq : Nat) :
    LogFile :=
  let file := { track c seq with copyOf := some place }
  let shared := min source.digest.length c.size
  if source.processed ≤ shared then
    { file with
      processed := source.processed, tail := source.tail, incomplete := source.incomplete,
      skipping := source.skipping }
  else if source.tailStart ≤ shared then { file with processed := source.tailStart }
  else
    let atRecord := shared = 0 || encoding.endsWithTerminator (c.head.take shared)
    { file with processed := shared, skipping := !atRecord }

def renumber (first : Nat) (files : List LogFile) : List LogFile :=
  files.zipIdx.map fun f => { f.1 with seq := first + f.2, copyOf := none }

def bySeq (files : List LogFile) : List LogFile := files.mergeSort fun a b => a.seq ≤ b.seq

def isResuming (state : WatchState) : Bool := state.files.isEmpty && 0 < state.lastMtime

/-- The candidate that a saved position belongs to: the last of its time that is large enough. -/
def resumedAt? (state : WatchState) (candidates : List Candidate) : Option Nat :=
  if isResuming state then
    (candidates.zipIdx.reverse.find? fun c =>
      c.1.mtime = state.lastMtime && state.lastSize ≤ c.1.size).map (·.2)
  else none

/-- Where reading a new file begins: at its end if old data is skipped or it is older than the saved
position, at the saved position if that is its own, else at its start. -/
def startOf (state : WatchState) (resumed : Option Nat) (c : Candidate) (place : Nat) : Nat :=
  if state.skipOldData then c.size
  else if resumed = some place then state.lastSize
  else if isResuming state && c.mtime < state.lastMtime then c.size
  else 0

/-- What a candidate becomes that has a link, or is a copy of the tracked file of a place, or neither. -/
def entryOf (encoding : Encoding) (state : WatchState) (resumed : Option Nat) (link : Option Link)
    (source : Option Nat) (c : Candidate) (place seq : Nat) : LogFile × Transition :=
  match link.bind fun l => state.files[l.old]?.map (·, l.truncated) with
  | some (old, truncated) =>
    (continueFile old c seq truncated, if truncated then .truncated else .unchanged)
  | none =>
    match source.bind fun i => state.files[i]?.map (·, i) with
    | some (f, i) => (copyFile encoding f i c seq, .rotatedCopy)
    | none => ({ track c seq with processed := startOf state resumed c place }, .new)

/-- Reconciles the candidates of a scan, in the order of reading, with the tracked files. -/
def resolve (policy : RotationPolicy) (encoding : Encoding) (state : WatchState)
    (candidates : List Candidate) : Resolution :=
  let previous := state.files
  let slots := Slots.ofLinks previous.length candidates.length
    (Link.all policy state.useIdentity previous candidates)
  let copies :=
    if policy.detectsCopies then Copies.find previous candidates slots.takenCand
    else Copies.none candidates
  let gone := previous.zipIdx.filter fun f =>
    !slots.matchedOld f.2 && !copies.sources.contains (some f.2)
  let rotatedAway := renumber 0 (bySeq (gone.map (·.1)))
  let resumed := resumedAt? state candidates
  let entries := (candidates.zip copies.sources).zipIdx.map fun ((c, source), place) =>
    entryOf encoding state resumed (slots.linkOf? place) source c place (rotatedAway.length + place)
  { files := entries.map (·.1)
    transitions := entries.map (·.2)
    rotatedAway := rotatedAway
    ambiguous := (slots.tied ++ copies.undecided).filterMap fun i => candidates[i]?.map (·.path) }

def transitionOf? (r : Resolution) (name : String) : Option Transition :=
  ((r.files.zip r.transitions).find? fun e => e.1.fileName? = some name).map (·.2)

end Resolution

end LogTail
