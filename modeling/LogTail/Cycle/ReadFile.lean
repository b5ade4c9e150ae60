import LogTail.Cycle.Watcher
import LogTail.Delivery.Tracker
import LogTail.Record.Reader

/-!
# Reading one file in a cycle

The new records of a file are read, filtered and offered one after the other, until the file is at its
end, the budget is spent, or a record is refused. What is left without a terminator is kept as the
file's tail; of a file to which nothing will be added it is the last record.
-/

namespace LogTail

inductive FileOutcome where
  /-- All up to the scanned size was consumed. -/
  | done
  /-- There was nothing to read. -/
  | idle
  /-- The budget was spent. -/
  | budget
  /-- A record was refused. -/
  | rejected
  | failed (cause : Cause)
  deriving DecidableEq

/-- A file that is being read, with the accounts and the world around it. -/
structure Reading where
  file : LogFile
  tracker : Tracker
  world : World

/-- The reading after a test that found the budget not spent. -/
def Reading.tested (s : Reading) : Reading := { s with tracker := s.tracker.tested }

@[simp] theorem Reading.file_tested (s : Reading) : s.tested.file = s.file := rfl

@[simp] theorem Reading.world_tested (s : Reading) : s.tested.world = s.world := rfl

@[simp] theorem Reading.offers_tested (s : Reading) : s.tested.tracker.offers = s.tracker.offers := rfl

namespace Watcher

def readerOptions (c : WatchConfig) (useIdentity : Bool) : ReaderOptions :=
  ⟨c.encoding, c.chunkSize, c.maxRecordSize, useIdentity⟩

def consume (watch : Watcher) (sink : Sink) (s : Reading) (bytes : Bytes) (stop : Nat) :
    Outcome × Reading :=
  match watch.filter.apply (watch.config.encoding.decode bytes) with
  | some value =>
    let world := s.world.atOffer s.tracker.offers.length
    let (outcome, tracker, file) := s.tracker.deliver sink s.file value stop
    (outcome, ⟨file, tracker, world⟩)
  | none =>
    let (tracker, file) := s.tracker.discard s.file stop
    (.consumed, { s with tracker := tracker, file := file })

def skipTo (s : Reading) (stop : Nat) (finished : Bool) : Reading :=
  let (tracker, file) := s.tracker.advance s.file stop
  { s with tracker := tracker, file := { file with skipping := !finished } }

/-- The reading after all events: what is left in the window becomes the tail. -/
def keepTail (s : Reading) (r : Reader) : Reading :=
  let (tracker, file) := s.tracker.bufferTail s.file r.position r.window
  { s with tracker := tracker, file := { file with skipping := r.skipping } }

/-- Offers the last record of a file to which nothing will be added. -/
def flush (watch : Watcher) (sink : Sink) (s : Reading) (r : Reader) : FileOutcome × Reading :=
  match r.takeRemainder with
  | (some (.record _ stop bytes _), _) =>
    if s.tracker.budget.exhausted then (.budget, s)
    else
      match watch.consume sink s.tested bytes stop with
      | (.rejected, s) => (.rejected, s)
      | (.consumed, s) => (.done, s)
  | _ => (.done, s)

/-- Takes events from a reader until there are none, the budget is spent, or a record is refused; the
fuel is the number of events that can still come. -/
def readEvents (watch : Watcher) (sink : Sink) (finished : Bool) :
    Nat → Reading → Reader → FileOutcome × Reading
  | 0, s, _ => (.done, s)
  | fuel + 1, s, r =>
    if s.tracker.budget.exhausted then (.budget, s)
    else
      match r.next s.world with
      | (.error c, _, w) => (.failed c, { s.tested with world := w })
      | (.ok none, r, w) =>
        let s := keepTail { s.tested with world := w } r
        if finished then watch.flush sink s r else (.done, s)
      | (.ok (some (.skipped stop ended)), r, w) =>
        readEvents watch sink finished fuel (skipTo { s.tested with world := w } stop ended) r
      | (.ok (some (.record _ stop bytes truncated)), r, w) =>
        match watch.consume sink { s.tested with world := w } bytes stop with
        | (.rejected, s) => (.rejected, s)
        | (.consumed, s) =>
          let s := if truncated then { s with file := { s.file with skipping := true } } else s
          readEvents watch sink finished fuel s r

/-- Reads the new records of one file. `finished` marks a file to which nothing will be added. -/
def readFile (watch : Watcher) (sink : Sink) (useIdentity finished : Bool) (s : Reading) :
    FileOutcome × Reading :=
  if s.file.unread = 0 && !(finished && s.file.hasFinalTail) then (.idle, s)
  else if s.tracker.budget.exhausted then (.budget, s)
  else
    match Reader.openFile (readerOptions watch.config useIdentity) s.file s.world with
    | (.error c, w) => (.failed c, { s.tested with world := w })
    | (.ok r, w) => watch.readEvents sink finished (r.eventBound + 1) { s.tested with world := w } r

/-- Whether an open file is the one that was tracked: by its identity, or by its first bytes. -/
def isSame (watch : Watcher) (useIdentity : Bool) (file : LogFile) (number : Nat) (w : World) :
    Except Cause Bool × World :=
  if useIdentity then (.ok (FileId.ofNumber number = file.id), w)
  else
    match Matcher.readHead w number watch.config.digestWindow with
    | (.error c, w) => (.error c, w)
    | (.ok head, w) => (.ok (file.digest.matchesHead head), w)

/-- Whether a file that rotated away can still be read under its last path; its present size is taken
then. It is gone if the path leads nowhere, to another file, or to fewer bytes than were processed. -/
def prepareDrain (watch : Watcher) (useIdentity : Bool) (file : LogFile) (w : World) :
    Except Cause (Option LogFile) × World :=
  match w.look fun d => d.numberOf file.path with
  | (.error c, w) => (if c = .notFound then .ok none else .error c, w)
  | (.ok number, w) =>
    match watch.isSame useIdentity file number w with
    | (.error c, w) => (.error c, w)
    | (.ok false, w) => (.ok none, w)
    | (.ok true, w) =>
      match w.look fun d => .ok (d.size number) with
      | (.error c, w) => (.error c, w)
      | (.ok size, w) =>
        (.ok (if size < file.processed then none else some { file with size := size }), w)

end Watcher

end LogTail
