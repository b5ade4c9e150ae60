import LogTail.Cycle.ReadFile
import LogTail.Resolution.Basic

/-!
# Cycles

A cycle scans, reconciles the scan with the files tracked before, reads what rotated away to its end, and
then reads every file in order. It halts at a refusal that is to be tried again and at the end of the
budget: the files after that wait, so that records stay in order. A file that was refused too often holds
up the others no longer.

* The steps of both passes are functions on one `Cycle`, folded over the files.
-/

namespace LogTail

/-- What a cycle came to. -/
structure CycleReport where
  /-- Records looked at. -/
  processed : Nat
  /-- Records accepted. -/
  sent : Nat
  /-- Bytes consumed. -/
  processedBytes : Nat
  /-- The budget ended with work left. -/
  pending : Bool
  /-- Files that were refused too often. -/
  stalled : List Path
  /-- Files that could not be read. -/
  readErrors : List Path
  /-- Files in a tie. -/
  ambiguities : List Path
  /-- Matching files that could not be opened. -/
  unreadable : List Path
  failures : Nat
  deriving DecidableEq, Inhabited

/-- A cycle on its way: the files that go on to the next one, whether it has halted, and whether the
budget was the reason. -/
structure Cycle where
  tracker : Tracker
  world : World
  kept : List LogFile := []
  halted : Bool := false
  outOfBudget : Bool := false
  /-- Where the file that was processed last was read to, and its time. -/
  lastProcessed : Option (Nat × Int) := none
  stalled : List Path := []
  readErrors : List Path := []

namespace Cycle

def keep (c : Cycle) (file : LogFile) : Cycle := { c with kept := c.kept ++ [file] }

def markProcessed (c : Cycle) (file : LogFile) : Cycle :=
  { c with lastProcessed := some (file.tailStart, file.mtime) }

def haltOnBudget (c : Cycle) : Cycle := { c with halted := true, outOfBudget := true }

def after (c : Cycle) (s : Reading) : Cycle := { c with tracker := s.tracker, world := s.world }

/-- Reads what is left of a file that rotated away. It goes on to the next cycle only if this one halts
at it. -/
def drain (watch : Watcher) (sink : Sink) (useIdentity : Bool) (c : Cycle) (file : LogFile) : Cycle :=
  if c.halted then c.keep file
  else
    match watch.prepareDrain useIdentity file c.world with
    | (.error _, w) => { c with world := w, readErrors := c.readErrors ++ [file.path] }
    | (.ok none, w) => { c with world := w }
    | (.ok (some file), w) =>
      let (outcome, s) := watch.readFile sink useIdentity true ⟨file, c.tracker, w⟩
      let c := c.after s
      match outcome with
      | .done | .idle => c
      | .budget => (c.markProcessed s.file).haltOnBudget.keep s.file
      | .rejected =>
        if s.file.retry ≤ watch.config.maxRetries then { c with halted := true }.keep s.file
        else { c with stalled := c.stalled ++ [s.file.path] }
      | .failed _ => { c with readErrors := c.readErrors ++ [s.file.path] }

/-- Reads the new records of a file of the scan; all but the newest are finished. -/
def visit (watch : Watcher) (sink : Sink) (useIdentity : Bool) (newest : Nat) (c : Cycle)
    (file : LogFile × Nat) : Cycle :=
  if c.halted then c.keep file.1
  else
    let (outcome, s) := watch.readFile sink useIdentity (file.2 < newest) ⟨file.1, c.tracker, c.world⟩
    let c := c.after s
    match outcome with
    | .idle => c.keep s.file
    | .done => (c.markProcessed s.file).keep s.file
    | .budget => (c.markProcessed s.file).haltOnBudget.keep s.file
    | .rejected =>
      let c := c.markProcessed s.file
      if s.file.retry ≤ watch.config.maxRetries then { c with halted := true }.keep s.file
      else { c with stalled := c.stalled ++ [s.file.path] }.keep s.file
    | .failed _ => { c with readErrors := c.readErrors ++ [s.file.path] }.keep s.file

def nextState (c : Cycle) (state : WatchState) : WatchState :=
  { state with
    lastSizeSent := (c.tracker.lastSent.map (·.1)).getD state.lastSizeSent
    lastMtimeSent := (c.tracker.lastSent.map (·.2)).getD state.lastMtimeSent
    lastSize := (c.lastProcessed.map (·.1)).getD state.lastSize
    lastMtime := (c.lastProcessed.map (·.2)).getD state.lastMtime
    files := Resolution.renumber 0 c.kept
    processedBytes := addWord state.processedBytes c.tracker.processedBytes
    skipOldData := false }

def run (watch : Watcher) (sink : Sink) (useIdentity : Bool) (resolution : Resolution)
    (start : Cycle) : Cycle :=
  let drained := resolution.rotatedAway.foldl (drain watch sink useIdentity) start
  resolution.files.zipIdx.foldl (visit watch sink useIdentity (resolution.files.length - 1)) drained

end Cycle

/-- What a cycle leaves behind: its report, the next state, the offers in order, and the world. -/
structure CycleResult where
  report : CycleReport
  state : WatchState
  offers : List Offer
  world : World

/-- The clocks of a cycle: how many milliseconds ago it began, read at each test of the budget, and the time
that deliveries bear, read at each of them. -/
structure CycleTime where
  elapsed : Clock Nat := 0
  now : Clock Int := 0

/-- Runs one cycle. Only a scan that fails makes it fail, and then the state stays as it is. -/
def Watcher.process (watch : Watcher) (sink : Sink) (time : CycleTime) (state : WatchState) (w : World) :
    Except (Error × World) CycleResult :=
  match watch.matcher.scan w with
  | (.error e, w) => .error (e, w)
  | (.ok scan, w) =>
    let config := watch.config
    let resolution := Resolution.resolve config.rotation config.encoding state scan.candidates
    let tracker : Tracker :=
      { destination := config.destination, now := time.now,
        budget := Budget.ofConfig config time.elapsed }
    let cycle := Cycle.run watch sink state.useIdentity resolution { tracker := tracker, world := w }
    let next := cycle.nextState state
    .ok
      { report :=
          { processed := cycle.tracker.budget.processed
            sent := cycle.tracker.budget.sent
            processedBytes := cycle.tracker.processedBytes
            pending := cycle.outOfBudget && next.hasPending
            stalled := cycle.stalled
            readErrors := cycle.readErrors
            ambiguities := resolution.ambiguous
            unreadable := scan.unreadable
            failures := cycle.tracker.failures }
        state := next
        offers := cycle.tracker.offers.reverse
        world := cycle.world }

end LogTail
