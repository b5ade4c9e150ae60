import LogTail.Cycle.Basic

/-!
# The steps of a cycle

What the two steps of a cycle do with it, a visit of a file of the scan and a drain of one that rotated away.
Once the cycle has halted the file waits; else it is read, if it is still there, and how the cycle goes on depends
on the outcome (`Cycle.AfterReading`). All that is proved of cycles goes back to these lemmas, and only they open
the two functions.
-/

namespace LogTail

namespace FileOutcome

@[simp]
def halts (maxRetries : Nat) (file : LogFile) : FileOutcome → Bool
  | .budget => true
  | .rejected => file.retry ≤ maxRetries
  | .done | .idle | .failed _ => false

@[simp]
def stalls (maxRetries : Nat) (file : LogFile) : FileOutcome → Bool
  | .rejected => maxRetries < file.retry
  | .done | .idle | .budget | .failed _ => false

@[simp]
def isFailed : FileOutcome → Bool
  | .failed _ => true
  | .done | .idle | .budget | .rejected => false

/-- Whether a file that was read to an outcome counts as the one processed last. One that rotated away counts only
where the budget ended. -/
@[simp]
def marks (scanned : Bool) : FileOutcome → Bool
  | .budget => true
  | .done | .rejected => scanned
  | .idle | .failed _ => false

end FileOutcome

namespace Cycle

/-- A cycle after a step that read a file to an outcome. A file of the scan goes on to the next cycle in any case,
and one that rotated away only if the cycle halts at it. -/
structure AfterReading (maxRetries : Nat) (scanned : Bool) (c : Cycle) (outcome : FileOutcome) (s : Reading)
    (c' : Cycle) : Prop where
  tracker : c'.tracker = s.tracker
  world : c'.world = s.world
  halted : c'.halted = outcome.halts maxRetries s.file
  kept : c'.kept = c.kept ++ if scanned || c'.halted then [s.file] else []
  outOfBudget : c'.outOfBudget = (c.outOfBudget || decide (outcome = .budget))
  stalled : c'.stalled = c.stalled ++ if outcome.stalls maxRetries s.file then [s.file.path] else []
  readErrors : c'.readErrors = c.readErrors ++ if outcome.isFailed then [s.file.path] else []
  lastProcessed : c'.lastProcessed =
    if outcome.marks scanned then some (s.file.tailStart, s.file.mtime) else c.lastProcessed

section steps
variable {watch : Watcher} {sink : Sink} {useIdentity : Bool} {newest : Nat} {c c' : Cycle} {outcome : FileOutcome}
  {s : Reading} {maxRetries : Nat}

theorem AfterReading.kept_of_scan (h : AfterReading maxRetries true c outcome s c') :
    c'.kept = c.kept ++ [s.file] :=
  h.kept

theorem AfterReading.kept_of_halted {scanned : Bool} (h : AfterReading maxRetries scanned c outcome s c')
    (hhalted : c'.halted = true) : c'.kept = c.kept ++ [s.file] := by
  rw [h.kept, hhalted, Bool.or_true, if_pos rfl]

theorem AfterReading.kept_of_gone (h : AfterReading maxRetries false c outcome s c')
    (hgoes : c'.halted = false) : c'.kept = c.kept := by
  rw [h.kept, hgoes, Bool.or_false]
  exact List.append_nil _

theorem visit_waits (h : c.halted = true) (x : LogFile × Nat) :
    visit watch sink useIdentity newest c x = c.keep x.1 := by
  rw [visit, if_pos h]

theorem drain_waits (h : c.halted = true) (f : LogFile) : drain watch sink useIdentity c f = c.keep f := by
  rw [drain, if_pos h]

/-- **A visit reads the file**, and the cycle goes on by the outcome. -/
theorem visit_reads (h : c.halted = false) {x : LogFile × Nat}
    (hread : watch.readFile sink useIdentity (x.2 < newest) ⟨x.1, c.tracker, c.world⟩ = (outcome, s)) :
    AfterReading watch.config.maxRetries true c outcome s (visit watch sink useIdentity newest c x) := by
  rw [visit, if_neg (by simp [h]), hread]
  cases outcome with
  | rejected =>
    dsimp only
    by_cases hretry : s.file.retry ≤ watch.config.maxRetries
    · rw [if_pos hretry]
      constructor <;> simp [keep, after, markProcessed, hretry]
    · rw [if_neg hretry]
      constructor <;> simp [keep, after, markProcessed, hretry, h, Nat.lt_of_not_le hretry]
  | done | idle | budget | failed =>
    constructor <;> simp [keep, after, markProcessed, haltOnBudget, h]

theorem visit_idle (h : c.halted = false) {x : LogFile × Nat}
    (hread : watch.readFile sink useIdentity (x.2 < newest) ⟨x.1, c.tracker, c.world⟩ =
      (.idle, ⟨x.1, c.tracker, c.world⟩)) :
    visit watch sink useIdentity newest c x = c.keep x.1 := by
  rw [visit, if_neg (by simp [h]), hread]
  rfl

theorem drain_gone (h : c.halted = false) {f : LogFile} {w : World}
    (hprepare : watch.prepareDrain useIdentity f c.world = (.ok none, w)) :
    drain watch sink useIdentity c f = { c with world := w } := by
  rw [drain, if_neg (by simp [h]), hprepare]

theorem drain_unreachable (h : c.halted = false) {f : LogFile} {w : World} {cause : Cause}
    (hprepare : watch.prepareDrain useIdentity f c.world = (.error cause, w)) :
    drain watch sink useIdentity c f = { c with world := w, readErrors := c.readErrors ++ [f.path] } := by
  rw [drain, if_neg (by simp [h]), hprepare]

/-- **A drain reads a file that is still there**, and the cycle goes on by the outcome. -/
theorem drain_reads (h : c.halted = false) {f g : LogFile} {w : World}
    (hprepare : watch.prepareDrain useIdentity f c.world = (.ok (some g), w))
    (hread : watch.readFile sink useIdentity true ⟨g, c.tracker, w⟩ = (outcome, s)) :
    AfterReading watch.config.maxRetries false c outcome s (drain watch sink useIdentity c f) := by
  rw [drain, if_neg (by simp [h]), hprepare]
  dsimp only
  rw [hread]
  cases outcome with
  | rejected =>
    dsimp only
    by_cases hretry : s.file.retry ≤ watch.config.maxRetries
    · rw [if_pos hretry]
      constructor <;> simp [keep, after, hretry]
    · rw [if_neg hretry]
      constructor <;> simp [after, hretry, h, Nat.lt_of_not_le hretry]
  | done | idle | budget | failed =>
    constructor <;> simp [keep, after, markProcessed, haltOnBudget, h]

end steps

end Cycle

end LogTail
