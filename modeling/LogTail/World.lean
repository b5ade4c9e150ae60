import LogTail.Disk.Change

/-!
# The disk while others use it

The agent is not alone: between two of its calls other programs may change the disk, and a call may fail.
A world says what they do before each call and before each offer of a record, and which calls fail.

* In a quiet world nothing changes but by the agent's own calls.
-/

namespace LogTail

/-- A moment of a run: the agent's n-th call on the disk, or its n-th offer of a record. -/
inductive Moment where
  | call (n : Nat)
  | offer (n : Nat)
  deriving DecidableEq

/-- The disk, how many calls were made, what others do to the disk before each moment, and which calls
fail by themselves. -/
structure World where
  disk : Disk
  calls : Nat
  others : Moment → Disk → Disk
  faults : Nat → Option Cause

namespace World

/-- A world in which nobody else changes the disk and no call fails by itself. -/
def quiet (disk : Disk) : World := ⟨disk, 0, fun _ d => d, fun _ => none⟩

def look {α : Type} (w : World) (f : Disk → Except Cause α) : Except Cause α × World :=
  let disk := w.others (.call w.calls) w.disk
  let result : Except Cause α := match w.faults w.calls with
    | some c => .error c
    | none => f disk
  (result, { w with disk := disk, calls := w.calls + 1 })

def act (w : World) (f : Disk → Except Cause Disk) : Except Cause Unit × World :=
  let disk := w.others (.call w.calls) w.disk
  let result : Except Cause Disk := match w.faults w.calls with
    | some c => .error c
    | none => f disk
  match result with
  | .ok disk => (.ok (), { w with disk := disk, calls := w.calls + 1 })
  | .error c => (.error c, { w with disk := disk, calls := w.calls + 1 })

/-- The call that waits until what was written has reached the disk. -/
def sync (w : World) : Except Cause Unit × World := w.look fun _ => .ok ()

def atOffer (w : World) (n : Nat) : World := { w with disk := w.others (.offer n) w.disk }

end World

end LogTail
