import LogTail.Delivery.Basic
import LogTail.LogFile

/-!
# Bookkeeping of deliveries

A file's offset moves only when a record is consumed: accepted by the receiver, filtered out, or kept as
a tail. A record that is refused leaves the offset where it is, so that it is offered again.
-/

namespace LogTail

/-- What a clock shows when it is read for the n-th time. -/
structure Clock (α : Type) where
  read : Nat → α
  deriving Inhabited

namespace Clock

/-- A clock that stands still. -/
instance {α : Type} : Coe α (Clock α) := ⟨fun a => ⟨fun _ => a⟩⟩

instance {α : Type} {n : Nat} [OfNat α n] : OfNat (Clock α) n := ⟨⟨fun _ => OfNat.ofNat n⟩⟩

end Clock

/-- The limits of a cycle, and what was counted against them. -/
structure Budget where
  maxSent : Nat
  maxProcessed : Nat
  /-- How many milliseconds the cycle may take. -/
  maxDelay : Option Nat
  /-- How many milliseconds ago the cycle began. -/
  elapsed : Clock Nat
  /-- How often the budget was tested and not spent. -/
  tests : Nat := 0
  sent : Nat := 0
  processed : Nat := 0
  deriving Inhabited

namespace Budget

def ofConfig (c : WatchConfig) (elapsed : Clock Nat) : Budget :=
  { maxSent := c.maxSent, maxProcessed := c.maxProcessed, maxDelay := c.maxDelay, elapsed := elapsed }

def outOfTime (b : Budget) : Bool := b.maxDelay.any (· ≤ b.elapsed.read b.tests)

/-- Whether no other record may be looked at. The clock is read anew at each test. -/
def exhausted (b : Budget) : Bool := b.maxSent ≤ b.sent || b.maxProcessed ≤ b.processed || b.outOfTime

end Budget

/-- The sum that a counter of 64 bits holds; it goes on from zero past the largest word. -/
def addWord (a b : Nat) : Nat := (a + b) % (Json.wordMax + 1)

theorem addWord_le (a b : Nat) : addWord a b ≤ Json.wordMax := Nat.le_of_lt_succ (Nat.mod_lt _ (Nat.succ_pos _))

theorem addWord_of_le {a b : Nat} (h : a + b ≤ Json.wordMax) : addWord a b = a + b :=
  Nat.mod_eq_of_lt (Nat.lt_succ_of_le h)

inductive Outcome where
  | consumed
  | rejected
  deriving DecidableEq

/-- The accounts of a cycle: what was offered, the latest offer first, and what it came to. -/
structure Tracker where
  destination : Destination
  /-- The time that the n-th delivery bears. -/
  now : Clock Int
  budget : Budget
  /-- The end and the file time of the last accepted record. -/
  lastSent : Option (Nat × Int) := none
  processedBytes : Nat := 0
  failures : Nat := 0
  offers : List Offer := []
  deriving Inhabited

namespace Tracker

def tested (t : Tracker) : Tracker := { t with budget := { t.budget with tests := t.budget.tests + 1 } }

def advance (t : Tracker) (file : LogFile) (stop : Nat) : Tracker × LogFile :=
  ({ t with processedBytes := addWord t.processedBytes (stop - file.processed) },
   { file with processed := max file.processed stop, tail := [], incomplete := false })

def bufferTail (t : Tracker) (file : LogFile) (stop : Nat) (tail : Bytes) : Tracker × LogFile :=
  let (t, file) := t.advance file stop
  (t, { file with tail := tail, incomplete := !tail.isEmpty })

def discard (t : Tracker) (file : LogFile) (stop : Nat) : Tracker × LogFile :=
  { t with budget := { t.budget with processed := t.budget.processed + 1 } }.advance file stop

def delivery (t : Tracker) (file : LogFile) (value : String) (stop : Nat) : Delivery :=
  ⟨t.destination, value, t.now.read t.offers.length, file.mtime, stop, file.path, file.seq⟩

/-- Offers a record. If it is accepted the file's offset moves to its end. -/
def deliver (sink : Sink) (t : Tracker) (file : LogFile) (value : String) (stop : Nat) :
    Outcome × Tracker × LogFile :=
  let delivery := t.delivery file value stop
  let accepted := sink t.offers.length delivery
  let t := { t with offers := ⟨delivery, accepted⟩ :: t.offers }
  if accepted then
    let budget := { t.budget with sent := t.budget.sent + 1, processed := t.budget.processed + 1 }
    let t := { t with budget := budget, lastSent := some (stop, file.mtime) }
    (.consumed, t.advance { file with retry := 0 } stop)
  else (.rejected, { t with failures := t.failures + 1 }, { file with retry := file.retry + 1 })

end Tracker

end LogTail
