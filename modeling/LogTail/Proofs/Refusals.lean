import LogTail.Proofs.Fixpoint
import LogTail.Proofs.Ledger

/-!
# Files whose records are refused

A receiver that refuses the records of some files and accepts those of all others, on a disk that stays as it is.
A visit takes all records of a file that is not refused. Of a file that is, it offers the first record that the
filter leaves something of, and all such records stay ahead of the file (`Cycle.visit_asks`).

* `Watcher.due`: the records that the filter leaves something of.
* `Budget.Room`: a budget that is not spent by a number of records.
-/

namespace LogTail

def Sink.refusing (refused : Path → Bool) : Sink := fun _ delivery => !refused delivery.path

/-! ## Room in a budget -/

/-- A number of records more do not spend the budget. -/
structure Budget.Room (b : Budget) (n : Nat) : Prop where
  sent : b.sent + n < b.maxSent
  processed : b.processed + n < b.maxProcessed
  unhurried : b.maxDelay = none

namespace Budget.Room

variable {b b' : Budget} {n k : Nat}

theorem not_exhausted (h : b.Room n) : b.exhausted = false :=
  Budget.not_exhausted (Nat.lt_of_le_of_lt (Nat.le_add_right ..) h.sent)
    (Nat.lt_of_le_of_lt (Nat.le_add_right ..) h.processed) h.unhurried

theorem mono (h : b.Room n) (hle : k ≤ n) : b.Room k :=
  ⟨Nat.lt_of_le_of_lt (Nat.add_le_add_left hle _) h.sent,
    Nat.lt_of_le_of_lt (Nat.add_le_add_left hle _) h.processed, h.unhurried⟩

theorem count (h : b.Room (n + k)) {tests sent processed : Nat} (hsent : sent ≤ n) (hprocessed : processed ≤ n) :
    { b with tests := tests, sent := b.sent + sent, processed := b.processed + processed : Budget }.Room k := by
  have hs := h.sent
  have hp := h.processed
  exact ⟨show b.sent + sent + k < b.maxSent by omega, show b.processed + processed + k < b.maxProcessed by omega,
    h.unhurried⟩

end Budget.Room

namespace Watcher

/-! ## Records that are due -/

def retained (watch : Watcher) (rs : List Record) : List (Record × String) :=
  rs.filterMap fun r => (watch.value? r).map (r, ·)

def due (watch : Watcher) (finished : Bool) (c : Cursor) : List (Record × String) :=
  watch.retained (watch.splitter.records finished c)

/-- A file of the scan that a reading can go on with, also after a cut. -/
structure Ready (watch : Watcher) (d : Disk) (f : LogFile) : Prop where
  sound : f.Sound watch.splitter
  behind : watch.splitter.CutsBehind (f.ahead d) f.tail
  within : f.processed ≤ f.size

section due
variable {watch : Watcher} {sink : Sink} {d : Disk} {finished : Bool} {c c' : Cursor} {rs : List Record}
  {s s' : Reading} {offers : List Offer} {n : Nat}

theorem retained_eq_nil (h : rs.filterMap watch.value? = []) : watch.retained rs = [] := by
  rw [retained, List.filterMap_eq_nil_iff]
  intro r hr
  rw [List.filterMap_eq_nil_iff.1 h r hr]
  rfl

theorem due_of_leads (h : watch.splitter.Leads finished c rs c') :
    watch.due finished c = watch.retained rs ++ watch.due finished c' := by
  rw [due, h.records_eq, retained, List.filterMap_append]
  rfl

theorem due_of_leads_nil (h : watch.splitter.Leads finished c rs c') (hrs : rs.filterMap watch.value? = []) :
    watch.due finished c = watch.due finished c' := by
  rw [due_of_leads h, retained_eq_nil hrs, List.nil_append]

theorem records_of_next?_none (h : watch.splitter.next? finished c = none) :
    watch.splitter.records finished c = [] := by
  rw [Splitter.records, Splitter.split_none h]

theorem deliveries_map (path : Path) (rs : List Record) : watch.deliveries (rs.map (path, ·)) =
    (watch.retained rs).map fun x => (path, x.1.stop, x.2, true) := by
  rw [deliveries, retained, List.filterMap_map, List.map_filterMap]
  refine List.filterMap_congr fun r _ => ?_
  rw [Function.comp_apply, Option.map_map]
  rfl

theorem length_deliveries_le (watch : Watcher) (rs : List (Path × Record)) :
    (watch.deliveries rs).length ≤ rs.length :=
  List.length_filterMap_le ..

theorem Took.ready (hready : watch.Ready d s.file)
    (h : watch.Took d (d.bytesAt s.file.path) finished (s.file.ahead d) s rs c' s') :
    watch.Ready d s'.file ∧ s'.file.ahead d = c' := by
  obtain ⟨hadvanced, hahead⟩ := Took.advanced hready.behind hready.sound h
  exact ⟨⟨(h.follows hready.behind hready.sound rfl).1, hahead ▸ h.behind hready.behind,
    hadvanced.within hready.within⟩, hahead⟩

/-- Of a file whose records are refused none are taken but those that the filter leaves nothing of. -/
theorem Accounts.values_eq_nil {config : WatchConfig} {t : Tracker} {refused : Path → Bool} (more : List Offer)
    (h : watch.Accounts s.file s.tracker rs t)
    (hbooks : s.Books config (.refusing refused) offers n s') (hmore : s'.tracker.offers = more ++ t.offers)
    (hrefused : refused s.file.path = true) : rs.filterMap watch.value? = [] := by
  have hoffers : offers.reverse = more ++ (watch.offersOf s.tracker s.file rs).reverse := by
    have hboth := hbooks.offered.symm.trans (hmore.trans (congrArg (more ++ ·) h.offers))
    rw [← List.append_assoc] at hboth
    exact List.append_cancel_right hboth
  rw [← List.length_eq_zero_iff, ← length_offersOf s.tracker s.file rs, List.length_eq_zero_iff,
    List.eq_nil_iff_forall_not_mem]
  intro o ho
  have hmem : o ∈ offers := by
    rw [← List.mem_reverse, hoffers]
    simp [ho]
  obtain ⟨k, hk⟩ := List.getElem?_of_mem hmem
  have hanswer := hbooks.answered k o hk
  rw [accepted_of_mem_offersOf ho, Sink.refusing, (hbooks.own o hmem).2.1, hrefused] at hanswer
  cases hanswer

end due

end Watcher

def CycleResult.log (r : CycleResult) : List (Path × Nat × String × Bool) :=
  r.offers.map fun o => (o.delivery.path, o.delivery.stop, o.delivery.value, o.accepted)

/-! ## One visit -/

/-- What is offered of a file with due records, and how it is answered. -/
def asked (refused : Bool) (path : Path) (due : List (Record × String)) : List (Path × Nat × String × Bool) :=
  (if refused then due.take 1 else due).map fun x => (path, x.1.stop, x.2, !refused)

namespace Cycle

/-- A visit of a file whose records are refused, or accepted, all of them. It blocks the cycle if it has a record
that is refused; else nothing is due afterwards. -/
structure Asks (watch : Watcher) (d : Disk) (finished refused : Bool) (f : LogFile) (c : Cycle) (g : LogFile)
    (c' : Cycle) : Prop where
  still : c'.world.Still d
  kept : c'.kept = c.kept ++ [g]
  same : f.SameAs g
  ready : watch.Ready d g
  due : watch.due finished (g.ahead d) = if refused then watch.due finished (f.ahead d) else []
  records_le : (watch.splitter.records finished (g.ahead d)).length ≤
    (watch.splitter.records finished (f.ahead d)).length
  log : c'.tracker.log = c.tracker.log ++ asked refused f.path (watch.due finished (f.ahead d))
  room : ∀ k, c.tracker.budget.Room ((watch.splitter.records finished (f.ahead d)).length + k) →
    c'.tracker.budget.Room k
  passed : (refused = true → watch.due finished (f.ahead d) = []) → c'.halted = false ∧ c'.stalled = c.stalled
  blocked : refused = true → watch.due finished (f.ahead d) ≠ [] → g.retry = f.retry + 1 ∧
    c'.halted = decide (f.retry + 1 ≤ watch.config.maxRetries) ∧
    c'.stalled = c.stalled ++ if watch.config.maxRetries < f.retry + 1 then [f.path] else []

section asks
variable {watch : Watcher} {d : Disk} {useIdentity : Bool} {newest place : Nat} {c : Cycle} {f : LogFile}
  {finished : Bool} {refused : Path → Bool} {s : Reading} {outcome : FileOutcome} {c' : Cycle} {rs : List Record}
  {cursor : Cursor} {offers : List Offer} {n : Nat}

theorem asks_of_ended (hready : watch.Ready d f)
    (htook : watch.Took d (d.bytesAt f.path) finished (f.ahead d) ⟨f, c.tracker, c.world⟩ rs cursor s)
    (hlast : watch.splitter.next? finished cursor = none)
    (hbooks : Reading.Books watch.config (.refusing refused) ⟨f, c.tracker, c.world⟩ offers n s)
    (hway : outcome = .done ∨ outcome = .idle)
    (hafter : AfterReading watch.config.maxRetries true c outcome s c') :
    Asks watch d finished (refused f.path) f c s.file c' := by
  obtain ⟨hready', hahead⟩ := Watcher.Took.ready (s := ⟨f, c.tracker, c.world⟩) hready htook
  have hnone := Watcher.records_of_next?_none hlast
  have hrecords : watch.splitter.records finished (f.ahead d) = rs := by
    rw [htook.leads.records_eq, hnone, List.append_nil]
  have hdue : watch.due finished (f.ahead d) = watch.retained rs := by
    rw [Watcher.due, hrecords]
  have hrest : watch.due finished (s.file.ahead d) = [] := by
    rw [hahead, Watcher.due, hnone]
    rfl
  have hemits := htook.accounts.emits
  -- a file that is refused has no due records then
  have hidle (hrefused : refused f.path = true) : watch.due finished (f.ahead d) = [] := by
    have hvalues := htook.accounts.values_eq_nil [] hbooks rfl hrefused
    rw [Watcher.due_of_leads_nil htook.leads hvalues, ← hahead, hrest]
  refine ⟨hafter.world ▸ htook.still, hafter.kept_of_scan, htook.same, hready', ?_, ?_, ?_, ?_, ?_, ?_⟩
  · rw [hrest]
    cases hrefused : refused f.path with
    | false => rfl
    | true => exact (hidle hrefused).symm
  · rw [hahead, hnone]
    exact Nat.zero_le _
  · rw [hafter.tracker, hemits.log, Watcher.deliveries_map, ← hdue]
    cases hrefused : refused f.path with
    | false => rfl
    | true => rw [hidle hrefused]; rfl
  · intro k hroom
    rw [hafter.tracker, hemits.budget]
    refine hroom.count ?_ ?_
    · refine Nat.le_trans (watch.length_deliveries_le _) ?_
      rw [List.length_map, hrecords]
    · rw [List.length_map, hrecords]
  · intro _
    rw [hafter.halted, hafter.stalled]
    rcases hway with rfl | rfl <;> exact ⟨rfl, List.append_nil _⟩
  · intro hrefused hsome
    exact absurd (hidle hrefused) hsome

theorem asks_of_rejected {r : Record} {value : String} {w : World} {c₂ : Cursor} (hready : watch.Ready d f)
    (htook : watch.Took d (d.bytesAt f.path) finished (f.ahead d) ⟨f, c.tracker, c.world⟩ rs cursor s)
    (hnext : watch.splitter.Step finished cursor (some r) c₂) (hleft : watch.value? r = some value)
    (hno : Sink.refusing refused s.tracker.offers.length (s.tracker.delivery s.file value r.stop) = false)
    (hw : w.Still d)
    (hbooks : Reading.Books watch.config (.refusing refused) ⟨f, c.tracker, c.world⟩ offers n
      (Watcher.refuse s value r.stop w))
    (hafter : AfterReading watch.config.maxRetries true c .rejected (Watcher.refuse s value r.stop w) c') :
    Asks watch d finished (refused f.path) f c (Watcher.refuse s value r.stop w).file c' := by
  obtain ⟨hready', hahead⟩ := Watcher.Took.ready (s := ⟨f, c.tracker, c.world⟩) hready htook
  have hpath : s.file.path = f.path := htook.same.path
  have hrefused : refused f.path = true := by
    simpa [Sink.refusing, Tracker.delivery, hpath] using hno
  have hvalues := htook.accounts.values_eq_nil [⟨s.tracker.delivery s.file value r.stop, false⟩] hbooks
    rfl hrefused
  have hemits := htook.accounts.emits
  have hdue : watch.due finished (f.ahead d) = watch.due finished cursor :=
    Watcher.due_of_leads_nil htook.leads hvalues
  have hfirst : watch.due finished cursor = (r, value) :: watch.due finished c₂ := by
    rw [Watcher.due_of_leads (.single hnext)]
    simp [Watcher.retained, hleft]
  have hlength := congrArg List.length htook.leads.records_eq
  rw [List.length_append] at hlength
  have hnothing : watch.deliveries (rs.map (f.path, ·)) = [] := by
    rw [Watcher.deliveries_map, Watcher.retained_eq_nil hvalues, List.map_nil]
  have hretry : s.file.retry = f.retry := by rw [htook.retry, if_pos hvalues]
  have hbegun : ({ s.file with retry := s.file.retry + 1 } : LogFile).ahead d = cursor := hahead
  refine ⟨hafter.world ▸ hw, hafter.kept_of_scan, ?_, ?_, ?_, ?_, ?_, ?_, ?_, ?_⟩
  · exact htook.same.trans (show s.file.SameAs { s.file with retry := s.file.retry + 1 } from rfl)
  · exact ⟨hready'.sound.congr rfl rfl rfl, hready'.behind, hready'.within⟩
  · rw [hrefused, if_pos rfl, hdue]
    exact congrArg (watch.due finished) hbegun
  · refine Nat.le_trans (Nat.le_of_eq ?_) (hlength ▸ Nat.le_add_left ..)
    exact congrArg (fun cursor => (watch.splitter.records finished cursor).length) hbegun
  · have hlog : (Watcher.refuse s value r.stop w).tracker.log =
        s.tracker.log ++ [(s.file.path, r.stop, value, false)] := by
      rw [Tracker.log, Watcher.refuse, List.reverse_cons, List.map_append]
      rfl
    rw [hafter.tracker, hlog, hemits.log, hnothing, hdue, hfirst, hrefused, hpath, List.append_nil]
    rfl
  · intro k hroom
    rw [hafter.tracker]
    show s.tracker.budget.Room k
    rw [hemits.budget, hnothing]
    refine hroom.count (Nat.zero_le _) ?_
    rw [List.length_map, hlength]
    exact Nat.le_add_right ..
  · intro hnone
    rw [hdue, hfirst] at hnone
    cases hnone hrefused
  · intro _ _
    rw [hafter.halted, hafter.stalled]
    show s.file.retry + 1 = _ ∧ decide (s.file.retry + 1 ≤ _) = _ ∧
      c.stalled ++ (if decide (_ < s.file.retry + 1) = true then [s.file.path] else []) = _
    rw [hretry, hpath]
    simp only [decide_eq_true_eq, and_self]

/-- **A visit takes all due records of a file, or offers the first of them**, while the budget has room for all. -/
theorem visit_asks (refused : Path → Bool) (hchunk : 0 < watch.config.chunkSize)
    (hmax : watch.config.chunkSize ≤ watch.config.maxRecordSize) (hw : c.world.Still d) (hhalt : c.halted = false)
    (hopens : f.Opens d useIdentity (d.bytesAt f.path)) (hready : watch.Ready d f)
    (hroom : c.tracker.budget.Room (watch.splitter.records (place < newest) (f.ahead d)).length) :
    ∃ g, Asks watch d (place < newest) (refused f.path) f c g
      (visit watch (.refusing refused) useIdentity newest c (f, place)) := by
  have hreads := Watcher.readFile_spec (s := ⟨f, c.tracker, c.world⟩) watch (.refusing refused) useIdentity
    (place < newest) hchunk hmax hw hopens.readable hready.sound
  obtain ⟨offers, hbooks⟩ := watch.readFile_books watch.config (.refusing refused) useIdentity
    (place < newest) ⟨f, c.tracker, c.world⟩
  rcases hresult : watch.readFile (.refusing refused) useIdentity (place < newest) ⟨f, c.tracker, c.world⟩ with
    ⟨outcome, s⟩
  have hafter := visit_reads (x := (f, place)) hhalt hresult
  rw [hresult] at hreads hbooks
  cases hreads with
  | ended hway htook hlast => exact ⟨_, asks_of_ended hready htook hlast hbooks hway hafter⟩
  | @budget rs _ _ htook hspent =>
    -- there was room for all records
    have hrecords : watch.splitter.records (place < newest) (f.ahead d) = rs ++ _ := htook.leads.records_eq
    have hle : rs.length ≤ (watch.splitter.records (place < newest) (f.ahead d)).length := by
      rw [hrecords, List.length_append]
      exact Nat.le_add_right ..
    have hleft : s.tracker.budget.Room 0 := by
      rw [htook.accounts.emits.budget]
      refine Budget.Room.count (n := rs.length) (hroom.mono (by simpa using hle)) ?_ (by simp)
      simpa using watch.length_deliveries_le (rs.map (f.path, ·))
    rw [hleft.not_exhausted] at hspent
    cases hspent
  | rejected htook hnext hleft hno hstill =>
    exact ⟨_, asks_of_rejected hready htook hnext hleft hno hstill hbooks hafter⟩

end asks

end Cycle

end LogTail
