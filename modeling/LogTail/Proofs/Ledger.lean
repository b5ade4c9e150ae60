import LogTail.Proofs.Turns
import Mathlib.Algebra.GroupWithZero.Nat
import Mathlib.Data.Nat.ModEq

/-!
# The accounts of a cycle

The counts of a cycle agree with its offers and with its files (`Watcher.process_balances`). Nothing is counted
beyond the limits. An offer is either a record that was sent or a failure, and no file has two failures. The bytes
of a cycle are those by which its turns moved the offsets of its files, and what it sent last is the last offer
that was accepted. This holds of any tracked files, whatever others do to the disk in the middle of the cycle and
whatever the receiver answers.

* `Tracker.Balanced`: what each entry into the accounts keeps true of them.
* `Reading.Books`: what the parts of a reading do to its file and to the accounts.
* `Entry.Ledger`: what turns do to a cycle, from one to a whole run.
-/

namespace LogTail

/-! ## The accounts -/

theorem addWord_modEq (a b : Nat) : addWord a b ≡ a + b [MOD Json.wordMax + 1] := Nat.mod_modEq _ _

/-- There is room for one record more, whatever the time. -/
def Budget.HasRoom (b : Budget) : Prop := b.sent < b.maxSent ∧ b.processed < b.maxProcessed

theorem Budget.hasRoom {b : Budget} (h : ¬ b.exhausted = true) : b.HasRoom := by
  simp only [exhausted, Bool.or_eq_true, decide_eq_true_eq, not_or, Nat.not_le] at h
  exact h.1

/-- The accounts are within the limits of a configuration, and agree with the offers that were made. -/
structure Tracker.Balanced (config : WatchConfig) (t : Tracker) : Prop where
  maxSent : t.budget.maxSent = config.maxSent
  maxProcessed : t.budget.maxProcessed = config.maxProcessed
  sent_le_processed : t.budget.sent ≤ t.budget.processed
  sent_le : t.budget.sent ≤ config.maxSent
  processed_le : t.budget.processed ≤ config.maxProcessed
  bytes_le : t.processedBytes ≤ Json.wordMax
  sent : t.budget.sent = t.offers.countP (·.accepted)
  failures : t.failures = t.offers.countP (!·.accepted)
  lastSent : t.lastSent =
    (t.offers.find? (·.accepted)).map fun o => (o.delivery.stop, o.delivery.mtime)

namespace Tracker.Balanced

variable {config : WatchConfig} {t : Tracker}

theorem tested (h : t.Balanced config) : t.tested.Balanced config := { h with }

theorem advance (h : t.Balanced config) (file : LogFile) (stop : Nat) :
    (t.advance file stop).1.Balanced config :=
  { h with bytes_le := addWord_le .. }

theorem discard (h : t.Balanced config) (hroom : t.budget.HasRoom) (file : LogFile) (stop : Nat) :
    (t.discard file stop).1.Balanced config :=
  { h with
    sent_le_processed := Nat.le_succ_of_le h.sent_le_processed
    processed_le := Nat.lt_of_lt_of_eq hroom.2 h.maxProcessed
    bytes_le := addWord_le .. }

theorem deliver (h : t.Balanced config) (hroom : t.budget.HasRoom) (sink : Sink) (file : LogFile)
    (value : String) (stop : Nat) : (t.deliver sink file value stop).2.1.Balanced config := by
  unfold Tracker.deliver
  rcases hsink : sink t.offers.length (t.delivery file value stop) with _ | _
  · simp only [hsink, Bool.false_eq_true, if_false]
    exact { h with
      sent := by rw [h.sent, List.countP_cons_of_neg Bool.false_ne_true]
      failures := by rw [h.failures, List.countP_cons_of_pos rfl]
      lastSent := by rw [h.lastSent, List.find?_cons_of_neg Bool.false_ne_true] }
  · simp only [hsink, if_true]
    refine Balanced.advance ?_ _ stop
    exact { h with
      sent_le_processed := Nat.succ_le_succ h.sent_le_processed
      sent_le := Nat.lt_of_lt_of_eq hroom.1 h.maxSent
      processed_le := Nat.lt_of_lt_of_eq hroom.2 h.maxProcessed
      sent := by rw [h.sent, List.countP_cons_of_pos rfl]
      failures := by rw [h.failures, List.countP_cons_of_neg Bool.false_ne_true]
      lastSent := by rw [List.find?_cons_of_pos rfl]; rfl }

end Tracker.Balanced

theorem Watcher.balanced_opening (watch : Watcher) (time : CycleTime) :
    (watch.opening time).Balanced watch.config :=
  ⟨rfl, rfl, Nat.le_refl 0, Nat.zero_le _, Nat.zero_le _, Nat.zero_le _, rfl, rfl, rfl⟩

/-! ## The books of a reading -/

theorem LogFile.SameAs.mtime {f f' : LogFile} (h : f.SameAs f') : f'.mtime = f.mtime := by
  rw [SameAs] at h
  rw [h]

@[simp]
def Outcome.refusals : Outcome → Nat
  | .rejected => 1
  | .consumed => 0

@[simp]
def FileOutcome.refusals : FileOutcome → Nat
  | .rejected => 1
  | .done | .idle | .budget | .failed _ => 0

def Offer.IsOf (file : LogFile) (o : Offer) : Prop :=
  o.delivery.seq = file.seq ∧ o.delivery.path = file.path ∧ o.delivery.mtime = file.mtime

/-- Offers bear the answers of a receiver, from a number of offers on. -/
def Answered (sink : Sink) (first : Nat) (offers : List Offer) : Prop :=
  ∀ k o, offers[k]? = some o → o.accepted = sink (first + k) o.delivery

theorem Answered.nil (sink : Sink) (first : Nat) : Answered sink first [] := fun k o ho => by simp at ho

theorem Answered.single {sink : Sink} {first : Nat} {o : Offer} (h : o.accepted = sink first o.delivery) :
    Answered sink first [o] := by
  intro k o' ho
  obtain ⟨rfl, rfl⟩ : k = 0 ∧ o = o' := by simpa [List.getElem?_singleton] using ho
  exact h

theorem Answered.append {sink : Sink} {first : Nat} {offers offers' : List Offer} (h : Answered sink first offers)
    (h' : Answered sink (offers.length + first) offers') : Answered sink first (offers ++ offers') := by
  intro k o ho
  rcases Nat.lt_or_ge k offers.length with hlt | hge
  · exact h k o (by rwa [List.getElem?_append_left hlt] at ho)
  · rw [List.getElem?_append_right hge] at ho
    rw [h' _ o ho]
    congr 1
    omega

/-- What a part of a reading does: the offset does not go back, the bytes that are counted are those by which it
moved, and the offers that were made are those of the file and bear the receiver's answers, a number of which are
refusals. -/
structure Reading.Books (config : WatchConfig) (sink : Sink) (s : Reading) (offers : List Offer) (refusals : Nat)
    (s' : Reading) : Prop where
  same : s.file.SameAs s'.file
  processed_le : s.file.processed ≤ s'.file.processed
  bytes : s'.tracker.processedBytes ≡
    s.tracker.processedBytes + (s'.file.processed - s.file.processed) [MOD Json.wordMax + 1]
  offered : s'.tracker.offers = offers.reverse ++ s.tracker.offers
  own : ∀ o ∈ offers, o.IsOf s.file
  answered : Answered sink s.tracker.offers.length offers
  refused : offers.countP (!·.accepted) = refusals
  balanced : s.tracker.Balanced config → s'.tracker.Balanced config

section books
variable {config : WatchConfig} {watch : Watcher} {sink : Sink} {s s' s'' : Reading} {offers offers' : List Offer}
  {n n' : Nat}

theorem Reading.Books.refl (config : WatchConfig) (sink : Sink) (s : Reading) : s.Books config sink [] 0 s :=
  ⟨rfl, Nat.le_refl _, by rw [Nat.sub_self]; rfl, rfl, by simp, .nil sink _, rfl, id⟩

theorem Reading.Books.tested (config : WatchConfig) (sink : Sink) (s : Reading) (w : World) :
    s.Books config sink [] 0 { s.tested with world := w } :=
  ⟨rfl, Nat.le_refl _, (Reading.Books.refl config sink s).bytes, rfl, by simp, .nil sink _, rfl, fun h => h.tested⟩

theorem Reading.Books.mark (s : Reading) :
    s.Books config sink [] 0 { s with file := { s.file with skipping := true } } :=
  ⟨rfl, Nat.le_refl _, by rw [Nat.sub_self]; rfl, rfl, by simp, .nil sink _, rfl, id⟩

theorem Reading.Books.trans (h : s.Books config sink offers n s') (h' : s'.Books config sink offers' n' s'') :
    s.Books config sink (offers ++ offers') (n + n') s'' where
  same := h.same.trans h'.same
  processed_le := Nat.le_trans h.processed_le h'.processed_le
  bytes := by
    have hle := h.processed_le
    have hle' := h'.processed_le
    have hsum : s''.file.processed - s.file.processed =
        (s'.file.processed - s.file.processed) + (s''.file.processed - s'.file.processed) := by omega
    rw [hsum, ← Nat.add_assoc]
    exact h'.bytes.trans (h.bytes.add_right _)
  offered := by rw [h'.offered, h.offered, List.reverse_append, List.append_assoc]
  own o ho := by
    rcases List.mem_append.1 ho with ho | ho
    · exact h.own o ho
    · obtain ⟨hseq, hpath, hmtime⟩ := h'.own o ho
      exact ⟨hseq.trans h.same.seq, hpath.trans h.same.path, hmtime.trans h.same.mtime⟩
  answered := by
    have hlength : s'.tracker.offers.length = offers.length + s.tracker.offers.length := by
      rw [h.offered, List.length_append, List.length_reverse]
    exact h.answered.append (hlength ▸ h'.answered)
  refused := by rw [List.countP_append, h.refused, h'.refused]
  balanced hs := h'.balanced (h.balanced hs)

theorem Reading.Books.prepend (h : s.Books config sink offers 0 s') {outcome : FileOutcome}
    (h' : ∃ offers', s'.Books config sink offers' outcome.refusals s'') :
    ∃ offers', s.Books config sink offers' outcome.refusals s'' := by
  obtain ⟨offers', h'⟩ := h'
  have hboth := h.trans h'
  rw [Nat.zero_add] at hboth
  exact ⟨_, hboth⟩

namespace Watcher

theorem addWord_moved (count processed stop : Nat) :
    addWord count (stop - processed) ≡ count + (max processed stop - processed) [MOD Json.wordMax + 1] := by
  rw [show max processed stop - processed = stop - processed by omega]
  exact addWord_modEq ..

theorem skipTo_books (s : Reading) (stop : Nat) (finished : Bool) :
    s.Books config sink [] 0 (skipTo s stop finished) :=
  ⟨rfl, Nat.le_max_left .., addWord_moved .., rfl, by simp,
    .nil sink _, rfl, fun h => h.advance s.file stop⟩

theorem keepTail_books (s : Reading) (r : Reader) : s.Books config sink [] 0 (keepTail s r) :=
  ⟨rfl, Nat.le_max_left .., addWord_moved .., rfl, by simp,
    .nil sink _, rfl, fun h => h.advance s.file r.position⟩

/-- A record is filtered out, accepted or refused; only a refusal leaves the offset where it is. -/
theorem consume_books (config : WatchConfig) (watch : Watcher) (sink : Sink)
    (hroom : s.tracker.budget.HasRoom) (bytes : Bytes) (stop : Nat) :
    ∃ offers, s.Books config sink offers (watch.consume sink s bytes stop).1.refusals
      (watch.consume sink s bytes stop).2 := by
  unfold consume
  rcases watch.filter.apply (watch.config.encoding.decode bytes) with _ | value
  · exact ⟨[], rfl, Nat.le_max_left .., addWord_moved .., rfl, by simp,
      .nil sink _, rfl, fun h => h.discard hroom s.file stop⟩
  · have hbalanced (h : s.tracker.Balanced config) := h.deliver hroom sink s.file value stop
    refine ⟨[⟨s.tracker.delivery s.file value stop,
      sink s.tracker.offers.length (s.tracker.delivery s.file value stop)⟩], ?_⟩
    have hown (answer : Bool) :
        ∀ o ∈ [(⟨s.tracker.delivery s.file value stop, answer⟩ : Offer)], o.IsOf s.file := by
      intro o ho
      rw [List.mem_singleton.1 ho]
      exact ⟨rfl, rfl, rfl⟩
    unfold Tracker.deliver at hbalanced ⊢
    rcases hsink : sink s.tracker.offers.length (s.tracker.delivery s.file value stop) with _ | _
    · simp only [hsink, Bool.false_eq_true, if_false] at hbalanced ⊢
      exact ⟨rfl, Nat.le_refl _, by rw [Nat.sub_self]; rfl, rfl, hown false, .single hsink.symm, rfl, hbalanced⟩
    · simp only [hsink, if_true] at hbalanced ⊢
      exact ⟨rfl, Nat.le_max_left .., addWord_moved .., rfl, hown true,
        .single hsink.symm, rfl, hbalanced⟩

theorem flush_books (watch : Watcher) (sink : Sink) (s : Reading) (r : Reader) :
    ∃ offers, s.Books config sink offers (watch.flush sink s r).1.refusals (watch.flush sink s r).2 := by
  have hrest : ∃ offers, s.Books config sink offers 0 s := ⟨[], .refl config sink s⟩
  unfold flush
  rcases r.takeRemainder with ⟨_ | ⟨start, stop, bytes, truncated⟩ | ⟨stop, ended⟩, r'⟩
  · exact hrest
  · dsimp only
    by_cases hspent : s.tracker.budget.exhausted = true
    · rw [if_pos hspent]
      exact hrest
    rw [if_neg hspent]
    have hroom : s.tested.tracker.budget.HasRoom := Budget.hasRoom (b := s.tracker.budget) hspent
    refine (Reading.Books.tested config sink s s.world).prepend ?_
    obtain ⟨offers, hbooks⟩ := watch.consume_books (s := s.tested) config sink hroom bytes stop
    rcases hconsume : watch.consume sink s.tested bytes stop with ⟨_ | _, s'⟩
    all_goals
      rw [hconsume] at hbooks
      exact ⟨offers, hbooks⟩
  · exact hrest

theorem readEvents_books (watch : Watcher) (sink : Sink) (finished : Bool) (fuel : Nat) (s : Reading) (r : Reader) :
    ∃ offers, s.Books config sink offers (watch.readEvents sink finished fuel s r).1.refusals
      (watch.readEvents sink finished fuel s r).2 := by
  induction fuel generalizing s r with
  | zero => exact ⟨[], .refl config sink s⟩
  | succ fuel ih =>
    rw [readEvents]
    by_cases hspent : s.tracker.budget.exhausted = true
    · rw [if_pos hspent]
      exact ⟨[], .refl config sink s⟩
    rw [if_neg hspent]
    have hroom : s.tested.tracker.budget.HasRoom := Budget.hasRoom (b := s.tracker.budget) hspent
    rcases r.next s.world with ⟨c | _ | ⟨start, stop, bytes, truncated⟩ | ⟨stop, ended⟩, r', w⟩
    · exact ⟨[], .tested config sink s w⟩
    · have hkept := (Reading.Books.tested config sink s w).trans
        (keepTail_books { s.tested with world := w } r')
      cases finished with
      | false => exact ⟨_, hkept⟩
      | true => exact hkept.prepend (watch.flush_books sink _ r')
    · obtain ⟨offers, hbooks⟩ := watch.consume_books config (s := { s.tested with world := w }) sink hroom bytes stop
      have hbooks := (Reading.Books.tested config sink s w).trans hbooks
      dsimp only
      rcases hconsume : watch.consume sink { s.tested with world := w } bytes stop with ⟨_ | _, s'⟩
      · rw [hconsume] at hbooks
        cases truncated with
        | false => exact hbooks.prepend (ih s' r')
        | true =>
          exact (hbooks.trans (.mark s')).prepend (ih _ r')
      · rw [hconsume] at hbooks
        exact ⟨_, by rwa [Nat.zero_add] at hbooks⟩
    · exact ((Reading.Books.tested config sink s w).trans
        (skipTo_books { s.tested with world := w } stop ended)).prepend (ih _ r')

/-- **The reading of a file keeps the books**, and has as many refusals as its outcome says. -/
theorem readFile_books (config : WatchConfig) (watch : Watcher) (sink : Sink) (useIdentity finished : Bool)
    (s : Reading) :
    ∃ offers, s.Books config sink offers (watch.readFile sink useIdentity finished s).1.refusals
      (watch.readFile sink useIdentity finished s).2 := by
  unfold readFile
  by_cases hidle : (s.file.unread = 0 && !(finished && s.file.hasFinalTail)) = true
  · rw [if_pos hidle]
    exact ⟨[], .refl config sink s⟩
  rw [if_neg hidle]
  by_cases hspent : s.tracker.budget.exhausted = true
  · rw [if_pos hspent]
    exact ⟨[], .refl config sink s⟩
  rw [if_neg hspent]
  rcases Reader.openFile (readerOptions watch.config useIdentity) s.file s.world with ⟨c | r, w⟩
  · exact ⟨[], .tested config sink s w⟩
  · exact (Reading.Books.tested config sink s w).prepend
      (watch.readEvents_books sink finished _ { s.tested with world := w } r)

end Watcher

end books

/-! ## The ledger of a cycle -/

/-- A file of a cycle as it was resolved, of the scan or rotated away, with the turn that it had. -/
structure Entry where
  scanned : Bool
  resolved : LogFile
  turn : Turn

namespace Entry

def final (e : Entry) : LogFile :=
  match e.turn with
  | .read _ _ _ after => after.file
  | .waits | .gone | .unreachable _ => e.resolved

theorem final_cases (e : Entry) : e.final = e.resolved ∨ ∃ finished outcome before after,
    e.turn = .read finished outcome before after ∧ e.final = after.file := by
  rcases e with ⟨scanned, resolved, _ | _ | _ | ⟨finished, outcome, before, after⟩⟩
  · exact .inl rfl
  · exact .inl rfl
  · exact .inl rfl
  · exact .inr ⟨finished, outcome, before, after, rfl, rfl⟩

def moved (e : Entry) : Nat := e.final.processed - e.resolved.processed

/-- Whether the file goes on to the next cycle. One that rotated away does only if it waits, or if the cycle halts
at it. -/
def goesOn (maxRetries : Nat) (e : Entry) : Bool :=
  e.scanned ||
    match e.turn with
    | .waits => true
    | .read _ outcome _ after => outcome.halts maxRetries after.file
    | .gone | .unreachable _ => false

def zip (scanned : Bool) (files : List LogFile) (turns : List Turn) : List Entry :=
  (files.zip turns).map fun x => ⟨scanned, x.1, x.2⟩

def ofRun (watch : Watcher) (sink : Sink) (useIdentity : Bool) (resolution : Resolution) (start : Cycle) :
    List Entry :=
  let newest := resolution.files.length - 1
  zip false resolution.rotatedAway (Turn.ofSteps (.ofDrain watch sink useIdentity)
      (Cycle.drain watch sink useIdentity) start resolution.rotatedAway) ++
    zip true resolution.files (Turn.ofSteps (.ofVisit watch sink useIdentity newest)
      (Cycle.visit watch sink useIdentity newest)
      (resolution.rotatedAway.foldl (Cycle.drain watch sink useIdentity) start) resolution.files.zipIdx)

structure Ledger (config : WatchConfig) (sink : Sink) (c : Cycle) (entries : List Entry) (c' : Cycle) : Prop where
  processed_le : ∀ e ∈ entries, e.resolved.processed ≤ e.final.processed
  bytes : c'.tracker.processedBytes ≡ c.tracker.processedBytes + (entries.map moved).sum [MOD Json.wordMax + 1]
  offered : c'.tracker.offers = (entries.flatMap (·.turn.offers)).reverse ++ c.tracker.offers
  answered : Answered sink c.tracker.offers.length (entries.flatMap (·.turn.offers))
  own : ∀ e ∈ entries, ∀ o ∈ e.turn.offers, o.IsOf e.resolved
  refused : ∀ e ∈ entries, e.turn.offers.countP (!·.accepted) ≤ 1
  balanced : c.tracker.Balanced config → c'.tracker.Balanced config
  kept : c'.kept = c.kept ++ (entries.filter (goesOn config.maxRetries)).map final

section ledger
variable {config : WatchConfig} {watch : Watcher} {sink : Sink} {useIdentity : Bool} {c c' c'' : Cycle}
  {entries entries' : List Entry} {file : LogFile}

theorem Ledger.nil (c : Cycle) : Ledger config sink c [] c :=
  ⟨by simp, rfl, rfl, .nil sink _, by simp, by simp, id, by simp⟩

theorem Ledger.append (h : Ledger config sink c entries c') (h' : Ledger config sink c' entries' c'') :
    Ledger config sink c (entries ++ entries') c'' where
  processed_le e he := (List.mem_append.1 he).elim (h.processed_le e) (h'.processed_le e)
  bytes := by
    rw [List.map_append, List.sum_append, ← Nat.add_assoc]
    exact h'.bytes.trans (h.bytes.add_right _)
  offered := by rw [h'.offered, h.offered, List.flatMap_append, List.reverse_append, List.append_assoc]
  answered := by
    have hlength : c'.tracker.offers.length =
        (entries.flatMap (·.turn.offers)).length + c.tracker.offers.length := by
      rw [h.offered, List.length_append, List.length_reverse]
    rw [List.flatMap_append]
    exact h.answered.append (hlength ▸ h'.answered)
  own e he := (List.mem_append.1 he).elim (h.own e) (h'.own e)
  refused e he := (List.mem_append.1 he).elim (h.refused e) (h'.refused e)
  balanced hc := h'.balanced (h.balanced hc)
  kept := by rw [h'.kept, h.kept, List.filter_append, List.map_append, List.append_assoc]

theorem ledger_silent {e : Entry} (hturn : e.turn.offers = []) (hfinal : e.final = e.resolved)
    (htracker : c'.tracker = c.tracker)
    (hkept : c'.kept = c.kept ++ if e.goesOn config.maxRetries then [e.resolved] else []) :
    Ledger config sink c [e] c' where
  processed_le := by simp [hfinal]
  bytes := by simpa [moved, hfinal, htracker] using Nat.ModEq.refl _
  offered := by simp [hturn, htracker]
  answered := by simpa [hturn] using Answered.nil sink _
  own := by simp [hturn]
  refused := by simp [hturn]
  balanced hc := htracker ▸ hc
  kept := by
    rw [hkept]
    cases hgoes : e.goesOn config.maxRetries <;> simp [hgoes, hfinal]

theorem ledger_read {size : Nat} {w : World} {finished scanned : Bool} {outcome : FileOutcome} {s : Reading}
    {offers : List Offer} (hbooks : Reading.Books config sink ⟨{ file with size := size }, c.tracker, w⟩ offers
      outcome.refusals s)
    (hafter : Cycle.AfterReading config.maxRetries scanned c outcome s c') :
    Ledger config sink c
      [⟨scanned, file, .read finished outcome ⟨{ file with size := size }, c.tracker, w⟩ s⟩] c' := by
  have hoffers : Turn.offers (.read finished outcome ⟨{ file with size := size }, c.tracker, w⟩ s) = offers :=
    Turn.offers_of_offered hbooks.offered
  constructor
  · simpa [final] using hbooks.processed_le
  · simpa [moved, final, hafter.tracker] using hbooks.bytes
  · simpa [hoffers, hafter.tracker] using hbooks.offered
  · simpa [hoffers] using hbooks.answered
  · intro e he o ho
    rw [List.mem_singleton] at he
    subst he
    exact hbooks.own o (hoffers ▸ ho)
  · have hrefused : outcome.refusals ≤ 1 := by cases outcome <;> simp
    simpa [hoffers, hbooks.refused] using hrefused
  · rw [hafter.tracker]
    exact hbooks.balanced
  · have hgoes (before : Reading) : goesOn config.maxRetries ⟨scanned, file, .read finished outcome before s⟩ =
        (scanned || outcome.halts config.maxRetries s.file) := rfl
    rw [hafter.kept, hafter.halted, List.filter_singleton, hgoes]
    cases scanned || outcome.halts config.maxRetries s.file <;> rfl

theorem ledger_visit (watch : Watcher) (sink : Sink) (useIdentity : Bool) (newest : Nat) (c : Cycle)
    (x : LogFile × Nat) : Ledger watch.config sink c [⟨true, x.1, Turn.ofVisit watch sink useIdentity newest c x⟩]
      (Cycle.visit watch sink useIdentity newest c x) := by
  rw [Turn.ofVisit]
  by_cases hhalt : c.halted = true
  · rw [if_pos hhalt, Cycle.visit_waits hhalt]
    exact ledger_silent rfl rfl rfl rfl
  rw [if_neg hhalt]
  obtain ⟨offers, hbooks⟩ := watch.readFile_books watch.config sink useIdentity (x.2 < newest)
    ⟨x.1, c.tracker, c.world⟩
  exact ledger_read hbooks (Cycle.visit_reads (Bool.not_eq_true _ ▸ hhalt) rfl)

theorem ledger_drain (watch : Watcher) (sink : Sink) (useIdentity : Bool) (c : Cycle) (file : LogFile) :
    Ledger watch.config sink c [⟨false, file, Turn.ofDrain watch sink useIdentity c file⟩]
      (Cycle.drain watch sink useIdentity c file) := by
  rw [Turn.ofDrain]
  by_cases hhalt : c.halted = true
  · rw [if_pos hhalt, Cycle.drain_waits hhalt]
    exact ledger_silent rfl rfl rfl rfl
  rw [if_neg hhalt]
  rw [Bool.not_eq_true] at hhalt
  rcases hprepare : watch.prepareDrain useIdentity file c.world with ⟨cause | _ | g, w⟩
  · rw [Cycle.drain_unreachable hhalt hprepare]
    exact ledger_silent rfl rfl rfl (List.append_nil _).symm
  · rw [Cycle.drain_gone hhalt hprepare]
    exact ledger_silent rfl rfl rfl (List.append_nil _).symm
  · have hafter : Cycle.AfterReading _ false c _ _ (Cycle.drain watch sink useIdentity c file) :=
      Cycle.drain_reads hhalt hprepare rfl
    obtain ⟨size, _, rfl⟩ := Watcher.prepareDrain_some hprepare
    obtain ⟨offers, hbooks⟩ := watch.readFile_books watch.config sink useIdentity true
      ⟨{ file with size := size }, c.tracker, w⟩
    exact ledger_read hbooks hafter

theorem ledger_ofSteps {α : Type} {turn : Cycle → α → Turn} {step : Cycle → α → Cycle} {scanned : Bool}
    (file : α → LogFile) (hstep : ∀ c x, Ledger config sink c [⟨scanned, file x, turn c x⟩] (step c x))
    (xs : List α) (c : Cycle) :
    Ledger config sink c (zip scanned (xs.map file) (Turn.ofSteps turn step c xs)) (xs.foldl step c) := by
  induction xs generalizing c with
  | nil => exact .nil c
  | cons x xs ih => exact (hstep c x).append (ih (step c x))

/-- **Whatever the world does, the turns of a cycle keep its ledger.** -/
theorem ledger_ofRun (watch : Watcher) (sink : Sink) (useIdentity : Bool) (r : Resolution) (c : Cycle) :
    Ledger watch.config sink c (ofRun watch sink useIdentity r c) (Cycle.run watch sink useIdentity r c) := by
  have hdrains := ledger_ofSteps id (ledger_drain watch sink useIdentity) r.rotatedAway c
  have hvisits := ledger_ofSteps (·.1) (ledger_visit watch sink useIdentity (r.files.length - 1)) r.files.zipIdx
    (r.rotatedAway.foldl (Cycle.drain watch sink useIdentity) c)
  rw [List.map_id] at hdrains
  rw [List.zipIdx_map_fst] at hvisits
  exact hdrains.append hvisits

end ledger

end Entry

section turns
variable {watch : Watcher} {sink : Sink} {useIdentity : Bool} {c : Cycle} {finished : Bool} {outcome : FileOutcome}
  {before after : Reading}

theorem Turn.read_ofVisit {newest : Nat} {x : LogFile × Nat}
    (h : ofVisit watch sink useIdentity newest c x = .read finished outcome before after) :
    before = ⟨x.1, c.tracker, c.world⟩ ∧ finished = decide (x.2 < newest) ∧
      watch.readFile sink useIdentity finished before = (outcome, after) := by
  unfold ofVisit at h
  by_cases hhalt : c.halted = true
  · rw [if_pos hhalt] at h
    cases h
  · rw [if_neg hhalt] at h
    cases h
    exact ⟨rfl, rfl, rfl⟩

theorem Turn.read_ofDrain {file : LogFile}
    (h : ofDrain watch sink useIdentity c file = .read finished outcome before after) :
    ∃ g w, watch.prepareDrain useIdentity file c.world = (.ok (some g), w) ∧ before = ⟨g, c.tracker, w⟩ ∧
      finished = true ∧ watch.readFile sink useIdentity finished before = (outcome, after) := by
  unfold ofDrain at h
  by_cases hhalt : c.halted = true
  · rw [if_pos hhalt] at h
    cases h
  · rw [if_neg hhalt] at h
    rcases hprepare : watch.prepareDrain useIdentity file c.world with ⟨cause | _ | g, w⟩
    · rw [hprepare] at h
      cases h
    · rw [hprepare] at h
      cases h
    · rw [hprepare] at h
      cases h
      exact ⟨g, w, rfl, rfl, rfl, rfl⟩

end turns

namespace Entry

/-! ## Which entry an offer belongs to -/

section entries
variable {watch : Watcher} {sink : Sink} {useIdentity : Bool} {r : Resolution} {c : Cycle}

theorem resolved_zip (scanned : Bool) {files : List LogFile} {turns : List Turn}
    (h : turns.length = files.length) : (zip scanned files turns).map resolved = files := by
  rw [zip, List.map_map]
  exact List.map_fst_zip (Nat.le_of_eq h.symm)

theorem turn_zip (scanned : Bool) {files : List LogFile} {turns : List Turn}
    (h : turns.length = files.length) : (zip scanned files turns).map turn = turns := by
  rw [zip, List.map_map]
  exact List.map_snd_zip (Nat.le_of_eq h)

theorem resolved_ofRun : (ofRun watch sink useIdentity r c).map resolved = r.rotatedAway ++ r.files := by
  rw [ofRun, List.map_append, resolved_zip _ (Turn.length_ofSteps ..), resolved_zip]
  rw [Turn.length_ofSteps, List.length_zipIdx]

theorem turn_ofRun :
    (ofRun watch sink useIdentity r c).map turn = Turn.ofRun watch sink useIdentity r c := by
  rw [ofRun, List.map_append, turn_zip _ (Turn.length_ofSteps ..), turn_zip]
  · rfl
  · rw [Turn.length_ofSteps, List.length_zipIdx]

/-- An entry of steps is that of one of them, in a cycle for which holds what all steps keep true. -/
theorem exists_of_mem_zip {α : Type} {turn : Cycle → α → Turn} {step : Cycle → α → Cycle} {scanned : Bool}
    (file : α → LogFile) {P : Cycle → Prop} {xs : List α} (hstep : ∀ c, ∀ x ∈ xs, P c → P (step c x)) {c : Cycle}
    (hc : P c) {e : Entry} (he : e ∈ zip scanned (xs.map file) (Turn.ofSteps turn step c xs)) :
    ∃ c₁, P c₁ ∧ ∃ x ∈ xs, e = ⟨scanned, file x, turn c₁ x⟩ := by
  induction xs generalizing c with
  | nil => cases he
  | cons x xs ih =>
    rcases List.mem_cons.1 he with rfl | he
    · exact ⟨c, hc, x, List.mem_cons_self, rfl⟩
    · obtain ⟨c₁, hc₁, y, hy, heq⟩ := ih (fun c y hy => hstep c y (List.mem_cons_of_mem x hy))
        (hstep c x List.mem_cons_self hc) he
      exact ⟨c₁, hc₁, y, List.mem_cons_of_mem x hy, heq⟩

theorem exists_of_mem_ofRun {P : Cycle → Prop}
    (hdrain : ∀ c, ∀ f ∈ r.rotatedAway, P c → P (Cycle.drain watch sink useIdentity c f))
    (hvisit : ∀ c, ∀ x ∈ r.files.zipIdx, P c →
      P (Cycle.visit watch sink useIdentity (r.files.length - 1) c x)) (hc : P c) {e : Entry}
    (he : e ∈ ofRun watch sink useIdentity r c) :
    ∃ c₁, P c₁ ∧
      ((e.scanned = false ∧ e.resolved ∈ r.rotatedAway ∧
          e.turn = Turn.ofDrain watch sink useIdentity c₁ e.resolved) ∨
        ∃ j, e.scanned = true ∧ r.files[j]? = some e.resolved ∧
          e.turn = Turn.ofVisit watch sink useIdentity (r.files.length - 1) c₁ (e.resolved, j)) := by
  have hdrained : P (r.rotatedAway.foldl (Cycle.drain watch sink useIdentity) c) :=
    List.foldlRecOn r.rotatedAway _ hc fun c hc f hf => hdrain c f hf hc
  rcases List.mem_append.1 he with he | he
  · rw [← List.map_id r.rotatedAway] at he
    obtain ⟨c₁, hc₁, f, hf, rfl⟩ := exists_of_mem_zip id (by simpa using hdrain) hc (by simpa using he)
    exact ⟨c₁, hc₁, .inl ⟨rfl, hf, rfl⟩⟩
  · obtain ⟨c₁, hc₁, ⟨f, j⟩, hf, rfl⟩ := exists_of_mem_zip (·.1) hvisit hdrained
      (by rw [List.zipIdx_map_fst]; exact he)
    exact ⟨c₁, hc₁, .inr ⟨j, rfl, List.mem_zipIdx_iff_getElem?.1 hf, rfl⟩⟩

theorem exists_of_read {e : Entry} (he : e ∈ ofRun watch sink useIdentity r c) {finished : Bool}
    {outcome : FileOutcome} {before after : Reading} (hturn : e.turn = .read finished outcome before after) :
    watch.readFile sink useIdentity finished before = (outcome, after) ∧
      ∃ size, before.file = { e.resolved with size := size } ∧ (e.scanned = true → size = e.resolved.size) ∧
        (size = e.resolved.size ∨ e.resolved.processed ≤ size) := by
  obtain ⟨c₁, -, ⟨haway, -, hdrain⟩ | ⟨j, -, -, hvisit⟩⟩ :=
    exists_of_mem_ofRun (P := fun _ => True) (fun _ _ _ _ => trivial) (fun _ _ _ _ => trivial) trivial he
  · obtain ⟨g, w, hprepare, rfl, -, hread⟩ := Turn.read_ofDrain (hdrain.symm.trans hturn)
    obtain ⟨size, hsize, rfl⟩ := Watcher.prepareDrain_some hprepare
    exact ⟨hread, size, rfl, (fun hscanned => by rw [haway] at hscanned; cases hscanned), .inr hsize⟩
  · obtain ⟨rfl, -, hread⟩ := Turn.read_ofVisit (hvisit.symm.trans hturn)
    exact ⟨hread, e.resolved.size, rfl, fun _ => rfl, .inl rfl⟩

end entries

section places
variable {entries : List Entry} {files : List LogFile}

theorem getElem?_seq (hresolved : entries.map resolved = files)
    (hnumbered : ∀ (k : Nat) (f : LogFile), files[k]? = some f → f.seq = k) {e : Entry} (he : e ∈ entries) :
    entries[e.resolved.seq]? = some e := by
  obtain ⟨k, hk⟩ := List.getElem?_of_mem he
  have hfile : files[k]? = some e.resolved := by
    rw [← hresolved, List.getElem?_map, hk]
    rfl
  rw [hnumbered k _ hfile, hk]

theorem nodup_seqs (hnumbered : ∀ (k : Nat) (f : LogFile), files[k]? = some f → f.seq = k) :
    (files.map (·.seq)).Nodup := by
  refine List.pairwise_iff_getElem.2 fun i j hi hj hlt => ?_
  rw [List.getElem_map, List.getElem_map, hnumbered i _ (List.getElem?_eq_getElem _),
    hnumbered j _ (List.getElem?_eq_getElem _)]
  exact Nat.ne_of_lt hlt

/-- Where no two entries have the same place, at most one of their offers is a refusal with a given place. -/
theorem countP_refused_le (hplaces : (entries.map (·.resolved.seq)).Nodup)
    (hown : ∀ e ∈ entries, ∀ o ∈ e.turn.offers, o.IsOf e.resolved)
    (hrefused : ∀ e ∈ entries, e.turn.offers.countP (!·.accepted) ≤ 1) (place : Nat) :
    (entries.flatMap (·.turn.offers)).countP (fun o => o.delivery.seq == place && !o.accepted) ≤ 1 := by
  induction entries with
  | nil => simp
  | cons e entries ih =>
    rw [List.map_cons, List.nodup_cons] at hplaces
    have hrest := ih hplaces.2 (fun e' he' => hown e' (by simp [he'])) (fun e' he' => hrefused e' (by simp [he']))
    rw [List.flatMap_cons, List.countP_append]
    by_cases hplace : e.resolved.seq = place
    · -- the other entries have no offer with this place
      have hnone : (entries.flatMap (·.turn.offers)).countP
          (fun o => o.delivery.seq == place && !o.accepted) = 0 := by
        refine List.countP_eq_zero.2 fun o ho => ?_
        obtain ⟨e', he', ho⟩ := List.mem_flatMap.1 ho
        have hne : o.delivery.seq ≠ place := by
          rw [(hown e' (by simp [he']) o ho).1, ← hplace]
          intro heq
          exact hplaces.1 (heq ▸ List.mem_map_of_mem he')
        simp [hne]
      rw [hnone]
      exact Nat.le_trans (List.countP_mono_left fun o _ h => (Bool.and_eq_true_iff.1 h).2)
        (hrefused e (by simp))
    · have hnone : e.turn.offers.countP (fun o => o.delivery.seq == place && !o.accepted) = 0 := by
        refine List.countP_eq_zero.2 fun o ho => ?_
        rw [(hown e (by simp) o ho).1]
        simp [hplace]
      rw [hnone, Nat.zero_add]
      exact hrest

end places

end Entry

/-! ## The report of a cycle -/

/-- The report, the offers and the next state of a cycle agree with each other and with the entries of the files
that the cycle had. -/
structure CycleResult.Balances (config : WatchConfig) (sink : Sink) (state : WatchState) (entries : List Entry)
    (result : CycleResult) : Prop where
  sent_le_processed : result.report.sent ≤ result.report.processed
  sent_le : result.report.sent ≤ config.maxSent
  processed_le : result.report.processed ≤ config.maxProcessed
  sent : result.report.sent = result.offers.countP (·.accepted)
  offers_length : result.offers.length = result.report.sent + result.report.failures
  /-- Each offer bears the receiver's answer. -/
  answered : ∀ k o, result.offers[k]? = some o → o.accepted = sink k o.delivery
  /-- It is one of the file in its place, which has no two refusals. -/
  own : ∀ o ∈ result.offers, ∃ e, entries[o.delivery.seq]? = some e ∧ o ∈ e.turn.offers ∧ o.IsOf e.resolved
  refused : ∀ place, result.offers.countP (fun o => o.delivery.seq == place && !o.accepted) ≤ 1
  /-- The bytes are those by which the offsets moved, of files that go on and of files that do not. They are counted
  in words, and the counts are exact as long as they fit. -/
  forward : ∀ e ∈ entries, e.resolved.processed ≤ e.final.processed
  bytes : result.report.processedBytes =
    (entries.map fun e => e.final.processed - e.resolved.processed).sum % (Json.wordMax + 1)
  bytes_exact : (entries.map fun e => e.final.processed - e.resolved.processed).sum ≤ Json.wordMax →
    result.report.processedBytes = (entries.map fun e => e.final.processed - e.resolved.processed).sum
  files : result.state.files =
    Resolution.renumber 0 ((entries.filter (·.goesOn config.maxRetries)).map Entry.final)
  total : result.state.processedBytes =
    (state.processedBytes + result.report.processedBytes) % (Json.wordMax + 1)
  total_exact : state.processedBytes + result.report.processedBytes ≤ Json.wordMax →
    result.state.processedBytes = state.processedBytes + result.report.processedBytes
  /-- What was sent last is the last accepted offer. -/
  lastSizeSent : result.state.lastSizeSent =
    ((result.offers.filter (·.accepted)).getLast?.map (·.delivery.stop)).getD state.lastSizeSent
  lastMtimeSent : result.state.lastMtimeSent =
    ((result.offers.filter (·.accepted)).getLast?.map (·.delivery.mtime)).getD state.lastMtimeSent

/-- A result that holds what a cycle came to. -/
structure Cycle.Reported (c : Cycle) (state : WatchState) (result : CycleResult) : Prop where
  sent : result.report.sent = c.tracker.budget.sent
  processed : result.report.processed = c.tracker.budget.processed
  bytes : result.report.processedBytes = c.tracker.processedBytes
  failures : result.report.failures = c.tracker.failures
  stalled : result.report.stalled = c.stalled
  offers : result.offers = c.tracker.offers.reverse
  state : result.state = c.nextState state

section report
variable {config : WatchConfig} {sink : Sink} {c c' : Cycle} {entries : List Entry} {files : List LogFile}
  {state : WatchState} {result : CycleResult}

theorem Cycle.Reported.lastSent (h : c.Reported state result) (hc : c.tracker.Balanced config) :
    c.tracker.lastSent =
      (result.offers.filter (·.accepted)).getLast?.map fun o => (o.delivery.stop, o.delivery.mtime) := by
  rw [hc.lastSent, h.offers, List.filter_reverse, List.getLast?_reverse, List.head?_filter]

theorem Cycle.Reported.balances (h : c'.Reported state result) (hledger : Entry.Ledger config sink c entries c')
    (hbalanced : c.tracker.Balanced config) (hbytes : c.tracker.processedBytes = 0)
    (hoffers : c.tracker.offers = []) (hkept : c.kept = []) (hresolved : entries.map (·.resolved) = files)
    (hnumbered : ∀ (k : Nat) (f : LogFile), files[k]? = some f → f.seq = k) :
    result.Balances config sink state entries := by
  have hclosed := hledger.balanced hbalanced
  have hmade : result.offers = entries.flatMap (·.turn.offers) := by
    rw [h.offers, hledger.offered, hoffers, List.append_nil, List.reverse_reverse]
  have hplaces : (entries.map (·.resolved.seq)).Nodup := by
    have hseqs := Entry.nodup_seqs hnumbered
    rwa [← hresolved, List.map_map] at hseqs
  have hsent : result.report.sent = result.offers.countP (·.accepted) := by
    rw [h.sent, hclosed.sent, h.offers, List.countP_reverse]
  have hfailed : result.report.failures = result.offers.countP (!·.accepted) := by
    rw [h.failures, hclosed.failures, h.offers, List.countP_reverse]
  have hlast := h.lastSent hclosed
  have hcount : result.report.processedBytes = (entries.map Entry.moved).sum % (Json.wordMax + 1) := by
    have hsum := hledger.bytes
    rw [hbytes, Nat.zero_add] at hsum
    rw [h.bytes, ← hsum, Nat.mod_eq_of_lt (Nat.lt_succ_of_le hclosed.bytes_le)]
  have htotal : result.state.processedBytes = addWord state.processedBytes result.report.processedBytes := by
    rw [h.bytes, h.state]
    rfl
  constructor
  · exact h.sent ▸ h.processed ▸ hclosed.sent_le_processed
  · exact h.sent ▸ hclosed.sent_le
  · exact h.processed ▸ hclosed.processed_le
  · exact hsent
  · rw [List.length_eq_countP_add_countP (·.accepted), hsent, hfailed]
    simp
  · have hanswered := hledger.answered
    rw [hoffers, ← hmade] at hanswered
    simpa [Answered] using hanswered
  · intro o ho
    obtain ⟨e, he, ho⟩ := List.mem_flatMap.1 (hmade ▸ ho)
    have hown := hledger.own e he o ho
    exact ⟨e, hown.1 ▸ Entry.getElem?_seq hresolved hnumbered he, ho, hown⟩
  · exact hmade ▸ Entry.countP_refused_le hplaces hledger.own hledger.refused
  · exact hledger.processed_le
  · exact hcount
  · exact fun hle => hcount.trans (Nat.mod_eq_of_lt (Nat.lt_succ_of_le hle))
  · rw [h.state, Cycle.nextState, hledger.kept, hkept, List.nil_append]
  · exact htotal
  · exact fun hle => htotal.trans (addWord_of_le hle)
  · rw [h.state, Cycle.nextState, hlast]
    simp only [Option.map_map, Function.comp_def]
  · rw [h.state, Cycle.nextState, hlast]
    simp only [Option.map_map, Function.comp_def]

end report

namespace Watcher

/-- The files of a cycle with their turns; none if the scan fails. -/
def entries (watch : Watcher) (sink : Sink) (time : CycleTime) (state : WatchState) (w : World) : List Entry :=
  match watch.matcher.scan w with
  | (.error _, _) => []
  | (.ok scan, w) =>
    Entry.ofRun watch sink state.useIdentity (watch.resolution state scan.candidates)
      { tracker := watch.opening time, world := w }

theorem reported_of_process {watch : Watcher} {sink : Sink} {time : CycleTime} {state : WatchState} {w : World}
    {result : CycleResult} (hprocess : watch.process sink time state w = .ok result) :
    ∃ scan w', watch.matcher.scan w = (.ok scan, w') ∧
      (Cycle.run watch sink state.useIdentity (watch.resolution state scan.candidates)
        { tracker := watch.opening time, world := w' }).Reported state result := by
  rw [process] at hprocess
  rcases hscan : watch.matcher.scan w with ⟨e | scan, w'⟩
  · rw [hscan] at hprocess
    cases hprocess
  · rw [hscan] at hprocess
    cases hprocess
    exact ⟨scan, w', rfl, rfl, rfl, rfl, rfl, rfl, rfl, rfl⟩

theorem resolved_of_scan {watch : Watcher} {sink : Sink} {time : CycleTime} {state : WatchState} {w w' : World}
    {scan : Scan} (hscan : watch.matcher.scan w = (.ok scan, w')) :
    (watch.entries sink time state w).map (·.resolved) =
      (watch.resolution state scan.candidates).rotatedAway ++ (watch.resolution state scan.candidates).files := by
  rw [entries, hscan]
  exact Entry.resolved_ofRun

theorem files_of_process {watch : Watcher} {sink : Sink} {time : CycleTime} {state : WatchState} {w : World}
    {result : CycleResult} (hprocess : watch.process sink time state w = .ok result) :
    result.state.files = Resolution.renumber 0
      (((watch.entries sink time state w).filter (·.goesOn watch.config.maxRetries)).map Entry.final) := by
  obtain ⟨scan, w', hscan, hreported⟩ := reported_of_process hprocess
  rw [hreported.state, entries, hscan]
  exact congrArg (Resolution.renumber 0) ((Entry.ledger_ofRun ..).kept.trans (List.nil_append _))

/-- **The report of a cycle balances**, for any tracked files, whatever others do to the disk in the middle of the
cycle and whatever the receiver answers. Its entries are those of the files that rotated away and then of those
of the scan. -/
theorem process_balances {watch : Watcher} {sink : Sink} {time : CycleTime} {state : WatchState} {w : World}
    {result : CycleResult} (hprocess : watch.process sink time state w = .ok result) :
    ∃ scan w', watch.matcher.scan w = (.ok scan, w') ∧
      (watch.entries sink time state w).map (·.resolved) =
        (watch.resolution state scan.candidates).rotatedAway ++ (watch.resolution state scan.candidates).files ∧
      (watch.entries sink time state w).map (·.turn) = watch.turns sink time state w ∧
      result.Balances watch.config sink state (watch.entries sink time state w) := by
  obtain ⟨scan, w', hscan, hreported⟩ := reported_of_process hprocess
  rw [entries, turns, hscan]
  exact ⟨scan, w', rfl, Entry.resolved_ofRun, Entry.turn_ofRun,
    hreported.balances (Entry.ledger_ofRun ..) (watch.balanced_opening time) rfl rfl rfl Entry.resolved_ofRun
      Resolution.seq_eq⟩

/-- A file that rotated away is refused too often at its second record, and the budget ends in the file of the
scan. -/
theorem process_balances_spent :
    let watch := logWatch "a" 2 0 rfl
    let sink : Sink := fun _ delivery => delivery.value ≠ "q"
    let w : World := .quiet (logDisk [([0x62], [0x70, 0x0a, 0x71, 0x0a]), ([0x61], [0x72, 0x0a, 0x73, 0x0a])])
    let state : WatchState := { useIdentity := true, processedBytes := 5, files :=
      [⟨.ofText "/log/b", 0, .ofNumber 2, 0, 0, .of [], 0, 0, false, [], false, none⟩] }
    ∃ result, watch.process sink {} state w = .ok result ∧
      result.report.sent = 2 ∧ result.report.processed = 2 ∧ result.report.failures = 1 ∧
      result.report.processedBytes = 4 ∧ result.state.processedBytes = 9 ∧
      result.state.lastSizeSent = 2 ∧ result.state.lastMtimeSent = 1 ∧
      result.Balances watch.config sink state (watch.entries sink {} state w) := by
  intro watch sink w state
  obtain ⟨result, hprocess, hreport⟩ := ok_of_any (x := watch.process sink {} state w)
    (p := fun result => decide (result.report.sent = 2 ∧ result.report.processed = 2 ∧
      result.report.failures = 1 ∧ result.report.processedBytes = 4 ∧ result.state.processedBytes = 9 ∧
      result.state.lastSizeSent = 2 ∧ result.state.lastMtimeSent = 1)) (by decide +kernel)
  obtain ⟨hsent, hprocessed, hfailures, hbytes, htotal, hsize, hmtime⟩ := of_decide_eq_true hreport
  obtain ⟨_, _, _, _, _, hbalances⟩ := process_balances hprocess
  exact ⟨result, hprocess, hsent, hprocessed, hfailures, hbytes, htotal, hsize, hmtime, hbalances⟩

end Watcher

end LogTail
