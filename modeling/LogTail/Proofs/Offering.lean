import LogTail.Proofs.ReaderSteps

/-!
# The offers of one reading

What the reading of one file offers, and how far it gets, whatever others do to the disk in the middle of it,
and whatever limits and encoding the file was read with before: of its tail only the length counts here.

* `Watcher.Handled` collects the answers of the reader (`Reader.Follows`) over the events, with the accounts.
* `Watcher.readFile_attempt` says what the reading of a file comes to: its offers ascend, and it goes on to the
  end of the file unless the budget is spent, a record is refused, or a call fails.
-/

namespace LogTail

/-! ## The offers of a file -/

def LogFile.work (f : LogFile) : Nat :=
  2 * (max f.processed f.size - f.tailStart) + if f.skipping then 0 else 1

theorem LogFile.SameAs.seq {f f' : LogFile} (h : f.SameAs f') : f'.seq = f.seq := by
  rw [SameAs] at h
  rw [h]

/-- Offers whose ends go up, between two offsets. -/
structure Ascends (start : Nat) (offers : List Offer) (stop : Nat) : Prop where
  le : start ≤ stop
  ordered : offers.Pairwise fun o o' => o.delivery.stop < o'.delivery.stop
  between : ∀ o ∈ offers, start < o.delivery.stop ∧ o.delivery.stop ≤ stop

theorem Ascends.nil {start stop : Nat} (h : start ≤ stop) : Ascends start [] stop :=
  ⟨h, .nil, fun _ ho => absurd ho List.not_mem_nil⟩

theorem Ascends.single {start stop : Nat} {o : Offer} (h : start < stop) (ho : o.delivery.stop = stop) :
    Ascends start [o] stop := by
  refine ⟨Nat.le_of_lt h, List.pairwise_singleton .., fun o' ho' => ?_⟩
  rw [List.mem_singleton.1 ho', ho]
  exact ⟨h, Nat.le_refl _⟩

theorem Ascends.append {a b c : Nat} {offers offers' : List Offer} (h : Ascends a offers b)
    (h' : Ascends b offers' c) : Ascends a (offers ++ offers') c where
  le := Nat.le_trans h.le h'.le
  ordered := by
    refine List.pairwise_append.2 ⟨h.ordered, h'.ordered, fun o ho o' ho' => ?_⟩
    exact Nat.lt_of_le_of_lt (h.between o ho).2 (h'.between o' ho').1
  between o ho := by
    rcases List.mem_append.1 ho with ho | ho
    · exact ⟨(h.between o ho).1, Nat.le_trans (h.between o ho).2 h'.le⟩
    · exact ⟨Nat.lt_of_le_of_lt h.le (h'.between o ho).1, (h'.between o ho).2⟩

namespace Watcher

/-- The file of a reading and its reader go together: nothing of the file was read beyond the reader's bound,
and all in front of the reader's start was. -/
structure Together (bound : Nat) (s : Reading) (r : Reader) : Prop where
  placed : r.Placed bound
  skipping : s.file.skipping = r.skipping
  inside : s.file.tail.length ≤ s.file.processed
  processed_le : s.file.processed ≤ bound
  size_le : s.file.size ≤ bound
  start_le : r.start ≤ s.file.tailStart

/-- Events were taken, and all that was offered of them was accepted: the accounts count them, the offers
ascend, and what is left to do went down by as much as was counted. -/
structure Handled (bound : Nat) (s : Reading) (r : Reader) (offers : List Offer) (counted : Nat)
    (s' : Reading) (r' : Reader) : Prop where
  together : Together bound s' r'
  later : s.world.Later s'.world
  same : s.file.SameAs s'.file
  options : r'.options = r.options
  number : r'.number = r.number
  limit : r'.limit = r.limit ∨ s.world.EndsBy s'.world r.number r'.limit
  offered : s'.tracker.offers = offers.reverse ++ s.tracker.offers
  own : ∀ o ∈ offers, o.delivery.seq = s.file.seq ∧ o.delivery.path = s.file.path
  accepted : ∀ o ∈ offers, o.accepted = true
  start_le : r.start ≤ r'.start
  ascends : r.options.encoding.unit ≤ r.options.maxRecordSize → Ascends r.start offers r'.start
  budget : s'.tracker.budget = { s.tracker.budget with
    tests := s'.tracker.budget.tests
    sent := s.tracker.budget.sent + offers.length
    processed := s.tracker.budget.processed + counted }
  length_le : offers.length ≤ counted
  work_le : r'.work bound + counted ≤ r.work bound

section handled
variable {watch : Watcher} {sink : Sink} {bound : Nat} {s s' s'' : Reading} {r r' r'' : Reader}
  {offers offers' : List Offer} {counted counted' : Nat} {w : World}

theorem Together.work_le (h : Together bound s r) : s.file.work ≤ r.work bound := by
  have hprocessed := h.processed_le
  have hsize := h.size_le
  have hstart := h.start_le
  unfold LogFile.work Reader.work
  rw [h.skipping]
  omega

theorem Handled.wait (h : Together bound s r) (hlater : s.world.Later w) :
    Handled bound s r [] 0 { s with world := w } r :=
  ⟨⟨h.placed, h.skipping, h.inside, h.processed_le, h.size_le, h.start_le⟩, hlater, rfl, rfl, rfl, .inl rfl,
    rfl, by simp, by simp, Nat.le_refl _, fun _ => .nil (Nat.le_refl _), rfl, Nat.le_refl _, Nat.le_refl _⟩

theorem Handled.tested (h : Together bound s r) : Handled bound s r [] 0 s.tested r :=
  ⟨⟨h.placed, h.skipping, h.inside, h.processed_le, h.size_le, h.start_le⟩, .refl, rfl, rfl, rfl, .inl rfl,
    rfl, by simp, by simp, Nat.le_refl _, fun _ => .nil (Nat.le_refl _), rfl, Nat.le_refl _, Nat.le_refl _⟩

theorem Handled.trans (h : Handled bound s r offers counted s' r')
    (h' : Handled bound s' r' offers' counted' s'' r'') :
    Handled bound s r (offers ++ offers') (counted + counted') s'' r'' where
  together := h'.together
  later := h.later.trans h'.later
  same := h.same.trans h'.same
  options := h'.options.trans h.options
  number := h'.number.trans h.number
  limit := by
    rcases h'.limit with hsame | hends
    · rw [hsame]
      exact h.limit.imp_right fun hends => hends.extend .refl h'.later
    · exact .inr (h.number ▸ hends.extend h.later .refl)
  offered := by rw [h'.offered, h.offered, List.reverse_append, List.append_assoc]
  own o ho := by
    rcases List.mem_append.1 ho with ho | ho
    · exact h.own o ho
    · exact ⟨(h'.own o ho).1.trans h.same.seq, (h'.own o ho).2.trans h.same.path⟩
  accepted o ho := (List.mem_append.1 ho).elim (h.accepted o) (h'.accepted o)
  start_le := Nat.le_trans h.start_le h'.start_le
  ascends hunit := (h.ascends hunit).append (h'.ascends (h.options ▸ hunit))
  budget := by
    rw [h'.budget, h.budget]
    simp [Nat.add_assoc]
  length_le := by
    rw [List.length_append]
    exact Nat.add_le_add h.length_le h'.length_le
  work_le := by
    have := h.work_le
    have := h'.work_le
    omega

/-! ### One event -/

/-- What is consumed is counted, and offered and accepted if the filter leaves something of it; or what it
leaves is refused. -/
theorem consume_offers (watch : Watcher) (sink : Sink) (s : Reading) (bytes : Bytes) (stop : Nat) :
    (∃ offers s', watch.consume sink s bytes stop = (.consumed, s') ∧ s.world.Later s'.world ∧
      s'.file = { s.file.passed stop s.file.skipping with
        retry := if offers = [] then s.file.retry else 0 } ∧
      (offers = [] ∨ ∃ value, offers = [⟨s.tracker.delivery s.file value stop, true⟩]) ∧
      offers.length ≤ 1 ∧ s'.tracker.offers = offers.reverse ++ s.tracker.offers ∧
      s'.tracker.budget = { s.tracker.budget with
        sent := s.tracker.budget.sent + offers.length
        processed := s.tracker.budget.processed + 1 }) ∨
    ∃ value w, watch.consume sink s bytes stop = (.rejected, refuse s value stop w) ∧ s.world.Later w ∧
      watch.filter.apply (watch.config.encoding.decode bytes) = some value := by
  unfold consume
  rcases watch.filter.apply (watch.config.encoding.decode bytes) with _ | value
  · exact .inl ⟨[], _, rfl, .refl, rfl, .inl rfl, Nat.zero_le 1, rfl, rfl⟩
  · rcases hsink : sink s.tracker.offers.length (s.tracker.delivery s.file value stop) with _ | _
    · exact .inr ⟨value, s.world.atOffer s.tracker.offers.length, by simp [Tracker.deliver, hsink, refuse],
        .single (.answered _), rfl⟩
    · left
      simp only [Tracker.deliver, hsink, if_true]
      exact ⟨[⟨s.tracker.delivery s.file value stop, true⟩], _, rfl, .single (.answered _), rfl,
        .inr ⟨value, rfl⟩, Nat.le_refl 1, rfl, rfl⟩

theorem handled_of_event {event : ReadEvent} (h : Together bound s r)
    (hfollows : r.Follows bound s.world (.ok (some event)) r' w) (hlater : w.Later s'.world) {retry : Nat}
    (hfile : s'.file = { s.file.passed event.stop event.skips with retry := retry })
    (hoffers : offers = [] ∨ ∃ value, offers = [⟨s.tracker.delivery s.file value event.stop, true⟩])
    (hoffered : s'.tracker.offers = offers.reverse ++ s.tracker.offers)
    (hbudget : s'.tracker.budget = { s.tracker.budget with
      sent := s.tracker.budget.sent + offers.length
      processed := s.tracker.budget.processed + counted })
    (hlength : offers.length ≤ counted) (hcounted : counted ≤ 1) :
    Handled bound s r offers counted s' r' := by
  obtain ⟨hlater₁, hplaced, hoptions, hnumber, hlimit, hreplies⟩ := hfollows
  cases hreplies with
  | event hstart hskip hstop hle hlt _ hwork =>
  refine ⟨⟨hplaced, by rw [hfile, hskip]; rfl, by rw [hfile]; exact Nat.zero_le _, ?_, ?_, ?_⟩,
    hlater₁.trans hlater, by rw [LogFile.SameAs, hfile]; rfl, hoptions, hnumber,
    hlimit.imp_right fun hends => hends.extend .refl hlater, hoffered, ?_, ?_, hstart ▸ hle, ?_,
    by rw [hbudget], hlength, by omega⟩
  · rw [hfile]
    exact Nat.max_le.2 ⟨h.processed_le, hstop⟩
  · rw [hfile]
    exact h.size_le
  · rw [hfile, hstart]
    exact Nat.le_max_right ..
  · intro o ho
    rcases hoffers with rfl | ⟨value, rfl⟩
    · cases ho
    · rw [List.mem_singleton.1 ho]
      exact ⟨rfl, rfl⟩
  · intro o ho
    rcases hoffers with rfl | ⟨value, rfl⟩
    · cases ho
    · rw [List.mem_singleton.1 ho]
  · intro hunit
    rw [hstart]
    rcases hoffers with rfl | ⟨value, rfl⟩
    · exact .nil hle
    · exact .single (hlt hunit) rfl

theorem handled_keepTail (h : Together bound s r) (hfollows : r.Follows bound s.world (.ok none) r' w) :
    Handled bound s r [] 0 (keepTail { s with world := w } r') r' ∧
      r'.limit ≤ (keepTail { s with world := w } r').file.processed := by
  obtain ⟨hlater, hplaced, hoptions, hnumber, hlimit, hreplies⟩ := hfollows
  cases hreplies with
  | ended hstart hskip hend =>
  have hreaches := hplaced.reaches
  have hfile : (keepTail { s with world := w } r').file =
    s.file.kept r'.position r'.window r'.skipping := rfl
  have hposition : r'.position ≤ (keepTail { s with world := w } r').file.processed := Nat.le_max_right ..
  refine ⟨⟨⟨hplaced, by rw [hfile]; rfl, ?_, ?_, h.size_le, ?_⟩, hlater, rfl, hoptions, hnumber, hlimit, rfl,
    by simp, by simp, Nat.le_of_eq hstart.symm, fun _ => .nil (Nat.le_of_eq hstart.symm), rfl, Nat.le_refl _,
    ?_⟩, Nat.le_trans hend hposition⟩
  · show r'.window.length ≤ max s.file.processed r'.position
    omega
  · exact Nat.max_le.2 ⟨h.processed_le, hplaced.position_le⟩
  · show r'.start ≤ max s.file.processed r'.position - r'.window.length
    omega
  · rw [Reader.work, Reader.work, hstart, hskip]
    exact Nat.le_refl _

/-! ### All events -/

/-- How the taking of events ends: the reader is at its limit, the budget is spent, a record is refused, or a
call fails. -/
inductive Handles (bound : Nat) (finished : Bool) (s : Reading) (r : Reader) : FileOutcome × Reading → Prop
  | done {offers : List Offer} {counted : Nat} {s' : Reading} {r' : Reader}
    (handled : Handled bound s r offers counted s' r') (limit : r'.limit ≤ s'.file.processed)
    (last : finished = true → s'.file.hasFinalTail = false) : Handles bound finished s r (.done, s')
  | budget {offers : List Offer} {counted : Nat} {s' : Reading} {r' : Reader}
    (handled : Handled bound s r offers counted s' r') (spent : s'.tracker.budget.exhausted = true) :
    Handles bound finished s r (.budget, s')
  | rejected {offers : List Offer} {counted : Nat} {s' : Reading} {r' : Reader} {value : String} {stop : Nat}
    {w : World} (handled : Handled bound s r offers counted s' r') (later : s'.world.Later w)
    (start_lt : r'.options.encoding.unit ≤ r'.options.maxRecordSize → r'.start < stop) :
    Handles bound finished s r (.rejected, refuse s' value stop w)
  | failed {offers : List Offer} {counted : Nat} {s' : Reading} {r' : Reader}
    (handled : Handled bound s r offers counted s' r') (cause : Cause) :
    Handles bound finished s r (.failed cause, s')

theorem Handles.prepend {finished : Bool} {result : FileOutcome × Reading}
    (h : Handled bound s r offers counted s' r') (h' : Handles bound finished s' r' result) :
    Handles bound finished s r result := by
  cases h' with
  | done hhandled hlimit hlast => exact .done (h.trans hhandled) hlimit hlast
  | budget hhandled hspent => exact .budget (h.trans hhandled) hspent
  | rejected hhandled hlater hlt => exact .rejected (h.trans hhandled) hlater hlt
  | failed hhandled cause => exact .failed (h.trans hhandled) cause

theorem follows_remainder (hr : r.Placed bound) (hreads : r.skipping = false) (hne : r.window ≠ [])
    (bytes : Bytes) (w : World) :
    r.Follows bound w (.ok (some (.record r.start (r.start + r.window.length) bytes false)))
      (r.behind r.window.length false) w := by
  have hpos := List.length_pos_iff.2 hne
  have hreaches := hr.reaches
  have hposition := hr.position_le
  refine ⟨.refl, ⟨hr.chunk_pos, ?_, hposition, hr.limit_le⟩, rfl, rfl, .inl rfl,
    .event rfl rfl (show r.start + r.window.length ≤ bound by omega) (Nat.le_add_right ..)
      (fun _ => Nat.lt_add_of_pos_right hpos) (fun _ => hreads) ?_⟩
  · simp only [Reader.behind, List.length_drop]
    omega
  · show 2 * (bound - (r.start + r.window.length)) + 1 < 2 * (bound - r.start) + if r.skipping then 0 else 1
    split <;> omega

theorem flush_handles (watch : Watcher) (sink : Sink) (h : Together bound s r) (htail : s.file.tail = r.window)
    (hlimit : r.limit ≤ s.file.processed) : Handles bound true s r (watch.flush sink s r) := by
  have hwait : Handled bound s r [] 0 s r := .wait h .refl
  unfold flush Reader.takeRemainder
  by_cases hnothing : (r.window.isEmpty || r.skipping) = true
  · rw [if_pos hnothing]
    refine .done hwait hlimit fun _ => ?_
    rw [LogFile.hasFinalTail, htail, h.skipping, ← Bool.not_or, hnothing]
    rfl
  rw [if_neg hnothing]
  rw [Bool.or_eq_true, List.isEmpty_iff, not_or, Bool.not_eq_true] at hnothing
  obtain ⟨hne, hreads⟩ := hnothing
  simp only [Reader.emit]
  by_cases hspent : s.tracker.budget.exhausted = true
  · rw [if_pos hspent]
    exact .budget hwait hspent
  rw [if_neg hspent]
  have htested := Handled.tested h
  refine .prepend htested ?_
  rcases watch.consume_offers sink s.tested (r.content r.window.length) (r.start + r.window.length) with
    ⟨offers, s', hconsume, hlater, hfile, hoffers, hlength, hoffered, hbudget⟩ | ⟨value, w, hconsume, hlater, _⟩
  · rw [hconsume]
    rw [htested.together.skipping, hreads] at hfile
    have hfollows := follows_remainder h.placed hreads hne (r.content r.window.length) s.world
    refine .done (handled_of_event htested.together hfollows hlater hfile hoffers hoffered hbudget hlength (Nat.le_refl 1)) ?_
      fun _ => ?_
    · rw [hfile]
      exact Nat.le_trans hlimit (Nat.le_max_left ..)
    · rw [hfile]
      rfl
  · rw [hconsume]
    exact .rejected (.wait htested.together .refl) hlater fun _ => Nat.lt_add_of_pos_right (List.length_pos_iff.2 hne)

/-- **The events of a reader are taken** until it is at its limit, the budget is spent, a record is refused,
or a call fails. -/
theorem readEvents_handles (watch : Watcher) (sink : Sink) (finished : Bool) (fuel : Nat)
    (h : Together bound s r) (hfuel : r.work bound < fuel) :
    Handles bound finished s r (watch.readEvents sink finished fuel s r) := by
  induction fuel generalizing s r with
  | zero => omega
  | succ fuel ih =>
    rw [readEvents]
    by_cases hspent : s.tracker.budget.exhausted = true
    · rw [if_pos hspent]
      exact .budget (.wait h .refl) hspent
    rw [if_neg hspent]
    have htested := Handled.tested h
    refine .prepend htested ?_
    replace h := htested.together
    rcases hnext : r.next s.world with ⟨answer, r', w⟩
    have hfollows := Reader.next_follows h.placed hnext
    rcases answer with c | _ | event
    · exact .failed (.wait h hfollows.later) c
    · obtain ⟨hkept, hlimit⟩ := handled_keepTail h hfollows
      cases finished with
      | false => exact .done hkept hlimit fun hfinished => by cases hfinished
      | true => exact .prepend hkept (watch.flush_handles sink hkept.together rfl hlimit)
    · have hless : r'.work bound < fuel := by
        cases hfollows.replies with
        | event _ _ _ _ _ _ hwork => omega
      rcases event with ⟨start, stop, bytes, truncated⟩ | ⟨stop, ended⟩
      · obtain ⟨hmoves, hreads⟩ : (r.options.encoding.unit ≤ r.options.maxRecordSize → r.start < stop) ∧
            s.tested.file.skipping = false := by
          cases hfollows.replies with
          | event _ _ _ _ hlt hreads _ => exact ⟨hlt, h.skipping.trans (hreads rfl)⟩
        rcases watch.consume_offers sink { s.tested with world := w } bytes stop with
          ⟨offers, s₁, hconsume, hlater, hfile, hoffers, hlength, hoffered, hbudget⟩ |
          ⟨value, w₁, hconsume, hlater, _⟩
        · simp only [hconsume]
          rw [mark_truncated (s := { s.tested with world := w }) truncated hreads hfile]
          have htaken : Handled bound s.tested r offers 1 { s₁ with file := { s.file.passed stop truncated with
              retry := if offers = [] then s.file.retry else 0 } } r' :=
            handled_of_event h hfollows hlater rfl hoffers hoffered hbudget hlength (Nat.le_refl 1)
          exact .prepend htaken (ih htaken.together hless)
        · simp only [hconsume]
          exact .rejected (.wait h hfollows.later) hlater hmoves
      · have hfile : (skipTo { s.tested with world := w } stop ended).file =
            { s.file.passed stop (!ended) with retry := s.file.retry } := rfl
        have hskipped : Handled bound s.tested r [] 0 (skipTo { s.tested with world := w } stop ended) r' :=
          handled_of_event h hfollows .refl hfile (.inl rfl) rfl rfl (Nat.le_refl 0) (Nat.zero_le 1)
        exact .prepend hskipped (ih hskipped.together hless)

end handled

end Watcher

/-! ## The reading of a file -/

/-- A reading got through its file: to the size that the file had, or to where the file that was opened at its
path ended at some moment. -/
def Reading.Through (s s' : Reading) : Prop :=
  s.file.size ≤ s'.file.processed ∨
    ∃ number w, s.world.Later w ∧ w.disk.numberOf s.file.path = .ok number ∧
      w.EndsBy s'.world number s'.file.processed

namespace Watcher

/-- What the outcome of a reading says of its offers and of the file. -/
def Ends (finished : Bool) (s : Reading) (offers : List Offer) (s' : Reading) : FileOutcome → Prop
  | .idle => s' = s ∧ offers = [] ∧ s.file.unread = 0 ∧ (finished = true → s.file.hasFinalTail = false)
  | .done => (∀ o ∈ offers, o.accepted = true) ∧ s.Through s' ∧
      (finished = true → s'.file.hasFinalTail = false)
  | .budget => (∀ o ∈ offers, o.accepted = true) ∧ s'.tracker.budget.exhausted = true
  | .rejected => ∃ front o, offers = front ++ [o] ∧ (∀ o ∈ front, o.accepted = true) ∧ o.accepted = false
  | .failed _ => ∀ o ∈ offers, o.accepted = true

/-- What the reading of a file comes to, whatever the world does. -/
structure Attempt (watch : Watcher) (finished : Bool) (s : Reading) (offers : List Offer)
    (outcome : FileOutcome) (s' : Reading) : Prop where
  later : s.world.Later s'.world
  same : s.file.SameAs s'.file
  inside : s'.file.tail.length ≤ s'.file.processed
  processed_le : s'.file.processed ≤ max s.file.processed s.file.size
  offered : s'.tracker.offers = offers.reverse ++ s.tracker.offers
  own : ∀ o ∈ offers, o.delivery.seq = s.file.seq ∧ o.delivery.path = s.file.path
  ascends : watch.config.encoding.unit ≤ watch.config.maxRecordSize →
    offers.Pairwise fun o o' => o.delivery.stop < o'.delivery.stop
  counts : ∃ sent counted, sent ≤ counted ∧ s'.file.work + counted ≤ s.file.work ∧
    s'.tracker.budget = { s.tracker.budget with
      tests := s'.tracker.budget.tests
      sent := s.tracker.budget.sent + sent
      processed := s.tracker.budget.processed + counted }
  ends : Ends finished s offers s' outcome

section attempt
variable {watch : Watcher} {finished : Bool} {s s' : Reading}

theorem Attempt.wait (hinside : s.file.tail.length ≤ s.file.processed) {outcome : FileOutcome}
    (hends : Ends finished s [] s outcome) : watch.Attempt finished s [] outcome s :=
  ⟨.refl, rfl, hinside, Nat.le_max_left .., rfl, by simp, fun _ => .nil,
    ⟨0, 0, Nat.le_refl 0, Nat.le_refl _, rfl⟩, hends⟩

theorem Attempt.unopened (hinside : s.file.tail.length ≤ s.file.processed) {w : World} (hlater : s.world.Later w)
    (cause : Cause) : watch.Attempt finished s [] (.failed cause) { s.tested with world := w } :=
  ⟨hlater, rfl, hinside, Nat.le_max_left .., rfl, by simp, fun _ => .nil,
    ⟨0, 0, Nat.le_refl 0, Nat.le_refl _, rfl⟩, by simp [Ends]⟩

theorem attempt_of_handled {r r' : Reader} {offers : List Offer} {counted : Nat} {w : World}
    {outcome : FileOutcome} (hlater : s.world.Later w)
    (hr : r.work (max s.file.processed s.file.size) = s.file.work)
    (ho : r.options.splitter = watch.splitter)
    (h : Handled (max s.file.processed s.file.size) { s.tested with world := w } r offers counted s' r')
    (hends : Ends finished s offers s' outcome) : watch.Attempt finished s offers outcome s' where
  later := hlater.trans h.later
  same := h.same
  inside := h.together.inside
  processed_le := h.together.processed_le
  offered := h.offered
  own := h.own
  ascends hunit := by
    refine (h.ascends ?_).ordered
    rw [show r.options.encoding = watch.config.encoding from congrArg Splitter.encoding ho,
      show r.options.maxRecordSize = watch.config.maxRecordSize from congrArg Splitter.longest ho]
    exact hunit
  counts := by
    have hwork := h.together.work_le
    have hcounted := h.work_le
    exact ⟨offers.length, counted, h.length_le, by omega, h.budget⟩
  ends := hends

theorem attempt_of_refused {r r' : Reader} {offers : List Offer} {counted stop : Nat} {value : String}
    {w w' : World} (hlater : s.world.Later w)
    (hr : r.work (max s.file.processed s.file.size) = s.file.work)
    (ho : r.options.splitter = watch.splitter)
    (h : Handled (max s.file.processed s.file.size) { s.tested with world := w } r offers counted s' r')
    (hanswered : s'.world.Later w')
    (hstop : r'.options.encoding.unit ≤ r'.options.maxRecordSize → r'.start < stop) :
    watch.Attempt finished s (offers ++ [⟨s'.tracker.delivery s'.file value stop, false⟩]) .rejected
      (refuse s' value stop w') where
  later := (hlater.trans h.later).trans hanswered
  same := h.same.trans (show s'.file.SameAs (refuse s' value stop w').file from rfl)
  inside := h.together.inside
  processed_le := h.together.processed_le
  offered := by
    rw [refuse, h.offered, List.reverse_append]
    rfl
  own o ho := by
    rcases List.mem_append.1 ho with ho | ho
    · exact h.own o ho
    · rw [List.mem_singleton.1 ho]
      exact ⟨h.same.seq, h.same.path⟩
  ascends hunit := by
    have hunit' : r.options.encoding.unit ≤ r.options.maxRecordSize := by
      rw [show r.options.encoding = watch.config.encoding from congrArg Splitter.encoding ho,
        show r.options.maxRecordSize = watch.config.maxRecordSize from congrArg Splitter.longest ho]
      exact hunit
    exact ((h.ascends hunit').append (.single (hstop (h.options ▸ hunit')) rfl)).ordered
  counts := by
    have hwork := h.together.work_le
    have hcounted := h.work_le
    refine ⟨offers.length, counted, h.length_le, ?_, h.budget⟩
    show s'.file.work + counted ≤ s.file.work
    omega
  ends := ⟨offers, _, rfl, h.accepted, rfl⟩

theorem together_ofFile (options : ReaderOptions) (hchunk : 0 < options.chunkSize)
    (hinside : s.file.tail.length ≤ s.file.processed) (number : Nat) (w : World) :
    Together (max s.file.processed s.file.size) { s with world := w }
      (Reader.ofFile options s.file number) :=
  ⟨⟨hchunk, (Nat.sub_add_cancel hinside).symm, Nat.le_max_left .., Nat.le_max_right ..⟩, rfl, hinside,
    Nat.le_max_left .., Nat.le_max_right .., Nat.le_refl _⟩

theorem work_lt_eventBound (options : ReaderOptions) (f : LogFile) (number : Nat) :
    (Reader.ofFile options f number).work (max f.processed f.size) <
      (Reader.ofFile options f number).eventBound + 1 := by
  show 2 * (max f.processed f.size - f.tailStart) + (if f.skipping then 0 else 1) <
    2 * (max f.size f.processed - f.tailStart) + 2 + 1
  split <;> omega

theorem readEvents_attempt (watch : Watcher) (sink : Sink) (useIdentity finished : Bool)
    (hchunk : 0 < watch.config.chunkSize) (hinside : s.file.tail.length ≤ s.file.processed) {w : World}
    (hlater : s.world.Later w) {number : Nat} (hnumber : w.disk.numberOf s.file.path = .ok number)
    {r : Reader} (hr : Reader.ofFile (readerOptions watch.config useIdentity) s.file number = r)
    {result : FileOutcome × Reading}
    (hresult : watch.readEvents sink finished (r.eventBound + 1) { s.tested with world := w } r = result) :
    ∃ offers, watch.Attempt finished s offers result.1 result.2 := by
  have hwork : r.work (max s.file.processed s.file.size) = s.file.work := by rw [← hr]; rfl
  have hsplits : r.options.splitter = watch.splitter := by rw [← hr]; rfl
  have hlimit : r.limit = s.file.size := by rw [← hr]; rfl
  have hopened : r.number = number := by rw [← hr]; rfl
  have hhandles : Handles (max s.file.processed s.file.size) finished { s.tested with world := w } r result := by
    rw [← hresult, ← hr]
    exact watch.readEvents_handles sink finished _
      (together_ofFile (s := s.tested) (readerOptions watch.config useIdentity) hchunk hinside number w)
      (work_lt_eventBound (readerOptions watch.config useIdentity) s.file number)
  cases hhandles with
  | done hhandled hposition hlast =>
    refine ⟨_, attempt_of_handled hlater hwork hsplits hhandled ⟨hhandled.accepted, ?_, hlast⟩⟩
    rcases hhandled.limit with hsame | ⟨w₁, hto, hfrom, hfile, hend⟩
    · left
      rw [← hlimit, ← hsame]
      exact hposition
    · rw [hopened] at hfile hend
      exact .inr ⟨number, w, hlater, hnumber, w₁, hto, hfrom, hfile, Nat.le_trans hend hposition⟩
  | budget hhandled hspent =>
    exact ⟨_, attempt_of_handled hlater hwork hsplits hhandled ⟨hhandled.accepted, hspent⟩⟩
  | rejected hhandled hanswered hstop =>
    exact ⟨_, attempt_of_refused hlater hwork hsplits hhandled hanswered hstop⟩
  | failed hhandled cause => exact ⟨_, attempt_of_handled hlater hwork hsplits hhandled hhandled.accepted⟩

/-- **Whatever the world does**, the reading of a file offers records in the order of their ends, until it is
through the file, the budget is spent, a record is refused, or a call fails. -/
theorem readFile_attempt (watch : Watcher) (sink : Sink) (useIdentity finished : Bool)
    (hchunk : 0 < watch.config.chunkSize) (hinside : s.file.tail.length ≤ s.file.processed) :
    ∃ offers, watch.Attempt finished s offers (watch.readFile sink useIdentity finished s).1
      (watch.readFile sink useIdentity finished s).2 := by
  unfold readFile
  by_cases hidle : (s.file.unread = 0 && !(finished && s.file.hasFinalTail)) = true
  · rw [if_pos hidle]
    simp only [Bool.and_eq_true, decide_eq_true_eq, Bool.not_eq_true', Bool.and_eq_false_imp] at hidle
    exact ⟨[], .wait hinside ⟨rfl, rfl, hidle.1, hidle.2⟩⟩
  rw [if_neg hidle]
  by_cases hspent : s.tracker.budget.exhausted = true
  · rw [if_pos hspent]
    exact ⟨[], .wait hinside ⟨by simp, hspent⟩⟩
  rw [if_neg hspent]
  unfold Reader.openFile
  rcases hlook : s.world.look fun d => d.numberOf s.file.path with ⟨c | number, w⟩
  · exact ⟨[], .unopened hinside (World.later_look hlook) c⟩
  have hlater := World.later_look hlook
  have hdisk : s.world.others (.call s.world.calls) s.world.disk = w.disk :=
    congrArg (fun answer => answer.2.disk) hlook
  dsimp only
  by_cases hother : ((readerOptions watch.config useIdentity).verifyIdentity &&
      decide (FileId.ofNumber number ≠ s.file.id)) = true
  · rw [if_pos hother]
    exact ⟨[], .unopened hinside hlater _⟩
  · rw [if_neg hother]
    exact watch.readEvents_attempt sink useIdentity finished hchunk hinside hlater
      (hdisk ▸ World.look_ok hlook) rfl rfl

end attempt

end Watcher

end LogTail
