import LogTail.Cycle.ReadFile
import LogTail.Proofs.Progress

/-!
# Reading one file in a cycle

What `Watcher.readFile` does in a still world, in terms of the records ahead of a file. It takes some of
them, one after the other: each is counted, and offered if the filter leaves something of it. Then there
are no more, or the budget is spent, or the receiver refuses what the next one has become.

* `Watcher.Took` says what it means to have taken records: the accounts, the world and the file.
* `Watcher.Reads` are the three ways in which the reading of a file ends, and `Watcher.readFile_spec` says
  that there is no other.
-/

namespace LogTail

/-- A file with the same name, identity and statistics, whatever was read of it. -/
def LogFile.SameAs (f f' : LogFile) : Prop :=
  f' = { f with processed := f'.processed, tail := f'.tail, incomplete := f'.incomplete,
                skipping := f'.skipping, retry := f'.retry }

/-- A file is marked as incomplete if and only if it has a tail. -/
def LogFile.Marked (f : LogFile) : Prop := f.incomplete = !f.tail.isEmpty

theorem LogFile.SameAs.refl (f : LogFile) : f.SameAs f := rfl

theorem LogFile.SameAs.trans {f f' f'' : LogFile} (h : f.SameAs f') (h' : f'.SameAs f'') :
    f.SameAs f'' := by
  rw [SameAs] at *
  rw [h', h]

theorem LogFile.SameAs.path {f f' : LogFile} (h : f.SameAs f') : f'.path = f.path := by
  rw [SameAs] at h
  rw [h]

theorem LogFile.SameAs.id {f f' : LogFile} (h : f.SameAs f') : f'.id = f.id := by
  rw [SameAs] at h
  rw [h]

theorem LogFile.SameAs.size {f f' : LogFile} (h : f.SameAs f') : f'.size = f.size := by
  rw [SameAs] at h
  rw [h]

namespace Watcher

def splitter (watch : Watcher) : Splitter := ⟨watch.config.encoding, watch.config.maxRecordSize⟩

def value? (watch : Watcher) (r : Record) : Option String :=
  watch.filter.apply (watch.config.encoding.decode r.bytes)

/-- What the filter leaves of records, and where each of them ends. -/
def leftOf (watch : Watcher) (rs : List Record) : List (String × Nat) :=
  rs.filterMap fun r => (watch.value? r).map (·, r.stop)

/-- The offers of records of a file, when all are accepted; the clock is read for each. -/
def offersOf (watch : Watcher) (t : Tracker) (f : LogFile) (rs : List Record) : List Offer :=
  (watch.leftOf rs).mapIdx fun n left =>
    ⟨⟨t.destination, left.1, t.now.read (t.offers.length + n), f.mtime, left.2, f.path, f.seq⟩, true⟩

/-- The accounts after records of a file were taken: all are counted, what was left of them was offered and
accepted, and the budget was tested any number of times. -/
structure Accounts (watch : Watcher) (f : LogFile) (t : Tracker) (rs : List Record) (t' : Tracker) :
    Prop where
  destination : t'.destination = t.destination
  now : t'.now = t.now
  offers : t'.offers = (watch.offersOf t f rs).reverse ++ t.offers
  budget : t'.budget = { t.budget with
    tests := t'.budget.tests
    sent := t.budget.sent + (rs.filterMap watch.value?).length
    processed := t.budget.processed + rs.length }

/-- Records were taken: the cursor moved over them, the accounts hold them, and the file is the same but
for its progress. Where a cut ends behind the tail, a file that stood at the cursor stands at the next
one. -/
structure Took (watch : Watcher) (d : Disk) (content : Bytes) (finished : Bool) (c : Cursor) (s : Reading)
    (rs : List Record) (c' : Cursor) (s' : Reading) : Prop where
  still : s'.world.Still d
  leads : watch.splitter.Leads finished c rs c'
  accounts : watch.Accounts s.file s.tracker rs s'.tracker
  same : s.file.SameAs s'.file
  retry : s'.file.retry = if rs.filterMap watch.value? = [] then s.file.retry else 0
  marked : s.file.Marked → s'.file.Marked
  grows : s.file.processed ≤ s'.file.processed
  within : s'.file.processed ≤ max s.file.processed (c.offset + c.rest.length)
  behind : watch.splitter.CutsBehind c s.file.tail → watch.splitter.CutsBehind c' s'.file.tail
  follows : watch.splitter.CutsBehind c s.file.tail → s.file.Sound watch.splitter →
    s.file.cursor content s.file.size = c →
    s'.file.Sound watch.splitter ∧ s'.file.cursor content s'.file.size = c'

def refuse (s : Reading) (value : String) (stop : Nat) (w : World) : Reading :=
  ⟨{ s.file with retry := s.file.retry + 1 },
    { s.tracker with
      offers := ⟨s.tracker.delivery s.file value stop, false⟩ :: s.tracker.offers
      failures := s.tracker.failures + 1 }, w⟩

/-- How the reading of a file from a cursor on ends. -/
inductive Reads (watch : Watcher) (sink : Sink) (d : Disk) (content : Bytes) (finished : Bool) (c : Cursor)
    (s : Reading) : FileOutcome × Reading → Prop
  | ended {outcome : FileOutcome} {rs : List Record} {c' : Cursor} {s' : Reading}
    (way : outcome = .done ∨ outcome = .idle) (took : watch.Took d content finished c s rs c' s')
    (last : watch.splitter.next? finished c' = none) (tail : s'.file.tail = c'.rest)
    (skipping : s'.file.skipping = c'.skipping) :
    Reads watch sink d content finished c s (outcome, s')
  | budget {rs : List Record} {c' : Cursor} {s' : Reading}
    (took : watch.Took d content finished c s rs c' s')
    (spent : s'.tracker.budget.exhausted = true) :
    Reads watch sink d content finished c s (.budget, s')
  | rejected {rs : List Record} {c₁ c₂ : Cursor} {s₁ : Reading} {r : Record} {value : String} {w : World}
    (took : watch.Took d content finished c s rs c₁ s₁)
    (next : watch.splitter.Step finished c₁ (some r) c₂) (left : watch.value? r = some value)
    (refused : sink s₁.tracker.offers.length (s₁.tracker.delivery s₁.file value r.stop) = false)
    (still : w.Still d) :
    Reads watch sink d content finished c s (.rejected, refuse s₁ value r.stop w)

section accounts
variable {watch : Watcher} {f f' : LogFile} {t t' t'' : Tracker} {rs rs' : List Record}

theorem length_offersOf (t : Tracker) (f : LogFile) (rs : List Record) :
    (watch.offersOf t f rs).length = (rs.filterMap watch.value?).length := by
  simp [offersOf, leftOf, List.length_filterMap_eq_countP]

theorem offersOf_append (hf : f.SameAs f') (hd : t'.destination = t.destination) (hn : t'.now = t.now)
    (hoffers : t'.offers.length = t.offers.length + (rs.filterMap watch.value?).length) (rs' : List Record) :
    watch.offersOf t f (rs ++ rs') = watch.offersOf t f rs ++ watch.offersOf t' f' rs' := by
  have hlength : (watch.leftOf rs).length = (rs.filterMap watch.value?).length := by
    simp [leftOf, List.length_filterMap_eq_countP]
  rw [LogFile.SameAs] at hf
  simp only [offersOf, leftOf, List.filterMap_append, List.mapIdx_append] at hlength ⊢
  rw [hf, hd, hn, hoffers, hlength]
  simp only [Nat.add_assoc, Nat.add_comm (rs.filterMap watch.value?).length]

theorem offersOf_singleton (t : Tracker) (f : LogFile) (r : Record) :
    watch.offersOf t f [r] = ((watch.value? r).map fun value => ⟨t.delivery f value r.stop, true⟩).toList := by
  rcases hvalue : watch.value? r with _ | value <;> simp [offersOf, leftOf, hvalue, Tracker.delivery]

theorem map_offersOf {α : Type} {g : Offer → α} (g' : String × Nat → α) (t : Tracker) (f : LogFile)
    (h : ∀ left time, g ⟨⟨t.destination, left.1, time, f.mtime, left.2, f.path, f.seq⟩, true⟩ = g' left)
    (rs : List Record) : (watch.offersOf t f rs).map g = (watch.leftOf rs).map g' := by
  refine List.ext_getElem (by simp [offersOf]) fun n _ _ => ?_
  simp only [offersOf, List.getElem_map, List.getElem_mapIdx, h]

theorem accepted_of_mem_offersOf {o : Offer} (h : o ∈ watch.offersOf t f rs) : o.accepted = true := by
  obtain ⟨_, _, rfl⟩ := List.mem_mapIdx.1 h
  rfl

theorem Accounts.refl (watch : Watcher) (f : LogFile) (t : Tracker) : watch.Accounts f t [] t :=
  ⟨rfl, rfl, rfl, rfl⟩

theorem Accounts.tested (watch : Watcher) (f : LogFile) (t : Tracker) : watch.Accounts f t [] t.tested :=
  ⟨rfl, rfl, rfl, rfl⟩

theorem Accounts.trans (h : watch.Accounts f t rs t') (hf : f.SameAs f')
    (h' : watch.Accounts f' t' rs' t'') : watch.Accounts f t (rs ++ rs') t'' where
  destination := h'.destination.trans h.destination
  now := h'.now.trans h.now
  offers := by
    have hoffers : t'.offers.length = t.offers.length + (rs.filterMap watch.value?).length := by
      rw [h.offers, List.length_append, List.length_reverse, length_offersOf, Nat.add_comm]
    rw [h'.offers, h.offers, offersOf_append hf h.destination h.now hoffers, List.reverse_append, List.append_assoc]
  budget := by
    rw [h'.budget, h.budget]
    simp [Nat.add_assoc]

end accounts

section took
variable {watch : Watcher} {d : Disk} {content : Bytes} {finished : Bool} {c c' c'' : Cursor}
  {s s' s'' : Reading} {rs rs' : List Record}

theorem Took.refl (hw : s.world.Still d) (c : Cursor) : watch.Took d content finished c s [] c s where
  still := hw
  leads := .refl c
  accounts := .refl ..
  same := .refl _
  retry := rfl
  marked := id
  grows := Nat.le_refl _
  within := Nat.le_max_left ..
  behind := id
  follows := fun _ hsound hcursor => ⟨hsound, hcursor⟩

theorem Took.trans (h : watch.Took d content finished c s rs c' s')
    (h' : watch.Took d content finished c' s' rs' c'' s'') :
    watch.Took d content finished c s (rs ++ rs') c'' s'' where
  still := h'.still
  leads := h.leads.trans h'.leads
  accounts := h.accounts.trans h.same h'.accounts
  same := h.same.trans h'.same
  retry := by
    rw [h'.retry, h.retry, List.filterMap_append]
    by_cases hrs : rs.filterMap watch.value? = [] <;>
      by_cases hrs' : rs'.filterMap watch.value? = [] <;> simp [hrs, hrs']
  marked := h'.marked ∘ h.marked
  grows := Nat.le_trans h.grows h'.grows
  within := by
    have := h.leads.stop_eq
    have := h.within
    have := h'.within
    omega
  behind := h'.behind ∘ h.behind
  follows := fun hs hsound hcursor =>
    have hmid := h.follows hs hsound hcursor
    h'.follows (h.behind hs) hmid.1 hmid.2

theorem Reads.prepend {sink : Sink} {result : FileOutcome × Reading}
    (h : watch.Took d content finished c s rs c' s')
    (h' : watch.Reads sink d content finished c' s' result) :
    watch.Reads sink d content finished c s result := by
  cases h' with
  | ended hover htook hlast htail hskip => exact .ended hover (h.trans htook) hlast htail hskip
  | budget htook hspent => exact .budget (h.trans htook) hspent
  | rejected htook hnext hleft hrefused hw => exact .rejected (h.trans htook) hnext hleft hrefused hw

theorem Took.tested {w : World} (hw : w.Still d) (c : Cursor) :
    watch.Took d content finished c s [] c { s.tested with world := w } where
  still := hw
  leads := .refl c
  accounts := .tested ..
  same := .refl _
  retry := rfl
  marked := id
  grows := Nat.le_refl _
  within := Nat.le_max_left ..
  behind := id
  follows := fun _ hsound hcursor => ⟨hsound, hcursor⟩

/-! ## One event -/

theorem took_of_step {r : Option Record} {skipping : Bool} (hpos : 0 < watch.config.maxRecordSize)
    (hstep : watch.splitter.Step finished c r c') (hw : s'.world.Still d)
    (haccounts : watch.Accounts s.file s.tracker r.toList s'.tracker)
    (hfile : s'.file = { s.file.passed c'.offset skipping with
      retry := if r.toList.filterMap watch.value? = [] then s.file.retry else 0 })
    (hskip : s.file.skipping = c.skipping → skipping = c'.skipping) :
    watch.Took d content finished c s r.toList c' s' where
  still := hw
  leads := .single hstep
  accounts := haccounts
  same := by rw [LogFile.SameAs, hfile]; rfl
  retry := by rw [hfile]
  marked := fun _ => by rw [LogFile.Marked, hfile]; rfl
  grows := by rw [hfile]; exact Nat.le_max_left ..
  within := by
    obtain ⟨n, hn, hc'⟩ := hstep.move
    have hoffset : c'.offset = c.offset + n := by rw [hc']; rfl
    rw [hfile]
    show max s.file.processed c'.offset ≤ _
    omega
  behind := by
    intro _ _
    rw [hfile]
    exact .inr (Nat.zero_le _)
  follows := by
    intro hs hsound hcursor
    have hskip' := hskip (congrArg Cursor.skipping hcursor)
    rw [← hcursor] at hstep hs
    have hpassed := hsound.cursor_passed hs hstep
    have hsound' := LogFile.Sound.passed (s := watch.splitter) s.file hpos c'.offset c'.skipping
    rw [← hskip'] at hpassed hsound'
    rw [hfile]
    exact ⟨hsound'.congr rfl rfl rfl, hpassed⟩

theorem consume_spec (watch : Watcher) (sink : Sink) (hw : s.world.Still d) (r : Record) :
    (∃ s', watch.consume sink s r.bytes r.stop = (.consumed, s') ∧ s'.world.Still d ∧
      watch.Accounts s.file s.tracker [r] s'.tracker ∧
      s'.file = { s.file.passed r.stop s.file.skipping with
        retry := if [r].filterMap watch.value? = [] then s.file.retry else 0 }) ∨
    (∃ value w, watch.consume sink s r.bytes r.stop = (.rejected, refuse s value r.stop w) ∧
      w.Still d ∧ watch.value? r = some value ∧
      sink s.tracker.offers.length (s.tracker.delivery s.file value r.stop) = false) := by
  rw [consume, show watch.filter.apply (watch.config.encoding.decode r.bytes) = watch.value? r from rfl]
  rcases hvalue : watch.value? r with _ | value
  · refine .inl ⟨_, rfl, hw, ⟨rfl, rfl, ?_, ?_⟩, ?_⟩
    · simp [offersOf_singleton, hvalue]
    · simp [hvalue]
    · simp [hvalue, LogFile.passed]
  · rcases hsink : sink s.tracker.offers.length (s.tracker.delivery s.file value r.stop) with _ | _
    · refine .inr ⟨value, s.world.atOffer s.tracker.offers.length, ?_, hw.atOffer _, rfl, hsink⟩
      simp [Tracker.deliver, hsink, refuse]
    · left
      simp only [Tracker.deliver, hsink, if_true]
      refine ⟨_, rfl, hw.atOffer _, ⟨rfl, rfl, ?_, ?_⟩, ?_⟩
      · simp [offersOf_singleton, hvalue, Tracker.advance]
      · simp [hvalue, Tracker.advance]
      · simp [hvalue, Tracker.advance, LogFile.passed]

/-- Behind a record that was cut its rest is skipped; where records are read, the file then stands behind the event. -/
theorem mark_truncated {s₁ : Reading} {stop retry : Nat} (truncated : Bool) (hreads : s.file.skipping = false)
    (hfile : s₁.file = { s.file.passed stop s.file.skipping with retry := retry }) :
    (if truncated then { s₁ with file := { s₁.file with skipping := true } } else s₁) =
      { s₁ with file := { s.file.passed stop truncated with retry := retry } } := by
  obtain ⟨file, tracker, world⟩ := s₁
  obtain rfl : file = _ := hfile
  cases truncated with
  | true => rfl
  | false => simp [LogFile.passed, hreads]

theorem took_keepTail (finished : Bool) {r r' : Reader} (ho : r.options.splitter = watch.splitter)
    (hr : r'.Fits) (hw : s.world.Still d) (hanswer : r.Answers content none r') :
    watch.Took d content finished (r.cursor content) s [] (r.cursor content) (keepTail s r') ∧
      watch.splitter.next? false (r.cursor content) = none ∧
      r'.cursor content = r.cursor content ∧ r'.window = (r.cursor content).rest := by
  cases hanswer with
  | ended hstays hall hlast =>
  rw [ho] at hlast
  have hstart : r'.start = (r.cursor content).offset := congrArg Cursor.offset hstays
  have hskip : r'.skipping = (r.cursor content).skipping := congrArg Cursor.skipping hstays
  have hposition : r'.position = (r.cursor content).offset + (r.cursor content).rest.length := by
    rw [hr.reaches, hstart, hall]
  refine ⟨⟨hw, .refl _, ⟨rfl, rfl, rfl, rfl⟩, rfl, rfl, fun _ => rfl, Nat.le_max_left .., ?_,
    fun _ _ => .inl hlast, ?_⟩, hlast, hstays, hall⟩
  · exact Nat.le_of_eq (congrArg (max s.file.processed) hposition)
  · intro _ hsound hcursor
    have hkept : (keepTail s r').file =
        s.file.kept (s.file.tailStart + (s.file.cursor content s.file.size).rest.length)
          (s.file.cursor content s.file.size).rest s.file.skipping := by
      rw [show s.file.tailStart = (s.file.cursor content s.file.size).offset from rfl,
        show s.file.skipping = (s.file.cursor content s.file.size).skipping from rfl, hcursor, ← hposition,
        ← hskip, ← hall]
      rfl
    rw [← hcursor] at hlast ⊢
    rw [hkept]
    exact ⟨.kept hlast (Nat.le_add_left ..), hsound.cursor_kept content (Nat.le_refl _)⟩

/-! ## All events -/

theorem flush_spec (watch : Watcher) (sink : Sink) (hpos : 0 < watch.config.maxRecordSize)
    (hw : s.world.Still d) {r : Reader} (ho : r.options.splitter = watch.splitter)
    (hcursor : r.cursor content = c) (hwindow : r.window = c.rest)
    (hlast : watch.splitter.next? false c = none) (htail : s.file.tail = c.rest)
    (hskip : s.file.skipping = c.skipping) :
    watch.Reads sink d content true c s (watch.flush sink s r) := by
  have hskip' : r.skipping = c.skipping := congrArg Cursor.skipping hcursor
  have hstart : r.start = c.offset := congrArg Cursor.offset hcursor
  obtain ⟨hfree, hshort⟩ := Splitter.next?_none hlast
  have hencoding : r.options.encoding = watch.splitter.encoding := congrArg Splitter.encoding ho
  unfold flush Reader.takeRemainder
  by_cases hnothing : (r.window.isEmpty || r.skipping) = true
  · rw [if_pos hnothing]
    rw [hwindow, hskip', Bool.or_eq_true, List.isEmpty_iff] at hnothing
    exact .ended (.inl rfl) (.refl hw c) (Splitter.next?_finished_none hlast hnothing.symm) htail hskip
  rw [if_neg hnothing]
  rw [hwindow, hskip', Bool.or_eq_true, List.isEmpty_iff, not_or, Bool.not_eq_true] at hnothing
  obtain ⟨hne, hreads⟩ := hnothing
  rw [hreads, if_neg Bool.false_ne_true] at hshort
  have hstep : watch.splitter.Step true c _ _ :=
    .remainder hreads (by rwa [List.take_of_length_le (Nat.le_of_lt hshort)]) hshort rfl hne
  have hrecord := Reader.record_eq content (Nat.le_refl r.window.length) r.window.length false
  rw [hcursor, hencoding, hwindow] at hrecord
  rw [hrecord] at hstep
  simp only [Reader.emit, hwindow]
  by_cases hspent : s.tracker.budget.exhausted = true
  · rw [if_pos hspent]
    exact .budget (.refl hw c) hspent
  rw [if_neg hspent]
  have htested : watch.Took d content true c s [] c s.tested := .tested hw c
  refine .prepend htested ?_
  rcases consume_spec (s := s.tested) watch sink hw
      ⟨r.start, r.start + c.rest.length, r.content c.rest.length, false⟩ with
    ⟨s', hconsume, hw', haccounts, hfile⟩ | ⟨value, w, hconsume, hw', hvalue, hrefused⟩
  · rw [hconsume]
    have htook : watch.Took d content true c s.tested _ (c.move c.rest.length false) s' :=
      took_of_step hpos hstep hw' haccounts (by rw [hfile, hstart]; rfl)
        fun _ => hskip.trans hreads
    refine .ended (.inl rfl) htook ?_ ?_ ?_
    · refine Splitter.next?_finished_none ?_ (.inr (by simp))
      have hlongest : 0 < watch.splitter.longest := hpos
      simp [Splitter.next?, Nat.not_le.2 hlongest]
    · rw [hfile]
      simp [LogFile.passed]
    · rw [hfile]
      exact hskip.trans hreads
  · rw [hconsume]
    exact .rejected (.refl (s := s.tested) hw c) hstep hvalue hrefused hw'

/-- **The events of a reader**, taken until there are none, the budget is spent, or a record is refused. -/
theorem readEvents_spec (watch : Watcher) (sink : Sink) (finished : Bool) (fuel : Nat) {s : Reading}
    {r : Reader} (ho : r.options.splitter = watch.splitter) (hfile : r.Covered d content)
    (hr : r.Fits) (hw : s.world.Still d) (hskip : s.file.skipping = r.skipping)
    (hfuel : (r.cursor content).weight < fuel) :
    watch.Reads sink d content finished (r.cursor content) s
      (watch.readEvents sink finished fuel s r) := by
  induction fuel generalizing s r with
  | zero => omega
  | succ fuel ih =>
    rw [readEvents]
    by_cases hspent : s.tracker.budget.exhausted = true
    · rw [if_pos hspent]
      exact .budget (.refl hw _) hspent
    rw [if_neg hspent]
    obtain ⟨event?, r', w', hnext, hw', hr', hsame, hanswer⟩ := Reader.next_spec hfile hw hr
    rw [hnext]
    have hpos : 0 < watch.config.maxRecordSize := by
      have hlongest : r.options.maxRecordSize = watch.config.maxRecordSize :=
        congrArg Splitter.longest ho
      have := hr.chunk_pos
      have := hr.chunk_le
      omega
    apply Reads.prepend (.tested hw' _)
    cases event? with
    | none =>
      obtain ⟨htook, hlast, hcursor, hwindow⟩ :=
        took_keepTail (s := { s.tested with world := w' }) finished ho hr' hw' hanswer
      refine .prepend htook ?_
      have hskip' : r'.skipping = (r.cursor content).skipping := congrArg Cursor.skipping hcursor
      cases finished with
      | false => exact .ended (.inl rfl) (.refl hw' _) hlast hwindow hskip'
      | true =>
        exact flush_spec watch sink hpos hw' (hsame.options ▸ ho) hcursor hwindow hlast hwindow hskip'
    | some event =>
      cases hanswer with
      | event hstep hstop hskips =>
      rw [ho] at hstep
      have hlt := hstep.weight_lt
      cases event with
      | skipped stop ended =>
        have htook : watch.Took d content finished (r.cursor content) { s.tested with world := w' } []
            (r'.cursor content) (skipTo { s.tested with world := w' } stop ended) := by
          refine took_of_step hpos (hstep.finish finished) hw' ⟨rfl, rfl, rfl, rfl⟩ ?_ fun _ => hskips
          rw [show (r'.cursor content).offset = stop from hstop.symm]
          rfl
        exact .prepend htook (ih (hsame.options ▸ ho) (hfile.same hsame) hr' hw' hskips (by omega))
      | record start stop bytes truncated =>
        have hreads : s.file.skipping = false := hskip.trans hstep.record.2.2.2
        rcases consume_spec (s := { s.tested with world := w' }) watch sink hw' ⟨start, stop, bytes, truncated⟩ with
          ⟨s₁, hconsume, hw₁, haccounts, hfile₁⟩ | ⟨value, w₁, hconsume, hw₁, hvalue, hrefused⟩
        · simp only [hconsume]
          rw [mark_truncated (s := { s.tested with world := w' }) truncated hreads hfile₁]
          have htook : watch.Took d content finished (r.cursor content) { s.tested with world := w' } _ (r'.cursor content)
              { s₁ with file := { s.file.passed stop truncated with
                retry := if [(⟨start, stop, bytes, truncated⟩ : Record)].filterMap watch.value? = []
                  then s.file.retry else 0 } } :=
            took_of_step hpos (hstep.finish finished) hw₁ haccounts
              (by rw [show (r'.cursor content).offset = stop from hstop.symm]; rfl) fun _ => hskips
          exact .prepend htook (ih (hsame.options ▸ ho) (hfile.same hsame) hr' htook.still hskips (by omega))
        · simp only [hconsume]
          exact .rejected (.refl hw' _) (hstep.finish finished) hvalue hrefused hw₁

/-- Where all up to the size was read, nothing comes next but the last record of a file to which nothing will be
added. -/
theorem next?_of_unread (content : Bytes) (hsound : s.file.Sound watch.splitter) (hread : s.file.unread = 0) :
    (s.file.cursor content s.file.size).rest = s.file.tail ∧
      watch.splitter.next? false (s.file.cursor content s.file.size) = none := by
  have hread : s.file.size - s.file.processed = 0 := hread
  have hrest : (s.file.cursor content s.file.size).rest = s.file.tail := by
    simp [LogFile.cursor, hread]
  exact ⟨hrest, Splitter.next?_eq_none (by rw [hrest]; exact hsound.free) (by rw [hrest]; exact hsound.short)⟩

/-- **The reading of a file in a cycle**: it takes records from where the file stands, and ends because
there are no more, because the budget is spent, or because a record is refused. -/
theorem readFile_spec (watch : Watcher) (sink : Sink) (useIdentity finished : Bool)
    (hchunk : 0 < watch.config.chunkSize) (hmax : watch.config.chunkSize ≤ watch.config.maxRecordSize)
    (hw : s.world.Still d) (hopens : s.file.Readable d useIdentity content)
    (hsound : s.file.Sound watch.splitter) :
    watch.Reads sink d content finished (s.file.cursor content s.file.size) s
      (watch.readFile sink useIdentity finished s) := by
  unfold readFile
  by_cases hidle : (s.file.unread = 0 && !(finished && s.file.hasFinalTail)) = true
  · rw [if_pos hidle]
    simp only [LogFile.unread, LogFile.hasFinalTail, Bool.and_eq_true, Bool.not_eq_true',
      Bool.and_eq_false_iff, Bool.not_eq_false', List.isEmpty_iff] at hidle
    obtain ⟨hread, hlast⟩ := hidle
    obtain ⟨hrest, hnone⟩ := next?_of_unread content hsound (of_decide_eq_true hread)
    refine .ended (.inr rfl) (.refl hw _) ?_ hrest.symm rfl
    cases finished with
    | false => exact hnone
    | true =>
      refine Splitter.next?_finished_none hnone ?_
      rw [hrest]
      rcases hlast with hlast | hempty | hskip
      · cases hlast
      · exact .inr hempty
      · exact .inl hskip
  rw [if_neg hidle]
  by_cases hspent : s.tracker.budget.exhausted = true
  · rw [if_pos hspent]
    exact .budget (.refl hw _) hspent
  rw [if_neg hspent]
  obtain ⟨number, w', hopen, hw', hfile⟩ := hopens.openFile (o := readerOptions watch.config useIdentity) hw
  rw [hopen]
  have hfits := hsound.fits (o := readerOptions watch.config useIdentity) hchunk hmax number
  have hweight := Reader.weight_lt_eventBound content hfits
  apply Reads.prepend (.tested hw' _)
  exact readEvents_spec watch sink finished _ rfl hfile hfits hw' rfl (by omega)

end took

end Watcher

end LogTail
