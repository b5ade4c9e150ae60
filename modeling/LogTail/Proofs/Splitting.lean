import LogTail.Proofs.Terminator

/-!
# The records of a byte string

What the bytes of a file are as records, with no window, no chunks and no disk. A `Cursor` stands at an
offset and has all the bytes ahead of it; `Splitter.next?` says what comes next, and `Splitter.records`
are all records from a cursor on.

* `Step` and `Leads` are the moves of a reading that may stop anywhere: what is skipped of a record that
  was too long may be dropped in pieces, as the bytes come.
* However a reading moves, it meets the records of where it began (`Leads.records_eq`), and bytes that
  arrive later change nothing of what was met before (`Leads.append`).
-/

namespace LogTail

/-- How a byte string is cut into records. -/
structure Splitter where
  encoding : Encoding
  /-- Bytes of the longest record that is kept whole. -/
  longest : Nat

/-- A record: where it begins, where the next one does, its bytes without a terminator, and whether they
were cut. -/
structure Record where
  start : Nat
  stop : Nat
  bytes : Bytes
  truncated : Bool
  deriving DecidableEq

/-- Whether a record was met before an offset: it ends there or earlier, and begins earlier, unless it was
cut to nothing and its rest is skipped there. -/
def Record.endsBy (r : Record) (offset : Nat) (skipping : Bool) : Bool :=
  r.stop ≤ offset && (r.start < offset || skipping)

/-- A place in a byte string, whether the rest of a record is skipped there, and the bytes ahead. -/
structure Cursor where
  offset : Nat
  skipping : Bool
  rest : Bytes
  deriving DecidableEq

namespace Cursor

def start (bs : Bytes) : Cursor := ⟨0, false, bs⟩

def move (c : Cursor) (n : Nat) (skipping : Bool) : Cursor := ⟨c.offset + n, skipping, c.rest.drop n⟩

def append (c : Cursor) (more : Bytes) : Cursor := { c with rest := c.rest ++ more }

/-- The record at a cursor; at the start of a file a byte order mark is no part of it. -/
def record (c : Cursor) (e : Encoding) (contentEnd stop : Nat) (truncated : Bool) : Record :=
  let bytes := c.rest.take contentEnd
  ⟨c.offset, c.offset + stop, if c.offset = 0 then e.stripBom bytes else bytes, truncated⟩

/-- What every step takes from: the bytes ahead, and half a byte for a record that may be cut to nothing. -/
def weight (c : Cursor) : Nat := 2 * c.rest.length + if c.skipping then 0 else 1

@[simp] theorem move_offset (c : Cursor) (n : Nat) (b : Bool) : (c.move n b).offset = c.offset + n := rfl

@[simp] theorem move_skipping (c : Cursor) (n : Nat) (b : Bool) : (c.move n b).skipping = b := rfl

@[simp] theorem move_rest (c : Cursor) (n : Nat) (b : Bool) : (c.move n b).rest = c.rest.drop n := rfl

@[simp] theorem append_offset (c : Cursor) (m : Bytes) : (c.append m).offset = c.offset := rfl

@[simp] theorem append_skipping (c : Cursor) (m : Bytes) : (c.append m).skipping = c.skipping := rfl

@[simp] theorem append_rest (c : Cursor) (m : Bytes) : (c.append m).rest = c.rest ++ m := rfl

@[simp] theorem append_nil (c : Cursor) : c.append [] = c := by simp [append]

theorem move_move (c : Cursor) (m n : Nat) (a b : Bool) : (c.move m a).move n b = c.move (m + n) b := by
  simp [move, Nat.add_assoc]

theorem move_zero {c : Cursor} : c.move 0 c.skipping = c := by simp [move]

theorem append_move {c : Cursor} {n : Nat} (h : n ≤ c.rest.length) (m : Bytes) (b : Bool) :
    (c.append m).move n b = (c.move n b).append m := by
  simp [move, append, List.drop_append_of_le_length h]

theorem append_record {c : Cursor} {n : Nat} (h : n ≤ c.rest.length) (m : Bytes) (e : Encoding)
    (stop : Nat) (b : Bool) : (c.append m).record e n stop b = c.record e n stop b := by
  simp [record, List.take_append_of_le_length h]

end Cursor

namespace Splitter

/-- What comes next: a record, or a stretch of bytes that are skipped; nothing if there is no more, or
not yet. In a file to which nothing will be added the bytes that are left are a record. -/
def next? (s : Splitter) (finished : Bool) (c : Cursor) : Option (Option Record × Cursor) :=
  if c.skipping then
    match s.encoding.terminator? c.rest with
    | some (_, stop) => some (none, c.move stop false)
    | none =>
      let discard := s.encoding.alignDown c.rest.length
      if 0 < discard then some (none, c.move discard true) else none
  else
    match s.encoding.terminator? (c.rest.take s.longest) with
    | some (contentEnd, stop) => some (c.record s.encoding contentEnd stop false, c.move stop false)
    | none =>
      if s.longest ≤ c.rest.length then
        let cut := s.encoding.alignDown s.longest
        some (c.record s.encoding cut cut true, c.move cut true)
      else if finished && !c.rest.isEmpty then
        some (c.record s.encoding c.rest.length c.rest.length false, c.move c.rest.length false)
      else none

/-! ## Moves -/

/-- One move of a reading, with the record that it meets. What is skipped may be dropped in pieces of
whole units. -/
inductive Step (s : Splitter) (finished : Bool) (c : Cursor) : Option Record → Cursor → Prop
  | skipped {contentEnd stop : Nat} (skips : c.skipping = true)
    (found : s.encoding.terminator? c.rest = some (contentEnd, stop)) :
    Step s finished c none (c.move stop false)
  | dropped {n : Nat} (skips : c.skipping = true) (positive : 0 < n) (inside : n ≤ c.rest.length)
    (units : s.encoding.unit ∣ n) (free : s.encoding.terminator? (c.rest.take n) = none) :
    Step s finished c none (c.move n true)
  | whole {contentEnd stop : Nat} (reads : c.skipping = false)
    (found : s.encoding.terminator? (c.rest.take s.longest) = some (contentEnd, stop)) :
    Step s finished c (c.record s.encoding contentEnd stop false) (c.move stop false)
  | cut (reads : c.skipping = false) (free : s.encoding.terminator? (c.rest.take s.longest) = none)
    (long : s.longest ≤ c.rest.length) :
    Step s finished c
      (c.record s.encoding (s.encoding.alignDown s.longest) (s.encoding.alignDown s.longest) true)
      (c.move (s.encoding.alignDown s.longest) true)
  | remainder (reads : c.skipping = false)
    (free : s.encoding.terminator? (c.rest.take s.longest) = none) (short : c.rest.length < s.longest)
    (ended : finished = true) (left : c.rest ≠ []) :
    Step s finished c (c.record s.encoding c.rest.length c.rest.length false)
      (c.move c.rest.length false)

theorem step_of_next? {s : Splitter} {finished : Bool} {c c' : Cursor} {r : Option Record}
    (h : s.next? finished c = some (r, c')) : s.Step finished c r c' := by
  unfold next? at h
  by_cases hskip : c.skipping = true
  · rw [if_pos hskip] at h
    rcases hfound : s.encoding.terminator? c.rest with _ | ⟨contentEnd, stop⟩
    · simp only [hfound, Option.ite_none_right_eq_some, Option.some.injEq, Prod.mk.injEq] at h
      obtain ⟨hpos, rfl, rfl⟩ := h
      refine .dropped hskip hpos (s.encoding.alignDown_le _) (s.encoding.unit_dvd_alignDown _) ?_
      rw [← List.take_append_drop (s.encoding.alignDown c.rest.length) c.rest] at hfound
      exact Encoding.terminator?_eq_none_of_append hfound
    · simp only [hfound, Option.some.injEq, Prod.mk.injEq] at h
      obtain ⟨rfl, rfl⟩ := h
      exact .skipped hskip hfound
  · rw [if_neg hskip] at h
    rw [Bool.not_eq_true] at hskip
    rcases hfound : s.encoding.terminator? (c.rest.take s.longest) with _ | ⟨contentEnd, stop⟩
    · simp only [hfound] at h
      by_cases hlong : s.longest ≤ c.rest.length
      · simp only [if_pos hlong, Option.some.injEq, Prod.mk.injEq] at h
        obtain ⟨rfl, rfl⟩ := h
        exact .cut hskip hfound hlong
      · simp only [if_neg hlong, Option.ite_none_right_eq_some, Option.some.injEq, Prod.mk.injEq,
          Bool.and_eq_true, Bool.not_eq_true', List.isEmpty_eq_false_iff] at h
        obtain ⟨⟨hfin, hne⟩, rfl, rfl⟩ := h
        exact .remainder hskip hfound (by omega) hfin hne
    · simp only [hfound, Option.some.injEq, Prod.mk.injEq] at h
      obtain ⟨rfl, rfl⟩ := h
      exact .whole hskip hfound

section bounds
variable {s : Splitter} {finished : Bool} {c c' : Cursor} {r : Option Record}

/-- Where nothing comes next, the bytes ahead are a record that has not ended. -/
theorem next?_none (h : s.next? finished c = none) :
    s.encoding.terminator? c.rest = none ∧
      c.rest.length < if c.skipping then s.encoding.unit else s.longest := by
  unfold next? at h
  by_cases hskip : c.skipping = true
  · rw [if_pos hskip] at h ⊢
    rcases hfound : s.encoding.terminator? c.rest with _ | ⟨contentEnd, stop⟩
    · simp only [hfound, ite_eq_right_iff, reduceCtorEq, imp_false, Nat.not_lt, Nat.le_zero_eq,
        Encoding.alignDown_eq_zero] at h
      exact ⟨rfl, h⟩
    · simp [hfound] at h
  · rw [if_neg hskip] at h ⊢
    rcases hfound : s.encoding.terminator? (c.rest.take s.longest) with _ | ⟨contentEnd, stop⟩
    · by_cases hlong : s.longest ≤ c.rest.length
      · simp [hfound, hlong] at h
      · rw [List.take_of_length_le (by omega)] at hfound
        exact ⟨hfound, Nat.not_le.1 hlong⟩
    · simp [hfound] at h

theorem alignDown_le_length (h : s.longest ≤ c.rest.length) :
    s.encoding.alignDown s.longest ≤ c.rest.length :=
  Nat.le_trans (s.encoding.alignDown_le _) h

theorem found_le_length {n contentEnd stop : Nat}
    (h : s.encoding.terminator? (c.rest.take n) = some (contentEnd, stop)) : stop ≤ c.rest.length :=
  Nat.le_trans (Encoding.terminator?_le_length h) (List.length_take_le' ..)

theorem Step.move (h : s.Step finished c r c') : ∃ n ≤ c.rest.length, c' = c.move n c'.skipping := by
  cases h with
  | skipped _ hfound => exact ⟨_, Encoding.terminator?_le_length hfound, rfl⟩
  | dropped _ _ hle => exact ⟨_, hle, rfl⟩
  | whole _ hfound => exact ⟨_, found_le_length hfound, rfl⟩
  | cut _ _ hlong => exact ⟨_, alignDown_le_length hlong, rfl⟩
  | remainder => exact ⟨_, Nat.le_refl _, rfl⟩

theorem Step.offset_le (h : s.Step finished c r c') : c.offset ≤ c'.offset := by
  obtain ⟨n, _, hc'⟩ := h.move
  rw [hc']
  exact Nat.le_add_right ..

theorem Step.record {rec : Record} (h : s.Step finished c (some rec) c') :
    rec.start = c.offset ∧ rec.stop = c'.offset ∧ rec.truncated = c'.skipping ∧ c.skipping = false := by
  cases h with
  | whole hskip => exact ⟨rfl, rfl, rfl, hskip⟩
  | cut hskip => exact ⟨rfl, rfl, rfl, hskip⟩
  | remainder hskip => exact ⟨rfl, rfl, rfl, hskip⟩

theorem Step.skipping_of_none (h : s.Step finished c none c') : c.skipping = true := by
  cases h with
  | skipped hskip => exact hskip
  | dropped hskip => exact hskip

theorem Step.weight_lt (h : s.Step finished c r c') : c'.weight < c.weight := by
  cases h with
  | skipped hskip hfound =>
    have := Encoding.terminator?_le_length hfound
    have := Encoding.terminator?_pos hfound
    simp only [Cursor.weight, hskip, Cursor.move_rest, Cursor.move_skipping, List.length_drop]
    grind
  | dropped hskip hpos hle =>
    simp only [Cursor.weight, hskip, Cursor.move_rest, Cursor.move_skipping, List.length_drop]
    grind
  | whole hskip hfound =>
    have := found_le_length hfound
    have := Encoding.terminator?_pos hfound
    simp only [Cursor.weight, hskip, Cursor.move_rest, Cursor.move_skipping, List.length_drop]
    grind
  | cut hskip =>
    simp only [Cursor.weight, hskip, Cursor.move_rest, Cursor.move_skipping, List.length_drop]
    grind
  | remainder hskip _ _ _ hne =>
    have := List.length_pos_iff.2 hne
    simp only [Cursor.weight, hskip, Cursor.move_rest, Cursor.move_skipping, List.length_drop]
    grind

end bounds

theorem next?_eq_none {s : Splitter} {c : Cursor} (hfree : s.encoding.terminator? c.rest = none)
    (hshort : c.rest.length < if c.skipping then s.encoding.unit else s.longest) :
    s.next? false c = none := by
  unfold next?
  by_cases hskip : c.skipping = true
  · rw [if_pos hskip] at hshort ⊢
    simp [hfree, Encoding.alignDown_eq_zero.2 hshort]
  · rw [if_neg hskip] at hshort ⊢
    simp [List.take_of_length_le (Nat.le_of_lt hshort), hfree, Nat.not_le.2 hshort]

/-! ## All records -/

def split (s : Splitter) (finished : Bool) (c : Cursor) : List Record × Cursor :=
  match h : s.next? finished c with
  | none => ([], c)
  | some (r, c') =>
    have : c'.weight < c.weight := (step_of_next? h).weight_lt
    let (rs, last) := split s finished c'
    (r.toList ++ rs, last)
termination_by c.weight

def records (s : Splitter) (finished : Bool) (c : Cursor) : List Record := (s.split finished c).1

def last (s : Splitter) (finished : Bool) (c : Cursor) : Cursor := (s.split finished c).2

theorem split_none {s : Splitter} {finished : Bool} {c : Cursor} (h : s.next? finished c = none) :
    s.split finished c = ([], c) := by
  rw [split]
  split <;> simp_all

theorem split_some {s : Splitter} {finished : Bool} {c c' : Cursor} {r : Option Record}
    (h : s.next? finished c = some (r, c')) :
    s.split finished c = (r.toList ++ s.records finished c', s.last finished c') := by
  rw [split]
  split <;> simp_all [records, last]

/-- Whole units without a terminator may be dropped before the rest of a record is skipped. -/
theorem split_dropped {s : Splitter} {finished : Bool} {c : Cursor} {n : Nat}
    (hskip : c.skipping = true) (hpos : 0 < n) (hle : n ≤ c.rest.length) (hunit : s.encoding.unit ∣ n)
    (hfree : s.encoding.terminator? (c.rest.take n) = none) :
    s.split finished (c.move n true) = s.split finished c := by
  have hdrop := Encoding.terminator?_drop hfree hle hunit
  rcases hfound : s.encoding.terminator? c.rest with _ | ⟨contentEnd, stop⟩
  · have hnone : s.encoding.terminator? (c.rest.drop n) = none := by
      simpa [hfound] using hdrop
    have halign : s.encoding.alignDown c.rest.length =
        n + s.encoding.alignDown (c.rest.length - n) := by
      rw [← Encoding.alignDown_add _ hunit, Nat.add_sub_cancel' hle]
    have hgo : s.next? finished c =
        some (none, c.move (n + s.encoding.alignDown (c.rest.length - n)) true) := by
      simp only [next?, hskip, hfound, halign, if_true]
      rw [if_pos (by omega)]
    by_cases hzero : s.encoding.alignDown (c.rest.length - n) = 0
    · have hstay : s.next? finished (c.move n true) = none := by
        simp [next?, hnone, hzero]
      rw [split_some hgo, hzero, Nat.add_zero, records, last, split_none hstay, Option.toList_none,
        List.nil_append]
    · have hgo' : s.next? finished (c.move n true) =
          some (none, c.move (n + s.encoding.alignDown (c.rest.length - n)) true) := by
        simp [next?, hnone, Nat.pos_of_ne_zero hzero, Cursor.move_move]
      rw [split_some hgo, split_some hgo']
  · obtain ⟨contentEnd', stop', hdropped, rfl⟩ : ∃ contentEnd' stop',
        s.encoding.terminator? (c.rest.drop n) = some (contentEnd', stop') ∧ n + stop' = stop := by
      rcases hd : s.encoding.terminator? (c.rest.drop n) with _ | ⟨contentEnd', stop'⟩
      · simp [hfound, hd] at hdrop
      · exact ⟨contentEnd', stop', rfl, by simpa [hfound, hd] using hdrop⟩
    have hgo : s.next? finished (c.move n true) = some (none, c.move (n + stop') false) := by
      simp [next?, hdropped, Cursor.move_move]
    have hgo' : s.next? finished c = some (none, c.move (n + stop') false) := by
      simp [next?, hskip, hfound]
    rw [split_some hgo, split_some hgo']

/-! ## Readings that stop anywhere -/

/-- A reading leads from a cursor to another, with the records that it meets. -/
inductive Leads (s : Splitter) (finished : Bool) : Cursor → List Record → Cursor → Prop
  | refl (c : Cursor) : Leads s finished c [] c
  | step {c c₁ c₂ : Cursor} {r : Option Record} {rs : List Record} (first : Step s finished c r c₁)
    (others : Leads s finished c₁ rs c₂) : Leads s finished c (r.toList ++ rs) c₂

section readings
variable {s : Splitter} {finished : Bool} {c c' c₁ c₂ : Cursor} {r : Option Record} {rs rs' : List Record}

theorem Step.split_eq (h : s.Step finished c r c') :
    s.split finished c = (r.toList ++ s.records finished c', s.last finished c') := by
  cases h with
  | skipped hskip hfound => exact split_some (by simp [next?, hskip, hfound])
  | dropped hskip hpos hle hunit hfree => rw [← split_dropped hskip hpos hle hunit hfree]; rfl
  | whole hskip hfound => exact split_some (by simp [next?, hskip, hfound])
  | cut hskip hfree hlong => exact split_some (by simp [next?, hskip, hfree, hlong])
  | remainder hskip hfree hshort hfin hne =>
    have : ¬ s.longest ≤ c.rest.length := by omega
    exact split_some (by simp [next?, hskip, hfree, this, hfin, hne])

theorem Leads.trans (h : s.Leads finished c rs c₁) (h' : s.Leads finished c₁ rs' c₂) :
    s.Leads finished c (rs ++ rs') c₂ := by
  induction h with
  | refl => exact h'
  | step first _ ih =>
    rw [List.append_assoc]
    exact .step first (ih h')

theorem Leads.single (h : s.Step finished c r c') : s.Leads finished c r.toList c' := by
  simpa using Leads.step h (.refl c')

/-- **A reading meets the records of where it began**, whatever moves it makes. -/
theorem Leads.records_eq (h : s.Leads finished c rs c') :
    s.records finished c = rs ++ s.records finished c' := by
  induction h with
  | refl => rfl
  | step first _ ih => rw [records, first.split_eq, ih, List.append_assoc]

theorem Leads.last_eq (h : s.Leads finished c rs c') : s.last finished c = s.last finished c' := by
  induction h with
  | refl => rfl
  | step first _ ih => rw [last, first.split_eq, ih]

theorem leads_last (s : Splitter) (finished : Bool) (c : Cursor) :
    s.Leads finished c (s.records finished c) (s.last finished c) ∧
      s.next? finished (s.last finished c) = none := by
  induction hw : c.weight using Nat.strongRecOn generalizing c with
  | ind w ih =>
    rcases hnext : s.next? finished c with _ | ⟨r, c'⟩
    · rw [records, last, split_none hnext]
      exact ⟨.refl c, hnext⟩
    · have hstep := step_of_next? hnext
      have hlt := hstep.weight_lt
      obtain ⟨hleads, hend⟩ := ih c'.weight (by omega) c' rfl
      rw [records, last, split_some hnext]
      exact ⟨.step hstep hleads, hend⟩

theorem Leads.eq_of_next?_none (h : s.Leads finished c rs c') (hend : s.next? finished c' = none) :
    s.records finished c = rs ∧ s.last finished c = c' := by
  have hsplit := split_none hend
  rw [h.records_eq, h.last_eq, records, last, hsplit]
  simp

theorem Leads.eq_nil (h : s.Leads finished c rs c') (hskip : c.skipping = true)
    (hfree : s.encoding.terminator? c.rest = none) : rs = [] ∧ c'.skipping = true := by
  induction h with
  | refl => exact ⟨rfl, hskip⟩
  | step first _ ih =>
    cases first with
    | skipped _ hfound => rw [hfree] at hfound; cases hfound
    | dropped _ _ hle hunit hnone =>
      apply ih rfl
      simpa [hfree] using Encoding.terminator?_drop hnone hle hunit
    | whole hreads => rw [hskip] at hreads; cases hreads
    | cut hreads => rw [hskip] at hreads; cases hreads
    | remainder hreads => rw [hskip] at hreads; cases hreads

theorem Leads.move (h : s.Leads finished c rs c') :
    ∃ n ≤ c.rest.length, c' = c.move n c'.skipping := by
  induction h with
  | refl c => exact ⟨0, Nat.zero_le _, Cursor.move_zero.symm⟩
  | step first _ ih =>
    obtain ⟨m, hm, hc₁⟩ := first.move
    obtain ⟨n, hn, hc₂⟩ := ih
    rw [hc₁] at hn hc₂
    rw [Cursor.move_rest, List.length_drop] at hn
    exact ⟨m + n, by omega, by rw [← Cursor.move_move]; exact hc₂⟩

theorem Leads.offset_le (h : s.Leads finished c rs c') : c.offset ≤ c'.offset := by
  obtain ⟨n, _, hc'⟩ := h.move
  rw [hc']
  exact Nat.le_add_right ..

theorem Leads.stop_eq (h : s.Leads finished c rs c') : c'.offset + c'.rest.length = c.offset + c.rest.length := by
  obtain ⟨n, hn, hc'⟩ := h.move
  rw [hc', Cursor.move_offset, Cursor.move_rest, List.length_drop]
  omega

/-! ## More bytes -/

theorem Step.append (h : s.Step false c r c') (more : Bytes) :
    s.Step false (c.append more) r (c'.append more) := by
  cases h with
  | skipped hskip hfound =>
    rw [← Cursor.append_move (Encoding.terminator?_le_length hfound)]
    exact .skipped hskip (Encoding.terminator?_append hfound more)
  | dropped hskip hpos hle hunit hfree =>
    rw [← Cursor.append_move hle]
    refine .dropped hskip hpos ?_ hunit ?_
    · rw [Cursor.append_rest, List.length_append]
      omega
    · rwa [Cursor.append_rest, List.take_append_of_le_length hle]
  | whole hskip hfound =>
    have hle := found_le_length hfound
    have hlt := Encoding.contentEnd_lt_terminator? hfound
    rw [← Cursor.append_move hle, ← Cursor.append_record (by omega) more]
    refine .whole hskip ?_
    rw [Cursor.append_rest, List.take_append]
    exact Encoding.terminator?_append hfound _
  | cut hskip hfree hlong =>
    have hle := alignDown_le_length hlong
    rw [← Cursor.append_move hle, ← Cursor.append_record hle more]
    refine .cut hskip ?_ ?_
    · rwa [Cursor.append_rest, List.take_append_of_le_length hlong]
    · rw [Cursor.append_rest, List.length_append]
      omega
  | remainder _ _ _ hfin => cases hfin

/-- **Bytes that arrive later change nothing of what was met before.** -/
theorem Leads.append (h : s.Leads false c rs c') (more : Bytes) :
    s.Leads false (c.append more) rs (c'.append more) := by
  induction h with
  | refl => exact .refl _
  | step first _ ih => exact .step (first.append more) ih

/-! ## Records behind a cursor -/

/-- How far a cursor is: a record that is cut to nothing counts half a byte. -/
def rank (c : Cursor) : Nat := 2 * c.offset + if c.skipping then 1 else 0

theorem Step.rank_lt (h : s.Step finished c r c') : rank c < rank c' := by
  cases h with
  | skipped hskip hfound =>
    have := Encoding.terminator?_pos hfound
    simp only [rank, hskip, Cursor.move_offset, Cursor.move_skipping]
    grind
  | dropped hskip hpos =>
    simp only [rank, hskip, Cursor.move_offset, Cursor.move_skipping]
    omega
  | whole hskip hfound =>
    have := Encoding.terminator?_pos hfound
    simp only [rank, hskip, Cursor.move_offset, Cursor.move_skipping]
    grind
  | cut hskip =>
    simp only [rank, hskip, Cursor.move_offset, Cursor.move_skipping]
    grind
  | remainder hskip _ _ _ hne =>
    have := List.length_pos_iff.2 hne
    simp only [rank, hskip, Cursor.move_offset, Cursor.move_skipping]
    grind

theorem Leads.rank_le (h : s.Leads finished c rs c') : rank c ≤ rank c' := by
  induction h with
  | refl => exact Nat.le_refl _
  | step first _ ih => exact Nat.le_trans (Nat.le_of_lt first.rank_lt) ih

theorem Leads.bounds (h : s.Leads finished c rs c') {rec : Record} (hrec : rec ∈ rs) :
    rank c ≤ 2 * rec.start ∧ rec.start ≤ rec.stop ∧ 2 * rec.start < rank c' ∧ rec.stop ≤ c'.offset := by
  induction h with
  | refl => simp at hrec
  | @step c c₁ c₂ r rs first others ih =>
    rcases List.mem_append.1 hrec with hrec | hrec
    · rw [Option.mem_toList] at hrec
      subst hrec
      obtain ⟨hstart, hstop, _, hreads⟩ := first.record
      have hfirst := first.rank_lt
      have hothers := others.rank_le
      have hle := first.offset_le
      have hle' := others.offset_le
      have hrank : rank c = 2 * c.offset := by rw [rank, hreads]; rfl
      omega
    · obtain ⟨hstart, hends⟩ := ih hrec
      exact ⟨Nat.le_trans (Nat.le_of_lt first.rank_lt) hstart, hends⟩

theorem Leads.apart (h : s.Leads finished c rs c') : rs.Pairwise fun r r' => r.stop ≤ r'.start := by
  induction h with
  | refl => exact .nil
  | @step c c₁ c₂ r rs first others ih =>
    refine List.pairwise_append.2 ⟨by cases r <;> simp, ih, fun rec hrec rec' hrec' => ?_⟩
    rw [Option.mem_toList] at hrec
    subst hrec
    obtain ⟨-, hstop, -⟩ := first.record
    have hbehind := (others.bounds hrec').1
    rw [rank] at hbehind
    omega

/-- **The records behind a cursor** are those that a reading met on the way to it. -/
theorem Leads.filter_endsBy (h : s.Leads finished c rs c') :
    (s.records finished c).filter (fun r => r.endsBy c'.offset c'.skipping) = rs := by
  have hbehind : ∀ rec ∈ rs, rec.endsBy c'.offset c'.skipping = true := by
    intro rec hrec
    obtain ⟨_, _, hstart, hstop⟩ := h.bounds hrec
    rcases hskip : c'.skipping with _ | _
    · simp only [rank, hskip, Bool.false_eq_true, if_false] at hstart
      simp [Record.endsBy, hstop, show rec.start < c'.offset by omega]
    · simp [Record.endsBy, hstop]
  have hahead : ∀ rec ∈ s.records finished c', ¬ rec.endsBy c'.offset c'.skipping = true := by
    intro rec hrec
    obtain ⟨hstart, hle, _⟩ := (leads_last s finished c').1.bounds hrec
    rcases hskip : c'.skipping with _ | _
    · simp only [rank, hskip, Bool.false_eq_true, if_false] at hstart
      simp [Record.endsBy, show ¬ rec.start < c'.offset by omega]
    · simp only [rank, hskip, if_true] at hstart
      simp [Record.endsBy, show ¬ rec.stop ≤ c'.offset by omega]
  rw [h.records_eq, List.filter_append, List.filter_eq_self.2 hbehind, List.filter_eq_nil_iff.2 hahead,
    List.append_nil]

/-! ## Cuts and tails -/

/-- A cut ends behind every tail that is shorter than the longest record: the longest record fills whole
units, but for one byte at most. -/
def CutsBehindTails (s : Splitter) : Prop := s.longest % s.encoding.unit ≤ 1

instance (s : Splitter) : Decidable s.CutsBehindTails := inferInstanceAs (Decidable (_ ≤ _))

/-- A cut from a cursor, if there is one, ends behind a tail. -/
def CutsBehind (s : Splitter) (c : Cursor) (tail : Bytes) : Prop :=
  c.skipping = false → s.next? false c = none ∨ tail.length ≤ s.encoding.alignDown s.longest

theorem CutsBehindTails.behind (hs : s.CutsBehindTails) {tail : Bytes}
    (hshort : tail.length < if c.skipping then s.encoding.unit else s.longest) : s.CutsBehind c tail := by
  intro hreads
  rw [hreads, if_neg Bool.false_ne_true] at hshort
  have : s.longest % s.encoding.unit ≤ 1 := hs
  right
  rw [Encoding.alignDown]
  omega

theorem Step.tail_le {tail more : Bytes} (h : s.Step finished c r c') (hs : s.CutsBehind c tail)
    (hrest : c.rest = tail ++ more) (hfree : s.encoding.terminator? tail = none)
    (hshort : tail.length < if c.skipping then s.encoding.unit else s.longest) :
    c.offset + tail.length ≤ c'.offset := by
  cases h with
  | skipped hskip hfound =>
    rw [hrest] at hfound
    have := Encoding.length_lt_terminator? hfree hfound
    rw [Cursor.move_offset]
    omega
  | dropped hskip hpos _ hunit =>
    have := Nat.le_of_dvd hpos hunit
    rw [if_pos hskip] at hshort
    rw [Cursor.move_offset]
    omega
  | whole hskip hfound =>
    rw [hskip, if_neg Bool.false_ne_true] at hshort
    rw [hrest, List.take_append, List.take_of_length_le (by omega)] at hfound
    have := Encoding.length_lt_terminator? hfree hfound
    rw [Cursor.move_offset]
    omega
  | cut hskip _ hlong =>
    rcases hs hskip with hnone | hle
    · have hless := (next?_none hnone).2
      rw [hskip, if_neg Bool.false_ne_true] at hless
      omega
    · rw [Cursor.move_offset]
      omega
  | remainder =>
    rw [Cursor.move_offset, hrest, List.length_append]
    omega

/-! ## The last record of a finished file -/

theorem Step.finish (h : s.Step false c r c') (finished : Bool) : s.Step finished c r c' := by
  cases h with
  | skipped hskip hfound => exact .skipped hskip hfound
  | dropped hskip hpos hle hunit hfree => exact .dropped hskip hpos hle hunit hfree
  | whole hskip hfound => exact .whole hskip hfound
  | cut hskip hfree hlong => exact .cut hskip hfree hlong
  | remainder _ _ _ hfin => cases hfin

theorem Step.of_finished (h : s.Step true c r c') :
    s.Step false c r c' ∨ (s.next? false c = none ∧ c.skipping = false ∧ c.rest ≠ []) := by
  cases h with
  | skipped hskip hfound => exact .inl (.skipped hskip hfound)
  | dropped hskip hpos hle hunit hfree => exact .inl (.dropped hskip hpos hle hunit hfree)
  | whole hskip hfound => exact .inl (.whole hskip hfound)
  | cut hskip hfree hlong => exact .inl (.cut hskip hfree hlong)
  | remainder hskip hfree hshort _ hne =>
    refine .inr ⟨?_, hskip, hne⟩
    have : ¬ s.longest ≤ c.rest.length := by omega
    simp [next?, hskip, hfree, this]

theorem next?_finished_none (h : s.next? false c = none) (hleft : c.skipping = true ∨ c.rest = []) :
    s.next? true c = none := by
  rcases hnext : s.next? true c with _ | ⟨r, c'⟩
  · rfl
  · unfold next? at h hnext
    rcases hleft with hskip | hrest
    · rw [if_pos hskip] at h hnext
      rw [h] at hnext
      cases hnext
    · simp_all

theorem Leads.of_finished (h : s.Leads true c rs c')
    (hdone : (s.last false c).skipping = true ∨ (s.last false c).rest = []) :
    s.Leads false c rs c' := by
  induction h with
  | refl => exact .refl _
  | step first _ ih =>
    rcases first.of_finished with hstep | ⟨hnone, hskip, hne⟩
    · refine .step hstep (ih ?_)
      rwa [last, hstep.split_eq] at hdone
    · rw [last, split_none hnone] at hdone
      rcases hdone with hdone | hdone
      · rw [hskip] at hdone
        cases hdone
      · exact absurd hdone hne

end readings

end Splitter

end LogTail
