import LogTail.Encoding

/-!
# The first terminator

`terminator?` reads byte by byte; here it is described by the units of the byte string: it ends with the
first unit that is a line feed, and the content before it ends in front of one carriage return
(`terminator?_eq_some_iff`). What follows is how a terminator is found when more bytes arrive
(`terminator?_append`), when bytes are cut off (`terminator?_of_append`), and when whole units without a line
feed are dropped from the front (`terminator?_drop`); so the search can be made in parts
(`terminator?_incremental`).
-/

namespace LogTail.Encoding

def unitAt (e : Encoding) (bs : Bytes) (k : Nat) : Bytes := (bs.drop (k * e.unit)).take e.unit

/-- The unit with a given number is a line feed, and none before it is. -/
structure FirstFeed (e : Encoding) (bs : Bytes) (k : Nat) : Prop where
  inside : (k + 1) * e.unit ≤ bs.length
  feed : e.unitAt bs k = e.lineFeed
  before : ∀ j < k, e.unitAt bs j ≠ e.lineFeed

def contentEnd (e : Encoding) (bs : Bytes) (k : Nat) : Nat :=
  if 0 < k ∧ e.unitAt bs (k - 1) = e.carriageReturn then (k - 1) * e.unit else k * e.unit

theorem unit_pos (e : Encoding) : 0 < e.unit := by cases e <;> decide

theorem lineFeed_length (e : Encoding) : e.lineFeed.length = e.unit := by cases e <;> rfl

theorem carriageReturn_length (e : Encoding) : e.carriageReturn.length = e.unit := by cases e <;> rfl

theorem carriageReturn_ne_lineFeed (e : Encoding) : e.carriageReturn ≠ e.lineFeed := by cases e <;> decide

theorem alignDown_le (e : Encoding) (n : Nat) : e.alignDown n ≤ n := Nat.sub_le _ _

theorem unit_dvd_alignDown (e : Encoding) (n : Nat) : e.unit ∣ e.alignDown n := Nat.dvd_sub_mod n

theorem sub_alignDown_lt (e : Encoding) (n : Nat) : n - e.alignDown n < e.unit := by
  have hmod := Nat.mod_lt n e.unit_pos
  have hle := Nat.mod_le n e.unit
  unfold alignDown
  omega

theorem alignDown_eq_zero {e : Encoding} {n : Nat} : e.alignDown n = 0 ↔ n < e.unit := by
  constructor
  · intro h
    have := e.sub_alignDown_lt n
    omega
  · intro h
    rw [alignDown, Nat.mod_eq_of_lt h, Nat.sub_self]

theorem alignDown_add {e : Encoding} {m : Nat} (n : Nat) (h : e.unit ∣ m) :
    e.alignDown (m + n) = m + e.alignDown n := by
  obtain ⟨k, rfl⟩ := h
  have := Nat.mod_le n e.unit
  rw [alignDown, alignDown, Nat.mul_add_mod]
  omega

/-! ## Units -/

theorem unitAt_append {e : Encoding} {a : Bytes} (b : Bytes) {k : Nat} (h : (k + 1) * e.unit ≤ a.length) :
    e.unitAt (a ++ b) k = e.unitAt a k := by
  rw [Nat.succ_mul] at h
  rw [unitAt, unitAt, List.drop_append_of_le_length (by omega),
    List.take_append_of_le_length (by rw [List.length_drop]; omega)]

theorem unitAt_drop (e : Encoding) (bs : Bytes) (m k : Nat) :
    e.unitAt (bs.drop (m * e.unit)) k = e.unitAt bs (m + k) := by
  rw [unitAt, unitAt, List.drop_drop, Nat.add_mul]

theorem unitAt_append_right {e : Encoding} {a : Bytes} {m : Nat} (h : a.length = m * e.unit) (b : Bytes) (j : Nat) :
    e.unitAt (a ++ b) (m + j) = e.unitAt b j := by
  rw [← unitAt_drop, ← h, List.drop_left]

theorem unitAt_zero_append {e : Encoding} {a : Bytes} (h : a.length = e.unit) (b : Bytes) :
    e.unitAt (a ++ b) 0 = a := by
  rw [unitAt, Nat.zero_mul, List.drop_zero, ← h, List.take_left]

theorem suffix_of_unitAt {e : Encoding} {a unit : Bytes} {m : Nat} (h : a.length = (m + 1) * e.unit)
    (hunit : e.unitAt a m = unit) : unit <:+ a := by
  rw [unitAt, List.take_of_length_le (by rw [List.length_drop, h, Nat.succ_mul]; omega)] at hunit
  exact hunit ▸ List.drop_suffix ..

theorem FirstFeed.append {e : Encoding} {a : Bytes} {k : Nat} (h : e.FirstFeed a k) (b : Bytes) :
    e.FirstFeed (a ++ b) k where
  inside := by
    have := h.inside
    rw [List.length_append]
    omega
  feed := by rw [unitAt_append b h.inside, h.feed]
  before j hj := by
    have := Nat.mul_le_mul_right e.unit (show j + 1 ≤ k + 1 by omega)
    rw [unitAt_append b (by have := h.inside; omega)]
    exact h.before j hj

theorem FirstFeed.of_append {e : Encoding} {a b : Bytes} {k : Nat} (h : e.FirstFeed (a ++ b) k)
    (hin : (k + 1) * e.unit ≤ a.length) : e.FirstFeed a k where
  inside := hin
  feed := by rw [← unitAt_append b hin, h.feed]
  before j hj := by
    have := Nat.mul_le_mul_right e.unit (show j + 1 ≤ k + 1 by omega)
    rw [← unitAt_append b (by omega)]
    exact h.before j hj

theorem contentEnd_append {e : Encoding} {a : Bytes} (b : Bytes) {k : Nat}
    (h : (k + 1) * e.unit ≤ a.length) : e.contentEnd (a ++ b) k = e.contentEnd a k := by
  rcases Nat.eq_zero_or_pos k with rfl | hk
  · simp [contentEnd]
  · have := Nat.mul_le_mul_right e.unit (show k - 1 + 1 ≤ k + 1 by omega)
    rw [contentEnd, contentEnd, unitAt_append b (by omega)]

theorem contentEnd_le (e : Encoding) (bs : Bytes) (k : Nat) : e.contentEnd bs k ≤ k * e.unit := by
  have := Nat.mul_le_mul_right e.unit (Nat.sub_le k 1)
  unfold contentEnd
  split <;> omega

/-! ## The search by units -/

theorem terminatorFrom_begun (e : Encoding) (offset : Nat) (afterReturn : Bool) (bs begun : Bytes)
    (h : begun.length < e.unit) :
    e.terminatorFrom offset begun afterReturn bs =
      if begun.length + bs.length < e.unit then none
      else if (begun ++ bs).take e.unit = e.lineFeed then
        some (if afterReturn then offset - e.unit else offset, offset + e.unit)
      else
        e.terminatorFrom (offset + e.unit) [] ((begun ++ bs).take e.unit = e.carriageReturn)
          ((begun ++ bs).drop e.unit) := by
  induction bs generalizing begun with
  | nil => simp [terminatorFrom, h]
  | cons b rest ih =>
    have happend : begun ++ b :: rest = (begun ++ [b]) ++ rest := by simp
    by_cases hshort : (begun ++ [b]).length < e.unit
    · rw [terminatorFrom, if_pos hshort, ih _ hshort, happend]
      simp only [List.length_append, List.length_cons, List.length_nil]
      congr 2
      omega
    · have hfull : (begun ++ [b]).length = e.unit := by simp at hshort ⊢; omega
      have htake : (begun ++ b :: rest).take e.unit = begun ++ [b] := by
        rw [happend, ← hfull, List.take_left]
      have hdrop : (begun ++ b :: rest).drop e.unit = rest := by rw [happend, ← hfull, List.drop_left]
      rw [terminatorFrom, if_neg hshort, htake, hdrop,
        if_neg (show ¬ begun.length + (b :: rest).length < e.unit by simp at hfull ⊢; omega)]

theorem terminatorFrom_unit (e : Encoding) (offset : Nat) (afterReturn : Bool) (bs : Bytes) :
    e.terminatorFrom offset [] afterReturn bs =
      if bs.length < e.unit then none
      else if e.unitAt bs 0 = e.lineFeed then
        some (if afterReturn then offset - e.unit else offset, offset + e.unit)
      else
        e.terminatorFrom (offset + e.unit) [] (e.unitAt bs 0 = e.carriageReturn) (bs.drop e.unit) := by
  simpa [unitAt] using e.terminatorFrom_begun offset afterReturn bs [] e.unit_pos

theorem firstFeed_zero {e : Encoding} {bs : Bytes} :
    e.FirstFeed bs 0 ↔ e.unit ≤ bs.length ∧ e.unitAt bs 0 = e.lineFeed :=
  ⟨fun h => ⟨by simpa using h.inside, h.feed⟩, fun h => ⟨by simpa using h.1, h.2, by simp⟩⟩

theorem firstFeed_succ {e : Encoding} {bs : Bytes} {k : Nat} :
    e.FirstFeed bs (k + 1) ↔ e.unitAt bs 0 ≠ e.lineFeed ∧ e.FirstFeed (bs.drop e.unit) k := by
  have hunit (j : Nat) : e.unitAt (bs.drop e.unit) j = e.unitAt bs (j + 1) := by
    simpa [Nat.add_comm] using e.unitAt_drop bs 1 j
  have hin : (k + 1 + 1) * e.unit ≤ bs.length ↔ (k + 1) * e.unit ≤ (bs.drop e.unit).length := by
    have : e.unit ≤ (k + 1) * e.unit := Nat.le_mul_of_pos_left e.unit (Nat.succ_pos k)
    rw [List.length_drop, Nat.succ_mul (k + 1)]
    omega
  constructor
  · intro h
    exact ⟨h.before 0 (by omega), hin.1 h.inside, by rw [hunit, h.feed],
      fun j hj => by rw [hunit]; exact h.before (j + 1) (by omega)⟩
  · rintro ⟨hzero, h⟩
    refine ⟨hin.2 h.inside, by rw [← hunit, h.feed], ?_⟩
    intro j hj
    cases j with
    | zero => exact hzero
    | succ j => rw [← hunit]; exact h.before j (by omega)

theorem firstFeed_lineFeed (e : Encoding) : e.FirstFeed e.lineFeed 0 := by
  have hunit := unitAt_zero_append e.lineFeed_length []
  rw [List.append_nil] at hunit
  exact firstFeed_zero.2 ⟨Nat.le_of_eq e.lineFeed_length.symm, hunit⟩

/-- What the search from an offset finds: the first line feed, with a carriage return in front of it
that lies in the bytes or ends at the offset. -/
theorem terminatorFrom_eq_some_iff (e : Encoding) (bs : Bytes) (offset : Nat) (afterReturn : Bool)
    (c r : Nat) :
    e.terminatorFrom offset [] afterReturn bs = some (c, r) ↔
      ∃ k, e.FirstFeed bs k ∧ r = offset + (k + 1) * e.unit ∧
        c = if k = 0 ∧ afterReturn then offset - e.unit else offset + e.contentEnd bs k := by
  induction hn : bs.length using Nat.strongRecOn generalizing bs offset afterReturn with
  | ind n ih =>
    have hpos := e.unit_pos
    rw [terminatorFrom_unit]
    by_cases hshort : bs.length < e.unit
    · rw [if_pos hshort]
      constructor
      · intro h
        cases h
      · rintro ⟨k, h, -, -⟩
        have := h.inside
        have : e.unit ≤ (k + 1) * e.unit := Nat.le_mul_of_pos_left e.unit (Nat.succ_pos k)
        omega
    rw [if_neg hshort]
    by_cases hfeed : e.unitAt bs 0 = e.lineFeed
    · rw [if_pos hfeed]
      constructor
      · intro h
        refine ⟨0, firstFeed_zero.2 ⟨by omega, hfeed⟩, ?_⟩
        simp only [Option.some.injEq, Prod.mk.injEq] at h
        simp [← h.1, ← h.2, contentEnd]
      · rintro ⟨k, h, rfl, rfl⟩
        cases k with
        | zero => simp [contentEnd]
        | succ k => exact absurd hfeed (h.before 0 (by omega))
    · rw [if_neg hfeed, ih (bs.drop e.unit).length (by rw [List.length_drop]; omega) _ _ _ rfl]
      have hend (k : Nat) :
          (if k = 0 ∧ (decide (e.unitAt bs 0 = e.carriageReturn) = true) then offset + e.unit - e.unit
            else offset + e.unit + e.contentEnd (bs.drop e.unit) k) = offset + e.contentEnd bs (k + 1) := by
        cases k with
        | zero => by_cases hcr : e.unitAt bs 0 = e.carriageReturn <;> simp [contentEnd, hcr]
        | succ k =>
          have hunit : e.unitAt (bs.drop e.unit) k = e.unitAt bs (k + 1) := by
            simpa [Nat.add_comm] using e.unitAt_drop bs 1 k
          by_cases hcr : e.unitAt bs (k + 1) = e.carriageReturn <;>
            simp [contentEnd, hunit, hcr, Nat.succ_mul] <;> omega
      constructor
      · rintro ⟨k, h, rfl, rfl⟩
        refine ⟨k + 1, firstFeed_succ.2 ⟨hfeed, h⟩, by rw [Nat.succ_mul (k + 1)]; omega, ?_⟩
        rw [hend, if_neg (by simp)]
      · rintro ⟨k, h, rfl, rfl⟩
        cases k with
        | zero => exact absurd (firstFeed_zero.1 h).2 hfeed
        | succ k =>
          refine ⟨k, (firstFeed_succ.1 h).2, by rw [Nat.succ_mul (k + 1)]; omega, ?_⟩
          rw [hend, if_neg (by simp)]

/-- **The first terminator, by units.** It ends with the first unit that is a line feed; the content
ends before that unit, and before one carriage return in front of it. -/
theorem terminator?_eq_some_iff {e : Encoding} {bs : Bytes} {c r : Nat} :
    e.terminator? bs = some (c, r) ↔
      ∃ k, e.FirstFeed bs k ∧ r = (k + 1) * e.unit ∧ c = e.contentEnd bs k := by
  rw [terminator?, terminatorFrom_eq_some_iff]
  simp

theorem terminator?_eq_none_iff {e : Encoding} {bs : Bytes} :
    e.terminator? bs = none ↔ ∀ k, ¬ e.FirstFeed bs k := by
  constructor
  · intro h k hk
    have := terminator?_eq_some_iff.2 ⟨k, hk, rfl, rfl⟩
    rw [h] at this
    cases this
  · intro h
    rcases hfound : e.terminator? bs with _ | ⟨c, r⟩
    · rfl
    · obtain ⟨k, hk, _⟩ := terminator?_eq_some_iff.1 hfound
      exact absurd hk (h k)

/-! ## Bounds -/

section found
variable {e : Encoding} {bs : Bytes} {c r : Nat}

theorem terminator?_le_length (h : e.terminator? bs = some (c, r)) : r ≤ bs.length := by
  obtain ⟨k, hk, rfl, _⟩ := terminator?_eq_some_iff.1 h
  exact hk.inside

theorem unit_le_terminator? (h : e.terminator? bs = some (c, r)) : e.unit ≤ r := by
  obtain ⟨k, hk, rfl, _⟩ := terminator?_eq_some_iff.1 h
  exact Nat.le_mul_of_pos_left e.unit (Nat.succ_pos k)

theorem terminator?_pos (h : e.terminator? bs = some (c, r)) : 0 < r :=
  Nat.lt_of_lt_of_le e.unit_pos (unit_le_terminator? h)

theorem contentEnd_lt_terminator? (h : e.terminator? bs = some (c, r)) : c < r := by
  obtain ⟨k, hk, rfl, rfl⟩ := terminator?_eq_some_iff.1 h
  have := e.contentEnd_le bs k
  have := e.unit_pos
  rw [Nat.succ_mul]
  omega

end found

theorem terminator?_eq_none_of_length_lt {e : Encoding} {bs : Bytes} (h : bs.length < e.unit) :
    e.terminator? bs = none := by
  rcases hfound : e.terminator? bs with _ | ⟨c, r⟩
  · rfl
  · have := unit_le_terminator? hfound
    have := terminator?_le_length hfound
    omega

@[simp] theorem terminator?_nil (e : Encoding) : e.terminator? [] = none :=
  terminator?_eq_none_of_length_lt e.unit_pos

/-! ## More bytes, fewer bytes -/

theorem terminator?_append {e : Encoding} {a : Bytes} {t : Nat × Nat} (h : e.terminator? a = some t)
    (b : Bytes) : e.terminator? (a ++ b) = some t := by
  obtain ⟨c, r⟩ := t
  obtain ⟨k, hk, rfl, rfl⟩ := terminator?_eq_some_iff.1 h
  exact terminator?_eq_some_iff.2 ⟨k, hk.append b, rfl, (contentEnd_append b hk.inside).symm⟩

theorem terminator?_of_append {e : Encoding} {a b : Bytes} {c r : Nat}
    (h : e.terminator? (a ++ b) = some (c, r)) (hr : r ≤ a.length) : e.terminator? a = some (c, r) := by
  obtain ⟨k, hk, rfl, rfl⟩ := terminator?_eq_some_iff.1 h
  exact terminator?_eq_some_iff.2 ⟨k, hk.of_append hr, rfl, contentEnd_append b hr⟩

theorem length_lt_terminator? {e : Encoding} {a b : Bytes} {c r : Nat} (ha : e.terminator? a = none)
    (h : e.terminator? (a ++ b) = some (c, r)) : a.length < r := by
  rcases Nat.lt_or_ge a.length r with hlt | hge
  · exact hlt
  · rw [terminator?_of_append h hge] at ha
    cases ha

theorem terminator?_eq_none_of_append {e : Encoding} {a b : Bytes} (h : e.terminator? (a ++ b) = none) :
    e.terminator? a = none := by
  rcases hfound : e.terminator? a with _ | t
  · rfl
  · rw [terminator?_append hfound b] at h
    cases h

theorem exists_firstFeed {e : Encoding} {bs : Bytes} {j : Nat} (hin : (j + 1) * e.unit ≤ bs.length)
    (hfeed : e.unitAt bs j = e.lineFeed) : ∃ k ≤ j, e.FirstFeed bs k := by
  induction j using Nat.strongRecOn with
  | ind j ih =>
    by_cases hbefore : ∃ i < j, e.unitAt bs i = e.lineFeed
    · obtain ⟨i, hi, hif⟩ := hbefore
      have := Nat.mul_le_mul_right e.unit (show i + 1 ≤ j + 1 by omega)
      obtain ⟨k, hk, hfirst⟩ := ih i hi (by omega) hif
      exact ⟨k, by omega, hfirst⟩
    · exact ⟨j, Nat.le_refl j, hin, hfeed, fun i hi h => hbefore ⟨i, hi, h⟩⟩

theorem unitAt_ne_lineFeed {e : Encoding} {bs : Bytes} (h : e.terminator? bs = none) {j : Nat}
    (hin : (j + 1) * e.unit ≤ bs.length) : e.unitAt bs j ≠ e.lineFeed := by
  intro hfeed
  obtain ⟨k, _, hfirst⟩ := exists_firstFeed hin hfeed
  exact terminator?_eq_none_iff.1 h k hfirst

theorem firstFeed_drop {e : Encoding} {bs : Bytes} {m k : Nat}
    (hnone : e.terminator? (bs.take (m * e.unit)) = none) (hm : m * e.unit ≤ bs.length) :
    e.FirstFeed (bs.drop (m * e.unit)) k ↔ e.FirstFeed bs (m + k) := by
  have hin : (m + k + 1) * e.unit ≤ bs.length ↔ (k + 1) * e.unit ≤ (bs.drop (m * e.unit)).length := by
    rw [List.length_drop, show m + k + 1 = m + (k + 1) by omega, Nat.add_mul m]
    omega
  constructor
  · intro h
    refine ⟨hin.2 h.inside, by rw [← unitAt_drop, h.feed], ?_⟩
    intro j hj hfeed
    rcases Nat.lt_or_ge j m with hlt | hge
    · have hle := Nat.mul_le_mul_right e.unit (show j + 1 ≤ m by omega)
      have hlen : (j + 1) * e.unit ≤ (bs.take (m * e.unit)).length := by rw [List.length_take]; omega
      apply unitAt_ne_lineFeed hnone hlen
      rw [← unitAt_append (bs.drop (m * e.unit)) hlen, List.take_append_drop, hfeed]
    · have := h.before (j - m) (by omega)
      rw [unitAt_drop, show m + (j - m) = j by omega] at this
      exact this hfeed
  · intro h
    exact ⟨hin.1 h.inside, by rw [unitAt_drop, h.feed],
      fun j hj => by rw [unitAt_drop]; exact h.before (m + j) (by omega)⟩

theorem firstFeed_append {e : Encoding} {a b : Bytes} {m k : Nat} (hm : a.length = m * e.unit)
    (hfree : e.terminator? a = none) (h : e.FirstFeed b k) : e.FirstFeed (a ++ b) (m + k) := by
  have hdrop : (a ++ b).drop (m * e.unit) = b := by rw [← hm, List.drop_left]
  have htake : (a ++ b).take (m * e.unit) = a := by rw [← hm, List.take_left]
  refine (firstFeed_drop (by rwa [htake]) ?_).1 (by rwa [hdrop])
  rw [List.length_append]
  omega

theorem terminator?_drop {e : Encoding} {bs : Bytes} {n : Nat} (hnone : e.terminator? (bs.take n) = none)
    (hn : n ≤ bs.length) (hunit : e.unit ∣ n) :
    (e.terminator? (bs.drop n)).map (fun t => n + t.2) = (e.terminator? bs).map (·.2) := by
  obtain ⟨m, rfl⟩ := hunit
  rw [Nat.mul_comm] at hnone hn ⊢
  rcases hfound : e.terminator? (bs.drop (m * e.unit)) with _ | ⟨c, r⟩
  · rw [Option.map_none]
    rcases hall : e.terminator? bs with _ | ⟨c, r⟩
    · rfl
    · obtain ⟨k, hk, rfl, _⟩ := terminator?_eq_some_iff.1 hall
      have hge : m ≤ k := by
        rcases Nat.lt_or_ge k m with hlt | hge
        · have := Nat.mul_le_mul_right e.unit (show k + 1 ≤ m by omega)
          rw [← List.take_append_drop (m * e.unit) bs] at hk
          exact absurd (hk.of_append (by rw [List.length_take]; omega))
            (terminator?_eq_none_iff.1 hnone k)
        · exact hge
      rw [show k = m + (k - m) by omega, ← firstFeed_drop hnone hn] at hk
      exact absurd hk (terminator?_eq_none_iff.1 hfound _)
  · obtain ⟨k, hk, rfl, _⟩ := terminator?_eq_some_iff.1 hfound
    have := terminator?_eq_some_iff.2 ⟨m + k, (firstFeed_drop hnone hn).1 hk, rfl, rfl⟩
    rw [this, Option.map_some, Option.map_some, show m + k + 1 = m + (k + 1) by omega, Nat.add_mul m]

/-- Of bytes without a terminator, whole units can be dropped from the front before more bytes arrive: what is found
then ends in the same place. -/
theorem terminator?_drop_append {e : Encoding} {a : Bytes} {n : Nat} (hnone : e.terminator? a = none)
    (hn : n ≤ a.length) (hunit : e.unit ∣ n) (b : Bytes) (r : Nat) :
    (∃ c, e.terminator? (a ++ b) = some (c, r)) ↔ ∃ c, e.terminator? ((a ++ b).drop n) = some (c, r - n) := by
  have htake : e.terminator? ((a ++ b).take n) = none := by
    rw [List.take_append_of_le_length hn]
    exact terminator?_eq_none_of_append (b := a.drop n) (by rwa [List.take_append_drop])
  have hsame := terminator?_drop htake (by rw [List.length_append]; omega) hunit
  constructor
  · rintro ⟨c, h⟩
    rw [h, Option.map_some] at hsame
    obtain ⟨⟨c', s⟩, hfound, hs⟩ := Option.map_eq_some_iff.1 hsame
    obtain rfl : n + s = r := hs
    exact ⟨c', by rw [hfound, Nat.add_sub_cancel_left]⟩
  · rintro ⟨c, h⟩
    -- a terminator has a length, so the place is one behind what was dropped
    have hpos := terminator?_pos h
    rw [h, Option.map_some] at hsame
    obtain ⟨⟨c', s⟩, hfound, hs⟩ := Option.map_eq_some_iff.1 hsame.symm
    obtain rfl : s = n + (r - n) := hs
    exact ⟨c', by rw [hfound, show n + (r - n) = r by omega]⟩

/-- **The search for a terminator is exact, and goes on when more bytes arrive.** It finds the first unit that is a line
feed; a terminator that was found is found again whatever follows; and where none was found, whole units can be dropped
from the front, for neither is one missed nor is one found that is none. -/
theorem terminator?_incremental (e : Encoding) (a b : Bytes) :
    (∀ c r, e.terminator? a = some (c, r) ↔
      ∃ k, e.FirstFeed a k ∧ r = (k + 1) * e.unit ∧ c = e.contentEnd a k) ∧
    (∀ t, e.terminator? a = some t → e.terminator? (a ++ b) = some t) ∧
    (e.terminator? a = none → ∀ n ≤ a.length, e.unit ∣ n → ∀ r,
      (∃ c, e.terminator? (a ++ b) = some (c, r)) ↔ ∃ c, e.terminator? ((a ++ b).drop n) = some (c, r - n)) :=
  ⟨fun _ _ => terminator?_eq_some_iff, fun _ h => terminator?_append h b,
    fun hnone _ hn hunit r => terminator?_drop_append hnone hn hunit b r⟩

/-- In units of two bytes, the byte of a line feed in another unit ends nothing. Half of a carriage return is held back,
and the units in front of it are dropped; with the rest the terminator is found. -/
theorem terminator?_incremental_halves :
    let a : Bytes := [0x41, 0x0a, 0x62, 0, 0x0d]
    let b : Bytes := [0, 0x0a, 0, 0x63]
    Encoding.utf16le.terminator? a = none ∧ Encoding.utf16le.terminator? (a ++ b) = some (4, 8) ∧
      ∃ c, Encoding.utf16le.terminator? ((a ++ b).drop 4) = some (c, 4) := by
  intro a b
  obtain ⟨-, -, hdropped⟩ := terminator?_incremental .utf16le a b
  have hnone : Encoding.utf16le.terminator? a = none := by decide
  have hfound : Encoding.utf16le.terminator? (a ++ b) = some (4, 8) := by decide
  exact ⟨hnone, hfound, (hdropped hnone 4 (by decide) (by decide) 8).1 ⟨4, hfound⟩⟩

end LogTail.Encoding
