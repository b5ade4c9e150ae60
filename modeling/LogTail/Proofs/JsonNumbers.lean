import LogTail.Proofs.Doubles
import LogTail.Proofs.JsonText
import Mathlib

/-!
# JSON numbers that are held

A document holds integers that fit a word or a signed word, and the shortest decimals of doubles. What is
written for such a number is read as a number that can be held.

* `reread_integer`: an integer that fits a word is read as it was written.
* `reread_decimal`: a decimal is read as one that is no greater.
* `Number.held_canonical?`: the canonical form of a number that was read is held.
* `Number.Held.canonical?_reread`: a number that is held has a canonical form again after it was written and
  read. A double is rounded twice more on that way; none is carried beyond the greatest one.
-/

namespace LogTail.Json

/-! ## Numbers -/

theorem le_ofDigitChars (ds : List Char) (s : Nat) : s * 10 ^ ds.length ≤ Nat.ofDigitChars 10 ds s := by
  induction ds generalizing s with
  | nil => simp
  | cons d ds ih =>
    rw [Nat.ofDigitChars_cons, List.length_cons, pow_succ]
    refine le_trans ?_ (ih _)
    have : 10 * s * 10 ^ ds.length ≤ (10 * s + (d.toNat - '0'.toNat)) * 10 ^ ds.length :=
      Nat.mul_le_mul_right _ (Nat.le_add_right _ _)
    linarith

theorem digit_le {d : Char} (h : d.isDigit = true) : d.toNat - '0'.toNat ≤ 9 := by
  rw [Char.isDigit, Bool.and_eq_true, decide_eq_true_eq, decide_eq_true_eq, UInt32.le_iff_toNat_le] at h
  have hnine : d.toNat ≤ 57 := h.2
  have hzero : '0'.toNat = 48 := rfl
  omega

theorem ofDigitChars_lt {ds : List Char} (hds : ∀ d ∈ ds, d.isDigit = true) (s : Nat) :
    Nat.ofDigitChars 10 ds s < (s + 1) * 10 ^ ds.length := by
  induction ds generalizing s with
  | nil => simp
  | cons d ds ih =>
    rw [Nat.ofDigitChars_cons, List.length_cons, pow_succ]
    have hd := digit_le (hds d (List.mem_cons_self ..))
    have hrest := ih (fun c hc => hds c (List.mem_cons_of_mem _ hc)) (10 * s + (d.toNat - '0'.toNat))
    have : (10 * s + (d.toNat - '0'.toNat) + 1) * 10 ^ ds.length ≤ (10 * s + 10) * 10 ^ ds.length :=
      Nat.mul_le_mul_right _ (by omega)
    linarith

theorem takeDigits_cons (s : Nat) (d : Char) (ds : List Char) : takeDigits s (d :: ds) =
    if wordMax < 10 * s + (d.toNat - '0'.toNat) then (s, ds.length + 1)
    else takeDigits (10 * s + (d.toNat - '0'.toNat)) ds := by
  have hnext : s * 10 + Text.Decimal.value [d] = 10 * s + (d.toNat - '0'.toNat) := by
    rw [mul_comm]
    simp [Text.Decimal.value]
  rw [takeDigits, hnext]

theorem takeDigits_of_le {ds : List Char} {s : Nat} (h : Nat.ofDigitChars 10 ds s ≤ wordMax) :
    takeDigits s ds = (Nat.ofDigitChars 10 ds s, 0) := by
  induction ds generalizing s with
  | nil => rfl
  | cons d ds ih =>
    rw [Nat.ofDigitChars_cons] at h ⊢
    have hle := (le_ofDigitChars ds (10 * s + (d.toNat - '0'.toNat))).trans h
    have hpow : 1 ≤ 10 ^ ds.length := Nat.one_le_pow _ _ (by decide)
    rw [takeDigits_cons, if_neg (by nlinarith), ih h]

/-- Digits that are not taken make the number no greater. -/
theorem takeDigits_le (ds : List Char) {s : Nat} (hs : s ≤ wordMax) :
    (takeDigits s ds).1 ≤ wordMax ∧ (takeDigits s ds).2 ≤ ds.length ∧
      (takeDigits s ds).1 * 10 ^ (takeDigits s ds).2 ≤ Nat.ofDigitChars 10 ds s := by
  induction ds generalizing s with
  | nil => simpa [takeDigits] using hs
  | cons d ds ih =>
    rw [takeDigits_cons]
    split_ifs with h
    · exact ⟨hs, le_rfl, le_ofDigitChars (d :: ds) s⟩
    · have := ih (not_lt.1 h)
      exact ⟨this.1, this.2.1.trans (Nat.le_succ _), this.2.2⟩

theorem takeDigits_eq (ds : List Char) (s : Nat) (h : (takeDigits s ds).2 = 0) :
    (takeDigits s ds).1 = Nat.ofDigitChars 10 ds s := by
  induction ds generalizing s with
  | nil => rfl
  | cons d ds ih =>
    rw [takeDigits_cons] at h ⊢
    by_cases hfull : wordMax < 10 * s + (d.toNat - '0'.toNat)
    · rw [if_pos hfull] at h
      exact absurd h (Nat.succ_ne_zero _)
    · rw [if_neg hfull] at h ⊢
      exact ih _ h

theorem takeDigits_lt {ds : List Char} (hds : ∀ d ∈ ds, d.isDigit = true) (hne : ds ≠ []) {s : Nat}
    (hs : 10 * s + 9 ≤ wordMax) : (takeDigits s ds).2 < ds.length := by
  obtain ⟨d, rest, rfl⟩ := List.exists_cons_of_ne_nil hne
  have hd := digit_le (hds d (List.mem_cons_self ..))
  rw [takeDigits_cons, if_neg (by omega), List.length_cons]
  exact Nat.lt_succ_of_le (takeDigits_le rest (by omega)).2.1

/-- The number of a layout with few digits before the point is a decimal, if it has a fraction or a power: its
significand is a word, and it is no greater than the digits say. -/
theorem ofDigits_decimal (negative : Bool) {whole fraction : List Char} (power : Option Int)
    (hwhole : ∀ d ∈ whole, d.isDigit = true) (hfraction : ∀ d ∈ fraction, d.isDigit = true)
    (hfew : whole.length ≤ 16) (hne : fraction ≠ [] ∨ power ≠ none) :
    ∃ significand unused : Nat, Number.ofDigits negative whole fraction power =
        .decimal negative significand (power.getD 0 - (fraction.length - unused)) ∧
      significand ≤ wordMax ∧ significand * 10 ^ unused ≤ Nat.ofDigitChars 10 (whole ++ fraction) 0 ∧
      (fraction ≠ [] → unused < fraction.length) := by
  have hlt := ofDigitChars_lt hwhole 0
  have hpow : 10 ^ whole.length ≤ 10 ^ 16 := Nat.pow_le_pow_right (by decide) hfew
  have hword : 10 * Nat.ofDigitChars 10 whole 0 + 9 ≤ wordMax := by
    unfold wordMax
    omega
  have htake : takeDigits 0 whole = (Nat.ofDigitChars 10 whole 0, 0) := takeDigits_of_le (by omega)
  have hle := takeDigits_le fraction (s := Nat.ofDigitChars 10 whole 0) (by omega)
  refine ⟨_, (takeDigits (Nat.ofDigitChars 10 whole 0) fraction).2, ?_, hle.1, ?_, fun h => ?_⟩
  · rw [Number.ofDigits, htake]
    have hnot : ¬ ((0 : Nat) = 0 ∧ fraction.isEmpty = true ∧ power.isNone = true) := by
      simp only [true_and, List.isEmpty_iff, Option.isNone_iff_eq_none, not_and_or]
      exact hne
    dsimp only
    rw [if_neg hnot, Nat.cast_zero, add_zero]
  · rw [Nat.ofDigitChars_append]
    exact hle.2.2
  · exact takeDigits_lt hfraction h hword

theorem reread_integer (negative : Bool) {n : Nat} (h : n ≤ wordMax) :
    (Number.integer negative n).reread = .integer negative n := by
  have htake : takeDigits 0 (Nat.toDigits 10 n) = (n, 0) := by
    have hvalue := Nat.ofDigitChars_ten_toDigits (n := n)
    rw [takeDigits_of_le (hvalue.symm ▸ h), hvalue]
  simp [Number.reread, Number.layout, Layout.number, Number.ofDigits, htake]

theorem reread_integer_of_lt (negative : Bool) {n : Nat} (h : wordMax < n) :
    ∃ digits exponent, (Number.integer negative n).reread = .decimal negative digits exponent := by
  have hraised : (takeDigits 0 (Nat.toDigits 10 n)).2 ≠ 0 := by
    intro hzero
    have hvalue := takeDigits_eq _ 0 hzero
    rw [Nat.ofDigitChars_ten_toDigits] at hvalue
    have hword := (takeDigits_le (Nat.toDigits 10 n) (Nat.zero_le wordMax)).1
    omega
  change ∃ digits exponent, Number.ofDigits negative (Nat.toDigits 10 n) [] none = _
  unfold Number.ofDigits
  dsimp only
  rw [if_neg fun hall => hraised hall.1]
  exact ⟨_, _, rfl⟩

/-- A decimal is read as one that is no greater: digits that do not fit a word are not taken. -/
theorem reread_decimal (negative : Bool) (digits : Nat) (exponent : Int) :
    ∃ digits' exponent', (Number.decimal negative digits exponent).reread = .decimal negative digits' exponent' ∧
      digits' ≤ wordMax ∧ (exponent' < 0 ∨ (digits' : ℚ) * 10 ^ exponent' ≤ digits * 10 ^ exponent) := by
  have hproper := (Number.decimal negative digits exponent).layout_proper
  have hzero : ∀ c ∈ ['0'], c.isDigit = true := by simp
  have hds : ∀ c ∈ Nat.toDigits 10 digits, c.isDigit = true := fun c => isDigit_of_mem_toDigits
  have hvalue : Nat.ofDigitChars 10 (Nat.toDigits 10 digits) 0 = digits := Nat.ofDigitChars_ten_toDigits
  have hne : Nat.toDigits 10 digits ≠ [] := Nat.toDigits_ne_nil
  unfold Number.reread Layout.number
  simp only [Number.layout] at hproper ⊢
  generalize Nat.toDigits 10 digits = ds at hproper hds hvalue hne ⊢
  -- without a power there is a digit behind the point, and it is read
  have hpoint {whole fraction : List Char} (hp : (⟨negative, whole, fraction, none⟩ : Layout).Proper)
      (hfew : whole.length ≤ 16) (hf : fraction ≠ []) : ∃ digits' exponent',
      Number.ofDigits negative whole fraction none = .decimal negative digits' exponent' ∧ digits' ≤ wordMax ∧
        (exponent' < 0 ∨ (digits' : ℚ) * 10 ^ exponent' ≤ digits * 10 ^ exponent) := by
    obtain ⟨significand, unused, hnumber, hword, -, hlt⟩ :=
      ofDigits_decimal negative none hp.whole hp.fraction hfew (.inl hf)
    have hless : unused < fraction.length := hlt hf
    exact ⟨_, _, hnumber, hword, .inl (by simp only [Option.getD_none]; omega)⟩
  split_ifs at hproper ⊢ with h1 h2 h3 h4
  · exact hpoint hproper (by simp) (by simp)
  · exact hpoint hproper (by simp; omega) (by simp)
  · refine hpoint hproper (by simp; omega) ?_
    rw [Ne, List.drop_eq_nil_iff]
    omega
  · exact hpoint hproper (by simp) (by simp [hne])
  · obtain ⟨significand, unused, hnumber, hword, hle, -⟩ :=
      ofDigits_decimal negative (some (exponent + ds.length - 1)) hproper.whole hproper.fraction (by simp)
        (.inr (Option.some_ne_none _))
    refine ⟨_, _, hnumber, hword, .inr ?_⟩
    have hpower : exponent + ds.length - 1 - (((ds.drop 1).length : Int) - unused) = exponent + unused := by
      have : 0 < ds.length := List.length_pos_of_ne_nil hne
      rw [List.length_drop]
      omega
    rw [Option.getD_some, hpower, add_comm, zpow_add₀ (by norm_num), zpow_natCast, ← mul_assoc]
    rw [List.take_append_drop, hvalue] at hle
    gcongr
    exact_mod_cast hle

namespace Number

/-- A number as it comes from a text: an integer fits a word. -/
def FitsWord : Number → Prop
  | .integer _ n => n ≤ wordMax
  | .decimal .. => True

/-- An integer that a word or a signed word holds. -/
inductive Integral : Number → Prop
  | natural {n : Nat} (h : n ≤ wordMax) : Integral (.integer false n)
  | negative {n : Nat} (hne : n ≠ 0) (h : n ≤ signedMax + 1) : Integral (.integer true n)

/-- A number as a document holds it: an integer that a word or a signed word holds, or the shortest decimal of
a double. -/
inductive Held : Number → Prop
  | integral {n : Number} (h : n.Integral) : Held n
  | decimal (negative : Bool) {d : Text.Double} (h : d.mantissa ≤ Text.Double.mantissaLimit) :
      Held (.decimal negative d.shortest.1 d.shortest.2)

theorem Integral.canonical? {n : Number} (h : n.Integral) : n.canonical? = some n := by
  cases h with
  | natural => rfl
  | negative hne hle => rw [Number.canonical?, if_neg (by omega)]

theorem Integral.reread {n : Number} (h : n.Integral) : n.reread = n := by
  cases h with
  | natural hle => exact reread_integer false hle
  | negative _ hle => exact reread_integer true (hle.trans (by decide))

theorem fitsWord_ofDigits (negative : Bool) (whole fraction : List Char) (power : Option Int) :
    (ofDigits negative whole fraction power).FitsWord := by
  have hword := (takeDigits_le whole (Nat.zero_le wordMax)).1
  unfold ofDigits
  dsimp only
  split_ifs
  · exact hword
  · trivial

theorem fitsWord_reread (n : Number) : n.reread.FitsWord := fitsWord_ofDigits ..

theorem held_ofDouble {negative : Bool} {significand : Nat} {exponent : Int} {n : Number}
    (h : canonical?.ofDouble negative significand exponent = some n) : n.Held := by
  obtain ⟨d, hd, hn⟩ := Option.map_eq_some_iff.1 h
  rw [← hn]
  exact .decimal negative (Text.Double.mantissa_le_of_ofParts? hd)

theorem held_canonical? {n n' : Number} (hn : n.FitsWord) (h : n.canonical? = some n') : n'.Held := by
  match n, h with
  | .integer false m, h =>
    obtain rfl := Option.some.inj h
    exact .integral (.natural hn)
  | .integer true m, h =>
    rw [Number.canonical?] at h
    split_ifs at h with hm
    · exact held_ofDouble h
    · obtain rfl := Option.some.inj h
      exact .integral (.negative (by omega) (by omega))
  | .decimal negative digits exponent, h => exact held_ofDouble h

theorem toInt?_ofDouble {negative : Bool} {significand : Nat} {exponent : Int} {n : Number}
    (h : canonical?.ofDouble negative significand exponent = some n) : n.toInt? = none := by
  obtain ⟨d, -, rfl⟩ := Option.map_eq_some_iff.1 h
  rfl

theorem toInt?_canonical?_reread {n n' : Number} (h : n.reread.canonical? = some n') {i : Int}
    (hlo : -signedMax - 1 ≤ i) (hhi : i ≤ wordMax) : n'.toInt? = some i ↔ n.toInt? = some i := by
  cases n with
  | decimal negative digits exponent =>
    obtain ⟨digits', exponent', hreread, -⟩ := reread_decimal negative digits exponent
    rw [hreread] at h
    rw [toInt?_ofDouble h]
    exact Iff.rfl
  | integer negative m =>
    by_cases hm : m ≤ wordMax
    · rw [reread_integer negative hm] at h
      cases negative with
      | false => rw [← Option.some.inj h]
      | true =>
        rw [Number.canonical?] at h
        split_ifs at h with hlarge
        · rw [toInt?_ofDouble h, toInt?]
          split_ifs with hzero
          · exact Iff.rfl
          · refine iff_of_false (by simp) fun hi => ?_
            have := Option.some.inj hi
            omega
        · rw [← Option.some.inj h]
    · obtain ⟨digits, exponent, hreread⟩ := reread_integer_of_lt negative (not_le.1 hm)
      rw [hreread] at h
      rw [toInt?_ofDouble h]
      refine iff_of_false (Option.some_ne_none _).symm fun hi => ?_
      cases negative with
      | false =>
        have := Option.some.inj hi
        omega
      | true =>
        rw [toInt?] at hi
        split_ifs at hi
        have := Option.some.inj hi
        unfold signedMax at hlo
        unfold wordMax at hm
        omega

theorem greatest_canonical?_reread : ∀ k < 4, ∀ negative : Bool,
    let d : Text.Double := ⟨Text.Double.mantissaLimit - 1 - k, Text.Double.greatestExponent⟩
    (Number.decimal negative d.shortest.1 d.shortest.2).reread.canonical?.isSome = true := by
  decide +kernel

theorem Held.canonical?_reread {n : Number} (h : n.Held) : ∃ n', n.reread.canonical? = some n' := by
  cases h with
  | integral h => exact ⟨n, by rw [h.reread, h.canonical?]⟩
  | @decimal negative d hd =>
    by_cases hsafe : (d.shortest.1 : ℚ) * 10 ^ d.shortest.2 * (1 + 1 / 2 ^ 53) ^ 2 < Text.Double.limit
    · obtain ⟨digits, exponent, hreread, hword, hle⟩ := reread_decimal negative d.shortest.1 d.shortest.2
      have hdigits : (digits : ℚ) ≤ 2 ^ 64 := by
        have : (digits : ℚ) ≤ wordMax := by exact_mod_cast hword
        refine this.trans ?_
        norm_num [wordMax]
      have hround : (1 : ℚ) ≤ (1 + 1 / 2 ^ 53) ^ 2 := by norm_num
      have hbelow : (digits : ℚ) * 10 ^ exponent * (1 + 1 / 2 ^ 53) ^ 2 < Text.Double.limit := by
        rcases hle with hneg | hle
        · refine Text.Double.lt_limit_of_le (le_trans ?_ hdigits)
          have hpow : (10 : ℚ) ^ exponent ≤ 1 := zpow_le_one_of_nonpos₀ (by norm_num) hneg.le
          calc (digits : ℚ) * 10 ^ exponent ≤ digits * 1 := by gcongr
            _ = digits := mul_one _
        · exact lt_of_le_of_lt (by gcongr) hsafe
      have hsome : (Text.Double.ofParts? digits exponent).isSome = true := by
        refine Text.Double.ofParts?_isSome (lt_of_le_of_lt ?_ (Text.Double.lt_limit_of_le hdigits)) hbelow
        exact le_mul_of_one_le_right (by positivity) hround
      obtain ⟨d', hd'⟩ := Option.isSome_iff_exists.1 hsome
      exact ⟨_, by rw [hreread, Number.canonical?, canonical?.ofDouble, hd', Option.map_some]⟩
    · -- only the greatest doubles lie this near to the limit
      have hshortest : d.shortest = (d.shortest.1, d.shortest.2) := Prod.mk.eta.symm
      rcases Text.Double.shortest_value hd hshortest with ⟨hzero, hsmall⟩ | ⟨num, den, hden, hof, hvalue⟩
      · refine absurd (Text.Double.lt_limit_of_le ?_) hsafe
        rw [hzero, zpow_zero, mul_one]
        have : (d.shortest.1 : ℚ) ≤ Text.Double.mantissaLimit := by exact_mod_cast hsmall
        refine this.trans ?_
        norm_num [Text.Double.mantissaLimit]
      · rw [← hvalue] at hsafe
        obtain ⟨k, hk, rfl⟩ := Text.Double.greatest_of_ofFraction? hden hof (not_lt.1 hsafe)
        exact Option.isSome_iff_exists.1 (greatest_canonical?_reread k hk negative)

end Number

end LogTail.Json
