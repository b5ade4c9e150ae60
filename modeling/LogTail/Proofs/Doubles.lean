import LogTail.Text.Double
import Mathlib

/-!
# Doubles as rational numbers

What rounding does to a fraction, and that a decimal which was written for a double has a double again.

* `Double.ofFraction?_spec`: the nearest double of a fraction by its exponent and its rounded mantissa.
* `Double.limit` is where the doubles end: `ofFraction?_isSome` below it, and `greatest_of_ofFraction?`
  names the doubles of the fractions that lie so near to it that two more roundings could pass it.
* `Double.ofParts?_isSome`: a significand with a power of ten has a double, if the two roundings of its
  parts do not lead beyond the limit.
* `Double.shortest_value`: what the shortest decimal of a double stands for.
-/

namespace LogTail.Text.Double

def value (d : Double) : ℚ := d.mantissa * 2 ^ d.exponent

theorem power_ratio {base : Nat} (hbase : base ≠ 0) (e : Int) :
    0 < (power base e).2 ∧ ((power base e).1 : ℚ) / (power base e).2 = (base : ℚ) ^ e := by
  have hpos : 0 < base := Nat.pos_of_ne_zero hbase
  rcases le_or_gt 0 e with h | h
  · obtain ⟨n, rfl⟩ := Int.eq_ofNat_of_zero_le h
    simp [power, Nat.pow_eq]
  · obtain ⟨n, rfl⟩ : ∃ n : Nat, e = -n := ⟨(-e).toNat, by omega⟩
    rw [power, if_neg (by omega)]
    simp [Nat.pow_eq, hpos]

theorem two_power (e : Int) :
    0 < (power 2 e).1 ∧ 0 < (power 2 e).2 ∧ ((power 2 e).1 : ℚ) / (power 2 e).2 = 2 ^ e := by
  have hratio := power_ratio two_ne_zero e
  rw [Nat.cast_ofNat] at hratio
  refine ⟨Nat.pos_of_ne_zero fun hzero => ?_, hratio.1, hratio.2⟩
  have hne : (2 : ℚ) ^ e ≠ 0 := zpow_ne_zero _ two_ne_zero
  rw [← hratio.2, hzero] at hne
  simp at hne

theorem toFraction_ratio (d : Double) :
    0 < d.toFraction.2 ∧ (d.toFraction.1 : ℚ) / d.toFraction.2 = d.value := by
  have hpower := power_ratio two_ne_zero d.exponent
  refine ⟨hpower.1, ?_⟩
  rw [value, ← Nat.cast_ofNat, ← hpower.2, toFraction, Nat.cast_mul, mul_div_assoc]

theorem roundDiv_bounds (num : Nat) {den : Nat} (hden : 0 < den) :
    (num : ℚ) / den - 1 / 2 ≤ roundDiv num den ∧ (roundDiv num den : ℚ) ≤ num / den + 1 / 2 := by
  have hq : (0 : ℚ) < den := by exact_mod_cast hden
  have hmod : num % den < den := Nat.mod_lt _ hden
  have hdiv : den * (num / den) + num % den = num := Nat.div_add_mod num den
  have hnat : 2 * num ≤ (2 * roundDiv num den + 1) * den ∧ 2 * roundDiv num den * den ≤ 2 * num + den := by
    simp only [roundDiv]
    generalize num / den = q at hdiv ⊢
    generalize num % den = r at hdiv hmod ⊢
    have heven : q % 2 = 0 ∨ q % 2 = 1 := Nat.mod_two_eq_zero_or_one q
    split_ifs with h1 h2
    · constructor <;> nlinarith
    · constructor <;> nlinarith
    · rcases heven with h | h <;> rw [h] <;> constructor <;> nlinarith
  have h1 : (2 * num : ℚ) ≤ (2 * roundDiv num den + 1) * den := by exact_mod_cast hnat.1
  have h2 : (2 * roundDiv num den * den : ℚ) ≤ 2 * num + den := by exact_mod_cast hnat.2
  constructor
  · rw [sub_le_iff_le_add, div_le_iff₀ hq]
    linarith
  · rw [← sub_le_iff_le_add, le_div_iff₀ hq]
    linarith

theorem roundDiv_zero (den : Nat) : roundDiv 0 den = 0 := by
  simp [roundDiv]

/-- The exponent of the double that is nearest to a number: its mantissa is full, unless the exponent is
the least one. -/
structure Exponent (x : ℚ) (e : Int) : Prop where
  least : leastExponent ≤ e
  below : x < 2 ^ (53 + e)
  full : leastExponent < e → 2 ^ (52 + e) ≤ x

theorem log2_bounds {n : Nat} (hn : 0 < n) :
    (2 : ℚ) ^ (Nat.log2 n : Int) ≤ n ∧ (n : ℚ) < 2 ^ ((Nat.log2 n : Int) + 1) := by
  constructor
  · rw [zpow_natCast]
    exact_mod_cast Nat.log2_self_le hn.ne'
  · have h : n < 2 ^ (Nat.log2 n + 1) := Nat.lt_log2_self
    have hcast : ((Nat.log2 n : Int) + 1) = ((Nat.log2 n + 1 : Nat) : Int) := by push_cast; rfl
    rw [hcast, zpow_natCast]
    exact_mod_cast h

theorem ratio_bounds {num den : Nat} (hnum : 0 < num) (hden : 0 < den) :
    (2 : ℚ) ^ ((Nat.log2 num : Int) - Nat.log2 den - 1) < num / den ∧
      (num : ℚ) / den < 2 ^ ((Nat.log2 num : Int) - Nat.log2 den + 1) := by
  have hn := log2_bounds hnum
  have hd := log2_bounds hden
  have hq : (0 : ℚ) < den := by exact_mod_cast hden
  constructor
  · rw [lt_div_iff₀ hq, sub_sub, zpow_sub₀ two_ne_zero]
    calc (2 : ℚ) ^ (Nat.log2 num : Int) / 2 ^ ((Nat.log2 den : Int) + 1) * den
        < 2 ^ (Nat.log2 num : Int) / 2 ^ ((Nat.log2 den : Int) + 1) * 2 ^ ((Nat.log2 den : Int) + 1) := by
          gcongr
          exact hd.2
      _ = 2 ^ (Nat.log2 num : Int) := by field_simp
      _ ≤ num := hn.1
  · rw [div_lt_iff₀ hq]
    calc (num : ℚ) < 2 ^ ((Nat.log2 num : Int) + 1) := hn.2
      _ = 2 ^ ((Nat.log2 num : Int) - Nat.log2 den + 1) * 2 ^ (Nat.log2 den : Int) := by
          rw [← zpow_add₀ two_ne_zero]
          congr 1
          ring
      _ ≤ 2 ^ ((Nat.log2 num : Int) - Nat.log2 den + 1) * den := by
          gcongr
          exact hd.1

/-- The double of a mantissa that was rounded, with one more bit in the exponent if there is one too many. -/
def rounded (m : Nat) (e : Int) : Double :=
  if m = 0 then zero else if m = mantissaLimit then ⟨mantissaLimit / 2, e + 1⟩ else ⟨m, e⟩

theorem scaled_ratio (num den : Nat) (e : Int) :
    (((power 2 e).2 * num : Nat) : ℚ) / ((power 2 e).1 * den : Nat) = num / den / 2 ^ e := by
  obtain ⟨h1, h2, hratio⟩ := two_power e
  have hq : ((power 2 e).2 : ℚ) ≠ 0 := by exact_mod_cast h2.ne'
  rw [← hratio, Nat.cast_mul, Nat.cast_mul, div_div_div_eq, mul_comm, mul_comm ((power 2 e).1 : ℚ)]

theorem ofFraction?_eq (num den : Nat) : ∃ e, ofFraction? num den =
    let d := rounded (roundDiv ((power 2 e).2 * num) ((power 2 e).1 * den)) e
    if greatestExponent < d.exponent then none else some d := ⟨_, rfl⟩

theorem ofFraction?_spec {num den : Nat} (hnum : 0 < num) (hden : 0 < den) :
    ∃ (e : Int) (m : Nat), Exponent (num / den) e ∧ (num : ℚ) / den / 2 ^ e - 1 / 2 ≤ m ∧
      (m : ℚ) ≤ num / den / 2 ^ e + 1 / 2 ∧
      ofFraction? num den = if greatestExponent < (rounded m e).exponent then none else some (rounded m e) := by
  obtain ⟨hlow, hhigh⟩ := ratio_bounds hnum hden
  have hpos (e : Int) : 0 < (power 2 e).1 * den := Nat.mul_pos (two_power e).1 hden
  simp only [ofFraction?]
  generalize hsize : (Nat.log2 num : Int) - Nat.log2 den = size at hlow hhigh ⊢
  generalize hguess : max leastExponent (size - 52) = guess
  have hshort : 2 * ((power 2 guess).2 * num) < mantissaLimit * ((power 2 guess).1 * den) ↔
      (num : ℚ) / den < 2 ^ (52 + guess) := by
    have hq : (0 : ℚ) < ((power 2 guess).1 * den : Nat) := by exact_mod_cast hpos guess
    have hpow : (0 : ℚ) < 2 ^ guess := by positivity
    have hcast : 2 * ((power 2 guess).2 * num) < mantissaLimit * ((power 2 guess).1 * den) ↔
        (2 : ℚ) * ((power 2 guess).2 * num : Nat) < 2 ^ 53 * ((power 2 guess).1 * den : Nat) := by
      rw [show mantissaLimit = 2 ^ 53 from rfl]
      exact_mod_cast Iff.rfl
    rw [hcast, ← lt_div_iff₀' two_pos, mul_div_right_comm, ← div_lt_iff₀ hq, scaled_ratio, div_lt_iff₀ hpow,
      zpow_add₀ two_ne_zero]
    norm_num
  have hbelow : (num : ℚ) / den < 2 ^ (53 + guess) :=
    hhigh.trans_le (zpow_le_zpow_right₀ one_le_two (by omega))
  generalize he : (if (decide (2 * ((power 2 guess).2 * num) < mantissaLimit * ((power 2 guess).1 * den)) &&
    decide (leastExponent < guess)) = true then guess - 1 else guess) = e
  have hround := roundDiv_bounds ((power 2 e).2 * num) (hpos e)
  rw [scaled_ratio] at hround
  refine ⟨e, _, ?_, hround.1, hround.2, rfl⟩
  split_ifs at he with h <;> simp only [Bool.and_eq_true, decide_eq_true_eq, hshort] at h
  · obtain rfl := he
    refine ⟨by omega, ?_, fun _ => ?_⟩
    · rw [show 53 + (guess - 1) = 52 + guess by ring]
      exact h.1
    · exact (zpow_le_zpow_right₀ one_le_two (by omega)).trans hlow.le
  · obtain rfl := he
    refine ⟨by omega, hbelow, fun hleast => ?_⟩
    exact not_lt.1 fun hlt => h ⟨hlt, hleast⟩

@[simp] theorem value_zero : zero.value = 0 := by simp [value, zero]

theorem value_rounded (m : Nat) (e : Int) : (rounded m e).value = m * 2 ^ e := by
  unfold rounded
  split_ifs with h1 h2
  · simp [h1]
  · rw [h2, value, zpow_add_one₀ two_ne_zero]
    norm_num [mantissaLimit]
    ring
  · rfl

theorem mantissa_rounded {m : Nat} (e : Int) (h : m ≤ mantissaLimit) : (rounded m e).mantissa ≤ mantissaLimit := by
  unfold rounded
  split_ifs
  · exact Nat.zero_le _
  · exact Nat.div_le_self _ _
  · exact h

theorem ofFraction?_zero (den : Nat) : ofFraction? 0 den = some zero := by
  simp [ofFraction?, roundDiv_zero]
  decide

/-- Half way from the greatest double to the next power of two: what is less has a double. -/
def limit : ℚ := (2 ^ 54 - 1) * 2 ^ (970 : Int)

theorem limit_lt : limit < 2 ^ (1024 : Int) := by
  have hpow : (0 : ℚ) < 2 ^ (970 : Int) := by positivity
  rw [limit, show (1024 : Int) = 54 + 970 from rfl, zpow_add₀ two_ne_zero]
  generalize (2 : ℚ) ^ (970 : Int) = p at hpow ⊢
  norm_num
  linarith

theorem lt_limit_of_le {x : ℚ} (h : x ≤ 2 ^ 64) : x * (1 + 1 / 2 ^ 53) ^ 2 < limit := by
  have hpow : (2 : ℚ) ^ (66 : Int) ≤ 2 ^ (970 : Int) := zpow_le_zpow_right₀ one_le_two (by decide)
  rw [limit]
  generalize (2 : ℚ) ^ (970 : Int) = p at hpow ⊢
  norm_num at h hpow ⊢
  linarith

theorem ofFraction?_isSome {num den : Nat} (hden : 0 < den) (h : (num : ℚ) / den < limit) :
    (ofFraction? num den).isSome = true := by
  rcases Nat.eq_zero_or_pos num with rfl | hnum
  · rw [ofFraction?_zero]; rfl
  obtain ⟨e, m, hexp, -, hm, hof⟩ := ofFraction?_spec hnum hden
  have hle : e ≤ greatestExponent := by
    by_contra hgt
    have hfull := hexp.full (by unfold greatestExponent at hgt; unfold leastExponent; omega)
    have hlt := (zpow_lt_zpow_iff_right₀ one_lt_two).1 ((hfull.trans_lt h).trans limit_lt)
    unfold greatestExponent at hgt
    omega
  have hmantissa : e = greatestExponent → m ≠ mantissaLimit := by
    rintro rfl rfl
    have hpow : (0 : ℚ) < 2 ^ (970 : Int) := by positivity
    have htop : (2 : ℚ) ^ greatestExponent = 2 ^ (970 : Int) * 2 := zpow_add_one₀ two_ne_zero 970
    rw [htop, ← sub_le_iff_le_add, le_div_iff₀ (by positivity)] at hm
    rw [limit] at h
    generalize (2 : ℚ) ^ (970 : Int) = p at hm h hpow
    norm_num [mantissaLimit] at hm h
    linarith
  have hexponent : ¬ greatestExponent < (rounded m e).exponent := by
    unfold rounded
    split_ifs with h1 h2
    · decide
    · have := fun he => hmantissa he h2
      dsimp only
      omega
    · exact not_lt.2 hle
  rw [hof, if_neg hexponent]
  rfl

theorem value_le_of_ofFraction? {n : Nat} {d : Double} (h : ofFraction? n 1 = some d) :
    d.value ≤ n * (1 + 1 / 2 ^ 53) := by
  rcases Nat.eq_zero_or_pos n with rfl | hn
  · rw [ofFraction?_zero] at h
    obtain rfl := Option.some.inj h
    simp
  obtain ⟨e, m, hexp, -, hm, hof⟩ := ofFraction?_spec hn one_pos
  rw [hof] at h
  split_ifs at h
  obtain rfl := Option.some.inj h
  rw [Nat.cast_one, div_one] at hm hexp
  have hone : (1 : ℚ) ≤ n := by exact_mod_cast hn
  have hleast : leastExponent < e := by
    have hlt : (2 : ℚ) ^ (0 : Int) < 2 ^ (53 + e) := by simpa using hone.trans_lt hexp.below
    have := (zpow_lt_zpow_iff_right₀ one_lt_two).1 hlt
    unfold leastExponent
    omega
  have hfull := hexp.full hleast
  have hpow : (0 : ℚ) < 2 ^ e := by positivity
  rw [zpow_add₀ two_ne_zero] at hfull
  rw [value_rounded]
  calc (m : ℚ) * 2 ^ e ≤ (n / 2 ^ e + 1 / 2) * 2 ^ e := by gcongr
    _ = n + 2 ^ e / 2 := by field_simp
    _ ≤ n * (1 + 1 / 2 ^ 53) := by norm_num at hfull ⊢; linarith

theorem Exponent.mantissa_le {x : ℚ} {e : Int} (h : Exponent x e) {m : Nat} (hm : (m : ℚ) ≤ x / 2 ^ e + 1 / 2) :
    m ≤ mantissaLimit := by
  have hpow : (0 : ℚ) < 2 ^ e := by positivity
  have hbelow := h.below
  rw [zpow_add₀ two_ne_zero, ← div_lt_iff₀ hpow] at hbelow
  have hlt : (m : ℚ) < (mantissaLimit + 1 : Nat) := by
    have hcast : ((mantissaLimit + 1 : Nat) : ℚ) = 2 ^ (53 : Int) + 1 := by norm_num [mantissaLimit]
    rw [hcast]
    linarith
  exact Nat.lt_succ_iff.1 (by exact_mod_cast hlt)

theorem mantissa_le_of_ofFraction? {num den : Nat} {d : Double} (h : ofFraction? num den = some d) :
    d.mantissa ≤ mantissaLimit := by
  suffices hrounded : ∃ m e, m ≤ mantissaLimit ∧ d = rounded m e by
    obtain ⟨m, e, hm, rfl⟩ := hrounded
    exact mantissa_rounded e hm
  rcases Nat.eq_zero_or_pos num with rfl | hnum
  · rw [ofFraction?_zero] at h
    exact ⟨0, 0, Nat.zero_le _, (Option.some.inj h).symm⟩
  rcases Nat.eq_zero_or_pos den with rfl | hden
  · -- a divisor of zero makes no quotient greater than one
    obtain ⟨e, hof⟩ := ofFraction?_eq num 0
    rw [hof, Nat.mul_zero] at h
    dsimp only at h
    split_ifs at h
    refine ⟨_, e, ?_, (Option.some.inj h).symm⟩
    simp only [roundDiv, Nat.div_zero, Nat.not_lt_zero, if_false]
    split_ifs <;> decide
  · obtain ⟨e, m, hexp, -, hm, hof⟩ := ofFraction?_spec hnum hden
    rw [hof] at h
    split_ifs at h
    exact ⟨m, e, hexp.mantissa_le hm, (Option.some.inj h).symm⟩

theorem Exponent.greatest_le {x : ℚ} {e : Int} (h : Exponent x e) (hx : (2 ^ 54 - 6) * 2 ^ (970 : Int) ≤ x) :
    greatestExponent ≤ e := by
  have hpow : (0 : ℚ) < 2 ^ (970 : Int) := by positivity
  have hlt : (2 : ℚ) ^ (1023 : Int) < 2 ^ (53 + e) := by
    refine lt_of_lt_of_le' h.below (le_trans ?_ hx)
    rw [show (1023 : Int) = 53 + 970 from rfl, zpow_add₀ two_ne_zero]
    generalize (2 : ℚ) ^ (970 : Int) = p at hpow ⊢
    norm_num
    linarith
  have := (zpow_lt_zpow_iff_right₀ one_lt_two).1 hlt
  unfold greatestExponent
  omega

theorem lt_mantissa_of_le {x : ℚ} {m : Nat} (hx : (2 ^ 54 - 6) * 2 ^ (970 : Int) ≤ x)
    (hm : x / 2 ^ greatestExponent - 1 / 2 ≤ m) : mantissaLimit - 4 < m := by
  have htop : (2 : ℚ) ^ greatestExponent = 2 ^ (970 : Int) * 2 := zpow_add_one₀ two_ne_zero 970
  have hratio : (2 ^ 53 - 3 : ℚ) ≤ x / 2 ^ greatestExponent := by
    rw [htop, le_div_iff₀ (by positivity)]
    generalize (2 : ℚ) ^ (970 : Int) = p at hx
    linarith
  have hcast : ((mantissaLimit - 4 : Nat) : ℚ) = 2 ^ 53 - 4 := by norm_num [mantissaLimit]
  have hlt : ((mantissaLimit - 4 : Nat) : ℚ) < m := by
    rw [hcast]
    linarith
  exact_mod_cast hlt

/-- A fraction just below the limit has one of the greatest doubles. -/
theorem greatest_of_ofFraction? {num den : Nat} {d : Double} (hden : 0 < den) (h : ofFraction? num den = some d)
    (hx : limit ≤ num / den * (1 + 1 / 2 ^ 53) ^ 2) : ∃ k < 4, d = ⟨mantissaLimit - 1 - k, greatestExponent⟩ := by
  have hpow : (0 : ℚ) < 2 ^ (970 : Int) := by positivity
  have hlarge : (2 ^ 54 - 6) * 2 ^ (970 : Int) ≤ (num : ℚ) / den := by
    rw [limit] at hx
    generalize (2 : ℚ) ^ (970 : Int) = p at hx hpow ⊢
    by_contra hlt
    norm_num at hx hlt
    linarith
  have hnum : 0 < num := by
    rcases Nat.eq_zero_or_pos num with rfl | hnum
    · generalize (2 : ℚ) ^ (970 : Int) = p at hlarge hpow
      norm_num at hlarge
      linarith
    · exact hnum
  obtain ⟨e, m, hexp, hm, hm', hof⟩ := ofFraction?_spec hnum hden
  rw [hof] at h
  split_ifs at h with hexponent
  obtain rfl := Option.some.inj h
  have hgreat := hexp.greatest_le hlarge
  have hfull := hexp.full (lt_of_lt_of_le (by decide) hgreat)
  have hpos : (0 : ℚ) < 2 ^ e := by positivity
  rw [zpow_add₀ two_ne_zero, ← le_div_iff₀ hpos] at hfull
  have hzero : m ≠ 0 := by
    rintro rfl
    norm_num at hm hfull
    linarith
  have hlimit : m ≠ mantissaLimit := by
    rintro rfl
    rw [rounded, if_neg hzero, if_pos rfl] at hexponent
    dsimp only at hexponent
    omega
  have hle := hexp.mantissa_le hm'
  rw [rounded, if_neg hzero, if_neg hlimit] at hexponent ⊢
  obtain rfl : e = greatestExponent := le_antisymm (not_lt.1 hexponent) hgreat
  have hge := lt_mantissa_of_le hlarge hm
  clear hm hm' hexp hlarge hx hpow hfull hpos
  exact ⟨mantissaLimit - 1 - m, by omega, by rw [show mantissaLimit - 1 - (mantissaLimit - 1 - m) = m by omega]⟩

/-! ## Decimals -/

theorem value_ten_le (k : Nat) : (ten k).value ≤ 10 ^ k * (1 + 1 / 2 ^ 53) := by
  unfold ten
  cases h : ofFraction? (Nat.pow 10 k) 1 with
  | none =>
    rw [Option.getD_none, value_zero]
    positivity
  | some d =>
    have hle := value_le_of_ofFraction? h
    rw [Nat.pow_eq, Nat.cast_pow] at hle
    exact hle

theorem value_nonneg (d : Double) : 0 ≤ d.value := by
  unfold value
  positivity

theorem mul?_isSome {a b : Double} (h : a.value * b.value < limit) : (a.mul? b).isSome = true := by
  obtain ⟨ha, ha'⟩ := toFraction_ratio a
  obtain ⟨hb, hb'⟩ := toFraction_ratio b
  refine ofFraction?_isSome (Nat.mul_pos ha hb) ?_
  rwa [Nat.cast_mul, Nat.cast_mul, ← div_mul_div_comm, ha', hb']

theorem ofParts?_isSome {significand : Nat} {exponent : Int} (hsignificand : (significand : ℚ) < limit)
    (h : significand * 10 ^ exponent * (1 + 1 / 2 ^ 53) ^ 2 < limit) :
    (ofParts? significand exponent).isSome = true := by
  have hwhole : (significand : ℚ) / (1 : Nat) < limit := by simpa using hsignificand
  obtain ⟨d, hd⟩ := Option.isSome_iff_exists.1 (ofFraction?_isSome one_pos hwhole)
  rw [ofParts?, hd, Option.bind_some]
  split_ifs with hneg hten hzero
  · rfl
  · obtain ⟨k, rfl⟩ := Int.eq_ofNat_of_zero_le (not_lt.1 hneg)
    refine mul?_isSome (lt_of_le_of_lt ?_ h)
    calc d.value * (ten (Int.toNat k)).value
        ≤ significand * (1 + 1 / 2 ^ 53) * (10 ^ k * (1 + 1 / 2 ^ 53)) :=
          mul_le_mul (value_le_of_ofFraction? hd) (value_ten_le k) (value_nonneg _) (by positivity)
      _ = significand * 10 ^ (k : Int) * (1 + 1 / 2 ^ 53) ^ 2 := by rw [zpow_natCast]; ring
  · rfl
  · -- a power this great is beyond the limit, but for a significand of zero
    exfalso
    rcases Nat.eq_zero_or_pos significand with rfl | hpos
    · rw [ofFraction?_zero] at hd
      exact hzero (Option.some.inj hd).symm
    · have hone : (1 : ℚ) ≤ significand := by exact_mod_cast hpos
      have hpow : (10 : ℚ) ^ (309 : Int) ≤ 10 ^ exponent :=
        zpow_le_zpow_right₀ (by norm_num) (by unfold greatestTen at hten; omega)
      have hgreat : (2 : ℚ) ^ (1024 : Int) ≤ 10 ^ (309 : Int) := by
        have hnat : 2 ^ 1024 ≤ 10 ^ 309 := by decide +kernel
        exact_mod_cast hnat
      have hten : (0 : ℚ) < 10 ^ exponent := by positivity
      have hround : (1 : ℚ) ≤ (1 + 1 / 2 ^ 53) ^ 2 := by norm_num
      have hprod : (10 : ℚ) ^ exponent ≤ significand * 10 ^ exponent * (1 + 1 / 2 ^ 53) ^ 2 :=
        calc (10 : ℚ) ^ exponent = 1 * 10 ^ exponent * 1 := by ring
          _ ≤ significand * 10 ^ exponent * (1 + 1 / 2 ^ 53) ^ 2 := by gcongr
      exact absurd (hprod.trans_lt (h.trans limit_lt)) (not_lt.2 (hgreat.trans hpow))

theorem mantissa_le_of_mul? {a b d : Double} (h : a.mul? b = some d) : d.mantissa ≤ mantissaLimit := by
  unfold mul? at h
  exact mantissa_le_of_ofFraction? h

theorem mantissa_le_of_div (a b : Double) : (a.div b).mantissa ≤ mantissaLimit := by
  unfold div
  dsimp only
  cases h : ofFraction? (a.toFraction.1 * b.toFraction.2) (a.toFraction.2 * b.toFraction.1) with
  | none => exact Nat.zero_le _
  | some d => exact mantissa_le_of_ofFraction? h

theorem mantissa_le_of_shrink (fuel : Nat) {d : Double} (hd : d.mantissa ≤ mantissaLimit) (k : Nat) :
    (shrink fuel d k).mantissa ≤ mantissaLimit := by
  induction fuel generalizing d k with
  | zero => exact hd
  | succ fuel ih =>
    rw [shrink]
    split_ifs
    · exact mantissa_le_of_div _ _
    · exact Nat.zero_le _
    · exact ih (mantissa_le_of_div _ _) _

theorem mantissa_le_of_ofParts? {significand : Nat} {exponent : Int} {d : Double}
    (h : ofParts? significand exponent = some d) : d.mantissa ≤ mantissaLimit := by
  obtain ⟨a, ha, h⟩ := Option.bind_eq_some_iff.1 h
  have hmantissa := mantissa_le_of_ofFraction? ha
  split_ifs at h
  · obtain rfl := Option.some.inj h
    exact mantissa_le_of_shrink _ hmantissa _
  · exact mantissa_le_of_mul? h
  · obtain rfl := Option.some.inj h
    exact Nat.zero_le _

theorem digitsAt?_value {d : Double} {lead : Int} {n digits : Nat} {exponent : Int}
    (h : d.digitsAt? lead n = some (digits, exponent)) :
    ∃ num den, 0 < den ∧ ofFraction? num den = some d ∧ (num : ℚ) / den = digits * 10 ^ exponent := by
  simp only [digitsAt?] at h
  obtain ⟨found, hfound, hparts⟩ := Option.map_eq_some_iff.1 h
  obtain ⟨hpos, hratio⟩ := power_ratio (show 10 ≠ 0 by decide) (lead - n + 1)
  have hof := List.find?_some hfound
  rw [decide_eq_true_eq] at hof
  refine ⟨_, _, hpos, hof, ?_⟩
  rw [Nat.cast_mul, mul_div_assoc, hratio]
  split_ifs at hparts with hpow
  · obtain ⟨rfl, rfl⟩ := Prod.mk.inj hparts
    have hsplit : (10 : ℚ) ^ (lead - n + 1 + n) = 10 ^ (lead - n + 1) * 10 ^ n := by
      rw [zpow_add₀ (by norm_num), zpow_natCast]
    rw [hpow, Nat.pow_eq, hsplit]
    push_cast
    ring
  · obtain ⟨rfl, rfl⟩ := Prod.mk.inj hparts
    norm_num

/-- The shortest decimal of a double is a fraction to which the double is nearest, or no more than the greatest
mantissa. -/
theorem shortest_value {d : Double} (hd : d.mantissa ≤ mantissaLimit) {digits : Nat} {exponent : Int}
    (h : d.shortest = (digits, exponent)) : (exponent = 0 ∧ digits ≤ mantissaLimit) ∨
      ∃ num den, 0 < den ∧ ofFraction? num den = some d ∧ (num : ℚ) / den = digits * 10 ^ exponent := by
  unfold shortest at h
  split_ifs at h with hzero
  · obtain ⟨rfl, rfl⟩ := Prod.mk.inj h
    exact .inl ⟨rfl, Nat.zero_le _⟩
  · dsimp only at h
    cases hfind : (List.range 17).findSome? fun n => d.digitsAt? d.leadPlace (n + 1) with
    | none =>
      rw [hfind, Option.getD_none] at h
      obtain ⟨rfl, rfl⟩ := Prod.mk.inj h
      exact .inl ⟨rfl, hd⟩
    | some parts =>
      rw [hfind, Option.getD_some] at h
      obtain ⟨n, -, hn⟩ := List.exists_of_findSome?_eq_some hfind
      exact .inr (digitsAt?_value (hn.trans (congrArg some h)))

end LogTail.Text.Double
