import LogTail.Json.Parser
import LogTail.Json.Printer
import LogTail.Proofs.TextCodes
import Mathlib

/-!
# JSON texts, written and read

What is written for a value in the indented layout is read as that value, but for its numbers: those are
read from their digits.

* `number?_text`: a number is read from its text as `Number.reread` says.
* `string?_quote`: a text is read from its quotes, whatever characters it has.
* `value?_indented` goes over a value, `items?_indented` over the items of an array and
  `entries?_indented` over the entries of an object; all three are on the fuel.
* `parse?_pretty`, and with the bytes of the text `ofBytes?_encode_pretty`.
-/

namespace LogTail.Json

/-! ## Digits -/

theorem isDigit_of_mem_toDigits {n : Nat} {c : Char} (h : c ∈ Nat.toDigits 10 n) : c.isDigit = true :=
  Nat.isDigit_of_mem_toDigits (by decide) (by decide) h

theorem value_toDigits (n : Nat) : Text.Decimal.value (Nat.toDigits 10 n) = n := by
  have hfold (ds : List Char) (m : Nat) :
      ds.foldl (fun n c => n * 10 + (c.toNat - 0x30)) m = Nat.ofDigitChars 10 ds m := by
    induction ds generalizing m with
    | nil => rfl
    | cons c cs ih => rw [List.foldl_cons, ih, Nat.ofDigitChars_cons, mul_comm]; rfl
  rw [Text.Decimal.value, hfold, Nat.ofDigitChars_ten_toDigits]

theorem head?_toDigits {n : Nat} (h : 0 < n) : (Nat.toDigits 10 n).head? ≠ some '0' := by
  induction n using Nat.strongRecOn with
  | _ n ih =>
    rcases Nat.lt_or_ge n 10 with hlt | hge
    · rw [Nat.toDigits_of_lt_base hlt]
      interval_cases n <;> decide
    · rw [Nat.toDigits_of_base_le (by decide) hge, List.head?_append_of_ne_nil _ Nat.toDigits_ne_nil]
      exact ih (n / 10) (by omega) (by omega)

/-! ## Numbers -/

/-- How a number is laid out: its sign, its digits before and after the point, and a power of ten. -/
structure Layout where
  negative : Bool
  whole : List Char
  fraction : List Char
  power : Option Int

namespace Layout

def unsigned (l : Layout) : List Char :=
  l.whole ++ ((if l.fraction = [] then [] else '.' :: l.fraction) ++ (l.power.map powerText).getD [])

def text (l : Layout) : List Char := if l.negative then '-' :: l.unsigned else l.unsigned

def number (l : Layout) : Number := .ofDigits l.negative l.whole l.fraction l.power

/-- What the grammar of numbers asks for. -/
structure Proper (l : Layout) : Prop where
  nonempty : l.whole ≠ []
  whole : ∀ c ∈ l.whole, c.isDigit = true
  noZero : l.whole.head? = some '0' → l.whole.length = 1
  fraction : ∀ c ∈ l.fraction, c.isDigit = true

end Layout

def Number.layout : Number → Layout
  | .integer negative n => ⟨negative, Nat.toDigits 10 n, [], none⟩
  | .decimal negative digits exponent =>
    let ds := Nat.toDigits 10 digits
    let place := exponent + ds.length
    if digits = 0 then ⟨negative, ['0'], ['0'], none⟩
    else if 0 ≤ exponent ∧ place ≤ 16 then ⟨negative, ds ++ List.replicate exponent.toNat '0', ['0'], none⟩
    else if 0 < place ∧ place ≤ 16 then ⟨negative, ds.take place.toNat, ds.drop place.toNat, none⟩
    else if -5 < place ∧ place ≤ 0 then ⟨negative, ['0'], List.replicate (-place).toNat '0' ++ ds, none⟩
    else ⟨negative, ds.take 1, ds.drop 1, some (place - 1)⟩

def Number.reread (n : Number) : Number := n.layout.number

theorem unsigned_decimal (negative : Bool) (digits : Nat) (exponent : Int) :
    (Number.decimal negative digits exponent).layout.unsigned = decimalText digits exponent := by
  have hne : Nat.toDigits 10 digits ≠ [] := Nat.toDigits_ne_nil
  simp only [Number.layout, decimalText]
  generalize Nat.toDigits 10 digits = ds at hne ⊢
  split_ifs with h1 h2 h3 h4
  · simp [Layout.unsigned]
  · simp [Layout.unsigned]
  · have hdrop : ds.drop (exponent + ds.length).toNat ≠ [] := by
      rw [Ne, List.drop_eq_nil_iff]
      omega
    simp [Layout.unsigned, hdrop]
  · simp [Layout.unsigned, hne]
  · match ds, hne with
    | [d], _ => simp [Layout.unsigned]
    | d :: e :: rest, _ => simp [Layout.unsigned]

theorem negative_decimal (negative : Bool) (digits : Nat) (exponent : Int) :
    (Number.decimal negative digits exponent).layout.negative = negative := by
  simp only [Number.layout]
  split_ifs <;> rfl

theorem Number.text_eq (n : Number) : n.text = n.layout.text := by
  cases n with
  | integer negative n => cases negative <;> simp [Number.text, Number.layout, Layout.text, Layout.unsigned]
  | decimal negative digits exponent =>
    rw [Number.text, Layout.text, unsigned_decimal, negative_decimal]

theorem Number.layout_proper (n : Number) : n.layout.Proper := by
  have hzero : ∀ c ∈ ['0'], c.isDigit = true := by simp
  have hzeros (k : Nat) : ∀ c ∈ List.replicate k '0', c.isDigit = true := fun c hc =>
    hzero c (List.mem_singleton.2 (List.eq_of_mem_replicate hc))
  cases n with
  | integer negative n =>
    refine ⟨Nat.toDigits_ne_nil, fun c => isDigit_of_mem_toDigits, fun h => ?_, by simp [Number.layout]⟩
    rcases Nat.eq_zero_or_pos n with rfl | hpos
    · rfl
    · exact absurd h (head?_toDigits hpos)
  | decimal negative digits exponent =>
    have hne : Nat.toDigits 10 digits ≠ [] := Nat.toDigits_ne_nil
    have hds : ∀ c ∈ Nat.toDigits 10 digits, c.isDigit = true := fun c => isDigit_of_mem_toDigits
    have hhead : digits ≠ 0 → (Nat.toDigits 10 digits).head? ≠ some '0' := fun h =>
      head?_toDigits (Nat.pos_of_ne_zero h)
    simp only [Number.layout]
    generalize Nat.toDigits 10 digits = ds at hne hds hhead ⊢
    split_ifs with h1 h2 h3 h4
    · exact ⟨by simp, hzero, by simp, hzero⟩
    · refine ⟨by simp [hne], fun c hc => ?_, fun h => ?_, hzero⟩
      · exact (List.mem_append.1 hc).elim (hds c) (hzeros _ c)
      · rw [List.head?_append_of_ne_nil _ hne] at h
        exact absurd h (hhead h1)
    · have htake : ds.take (exponent + ds.length).toNat ≠ [] := by simp [hne]; omega
      refine ⟨htake, fun c hc => hds c (List.mem_of_mem_take hc), fun h => ?_,
        fun c hc => hds c (List.mem_of_mem_drop hc)⟩
      rw [List.head?_take, if_neg (by omega)] at h
      exact absurd h (hhead h1)
    · refine ⟨by simp, hzero, by simp, fun c hc => ?_⟩
      exact (List.mem_append.1 hc).elim (hzeros _ c) (hds c)
    · exact ⟨by simp [hne], fun c hc => hds c (List.mem_of_mem_take hc), fun h => by
        rw [List.head?_take, if_neg (by decide)] at h
        exact absurd h (hhead h1), fun c hc => hds c (List.mem_of_mem_drop hc)⟩

/-- What stands behind a number does not go on with it. -/
def EndsNumber (rest : List Char) : Prop :=
  ∀ c, rest.head? = some c → c.isDigit = false ∧ c ≠ '.' ∧ c ≠ 'e' ∧ c ≠ 'E'

theorem takeWhile_isDigit {ds rest : List Char} (hds : ∀ c ∈ ds, c.isDigit = true)
    (hrest : ∀ c, rest.head? = some c → c.isDigit = false) :
    (ds ++ rest).takeWhile Char.isDigit = ds := by
  rw [List.takeWhile_append_of_pos hds]
  cases rest with
  | nil => simp
  | cons c cs => rw [List.takeWhile_cons_of_neg (by simp [hrest c rfl]), List.append_nil]

theorem exponent?_powerText (power : Int) {rest : List Char} (hrest : EndsNumber rest) :
    exponent? (powerText power ++ rest) = some (some power, rest) := by
  have hds : ∀ c ∈ Nat.toDigits 10 power.natAbs, c.isDigit = true := fun c => isDigit_of_mem_toDigits
  have htake := takeWhile_isDigit hds (fun c hc => (hrest c hc).1)
  have hne : (Nat.toDigits 10 power.natAbs).isEmpty = false := by simp
  by_cases hneg : power < 0
  · simp only [powerText, hneg, if_true, List.cons_append, exponent?, true_or, htake, hne, Bool.false_eq_true,
      if_false, value_toDigits, List.drop_left]
    congr 3; omega
  · simp only [powerText, hneg, if_false, List.cons_append, exponent?, true_or, if_true, htake, hne,
      Bool.false_eq_true, value_toDigits, List.drop_left]
    congr 3; omega

theorem exponent?_none {rest : List Char} (hrest : EndsNumber rest) : exponent? rest = some (none, rest) := by
  cases rest with
  | nil => rfl
  | cons c cs =>
    have hc := hrest c rfl
    simp only [exponent?, hc.2.2, or_self, if_false]

theorem exponent?_layout (power : Option Int) {rest : List Char} (hrest : EndsNumber rest) :
    exponent? ((power.map powerText).getD [] ++ rest) = some (power, rest) := by
  cases power with
  | none => exact exponent?_none hrest
  | some power => exact exponent?_powerText power hrest

theorem fractionDigits?_layout {fraction rest : List Char} (hfraction : ∀ c ∈ fraction, c.isDigit = true)
    (hrest : ∀ c, rest.head? = some c → c.isDigit = false ∧ c ≠ '.') :
    fractionDigits? ((if fraction = [] then [] else '.' :: fraction) ++ rest) = some (fraction, rest) := by
  by_cases hempty : fraction = []
  · subst hempty
    rw [if_pos rfl, List.nil_append]
    cases rest with
    | nil => rfl
    | cons c cs =>
      rw [fractionDigits?]
      rintro r ⟨⟩
      exact (hrest '.' rfl).2 rfl
  · rw [if_neg hempty, List.cons_append, fractionDigits?]
    simp only [takeWhile_isDigit hfraction fun c hc => (hrest c hc).1, List.isEmpty_iff, hempty, if_false,
      List.drop_left]

theorem number?_layout {l : Layout} (hl : l.Proper) {rest : List Char} (hrest : EndsNumber rest) :
    number? (l.text ++ rest) = some (l.number, rest) := by
  -- neither what stands behind the fraction nor what stands behind the whole part goes on with its digits
  have hpower : ∀ c, ((l.power.map powerText).getD [] ++ rest).head? = some c →
      c.isDigit = false ∧ c ≠ '.' := by
    intro c hc
    cases hp : l.power with
    | none => rw [hp] at hc; exact ⟨(hrest c hc).1, (hrest c hc).2.1⟩
    | some power =>
      rw [hp] at hc
      obtain rfl : 'e' = c := by simpa [powerText] using hc
      decide
  have hfraction : ∀ c, ((if l.fraction = [] then [] else '.' :: l.fraction) ++
      ((l.power.map powerText).getD [] ++ rest)).head? = some c → c.isDigit = false := by
    intro c hc
    split_ifs at hc with hempty
    · exact (hpower c hc).1
    · obtain rfl : '.' = c := by simpa using hc
      decide
  have hwhole := takeWhile_isDigit hl.whole hfraction
  have hread := fractionDigits?_layout hl.fraction hpower
  obtain ⟨c, cs, hcons⟩ := List.exists_cons_of_ne_nil hl.nonempty
  have hnotMinus : c ≠ '-' := by
    rintro rfl
    exact absurd (hl.whole '-' (by simp [hcons])) (by decide)
  have hnonzero : ¬ (l.whole.isEmpty = true ∨ (l.whole.head? = some '0' ∧ l.whole.length ≠ 1)) := by
    rintro (h | ⟨h, h'⟩)
    · exact hl.nonempty (List.isEmpty_iff.1 h)
    · exact h' (hl.noZero h)
  unfold number?
  cases hneg : l.negative with
  | true =>
    simp only [Layout.text, hneg, if_true, Layout.unsigned, List.cons_append, List.append_assoc, hwhole,
      if_neg hnonzero, List.drop_left, hread, Option.bind_eq_bind, Option.bind_some,
      exponent?_layout l.power hrest, Layout.number]
  | false =>
    split
    rename_i hmatch
    split at hmatch
    · rename_i h
      rw [Layout.text, hneg, Layout.unsigned, hcons] at h
      exact absurd (List.cons.inj h).1 hnotMinus
    · obtain ⟨rfl, rfl⟩ := Prod.mk.inj hmatch
      simp only [Layout.text, hneg, Bool.false_eq_true, if_false, Layout.unsigned, List.append_assoc, hwhole,
        if_neg hnonzero, List.drop_left, hread, Option.bind_eq_bind, Option.bind_some,
        exponent?_layout l.power hrest, Layout.number]

theorem number?_text (n : Number) {rest : List Char} (hrest : EndsNumber rest) :
    number? (n.text ++ rest) = some (n.reread, rest) := by
  rw [n.text_eq]
  exact number?_layout n.layout_proper hrest

/-! ## Strings -/

theorem unit?_control : ∀ n < 0x20, ∀ rest,
    unit? ('0' :: '0' :: (Text.Hex.ofByte (UInt8.ofNat n) ++ rest)) = some (n, rest) := by
  intro n hn rest
  have hhex : ∀ n < 0x20, Text.Hex.toNat? ('0' :: '0' :: Text.Hex.ofByte (UInt8.ofNat n)) = some n := by decide
  exact congrArg (Option.map (·, rest)) (hhex n hn)

theorem stringPart?_escape (c : Char) (rest : List Char) :
    stringPart? (escape c ++ rest) = some (.char c rest) := by
  unfold escape
  split_ifs with h1 h2 h3 h4 h5 h6 h7 h8
  · subst h1; rfl
  · subst h2; rfl
  · subst h3; rfl
  · subst h4; rfl
  · subst h5; rfl
  · subst h6; rfl
  · subst h7; rfl
  · simp only [List.cons_append, List.nil_append, stringPart?, unit?_control _ h8, Option.bind_eq_bind,
      Option.bind_some]
    rw [if_neg (by omega), if_neg (by omega), Char.ofNat_toNat]
  · rw [List.singleton_append, stringPart?]
    · rw [if_neg h8]
    · exact h1
    · exact fun _ h => absurd h h2
    · exact fun _ _ h => absurd h h2
    · exact fun h => absurd h h2

theorem stringFrom_escape (cs read rest : List Char) {fuel : Nat} (hfuel : cs.length < fuel) :
    stringFrom fuel (some read) (cs.flatMap escape ++ '"' :: rest) =
      some (some (String.ofList (read.reverse ++ cs)), rest) := by
  induction cs generalizing read fuel with
  | nil =>
    obtain ⟨n, rfl⟩ : ∃ n, fuel = n + 1 := ⟨fuel - 1, by simp at hfuel; omega⟩
    simp [stringFrom, stringPart?]
  | cons c cs ih =>
    obtain ⟨n, rfl⟩ : ∃ n, fuel = n + 1 := ⟨fuel - 1, by simp at hfuel; omega⟩
    rw [List.flatMap_cons, List.append_assoc, stringFrom, stringPart?_escape]
    simpa using ih (c :: read) (Nat.lt_of_succ_lt_succ hfuel)

theorem length_escape (c : Char) : 0 < (escape c).length := by
  unfold escape
  split_ifs <;> simp

theorem string?_quote (s : String) (rest : List Char) :
    string? (s.toList.flatMap escape ++ '"' :: rest) = some (some s, rest) := by
  have hlength (cs : List Char) : cs.length ≤ (cs.flatMap escape).length := by
    induction cs with
    | nil => simp
    | cons c cs ih =>
      have := length_escape c
      simp only [List.flatMap_cons, List.length_append, List.length_cons]
      omega
  rw [string?, stringFrom_escape]
  · simp
  · have := hlength s.toList
    simp only [List.length_append, List.length_cons]
    omega


/-! ## Values -/

mutual
def reread : Json → Json
  | .number n => .number n.reread
  | .unpaired => .string "\ufffd"
  | .array items => .array (rereadItems items)
  | .object entries => .object (rereadEntries entries)
  | j => j
def rereadItems : List Json → List Json
  | [] => []
  | j :: rest => j.reread :: rereadItems rest
def rereadEntries : List (String × Json) → List (String × Json)
  | [] => []
  | (k, j) :: rest => (k, j.reread) :: rereadEntries rest
end

/-- What stands first in a value: no blank, and nothing that closes an array or an object. -/
def Begins (cs : List Char) : Prop :=
  ∃ c rest, cs = c :: rest ∧ isSpace c = false ∧ c ≠ ']' ∧ c ≠ '\x7d'

theorem skipSpace_begins {cs : List Char} (h : Begins cs) (rest : List Char) :
    skipSpace (cs ++ rest) = cs ++ rest := by
  obtain ⟨c, cs, rfl, hc, -⟩ := h
  rw [List.cons_append, skipSpace, List.dropWhile_cons_of_neg (by simp [hc])]

theorem skipSpace_newline (level : Nat) (rest : List Char) :
    skipSpace (newline level ++ rest) = skipSpace rest := by
  have hblank : ∀ c ∈ newline level, isSpace c = true := by
    intro c hc
    rcases List.mem_cons.1 hc with rfl | hc
    · rfl
    · rw [List.eq_of_mem_replicate hc]; rfl
  rw [skipSpace, List.dropWhile_append_of_pos hblank, skipSpace]

def isNumeral (c : Char) : Bool := c = '-' || c.isDigit

theorem text_cons (n : Number) : ∃ c cs, n.text = c :: cs ∧ isNumeral c = true := by
  rw [n.text_eq, Layout.text]
  obtain ⟨c, cs, hcons⟩ := List.exists_cons_of_ne_nil n.layout_proper.nonempty
  split
  · exact ⟨_, _, rfl, rfl⟩
  · rw [Layout.unsigned, hcons]
    exact ⟨c, _, rfl, by simp [isNumeral, n.layout_proper.whole c (by simp [hcons])]⟩

theorem begins_of_numeral {c : Char} (h : isNumeral c = true) (cs : List Char) : Begins (c :: cs) := by
  refine ⟨c, cs, rfl, ?_, ?_, ?_⟩
  · by_contra hspace
    simp only [isSpace, Bool.not_eq_false, Bool.or_eq_true, decide_eq_true_eq] at hspace
    rcases hspace with ((rfl | rfl) | rfl) | rfl <;> exact absurd h (by decide)
  all_goals
    rintro rfl
    exact absurd h (by decide)

theorem value?_number (n : Number) {rest : List Char} (hrest : EndsNumber rest) (fuel : Nat) :
    value? (fuel + 1) (n.text ++ rest) = some (.number n.reread, rest) := by
  obtain ⟨c, cs, hcons, hc⟩ := text_cons n
  have hread := number?_text n hrest
  have hspace := skipSpace_begins (begins_of_numeral hc cs) rest
  rw [hcons] at hread ⊢
  rw [List.cons_append] at hread hspace ⊢
  rw [value?, hspace]
  split
  case h_7 => rw [hread]; rfl
  -- no other value begins with a numeral
  all_goals
    rename_i heq
    rw [(List.cons.inj heq).1] at hc
    exact absurd hc (by decide)

theorem begins_indented (j : Json) (level : Nat) : Begins (j.indented level) := by
  have hbegins (c : Char) (cs : List Char) (hspace : isSpace c = false) (hc : c ≠ ']' ∧ c ≠ '\x7d') :
      Begins (c :: cs) := ⟨c, cs, rfl, hspace, hc⟩
  match j with
  | .null => exact hbegins 'n' _ (by decide) (by decide)
  | .bool true => exact hbegins 't' _ (by decide) (by decide)
  | .bool false => exact hbegins 'f' _ (by decide) (by decide)
  | .number n =>
    obtain ⟨c, cs, hcons, hc⟩ := text_cons n
    change Begins n.text
    rw [hcons]
    exact begins_of_numeral hc cs
  | .string s => exact hbegins '"' _ (by decide) (by decide)
  | .unpaired => exact hbegins '"' _ (by decide) (by decide)
  | .array [] => exact hbegins '[' _ (by decide) (by decide)
  | .array (_ :: _) => exact hbegins '[' _ (by decide) (by decide)
  | .object [] => exact hbegins '\x7b' _ (by decide) (by decide)
  | .object (_ :: _) => exact hbegins '\x7b' _ (by decide) (by decide)

theorem endsNumber_newline (level : Nat) (rest : List Char) : EndsNumber (newline level ++ rest) := by
  intro c hc
  obtain rfl : '\n' = c := by simpa [newline] using hc
  decide

theorem endsNumber_comma (rest : List Char) : EndsNumber (',' :: rest) := by
  intro c hc
  obtain rfl : ',' = c := by simpa using hc
  decide

theorem value?_quote (s : String) (rest : List Char) (fuel : Nat) :
    value? (fuel + 1) (quote s ++ rest) = some (.string s, rest) := by
  have hquote : quote s ++ rest = '"' :: (s.toList.flatMap escape ++ '"' :: rest) := by simp [quote]
  rw [hquote, value?]
  change ((string? (s.toList.flatMap escape ++ '"' :: rest)).map _) = _
  rw [string?_quote]
  rfl

theorem skipSpace_newline_begins (level : Nat) {cs : List Char} (h : Begins cs) (rest : List Char) :
    skipSpace (newline level ++ (cs ++ rest)) = cs ++ rest := by
  rw [skipSpace_newline, skipSpace_begins h]

theorem begins_items (level : Nat) (j : Json) (items : List Json) : Begins (indentedItems level (j :: items)) := by
  obtain ⟨c, cs, hcons, hc⟩ := begins_indented j level
  cases items with
  | nil => exact ⟨c, cs, hcons, hc⟩
  | cons i items =>
    refine ⟨c, cs ++ (',' :: newline level ++ indentedItems level (i :: items)), ?_, hc⟩
    rw [indentedItems, hcons] <;> simp

theorem begins_entries (level : Nat) (k : String) (j : Json) (entries : List (String × Json)) :
    Begins (indentedEntries level ((k, j) :: entries)) := by
  cases entries with
  | nil => exact ⟨'"', _, rfl, by decide, by decide⟩
  | cons => exact ⟨'"', _, rfl, by decide, by decide⟩

/-- Blanks in front of a value count for nothing. -/
theorem value?_congr {cs cs' : List Char} (h : skipSpace cs = skipSpace cs') (fuel : Nat) :
    value? fuel cs = value? fuel cs' := by
  cases fuel with
  | zero => rfl
  | succ fuel => rw [value?, value?, h]

theorem items?_congr {cs cs' : List Char} (h : skipSpace cs = skipSpace cs') (fuel : Nat) :
    items? fuel cs = items? fuel cs' := by
  cases fuel with
  | zero => rfl
  | succ fuel => rw [items?, items?, value?_congr h]

theorem entries?_congr {cs cs' : List Char} (h : skipSpace cs = skipSpace cs') (fuel : Nat) :
    entries? fuel cs = entries? fuel cs' := by
  cases fuel with
  | zero => rfl
  | succ fuel => rw [entries?, entries?, h]

theorem entries?_cons {k : String} {j j' : Json} {level fuel : Nat} {rest : List Char}
    (hvalue : value? fuel (j.indented level ++ rest) = some (j', rest)) :
    entries? (fuel + 1) (quote k ++ ':' :: ' ' :: (j.indented level ++ rest)) =
      match skipSpace rest with
      | '\x7d' :: rest => some ([(k, j')], rest)
      | ',' :: rest => (entries? fuel rest).map fun (es, rest) => ((k, j') :: es, rest)
      | _ => none := by
  have hspace : skipSpace (' ' :: (j.indented level ++ rest)) = skipSpace (j.indented level ++ rest) := rfl
  have hvalue' := (value?_congr hspace fuel).trans hvalue
  have hquote (cs : List Char) : quote k ++ cs = '"' :: (k.toList.flatMap escape ++ '"' :: cs) := by
    simp [quote]
  rw [hquote, entries?]
  change ((string? (k.toList.flatMap escape ++ '"' :: _)).bind _) = _
  rw [string?_quote]
  change ((value? fuel (' ' :: _)).bind _) = _
  rw [hvalue']
  rfl

mutual
theorem value?_indented : ∀ (j : Json) (level : Nat) (rest : List Char) (fuel : Nat), EndsNumber rest →
    (j.indented level).length < fuel → value? fuel (j.indented level ++ rest) = some (j.reread, rest)
  | _, _, _, 0, _, hfuel => absurd hfuel (Nat.not_lt_zero _)
  | .null, level, rest, fuel + 1, _, _ => rfl
  | .bool true, level, rest, fuel + 1, _, _ => rfl
  | .bool false, level, rest, fuel + 1, _, _ => rfl
  | .number n, level, rest, fuel + 1, hrest, _ => value?_number n hrest fuel
  | .string s, level, rest, fuel + 1, _, _ => value?_quote s rest fuel
  | .unpaired, level, rest, fuel + 1, _, _ => value?_quote "\ufffd" rest fuel
  | .array [], level, rest, fuel + 1, _, _ => rfl
  | .object [], level, rest, fuel + 1, _, _ => rfl
  | .array (j :: items), level, rest, fuel + 1, _, hfuel => by
    have hlength : (indentedItems (level + 1) (j :: items)).length + 1 < fuel := by
      simp only [indented, List.length_cons, List.length_append, newline] at hfuel
      omega
    have hbegins := begins_items (level + 1) j items
    have htext : (Json.array (j :: items)).indented level ++ rest =
        '[' :: (newline (level + 1) ++
          (indentedItems (level + 1) (j :: items) ++ (newline level ++ ']' :: rest))) := by
      simp [indented]
    rw [htext, value?]
    change (match skipSpace _ with | ']' :: rest => some (Json.array [], rest) | rest => _) = _
    rw [skipSpace_newline_begins _ hbegins]
    have hitems := items?_indented j items (level + 1) level rest fuel hlength
    obtain ⟨c, cs, hcons, -, hc, -⟩ := hbegins
    split
    · rename_i heq
      rw [hcons] at heq
      exact absurd (List.cons.inj heq).1 hc
    · rw [hitems]
      rfl
  | .object ((k, j) :: entries), level, rest, fuel + 1, _, hfuel => by
    have hlength : (indentedEntries (level + 1) ((k, j) :: entries)).length + 1 < fuel := by
      simp only [indented, List.length_cons, List.length_append, newline] at hfuel
      omega
    have hbegins := begins_entries (level + 1) k j entries
    have htext : (Json.object ((k, j) :: entries)).indented level ++ rest = '\x7b' :: (newline (level + 1) ++
        (indentedEntries (level + 1) ((k, j) :: entries) ++ (newline level ++ '\x7d' :: rest))) := by
      simp [indented]
    rw [htext, value?]
    change (match skipSpace _ with | '\x7d' :: rest => some (Json.object [], rest) | rest => _) = _
    rw [skipSpace_newline_begins _ hbegins]
    have hentries := entries?_indented k j entries (level + 1) level rest fuel hlength
    obtain ⟨c, cs, hcons, -, -, hc⟩ := hbegins
    split
    · rename_i heq
      rw [hcons] at heq
      exact absurd (List.cons.inj heq).1 hc
    · rw [hentries]
      rfl
termination_by structural _ _ _ fuel => fuel
theorem items?_indented : ∀ (j : Json) (items : List Json) (level outer : Nat) (rest : List Char) (fuel : Nat),
    (indentedItems level (j :: items)).length + 1 < fuel →
    items? fuel (indentedItems level (j :: items) ++ (newline outer ++ ']' :: rest)) =
      some (rereadItems (j :: items), rest)
  | _, _, _, _, _, 0, hfuel => absurd hfuel (Nat.not_lt_zero _)
  | j, [], level, outer, rest, fuel + 1, hfuel => by
    rw [indentedItems] at hfuel ⊢
    rw [items?, value?_indented j level _ _ (endsNumber_newline _ _) (by omega)]
    simp only [Option.bind_eq_bind, Option.bind_some, skipSpace_newline]
    rfl
  | j, i :: items, level, outer, rest, fuel + 1, hfuel => by
    have htext : indentedItems level (j :: i :: items) =
        j.indented level ++ ',' :: (newline level ++ indentedItems level (i :: items)) := by
      rw [indentedItems] <;> simp
    rw [htext] at hfuel ⊢
    simp only [List.length_append, List.length_cons] at hfuel
    rw [List.append_assoc, items?, List.cons_append, value?_indented j level _ _ (endsNumber_comma _) (by omega)]
    simp only [Option.bind_eq_bind, Option.bind_some, List.append_assoc]
    have hitems := items?_indented i items level outer rest fuel (by omega)
    change ((items? fuel (newline level ++ _)).map _) = _
    rw [items?_congr (skipSpace_newline level _), hitems]
    rfl
termination_by structural _ _ _ _ _ fuel => fuel
theorem entries?_indented : ∀ (k : String) (j : Json) (entries : List (String × Json)) (level outer : Nat)
    (rest : List Char) (fuel : Nat), (indentedEntries level ((k, j) :: entries)).length + 1 < fuel →
    entries? fuel (indentedEntries level ((k, j) :: entries) ++ (newline outer ++ '\x7d' :: rest)) =
      some (rereadEntries ((k, j) :: entries), rest)
  | _, _, _, _, _, _, 0, hfuel => absurd hfuel (Nat.not_lt_zero _)
  | k, j, [], level, outer, rest, fuel + 1, hfuel => by
    have htext : indentedEntries level [(k, j)] = quote k ++ ':' :: ' ' :: j.indented level := rfl
    rw [htext] at hfuel ⊢
    simp only [List.length_append, List.length_cons] at hfuel
    have hvalue := value?_indented j level _ fuel (endsNumber_newline outer ('\x7d' :: rest)) (by omega)
    rw [List.append_assoc, List.cons_append, List.cons_append, entries?_cons hvalue, skipSpace_newline]
    rfl
  | k, j, (l, i) :: entries, level, outer, rest, fuel + 1, hfuel => by
    have htext : indentedEntries level ((k, j) :: (l, i) :: entries) = quote k ++ ':' :: ' ' ::
        (j.indented level ++ ',' :: (newline level ++ indentedEntries level ((l, i) :: entries))) := by
      rw [indentedEntries] <;> simp
    rw [htext] at hfuel ⊢
    simp only [List.length_append, List.length_cons] at hfuel
    have hvalue := value?_indented j level _ fuel (endsNumber_comma (newline level ++
      (indentedEntries level ((l, i) :: entries) ++ (newline outer ++ '\x7d' :: rest)))) (by omega)
    have hentries := entries?_indented l i entries level outer rest fuel (by omega)
    simp only [List.append_assoc, List.cons_append]
    rw [entries?_cons hvalue]
    change ((entries? fuel (newline level ++ _)).map _) = _
    rw [entries?_congr (skipSpace_newline level _), hentries]
    rfl
termination_by structural _ _ _ _ _ _ fuel => fuel
end

theorem parse?_pretty (j : Json) : parse? j.pretty = some j.reread := by
  have hends : EndsNumber [] := by simp [EndsNumber]
  have hvalue := value?_indented j 0 [] (2 * (j.indented 0).length + 2) hends (by omega)
  rw [List.append_nil] at hvalue
  rw [parse?, pretty, String.toList_ofList]
  change (value? (2 * (j.indented 0).length + 2) (j.indented 0)).bind _ = _
  rw [hvalue]
  rfl

theorem ofBytes?_encode (s : String) : ofBytes? (Text.Utf8.encode s) = parse? s := by
  have hpieces : (s.toList.map Text.Utf8.Piece.scalar).flatMap pieceText = s.toList := by
    rw [List.flatMap_map]
    exact List.flatMap_singleton' _
  rw [ofBytes?, Text.Utf8.pieces_encode, hpieces, String.ofList_toList]

/-- **A value is read from the bytes of its indented layout**, with its numbers read from their digits. -/
theorem ofBytes?_encode_pretty (j : Json) : ofBytes? (Text.Utf8.encode j.pretty) = some j.reread := by
  rw [ofBytes?_encode, parse?_pretty]

end LogTail.Json
