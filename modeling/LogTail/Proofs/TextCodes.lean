import LogTail.Text.Base64
import Mathlib

/-!
# Texts and bytes, there and back

A text is read back from its bytes, and a byte string from its letters in base 64.

* `Utf8.decode?_eq_some_iff`: a byte string encodes a text just when it is the bytes of that text.
* `Utf8.pieces_encode`: the pieces of a text's bytes are its characters.
* `Base64.decode?_encode`: every byte string is read back, whatever its length leaves over.
-/

namespace LogTail

theorem mapM_eq_some_iff {α β : Type} {f : α → Option β} {as : List α} {bs : List β} :
    as.mapM f = some bs ↔ List.Forall₂ (fun a b => f a = some b) as bs := by
  induction as generalizing bs with
  | nil => simp [eq_comm]
  | cons a as ih =>
    simp only [List.mapM_cons, Option.bind_eq_bind, Option.bind_eq_some_iff, Option.pure_def, Option.some.injEq,
      List.forall₂_cons_left_iff, ih]
    constructor
    · rintro ⟨b, hb, bs, hbs, rfl⟩
      exact ⟨b, bs, hb, hbs, rfl⟩
    · rintro ⟨b, bs, hb, hbs, rfl⟩
      exact ⟨b, hb, bs, hbs, rfl⟩

namespace Text.Utf8

/-- The last bytes of a character with a value: so many of those behind its first. -/
def following : Nat → Nat → Bytes
  | 0, _ => []
  | missing + 1, v => UInt8.ofNat (0x80 + v / 64 ^ missing % 64) :: following missing v

/-- What the first byte of a character adds to its digit, by how many bytes follow it. -/
def leadMark : Nat → Nat
  | 1 => 0xc0
  | 2 => 0xe0
  | _ => 0xf0

def sequence (more v : Nat) : Bytes := UInt8.ofNat (leadMark more + v / 64 ^ more) :: following more v

/-- The values of the characters whose first byte is followed by so many others. -/
def Ranges (more v : Nat) : Prop :=
  (more = 1 ∧ 0x80 ≤ v ∧ v < 0x800) ∨ (more = 2 ∧ (0x800 ≤ v ∧ v < 0xd800 ∨ 0xe000 ≤ v ∧ v < 0x10000)) ∨
    (more = 3 ∧ 0x10000 ≤ v ∧ v < 0x110000)

theorem ranges_one {v : Nat} : Ranges 1 v ↔ 0x80 ≤ v ∧ v < 0x800 := by simp [Ranges]

theorem ranges_two {v : Nat} : Ranges 2 v ↔ 0x800 ≤ v ∧ v < 0xd800 ∨ 0xe000 ≤ v ∧ v < 0x10000 := by
  simp [Ranges]

theorem ranges_three {v : Nat} : Ranges 3 v ↔ 0x10000 ≤ v ∧ v < 0x110000 := by simp [Ranges]

theorem Ranges.toNat {more v : Nat} (h : Ranges more v) : (Char.ofNat v).toNat = v := by
  have hvalid : v.isValidChar := by
    unfold Ranges at h
    unfold Nat.isValidChar
    omega
  rw [Char.toNat_ofNat, if_pos hvalid]

theorem encode_of_ranges {more v : Nat} (h : Ranges more v) :
    String.utf8EncodeChar (Char.ofNat v) = sequence more v := by
  have hval : (Char.ofNat v).val.toNat = v := h.toNat
  rcases h with ⟨rfl, h⟩ | ⟨rfl, h⟩ | ⟨rfl, h⟩
  · rw [String.utf8EncodeChar, hval, if_neg (by omega), if_pos (by omega)]
    simp only [sequence, following, leadMark, List.cons.injEq, and_true]
    constructor <;> congr 1 <;> omega
  · rw [String.utf8EncodeChar, hval, if_neg (by omega), if_neg (by omega), if_pos (by omega)]
    simp only [sequence, following, leadMark, List.cons.injEq, and_true]
    refine ⟨?_, ?_, ?_⟩ <;> congr 1 <;> omega
  · rw [String.utf8EncodeChar, hval, if_neg (by omega), if_neg (by omega), if_neg (by omega)]
    simp only [sequence, following, leadMark, List.cons.injEq, and_true]
    refine ⟨?_, ?_, ?_, ?_⟩ <;> congr 1 <;> omega

theorem encode_of_lt {v : Nat} (h : v < 0x80) : String.utf8EncodeChar (Char.ofNat v) = [UInt8.ofNat v] := by
  have hval : (Char.ofNat v).val.toNat = v := by
    change (Char.ofNat v).toNat = v
    rw [Char.toNat_ofNat, if_pos (.inl (by omega))]
  rw [String.utf8EncodeChar, hval, if_pos (by omega)]

theorem ranges_cases (c : Char) : c.toNat < 0x80 ∨ ∃ more, Ranges more c.toNat := by
  have hvalid : c.toNat.isValidChar := c.valid
  unfold Nat.isValidChar at hvalid
  rcases Nat.lt_or_ge c.toNat 0x800 with h | h
  · rcases Nat.lt_or_ge c.toNat 0x80 with h' | h'
    · exact .inl h'
    · exact .inr ⟨1, .inl ⟨rfl, h', h⟩⟩
  · rcases Nat.lt_or_ge c.toNat 0x10000 with h' | h'
    · exact .inr ⟨2, .inr (.inl ⟨rfl, by omega⟩)⟩
    · exact .inr ⟨3, .inr (.inr ⟨rfl, by omega, by omega⟩)⟩

def Piece.bytes : Piece → Bytes
  | .scalar c => String.utf8EncodeChar c
  | .broken bs => bs

/-! ## Unfinished characters -/

/-- What an unfinished character may become: `more` bytes follow its first one in the end. -/
structure Pending.Opens (p : Pending) (more : Nat) : Prop where
  missing : 0 < p.missing
  lo : 0x80 ≤ p.lo.toNat
  hi : p.hi.toNat ≤ 0xbf
  bytes : ∀ v, v / 64 ^ p.missing = p.value → p.bytes.reverse ++ following p.missing v = sequence more v
  ranges : ∀ v, v / 64 ^ p.missing = p.value →
    (Ranges more v ↔ p.lo.toNat ≤ 0x80 + v / 64 ^ (p.missing - 1) % 64 ∧
      0x80 + v / 64 ^ (p.missing - 1) % 64 ≤ p.hi.toNat)

/-- The digits that first bytes bear. -/
def Leads (more value : Nat) : Prop :=
  more = 1 ∧ value < 0x20 ∨ more = 2 ∧ value < 0x10 ∨ more = 3 ∧ value < 8

theorem Ranges.leads {more v : Nat} (h : Ranges more v) : Leads more (v / 64 ^ more) := by
  rcases h with ⟨rfl, h⟩ | ⟨rfl, h⟩ | ⟨rfl, h⟩
  · exact .inl ⟨rfl, by omega⟩
  · exact .inr (.inl ⟨rfl, by omega⟩)
  · exact .inr (.inr ⟨rfl, by omega⟩)

theorem Leads.bounds {more value : Nat} (h : Leads more value) :
    0xc0 ≤ leadMark more + value ∧ leadMark more + value < 0xf8 := by
  rcases h with ⟨rfl, h⟩ | ⟨rfl, h⟩ | ⟨rfl, h⟩ <;> simp only [leadMark] <;> omega

theorem Leads.unique {more more' value value' : Nat} (h : Leads more value) (h' : Leads more' value')
    (heq : leadMark more + value = leadMark more' + value') : more = more' ∧ value = value' := by
  rcases h with ⟨rfl, h⟩ | ⟨rfl, h⟩ | ⟨rfl, h⟩ <;> rcases h' with ⟨rfl, h'⟩ | ⟨rfl, h'⟩ | ⟨rfl, h'⟩ <;>
    simp only [leadMark] at heq <;> omega

/-- A first byte opens a character that so many bytes complete. -/
structure Pending.OpenedBy (p : Pending) (b : UInt8) : Prop where
  opens : p.Opens p.missing
  bytes : p.bytes = [b]
  leads : Leads p.missing p.value
  lead : b.toNat = leadMark p.missing + p.value

theorem openedBy {b lo hi : UInt8} {value more : Nat} (hleads : Leads more value) (hlo : 0x80 ≤ lo.toNat)
    (hhi : hi.toNat ≤ 0xbf) (hb : b.toNat = leadMark more + value)
    (hranges : ∀ v, v / 64 ^ more = value →
      (Ranges more v ↔ lo.toNat ≤ 0x80 + v / 64 ^ (more - 1) % 64 ∧
        0x80 + v / 64 ^ (more - 1) % 64 ≤ hi.toNat)) :
    (⟨[b], value, more, lo, hi⟩ : Pending).OpenedBy b where
  opens.missing := by
    unfold Leads at hleads
    dsimp only
    omega
  opens.lo := hlo
  opens.hi := hhi
  opens.bytes v hv := by
    have hb' : b = UInt8.ofNat (leadMark more + v / 64 ^ more) := by rw [hv, ← hb, UInt8.ofNat_toNat]
    rw [sequence, ← hb']
    rfl
  opens.ranges := hranges
  bytes := rfl
  leads := hleads
  lead := hb

/-- A byte that begins a piece is a character, is none, or opens one. -/
theorem start_cases (done : List Piece) (b : UInt8) :
    (b.toNat < 0x80 ∧ Machine.start done b = ⟨.scalar (Char.ofNat b.toNat) :: done, none⟩) ∨
    ((0x80 ≤ b.toNat ∧ b.toNat < 0xc2 ∨ 0xf5 ≤ b.toNat) ∧
      Machine.start done b = ⟨.broken [b] :: done, none⟩) ∨
    ∃ p, Machine.start done b = ⟨done, some p⟩ ∧ p.OpenedBy b := by
  have hlt : b.toNat < 256 := b.toNat_lt
  generalize hm : Machine.start done b = m
  unfold Machine.start at hm
  simp only [UInt8.lt_iff_toNat_lt, beq_iff_eq, ← UInt8.toNat_inj, UInt8.reduceToNat] at hm
  split_ifs at hm <;> subst hm
  · exact .inl ⟨by assumption, rfl⟩
  · exact .inr (.inl ⟨by omega, rfl⟩)
  -- the seven ranges of first bytes
  iterate 7
    · refine .inr (.inr ⟨_, rfl, openedBy ?_ (by decide) (by decide) ?_ fun v hv => ?_⟩)
      · unfold Leads; omega
      · simp only [leadMark]; omega
      · simp only [ranges_one, ranges_two, ranges_three, UInt8.reduceToNat, Nat.reduceSub, Nat.reducePow]
        omega
  · exact .inr (.inl ⟨by omega, rfl⟩)

variable {p : Pending} {more : Nat} {b : UInt8} {done : List Piece}

/-- A byte within the bounds goes on with an unfinished character, or completes it. -/
theorem Pending.Opens.step (done : List Piece) (h : p.Opens more) (hlo : p.lo.toNat ≤ b.toNat)
    (hhi : b.toNat ≤ p.hi.toNat) :
    (p.missing = 1 ∧ Machine.step ⟨done, some p⟩ b =
        ⟨.scalar (Char.ofNat (p.value * 64 + (b.toNat - 0x80))) :: done, none⟩ ∧
      Ranges more (p.value * 64 + (b.toNat - 0x80)) ∧
      sequence more (p.value * 64 + (b.toNat - 0x80)) = p.bytes.reverse ++ [b]) ∨
    ∃ p', Machine.step ⟨done, some p⟩ b = ⟨done, some p'⟩ ∧ p'.Opens more ∧
      p'.bytes = b :: p.bytes ∧ p'.missing + 1 = p.missing ∧
      p'.value = p.value * 64 + (b.toNat - 0x80) := by
  have hb1 := h.lo
  have hb2 := h.hi
  have hwithin : (p.lo ≤ b && b ≤ p.hi) = true := by
    simp only [Bool.and_eq_true, decide_eq_true_eq, UInt8.le_iff_toNat_le]
    exact ⟨hlo, hhi⟩
  obtain ⟨missing, hmissing⟩ : ∃ m, p.missing = m + 1 := ⟨p.missing - 1, by have := h.missing; omega⟩
  -- a number that goes on with the byte has it as its next one
  have hgoes {v : Nat} (hv : v / 64 ^ missing = p.value * 64 + (b.toNat - 0x80)) :
      v / 64 ^ p.missing = p.value ∧ 0x80 + v / 64 ^ missing % 64 = b.toNat := by
    rw [hmissing, pow_succ, ← Nat.div_div_eq_div_mul, hv]
    omega
  have hbytes {v : Nat} (hv : v / 64 ^ missing = p.value * 64 + (b.toNat - 0x80)) :
      p.bytes.reverse ++ b :: following missing v = sequence more v := by
    rw [← h.bytes v (hgoes hv).1, hmissing, following, (hgoes hv).2, UInt8.ofNat_toNat]
  have hranges {v : Nat} (hv : v / 64 ^ missing = p.value * 64 + (b.toNat - 0x80)) : Ranges more v := by
    refine (h.ranges v (hgoes hv).1).2 ?_
    rw [hmissing, Nat.add_sub_cancel, (hgoes hv).2]
    exact ⟨hlo, hhi⟩
  simp only [Machine.step, hwithin, if_true]
  rcases Nat.eq_zero_or_pos missing with rfl | hpos
  · rw [if_pos hmissing]
    exact .inl ⟨hmissing, rfl, hranges (by simp), (hbytes (by simp)).symm⟩
  · rw [if_neg (by omega)]
    refine .inr ⟨_, rfl, ⟨by dsimp only; omega, by dsimp only; decide, by dsimp only; decide, ?_, ?_⟩, rfl,
      by dsimp only; omega, rfl⟩
    · intro v hv
      dsimp only at hv ⊢
      rw [hmissing, Nat.add_sub_cancel] at hv ⊢
      rw [List.reverse_cons, List.append_assoc]
      exact hbytes hv
    · intro v hv
      dsimp only at hv ⊢
      rw [hmissing, Nat.add_sub_cancel] at hv ⊢
      simp only [UInt8.reduceToNat]
      exact iff_of_true (hranges hv) (by omega)

/-! ## From texts to bytes and back -/

theorem foldl_following {v : Nat} (hv : Ranges more v) (n : Nat) {p : Pending} (h : p.Opens more)
    (hn : p.missing = n) (hvalue : v / 64 ^ n = p.value) :
    (following n v).foldl Machine.step ⟨done, some p⟩ = ⟨.scalar (Char.ofNat v) :: done, none⟩ := by
  induction n generalizing p with
  | zero => exact absurd hn h.missing.ne'
  | succ n ih =>
    have hnext := (h.ranges v (by rw [hn, hvalue])).1 hv
    rw [hn, Nat.add_sub_cancel] at hnext
    obtain ⟨b, hb⟩ : ∃ b, b = UInt8.ofNat (0x80 + v / 64 ^ n % 64) := ⟨_, rfl⟩
    have hbval : b.toNat = 0x80 + v / 64 ^ n % 64 :=
      hb ▸ UInt8.toNat_ofNat_of_lt' (by simp only [UInt8.size]; omega)
    have hdigits : p.value * 64 + (b.toNat - 0x80) = v / 64 ^ n := by
      rw [hbval, ← hvalue, pow_succ, ← Nat.div_div_eq_div_mul]
      omega
    rw [following, List.foldl_cons, ← hb]
    rw [← hbval] at hnext
    rcases h.step done hnext.1 hnext.2 with ⟨hone, hstep, -⟩ | ⟨p', hstep, hopens, -, hless, hvalue'⟩
    · obtain rfl : n = 0 := by omega
      rw [hstep, hdigits]
      simp [following]
    · rw [hstep]
      exact ih hopens (by omega) (by rw [hvalue', hdigits])

theorem foldl_encodeChar (done : List Piece) (c : Char) :
    (String.utf8EncodeChar c).foldl Machine.step ⟨done, none⟩ = ⟨.scalar c :: done, none⟩ := by
  rcases ranges_cases c with h | ⟨more, h⟩
  · have hbytes := encode_of_lt h
    have hb : (UInt8.ofNat c.toNat).toNat = c.toNat :=
      UInt8.toNat_ofNat_of_lt' (by simp only [UInt8.size]; omega)
    rw [Char.ofNat_toNat] at hbytes
    rw [hbytes, List.foldl_cons, List.foldl_nil]
    rcases start_cases done (UInt8.ofNat c.toNat) with ⟨-, hstart⟩ | ⟨hout, -⟩ | ⟨p, -, hopened⟩
    · rwa [hb, Char.ofNat_toNat] at hstart
    · omega
    · have := hopened.lead
      have := hopened.leads.bounds
      omega
  · have hbytes := encode_of_ranges h
    have hbounds := h.leads.bounds
    obtain ⟨b, hb⟩ : ∃ b, b = UInt8.ofNat (leadMark more + c.toNat / 64 ^ more) := ⟨_, rfl⟩
    have hbval : b.toNat = leadMark more + c.toNat / 64 ^ more :=
      hb ▸ UInt8.toNat_ofNat_of_lt' (by simp only [UInt8.size]; omega)
    have hfirst : 0xc2 ≤ b.toNat ∧ b.toNat < 0xf5 := by
      rw [hbval]
      rcases h with ⟨rfl, h⟩ | ⟨rfl, h⟩ | ⟨rfl, h⟩ <;> simp only [leadMark] <;> omega
    rw [Char.ofNat_toNat] at hbytes
    rw [hbytes, sequence, List.foldl_cons, ← hb]
    rcases start_cases done b with ⟨hlow, -⟩ | ⟨hout, -⟩ | ⟨p, hstart, hopened⟩
    · omega
    · omega
    · obtain ⟨hmore, hvalue⟩ := hopened.leads.unique h.leads (hopened.lead.symm.trans hbval)
      change (following more c.toNat).foldl Machine.step (Machine.start done b) = _
      rw [hstart, foldl_following h more (hmore ▸ hopened.opens) hmore hvalue.symm, Char.ofNat_toNat]

theorem pieces_encode (s : String) : pieces (encode s) = s.toList.map Piece.scalar := by
  have hfold (cs : List Char) (done : List Piece) :
      (cs.flatMap String.utf8EncodeChar).foldl Machine.step ⟨done, none⟩ =
        ⟨(cs.map Piece.scalar).reverse ++ done, none⟩ := by
    induction cs generalizing done with
    | nil => rfl
    | cons c cs ih => rw [List.flatMap_cons, List.foldl_append, foldl_encodeChar, ih]; simp
  simp [pieces, encode, hfold, Machine.finish]

/-- What the machine has read are the bytes of its pieces and of the unfinished character. -/
structure Machine.Read (m : Machine) (bs : Bytes) : Prop where
  bytes : m.done.reverse.flatMap Piece.bytes ++ (m.pending.map fun p => p.bytes.reverse).getD [] = bs
  opens : ∀ p, m.pending = some p → ∃ more, p.Opens more

theorem Machine.Read.start {bs : Bytes} (hbytes : done.reverse.flatMap Piece.bytes = bs) (b : UInt8) :
    (Machine.start done b).Read (bs ++ [b]) := by
  rcases start_cases done b with ⟨hlow, h⟩ | ⟨-, h⟩ | ⟨p, h, hopened⟩
  · rw [h]
    exact ⟨by simp [hbytes, Piece.bytes, encode_of_lt hlow], by simp⟩
  · rw [h]
    exact ⟨by simp [hbytes, Piece.bytes], by simp⟩
  · rw [h]
    refine ⟨by simp [hbytes, hopened.bytes], fun p' hp' => ?_⟩
    obtain rfl : p = p' := Option.some.inj hp'
    exact ⟨_, hopened.opens⟩

theorem Machine.Read.step {m : Machine} {bs : Bytes} (h : m.Read bs) (b : UInt8) :
    (m.step b).Read (bs ++ [b]) := by
  obtain ⟨done, pending⟩ := m
  have hbytes := h.bytes
  cases pending with
  | none => exact .start (by simpa using hbytes) b
  | some p =>
    obtain ⟨more, hopens⟩ := h.opens p rfl
    by_cases hwithin : p.lo.toNat ≤ b.toNat ∧ b.toNat ≤ p.hi.toNat
    · rcases hopens.step done hwithin.1 hwithin.2 with
        ⟨-, hstep, hranges, hseq⟩ | ⟨p', hstep, hopens', hmore, -⟩
      · rw [hstep]
        exact ⟨by simp [← hbytes, Piece.bytes, encode_of_ranges hranges, hseq], by simp⟩
      · rw [hstep]
        refine ⟨by simp [← hbytes, hmore], fun q hq => ?_⟩
        obtain rfl : p' = q := Option.some.inj hq
        exact ⟨more, hopens'⟩
    · have hout : (p.lo ≤ b && b ≤ p.hi) = false := by
        simpa only [Bool.and_eq_false_iff, decide_eq_false_iff_not, UInt8.le_iff_toNat_le, not_and_or]
          using hwithin
      have hstep : Machine.step ⟨done, some p⟩ b = .start (.broken p.bytes.reverse :: done) b := by
        simp [Machine.step, hout]
      rw [hstep]
      exact .start (by simpa [Piece.bytes] using hbytes) b

theorem pieces_bytes (bs : Bytes) : (pieces bs).flatMap Piece.bytes = bs := by
  have hfold (bs read : Bytes) (m : Machine) (h : m.Read read) : (bs.foldl Machine.step m).Read (read ++ bs) := by
    induction bs generalizing m read with
    | nil => simpa using h
    | cons b bs ih => simpa using ih (read ++ [b]) (m.step b) (h.step b)
  have h := (hfold bs [] ⟨[], none⟩ ⟨rfl, by simp⟩).bytes
  rw [pieces, Machine.finish]
  split <;> simp_all [Piece.bytes]

theorem mapM_scalar?_iff {ps : List Piece} {cs : List Char} :
    ps.mapM Piece.scalar? = some cs ↔ ps = cs.map Piece.scalar := by
  have hscalar (p : Piece) (c : Char) : p.scalar? = some c ↔ p = .scalar c := by
    cases p <;> simp [Piece.scalar?]
  simp only [mapM_eq_some_iff, hscalar]
  rw [← List.forall₂_map_right_iff (f := Piece.scalar) (R := Eq), List.forall₂_eq_eq_eq]

theorem decode?_eq_some_iff {bs : Bytes} {s : String} : decode? bs = some s ↔ encode s = bs := by
  constructor
  · intro h
    obtain ⟨cs, hcs, rfl⟩ := Option.map_eq_some_iff.1 h
    have hbytes := pieces_bytes bs
    rw [mapM_scalar?_iff.1 hcs, List.flatMap_map] at hbytes
    rw [encode, String.toList_ofList, ← hbytes]
    rfl
  · rintro rfl
    rw [decode?, mapM_scalar?_iff.2 (pieces_encode s), Option.map_some, String.ofList_toList]

end Text.Utf8

namespace Text.Base64

theorem value?_letter : ∀ n < 64, value? (letter n) = some n := by decide

theorem encodeOnto_append (written : List Char) :
    ∀ bs, encodeOnto written bs = encodeOnto [] bs ++ written
  | a :: b :: c :: rest => by
    rw [encodeOnto, encodeOnto_append _ rest, encodeOnto, encodeOnto_append [_, _, _, _] rest]
    simp
  | [a, b] => rfl
  | [a] => rfl
  | [] => rfl

theorem decodeOnto_group (read : Bytes) (a b c : UInt8) (rest : List Char) :
    decodeOnto read
      (letter ((a.toNat * 65536 + b.toNat * 256 + c.toNat) / 262144) ::
        letter ((a.toNat * 65536 + b.toNat * 256 + c.toNat) / 4096 % 64) ::
        letter ((a.toNat * 65536 + b.toNat * 256 + c.toNat) / 64 % 64) ::
        letter ((a.toNat * 65536 + b.toNat * 256 + c.toNat) % 64) :: rest) =
      decodeOnto (c :: b :: a :: read) rest := by
  have ha := a.toNat_lt
  have hb := b.toNat_lt
  have hc := c.toNat_lt
  rw [decodeOnto, value?_letter _ (by omega), value?_letter _ (by omega), value?_letter _ (by omega),
    value?_letter _ (by omega)]
  have hn : ∀ n < 16777216, n / 262144 * 262144 + n / 4096 % 64 * 4096 + n / 64 % 64 * 64 + n % 64 = n := by omega
  dsimp only
  rw [hn _ (by omega)]
  have h1 : (a.toNat * 65536 + b.toNat * 256 + c.toNat) % 256 = c.toNat := by omega
  have h2 : (a.toNat * 65536 + b.toNat * 256 + c.toNat) / 256 % 256 = b.toNat := by omega
  have h3 : (a.toNat * 65536 + b.toNat * 256 + c.toNat) / 65536 = a.toNat := by omega
  rw [h1, h2, h3, UInt8.ofNat_toNat, UInt8.ofNat_toNat, UInt8.ofNat_toNat]

theorem decodeOnto_encodeOnto (read : Bytes) :
    ∀ bs, decodeOnto read (encodeOnto [] bs).reverse = some (bs.reverse ++ read)
  | a :: b :: c :: rest => by
    rw [encodeOnto, encodeOnto_append, List.reverse_append]
    simp only [List.reverse_cons, List.reverse_nil, List.nil_append, List.cons_append, List.append_assoc]
    rw [decodeOnto_group, decodeOnto_encodeOnto _ rest]
  | [a, b] => by
    have ha := a.toNat_lt
    have hb := b.toNat_lt
    simp only [encodeOnto, List.reverse_cons, List.reverse_nil, List.nil_append, List.cons_append]
    have hpad : value? '=' = none := by decide
    rw [decodeOnto, value?_letter _ (by omega), value?_letter _ (by omega), value?_letter _ (by omega), hpad]
    dsimp only
    rw [if_pos ⟨rfl, rfl, by omega⟩]
    have h1 : (a.toNat * 1024 + b.toNat * 4) / 64 % 64 % 16 * 16 + (a.toNat * 1024 + b.toNat * 4) % 64 / 4 =
        b.toNat := by
      omega
    have h2 : (a.toNat * 1024 + b.toNat * 4) / 4096 * 4 + (a.toNat * 1024 + b.toNat * 4) / 64 % 64 / 16 =
        a.toNat := by
      omega
    rw [h1, h2, UInt8.ofNat_toNat, UInt8.ofNat_toNat]
  | [a] => by
    have ha := a.toNat_lt
    simp only [encodeOnto, List.reverse_cons, List.reverse_nil, List.nil_append, List.cons_append]
    have hpad : value? '=' = none := by decide
    rw [decodeOnto, value?_letter _ (by omega), value?_letter _ (by omega), hpad]
    dsimp only
    rw [if_pos ⟨rfl, rfl, rfl, by omega⟩]
    have h : a.toNat / 4 * 4 + a.toNat % 4 * 16 / 16 = a.toNat := by omega
    rw [h, UInt8.ofNat_toNat]
  | [] => rfl

theorem decode?_encode (bs : Bytes) : decode? (encode bs) = some bs := by
  rw [decode?, encode, String.toList_ofList, decodeOnto_encodeOnto]
  simp
end Text.Base64

end LogTail
