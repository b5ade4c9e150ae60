import LogTail.Proofs.TextCodes
import LogTail.Proofs.Terminator

/-!
# Texts as code units

What is written for a text in an encoding is a row of code units, and nothing else is known of it here: the numbers of
the units (`Encoding.codes`), and that a number below 0x80 stands for itself alone (`Encoding.codes_ascii`). So a line
feed and a carriage return are found where the text has them, and nowhere inside or across other characters
(`Encoding.terminator?_encode`, `Encoding.last_encode`).

* `Encoding.decode_encode`: a text is decoded from what was written for it.
* `Encoding.stripBom_mark` and `Encoding.stripBom_encode`: a byte order mark is taken off where one was written in
  front of a text, and nothing else is.
-/

namespace LogTail.Encoding

/-- A character that can be written: all but in Latin-1, where there are 256. -/
def Represents (e : Encoding) (c : Char) : Prop := e = latin1 → c.toNat ≤ 0xff

def codes (e : Encoding) (c : Char) : List Nat :=
  match e with
  | utf8 => (String.utf8EncodeChar c).map UInt8.toNat
  | latin1 | utf32le | utf32be => [c.toNat]
  | utf16le | utf16be =>
    if c.toNat < 0x10000 then [c.toNat]
    else [0xd800 + (c.toNat - 0x10000) / 0x400, 0xdc00 + (c.toNat - 0x10000) % 0x400]

def written (e : Encoding) (ns : List Nat) : Bytes := ns.flatMap e.unitBytes

variable {e : Encoding} {c : Char} {n : Nat} {ns : List Nat} {bs : Bytes} {s : String}

/-! ## One unit -/

theorem length_unitBytes (e : Encoding) (n : Nat) : (e.unitBytes n).length = e.unit := by cases e <;> rfl

theorem unitValue_unitBytes (h : n < 256 ^ e.unit) : e.unitValue (e.unitBytes n) = n := by
  cases e <;> simp [unit, unitValue, unitBytes] at h ⊢ <;> omega

theorem asciiUnit_eq (e : Encoding) (b : UInt8) : e.asciiUnit b = e.unitBytes b.toNat := by
  have hb := b.toNat_lt
  have hlow : UInt8.ofNat (b.toNat % 256) = b := by rw [Nat.mod_eq_of_lt hb, UInt8.ofNat_toNat]
  have hhigh (k : Nat) : UInt8.ofNat (b.toNat / Nat.pow 256 (k + 1) % 256) = 0 := by
    have hpow : b.toNat < Nat.pow 256 (k + 1) := Nat.lt_of_lt_of_le hb (Nat.le_self_pow k.succ_ne_zero 256)
    rw [Nat.div_eq_of_lt hpow]
    rfl
  have hzero : UInt8.ofNat (b.toNat / Nat.pow 256 0 % 256) = b := by
    rw [show Nat.pow 256 0 = 1 from rfl, Nat.div_one, hlow]
  cases e <;> simp only [asciiUnit, unitBytes, hzero, hhigh 0, hhigh 1, hhigh 2]

theorem unitBytes_inj {m : Nat} (hm : m < 256 ^ e.unit) (hn : n < 256 ^ e.unit) (h : e.unitBytes m = e.unitBytes n) :
    m = n := by
  rw [← unitValue_unitBytes hm, h, unitValue_unitBytes hn]

theorem byte_lt (e : Encoding) (b : UInt8) : b.toNat < 256 ^ e.unit :=
  Nat.lt_of_lt_of_le b.toNat_lt (Nat.le_self_pow (Nat.ne_of_gt e.unit_pos) 256)

/-! ## The units of a character -/

theorem encodeChar_eq (e : Encoding) (c : Char) : e.encodeChar c = e.written (e.codes c) := by
  have hbyte (b : UInt8) : utf8.unitBytes b.toNat = [b] := (asciiUnit_eq utf8 b).symm
  cases e with
  | utf8 => simp [written, encodeChar, codes, List.flatMap_map, hbyte]
  | latin1 => simp [written, encodeChar, codes]
  | utf32le => simp [written, encodeChar, codes]
  | utf32be => simp [written, encodeChar, codes]
  | utf16le =>
    by_cases hc : c.toNat < 0x10000 <;> simp [written, encodeChar, codes, hc]
  | utf16be =>
    by_cases hc : c.toNat < 0x10000 <;> simp [written, encodeChar, codes, hc]

theorem encode_eq (e : Encoding) (s : String) : e.encode s = e.written (s.toList.flatMap e.codes) := by
  rw [encode, written, List.flatMap_assoc]
  exact congrArg (s.toList.flatMap ·) (funext (encodeChar_eq e))

theorem encode_append (e : Encoding) (s t : String) : e.encode (s ++ t) = e.encode s ++ e.encode t := by
  rw [encode, String.toList_append, List.flatMap_append]
  rfl

theorem toNat_lt (c : Char) : c.toNat < 0xd800 ∨ 0xe000 ≤ c.toNat ∧ c.toNat < 0x110000 := by
  have hvalid : c.toNat.isValidChar := c.valid
  unfold Nat.isValidChar at hvalid
  omega

theorem codes_lt (h : e.Represents c) (hn : n ∈ e.codes c) : n < 256 ^ e.unit := by
  have hc := toNat_lt c
  unfold codes at hn
  cases e with
  | utf8 =>
    obtain ⟨b, -, rfl⟩ := List.mem_map.1 hn
    exact b.toNat_lt
  | latin1 =>
    have := h rfl
    simp [unit] at hn ⊢
    omega
  | utf32le => simp [unit] at hn ⊢; omega
  | utf32be => simp [unit] at hn ⊢; omega
  | utf16le =>
    simp only [unit] at hn ⊢
    split at hn <;> simp at hn <;> omega
  | utf16be =>
    simp only [unit] at hn ⊢
    split at hn <;> simp at hn <;> omega

theorem le_of_mem_following {b : UInt8} {v : Nat} (more : Nat) (h : b ∈ Text.Utf8.following more v) : 0x80 ≤ b.toNat := by
  induction more with
  | zero => cases h
  | succ more ih =>
    rcases List.mem_cons.1 h with rfl | h
    · rw [UInt8.toNat_ofNat_of_lt' (by simp only [UInt8.size]; omega)]
      omega
    · exact ih h

theorem utf8_cases (c : Char) : c.toNat < 0x80 ∧ utf8.codes c = [c.toNat] ∨ ∀ n ∈ utf8.codes c, 0x80 ≤ n := by
  rcases Text.Utf8.ranges_cases c with h | ⟨more, h⟩
  · have hbytes := Text.Utf8.encode_of_lt h
    rw [Char.ofNat_toNat] at hbytes
    refine .inl ⟨h, ?_⟩
    rw [codes, hbytes, List.map_singleton, UInt8.toNat_ofNat_of_lt' (by simp only [UInt8.size]; omega)]
  · have hbytes := Text.Utf8.encode_of_ranges h
    have hlead := h.leads.bounds
    rw [Char.ofNat_toNat] at hbytes
    refine .inr fun n hn => ?_
    rw [codes, hbytes, Text.Utf8.sequence] at hn
    obtain ⟨b, hb, rfl⟩ := List.mem_map.1 hn
    rcases List.mem_cons.1 hb with rfl | hb
    · rw [UInt8.toNat_ofNat_of_lt' (by simp only [UInt8.size]; omega)]
      omega
    · exact le_of_mem_following more hb

/-- **A unit below 0x80 is a whole character.** -/
theorem codes_ascii (hn : n ∈ e.codes c) (hlow : n < 0x80) : e.codes c = [n] ∧ c.toNat = n := by
  have hwide (hn : n ∈ utf16le.codes c) : utf16le.codes c = [n] ∧ c.toNat = n := by
    by_cases hc : c.toNat < 0x10000
    · simp only [codes, if_pos hc, List.mem_singleton] at hn ⊢
      exact ⟨by rw [hn], hn.symm⟩
    · simp only [codes, if_neg hc, List.mem_cons, List.not_mem_nil, or_false] at hn
      omega
  have hone (hn : n ∈ [c.toNat]) : [c.toNat] = [n] ∧ c.toNat = n := by
    rw [List.mem_singleton.1 hn]
    exact ⟨rfl, rfl⟩
  cases e with
  | utf8 =>
    rcases utf8_cases c with ⟨-, hcodes⟩ | hall
    · rw [hcodes] at hn ⊢
      exact hone hn
    · exact absurd hlow (Nat.not_lt.2 (hall n hn))
  | latin1 => exact hone hn
  | utf16le => exact hwide hn
  | utf16be => exact hwide hn
  | utf32le => exact hone hn
  | utf32be => exact hone hn

theorem codes_ne_nil (e : Encoding) (c : Char) : e.codes c ≠ [] := by
  have hutf8 : utf8.codes c ≠ [] := by
    rw [codes, String.utf8EncodeChar]
    split_ifs <;> simp
  have hutf16 : utf16le.codes c ≠ [] := by
    rw [codes]
    split_ifs <;> simp
  cases e with
  | utf8 => exact hutf8
  | latin1 => simp [codes]
  | utf16le => exact hutf16
  | utf16be => exact hutf16
  | utf32le => simp [codes]
  | utf32be => simp [codes]

/-! ## Rows of units -/

theorem length_written (e : Encoding) (ns : List Nat) : (e.written ns).length = ns.length * e.unit := by
  induction ns with
  | nil => simp [written]
  | cons n ns ih =>
    rw [written, List.flatMap_cons, List.length_append, length_unitBytes, ← written, ih, List.length_cons,
      Nat.succ_mul, Nat.add_comm]

theorem written_append (e : Encoding) (ms ns : List Nat) : e.written (ms ++ ns) = e.written ms ++ e.written ns :=
  List.flatMap_append

theorem foldl_addByte (done : List Bytes) (begun unit : Bytes) (h : begun.length + unit.length = e.unit)
    (hne : unit ≠ []) : unit.foldl e.addByte (done, begun) = ((begun ++ unit) :: done, []) := by
  induction unit generalizing begun with
  | nil => exact absurd rfl hne
  | cons b unit ih =>
    rw [List.foldl_cons, addByte]
    rcases unit with _ | ⟨b', unit⟩
    · have hfull : ¬ (begun ++ [b]).length < e.unit := by
        rw [List.length_append]
        omega
      rw [if_neg hfull]
      rfl
    · simp only [List.length_cons] at h
      have hshort : (begun ++ [b]).length < e.unit := by
        rw [List.length_append, List.length_singleton]
        omega
      have hrest : (begun ++ [b]).length + (b' :: unit).length = e.unit := by
        rw [List.length_append, List.length_singleton, List.length_cons]
        omega
      rw [if_pos hshort, ih _ hrest (by simp), List.append_assoc]
      rfl

theorem units_written (e : Encoding) (ns : List Nat) : e.units (e.written ns) = ns.map e.unitBytes := by
  have hfold (done : List Bytes) :
      (e.written ns).foldl e.addByte (done, []) = ((ns.map e.unitBytes).reverse ++ done, []) := by
    induction ns generalizing done with
    | nil => rfl
    | cons n ns ih =>
      have hlength := length_unitBytes e n
      have hne : e.unitBytes n ≠ [] := fun h => by
        rw [h] at hlength
        exact absurd hlength.symm (Nat.ne_of_gt e.unit_pos)
      rw [written, List.flatMap_cons, List.foldl_append, ← written,
        foldl_addByte done [] _ (by simpa using hlength) hne, ih]
      simp
  rw [units, hfold, List.append_nil, List.reverse_reverse]

theorem unitValue_written (h : ∀ n ∈ ns, n < 256 ^ e.unit) : (e.units (e.written ns)).map e.unitValue = ns := by
  rw [units_written, List.map_map]
  exact (List.map_congr_left fun n hn => unitValue_unitBytes (h n hn)).trans (List.map_id ns)

theorem terminator?_written (h : ∀ n ∈ ns, n < 256 ^ e.unit) (hfree : 0x0a ∉ ns) : e.terminator? (e.written ns) = none := by
  rw [terminator?_eq_none_iff]
  intro k hfirst
  induction ns generalizing k with
  | nil =>
    have hinside := hfirst.inside
    rw [written, List.flatMap_nil, List.length_nil, Nat.succ_mul] at hinside
    have := e.unit_pos
    omega
  | cons n ns ih =>
    have hunit : e.unitAt (e.written (n :: ns)) 0 = e.unitBytes n :=
      unitAt_zero_append (length_unitBytes e n) (e.written ns)
    rcases k with _ | k
    · have hfeed := hfirst.feed
      rw [hunit, lineFeed, asciiUnit_eq] at hfeed
      have hten : n = 0x0a := unitBytes_inj (h n List.mem_cons_self) (byte_lt e 0x0a) hfeed
      exact hfree (hten ▸ List.mem_cons_self)
    · have hdrop : (e.written (n :: ns)).drop e.unit = e.written ns := by
        rw [written, List.flatMap_cons, ← length_unitBytes e n, List.drop_left]
        rfl
      have hlater := (firstFeed_succ.1 hfirst).2
      rw [hdrop] at hlater
      exact ih (fun m hm => h m (List.mem_cons_of_mem n hm)) (fun hin => hfree (List.mem_cons_of_mem n hin)) k hlater

theorem last_written {b : UInt8} (h : ∀ n ∈ ns, n < 256 ^ e.unit) (hsuffix : e.asciiUnit b <:+ e.written ns) :
    ns.getLast? = some b.toNat := by
  rcases List.eq_nil_or_concat ns with rfl | ⟨front, n, rfl⟩
  · have hlength := hsuffix.length_le
    rw [asciiUnit_eq, length_unitBytes] at hlength
    have := e.unit_pos
    simp only [written, List.flatMap_nil, List.length_nil] at hlength
    omega
  · rw [List.concat_eq_append, written_append, asciiUnit_eq] at hsuffix
    have hsame : e.unitBytes b.toNat = e.unitBytes n := by
      have hlast : e.unitBytes n <:+ e.written front ++ e.written [n] := ⟨e.written front, by simp [written]⟩
      refine (List.suffix_of_suffix_length_le hsuffix hlast ?_).eq_of_length ?_
      · rw [length_unitBytes, length_unitBytes]
      · rw [length_unitBytes, length_unitBytes]
    rw [unitBytes_inj (byte_lt e b) (h n (by simp)) hsame, List.concat_eq_append, List.getLast?_append]
    rfl

/-! ## Texts -/

theorem codes_encode_lt (h : ∀ c ∈ s.toList, e.Represents c) : ∀ n ∈ s.toList.flatMap e.codes, n < 256 ^ e.unit := by
  intro n hn
  obtain ⟨c, hc, hn⟩ := List.mem_flatMap.1 hn
  exact codes_lt (h c hc) hn

theorem unit_dvd_encode (e : Encoding) (s : String) : e.unit ∣ (e.encode s).length := by
  rw [encode_eq, length_written]
  exact Nat.dvd_mul_left ..

/-- **A text without a line feed is written without one**, whatever bytes its characters have. -/
theorem terminator?_encode (h : ∀ c ∈ s.toList, e.Represents c) (hfree : '\n' ∉ s.toList) :
    e.terminator? (e.encode s) = none := by
  rw [encode_eq]
  refine terminator?_written (codes_encode_lt h) fun hfeed => ?_
  obtain ⟨c, hc, hfeed⟩ := List.mem_flatMap.1 hfeed
  obtain rfl : c = '\n' := Char.toNat_inj.1 (codes_ascii hfeed (by decide)).2
  exact hfree hc

theorem last_encode (h : ∀ c ∈ s.toList, e.Represents c) (hsuffix : e.carriageReturn <:+ e.encode s) :
    s.toList.getLast? = some '\r' := by
  rw [encode_eq] at hsuffix
  have hlast := last_written (codes_encode_lt h) hsuffix
  rcases List.eq_nil_or_concat s.toList with hnil | ⟨front, c, hcs⟩
  · rw [hnil] at hlast
    cases hlast
  · rw [hcs, List.concat_eq_append, List.flatMap_append, List.flatMap_singleton, List.getLast?_append,
      List.getLast?_eq_some_getLast (codes_ne_nil e c), Option.some_or, Option.some.injEq] at hlast
    have hin : (0x0d : UInt8).toNat ∈ e.codes c := hlast ▸ List.getLast_mem _
    obtain rfl : c = '\r' := Char.toNat_inj.1 (codes_ascii hin (by decide)).2
    rw [hcs, List.concat_eq_append, List.getLast?_append]
    rfl

theorem utf16Onto_codes (read cs : List Char) : utf16Onto read (cs.flatMap utf16le.codes) = cs.reverse ++ read := by
  induction cs generalizing read with
  | nil => rfl
  | cons c cs ih =>
    have hc := toNat_lt c
    rw [List.flatMap_cons, List.reverse_cons, List.append_assoc, List.singleton_append, ← ih]
    by_cases hplane : c.toNat < 0x10000
    · -- a single unit, which is no surrogate
      have hsingle : ¬ (0xd800 ≤ c.toNat ∧ c.toNat < 0xe000) := by omega
      have hhigh (v : Nat) : ¬ (0xd800 ≤ c.toNat ∧ c.toNat < 0xdc00 ∧ 0xdc00 ≤ v ∧ v < 0xe000) := by omega
      rw [codes, if_pos hplane, List.singleton_append]
      rcases cs.flatMap utf16le.codes with _ | ⟨v, rest⟩
      · simp only [utf16Onto, if_neg hsingle, Char.ofNat_toNat]
      · rw [utf16Onto, if_neg (hhigh v), if_neg hsingle, Char.ofNat_toNat]
    · have hpair : 0xd800 ≤ 0xd800 + (c.toNat - 0x10000) / 0x400 ∧ 0xd800 + (c.toNat - 0x10000) / 0x400 < 0xdc00 ∧
          0xdc00 ≤ 0xdc00 + (c.toNat - 0x10000) % 0x400 ∧ 0xdc00 + (c.toNat - 0x10000) % 0x400 < 0xe000 := by omega
      have hvalue : 0x10000 + (0xd800 + (c.toNat - 0x10000) / 0x400 - 0xd800) * 0x400 +
          (0xdc00 + (c.toNat - 0x10000) % 0x400 - 0xdc00) = c.toNat := by omega
      rw [codes, if_neg hplane, List.cons_append, List.singleton_append, utf16Onto, if_pos hpair, hvalue,
        Char.ofNat_toNat]

theorem scalar_toNat (c : Char) : scalar c.toNat = c := by
  have hvalid : c.toNat.isValidChar := c.valid
  rw [scalar, if_pos hvalid, Char.ofNat_toNat]

theorem decode_utf8 (s : String) : utf8.decode (utf8.encode s) = s := by
  show String.ofList ((Text.Utf8.pieces (Text.Utf8.encode s)).map fun p => p.scalar?.getD '\ufffd') = s
  rw [Text.Utf8.pieces_encode, List.map_map]
  exact (congrArg String.ofList (List.map_id s.toList)).trans String.ofList_toList

theorem decode_latin1 (h : ∀ c ∈ s.toList, latin1.Represents c) : latin1.decode (latin1.encode s) = s := by
  have hbyte {c : Char} (hc : c ∈ s.toList) : (latin1.encodeChar c).map (fun b => Char.ofNat b.toNat) = [c] := by
    have hlow : c.toNat < 256 := Nat.lt_succ_of_le (h c hc rfl)
    show [Char.ofNat (UInt8.ofNat (c.toNat / 1 % 256)).toNat] = [c]
    rw [Nat.div_one, Nat.mod_eq_of_lt hlow, UInt8.toNat_ofNat_of_lt' hlow, Char.ofNat_toNat]
  have hall : (latin1.encode s).map (fun b => Char.ofNat b.toNat) = s.toList := by
    rw [encode, List.map_flatMap, List.flatMap_congr fun c hc => hbyte hc, List.flatMap_singleton']
  exact (congrArg String.ofList hall).trans String.ofList_toList

/-- **A text is decoded from what was written for it.** -/
theorem decode_encode (h : ∀ c ∈ s.toList, e.Represents c) : e.decode (e.encode s) = s := by
  have hvalues := unitValue_written (codes_encode_lt h)
  rw [← encode_eq] at hvalues
  have hwide {ns : List Nat} (hns : ns = s.toList.flatMap utf16le.codes) :
      String.ofList (utf16Onto [] ns).reverse = s := by
    rw [hns, utf16Onto_codes, List.append_nil, List.reverse_reverse, String.ofList_toList]
  have hscalars {us : List Bytes} (hus : us.map e.unitValue = s.toList.flatMap fun c => [c.toNat]) :
      String.ofList (us.map fun u => scalar (e.unitValue u)) = s := by
    have hmap : us.map (fun u => scalar (e.unitValue u)) = s.toList :=
      calc us.map (fun u => scalar (e.unitValue u))
        _ = (us.map e.unitValue).map scalar := by rw [List.map_map]; rfl
        _ = s.toList.flatMap fun c => [scalar c.toNat] := by rw [hus, List.map_flatMap]; rfl
        _ = s.toList := by simp only [scalar_toNat, List.flatMap_singleton']
    rw [hmap, String.ofList_toList]
  cases e with
  | utf8 => exact decode_utf8 s
  | latin1 => exact decode_latin1 h
  | utf16le => exact hwide hvalues
  | utf16be => exact hwide hvalues
  | utf32le => exact hscalars hvalues
  | utf32be => exact hscalars hvalues

/-! ## Byte order marks -/

theorem stripBom_mark (e : Encoding) (bs : Bytes) : e.stripBom (e.bom ++ bs) = bs := by
  rw [stripBom, List.take_left, if_pos rfl, List.drop_left]

/-- A byte order mark is what is written for U+FEFF; in Latin-1 there is none. -/
theorem bom_eq (e : Encoding) : e = latin1 ∧ e.bom = [] ∨ e ≠ latin1 ∧ e.bom = e.encode "\ufeff" := by
  cases e <;> decide

theorem done_suffix (bs : Bytes) (m : Text.Utf8.Machine) : m.done <:+ (bs.foldl Text.Utf8.Machine.step m).done := by
  have hstart (done : List Text.Utf8.Piece) (b : UInt8) : done <:+ (Text.Utf8.Machine.start done b).done := by
    rcases Text.Utf8.start_cases done b with ⟨-, h⟩ | ⟨-, h⟩ | ⟨p, h, -⟩
    · rw [h]
      exact List.suffix_cons ..
    · rw [h]
      exact List.suffix_cons ..
    · rw [h]
  have hstep (m : Text.Utf8.Machine) (b : UInt8) : m.done <:+ (m.step b).done := by
    unfold Text.Utf8.Machine.step
    split
    · exact hstart _ _
    · split
      · dsimp only
        split
        · exact List.suffix_cons ..
        · exact List.suffix_rfl
      · exact (List.suffix_cons ..).trans (hstart _ _)
  induction bs generalizing m with
  | nil => exact List.suffix_rfl
  | cons b bs ih => exact (hstep m b).trans (ih (m.step b))

theorem head_of_utf8 {rest : Bytes} (h : utf8.encode s = String.utf8EncodeChar c ++ rest) : s.toList.head? = some c := by
  have hpieces : Text.Utf8.pieces (String.utf8EncodeChar c ++ rest) = s.toList.map .scalar := by
    rw [← Text.Utf8.pieces_encode, ← h]
    rfl
  rw [Text.Utf8.pieces, List.foldl_append, Text.Utf8.foldl_encodeChar] at hpieces
  obtain ⟨more, hmore⟩ := done_suffix rest ⟨[.scalar c], none⟩
  have hhead : (rest.foldl Text.Utf8.Machine.step ⟨[.scalar c], none⟩).finish.head? = some (.scalar c) := by
    rw [Text.Utf8.Machine.finish, ← hmore]
    split <;> simp
  rw [hpieces, List.head?_map, Option.map_eq_some_iff] at hhead
  obtain ⟨c', hc', hsame⟩ := hhead
  rw [hc', Text.Utf8.Piece.scalar.inj hsame]

theorem head_of_unit (hwide : 1 < e.unit) (h : ∀ c ∈ s.toList, e.Represents c)
    (hunit : e.unitAt (e.encode s) 0 = e.unitBytes 0xfeff) : s.toList.head? = some '\ufeff' := by
  have hmark : 0xfeff < 256 ^ e.unit := Nat.lt_of_lt_of_le (by decide) (Nat.pow_le_pow_right (by decide) hwide)
  rw [encode_eq] at hunit
  have hbounds := codes_encode_lt h
  rcases hcs : s.toList with _ | ⟨c, cs⟩
  · have hlength := length_unitBytes e 0xfeff
    rw [hcs] at hunit
    rw [← hunit, unitAt, List.flatMap_nil, written, List.flatMap_nil, List.drop_nil, List.take_nil] at hlength
    exact absurd hlength (Nat.ne_of_lt e.unit_pos)
  · obtain ⟨n, ns, hn⟩ := List.exists_cons_of_ne_nil (codes_ne_nil e c)
    rw [hcs, List.flatMap_cons, hn] at hbounds hunit
    rw [List.cons_append, written, List.flatMap_cons, unitAt_zero_append (length_unitBytes e n)] at hunit
    have hvalue : n = 0xfeff := unitBytes_inj (hbounds n (by simp)) hmark hunit
    have hc : c.toNat = 0xfeff := by
      have hone (hn : [c.toNat] = n :: ns) : c.toNat = 0xfeff := (List.cons.inj hn).1.trans hvalue
      have htwo (hn : utf16le.codes c = n :: ns) : c.toNat = 0xfeff := by
        have hrange := toNat_lt c
        rw [codes] at hn
        split_ifs at hn
        · exact hone hn
        · have := (List.cons.inj hn).1
          omega
      cases e with
      | utf8 => exact absurd hwide (by decide)
      | latin1 => exact absurd hwide (by decide)
      | utf16le => exact htwo hn
      | utf16be => exact htwo hn
      | utf32le => exact hone hn
      | utf32be => exact hone hn
    rw [Char.toNat_inj.1 (show c.toNat = '\ufeff'.toNat from hc)]
    rfl

/-- **No other text loses anything with a byte order mark.** -/
theorem stripBom_encode (h : ∀ c ∈ s.toList, e.Represents c) (hfirst : s.toList.head? ≠ some '\ufeff') :
    e.stripBom (e.encode s) = e.encode s := by
  by_cases hlatin : e = latin1
  · rw [hlatin, stripBom]
    rfl
  rw [stripBom, if_neg]
  intro hmark
  refine hfirst ?_
  by_cases hwide : 1 < e.unit
  · refine head_of_unit hwide h ?_
    have hunit : e.bom.length = e.unit ∧ e.bom = e.unitBytes 0xfeff := by
      cases e <;> first | exact absurd hwide (by decide) | decide
    rw [unitAt, Nat.zero_mul, List.drop_zero, ← hunit.1, hmark, hunit.2]
  · obtain rfl : e = utf8 := by
      cases e <;> first | rfl | exact absurd rfl hlatin | exact absurd (by decide) hwide
    have hfront : utf8.encode s = String.utf8EncodeChar '\ufeff' ++ (utf8.encode s).drop 3 :=
      calc utf8.encode s = (utf8.encode s).take 3 ++ (utf8.encode s).drop 3 := (List.take_append_drop 3 _).symm
        _ = _ := congrArg (· ++ (utf8.encode s).drop 3) hmark
    exact head_of_utf8 hfront

end LogTail.Encoding
