import LogTail.Proofs.JsonText
import LogTail.Proofs.Replacement
import LogTail.Proofs.Scanning

/-!
# Where a state file lives

A path that ends with a name leads into a directory, and the temporary files of the path stand in the same one
(`Disk.walk_sibling`). Where that directory is there and holds no temporary file, the file can be replaced.

* `Disk.Home` says this of a disk and a path, and `Disk.Home.ready` that it is what a replacement takes.
-/

namespace LogTail

/-! ## Names in one directory -/

namespace Path

def front (dir : Path) : Bytes :=
  if dir.bytes = [] || dir.bytes.getLast? = some slash then dir.bytes else dir.bytes ++ [slash]

variable {dir : Path} {name : Bytes}

theorem join_eq (dir : Path) (h : ProperName name) : dir.join name = ⟨dir.front ++ name⟩ := by
  have hhead : ¬ name.head? = some slash := fun hhead => h.noSlash (List.mem_of_mem_head? hhead)
  rw [join, if_neg hhead, front]
  split
  · rfl
  · rw [List.append_assoc, List.singleton_append]

/-- Nothing, or whole parts with a slash behind them. -/
def Whole (bs : Bytes) : Prop := bs = [] ∨ ∃ before, bs = before ++ [slash]

theorem whole_front (dir : Path) : Whole dir.front := by
  unfold front
  split
  · rename_i h
    rw [Bool.or_eq_true, decide_eq_true_eq, decide_eq_true_eq, List.getLast?_eq_some_iff] at h
    exact h
  · exact .inr ⟨dir.bytes, rfl⟩

theorem Whole.drop_one {bs : Bytes} (h : Whole bs) : Whole (bs.drop 1) := by
  rcases h with rfl | ⟨_ | ⟨b, before⟩, rfl⟩
  · exact .inl rfl
  · exact .inl rfl
  · exact .inr ⟨before, rfl⟩

theorem Whole.exists_pieces {bs : Bytes} (h : Whole bs) :
    ∃ pieces : List Bytes, ∀ name, ProperName name → (bs ++ name).splitOn slash = pieces ++ [name] := by
  rcases h with rfl | ⟨before, rfl⟩
  · refine ⟨[], fun name h => ?_⟩
    rw [List.nil_append, List.splitOn_eq_singleton h.noSlash, List.nil_append]
  · refine ⟨before.splitOn slash, fun name h => ?_⟩
    rw [List.append_assoc, List.singleton_append, List.splitOn_append_cons_self, List.splitOn_eq_singleton h.noSlash]

theorem exists_pieces_join (dir : Path) :
    ∃ pieces : List Bytes, ∀ name, ProperName name → (dir.join name).pieces = pieces ++ [name] := by
  obtain ⟨pieces, hpieces⟩ := (whole_front dir).exists_pieces
  exact ⟨pieces, fun name h => by rw [join_eq dir h, Path.pieces, hpieces name h]⟩

theorem getLast?_join (dir : Path) (h : ProperName name) : (dir.join name).bytes.getLast? = name.getLast? := by
  rw [join_eq dir h, List.getLast?_append_of_ne_nil _ h.nonempty]

theorem getLast?_ne_slash (h : ProperName name) : name.getLast? ≠ some slash :=
  fun hlast => h.noSlash (List.mem_of_getLast? hlast)

theorem exists_steps_join (dir : Path) :
    ∃ names : List Bytes, ∀ name, ProperName name → (dir.join name).steps = names ++ [name] := by
  obtain ⟨pieces, hpieces⟩ := exists_pieces_join dir
  refine ⟨pieces.filter (· ≠ []), fun name h => ?_⟩
  have hlast : ¬ (dir.join name).bytes.getLast? = some slash := getLast?_join dir h ▸ getLast?_ne_slash h
  rw [steps, if_neg hlast, hpieces name h, List.filter_append]
  simp [h.nonempty]

theorem isAbsolute_join {name' : Bytes} (dir : Path) (h : ProperName name) (h' : ProperName name') :
    (dir.join name').isAbsolute = (dir.join name).isAbsolute := by
  have hhead {name : Bytes} (h : ProperName name) : ¬ name.head? = some slash :=
    fun hhead => h.noSlash (List.mem_of_mem_head? hhead)
  rw [join_eq dir h, join_eq dir h', isAbsolute, isAbsolute]
  by_cases hnil : dir.front = []
  · simp [hnil, hhead h, hhead h']
  · rw [List.head?_append_of_ne_nil _ hnil, List.head?_append_of_ne_nil _ hnil]

/-! ## Temporary names -/

def temporaryName (name : Bytes) (n : Nat) : Bytes := stem name ++ 0x2e :: Text.Utf8.encode s!"{n}.tmp"

theorem encode_append (s t : String) :
    Text.Utf8.encode (s ++ t) = Text.Utf8.encode s ++ Text.Utf8.encode t := by
  rw [Text.Utf8.encode, String.toList_append, List.flatMap_append, Text.Utf8.encode, Text.Utf8.encode]

theorem mem_encode_toString {n : Nat} {b : UInt8} (h : b ∈ Text.Utf8.encode (toString n)) : 0x30 ≤ b ∧ b ≤ 0x39 := by
  rw [Text.Utf8.encode, List.mem_flatMap] at h
  obtain ⟨c, hc, hb⟩ := h
  have hdigit : c.isDigit = true :=
    Json.isDigit_of_mem_toDigits (n := n) (by simpa [toString, Nat.repr] using hc)
  rw [Char.isDigit, Bool.and_eq_true, decide_eq_true_eq, decide_eq_true_eq, ge_iff_le, UInt32.le_iff_toNat_le,
    UInt32.le_iff_toNat_le] at hdigit
  have hlo : 48 ≤ c.toNat := hdigit.1
  have hhi : c.toNat ≤ 57 := hdigit.2
  rw [← Char.ofNat_toNat c, Text.Utf8.encode_of_lt (by omega), List.mem_singleton] at hb
  rw [hb, UInt8.le_iff_toNat_le, UInt8.le_iff_toNat_le, UInt8.toNat_ofNat']
  simp only [UInt8.toNat_ofNat]
  omega

theorem temporaryName_eq (name : Bytes) (n : Nat) :
    temporaryName name n = stem name ++ 0x2e :: Text.Utf8.encode (toString n) ++ [0x2e, 0x74, 0x6d, 0x70] := by
  have htmp : Text.Utf8.encode ".tmp" = [0x2e, 0x74, 0x6d, 0x70] := by decide
  rw [temporaryName, show s!"{n}.tmp" = toString n ++ ".tmp" from rfl, encode_append, htmp, List.append_assoc,
    List.cons_append]

variable {name : Bytes}

theorem mem_temporaryName {n : Nat} {b : UInt8} (h : b ∈ temporaryName name n) :
    b ∈ name ∨ b = 0x2e ∨ 0x30 ≤ b := by
  have hstem : ∀ b ∈ stem name, b ∈ name := by
    intro b hb
    unfold stem at hb
    dsimp only at hb
    split at hb
    · exact hb
    · exact List.mem_of_mem_take hb
  rw [temporaryName_eq, List.mem_append, List.mem_append, List.mem_cons] at h
  rcases h with (hin | hin | hin) | hin
  · exact .inl (hstem b hin)
  · exact .inr (.inl hin)
  · exact .inr (.inr (mem_encode_toString hin).1)
  · simp only [List.mem_cons, List.not_mem_nil, or_false] at hin
    rcases hin with rfl | rfl | rfl | rfl <;> exact .inr (by decide)

theorem temporaryName_proper (h : ProperName name) (n : Nat) : ProperName (temporaryName name n) where
  nonempty := by simp [temporaryName_eq]
  noSlash hslash := by
    rcases mem_temporaryName hslash with hin | hin | hin
    · exact h.noSlash hin
    · exact absurd hin (by decide)
    · exact absurd hin (by decide)
  notDot heq := by
    have hlength := congrArg List.length heq
    simp [temporaryName_eq, dot] at hlength
    omega
  notDotDot heq := by
    have hlength := congrArg List.length heq
    simp [temporaryName_eq, dotDot] at hlength
    omega

theorem getLast?_temporaryName (name : Bytes) (n : Nat) : (temporaryName name n).getLast? = some 0x70 := by
  rw [temporaryName_eq, List.getLast?_append_of_ne_nil _ (by simp)]
  rfl

theorem zero_not_mem_temporaryName (h : 0 ∉ name) (n : Nat) : 0 ∉ temporaryName name n := by
  intro hzero
  rcases mem_temporaryName hzero with hin | hin | hin
  · exact h hin
  · exact absurd hin (by decide)
  · exact absurd hin (by decide)

theorem frontLength_join (dir : Path) (h : ProperName name) :
    (dir.join name).frontLength ≤ 1 ∧ (dir.join name).frontLength ≤ dir.front.length := by
  by_cases hfront : dir.front = []
  · have hpath : dir.join name = ⟨name⟩ := by rw [join_eq dir h, hfront, List.nil_append]
    have hhead : ¬ name.head? = some slash := fun hhead => h.noSlash (List.mem_of_mem_head? hhead)
    simp [frontLength, hpath, isAbsolute, hhead, pieces, List.splitOn_eq_singleton h.noSlash, h.notDot]
  · have hpos := List.length_pos_of_ne_nil hfront
    have hle : (dir.join name).frontLength ≤ 1 := by
      unfold frontLength
      split_ifs <;> omega
    omega

theorem trimEnd_join (dir : Path) (h : ProperName name) (fuel : Nat) :
    trimEnd (dir.join name).frontLength fuel (dir.join name).bytes = (dir.join name).bytes := by
  obtain ⟨hone, hfront⟩ := frontLength_join dir h
  have hwhole : Whole (dir.front.drop (dir.join name).frontLength) := by
    rcases Nat.le_one_iff_eq_zero_or_eq_one.1 hone with heq | heq <;> rw [heq]
    · exact whole_front dir
    · exact (whole_front dir).drop_one
  obtain ⟨pieces, hpieces⟩ := hwhole.exists_pieces
  have hlast : (((dir.join name).bytes.drop (dir.join name).frontLength).splitOn slash).getLast?.getD [] = name := by
    generalize (dir.join name).frontLength = kept at hfront hpieces
    rw [join_eq dir h, List.drop_append_of_le_length hfront, hpieces name h, List.getLast?_concat, Option.getD_some]
  have hisName : isName name = true := by simp [isName, h.nonempty, h.notDot]
  cases fuel with
  | zero => rfl
  | succ fuel =>
    rw [trimEnd]
    split
    · rfl
    · rw [hlast]
      exact if_pos hisName

theorem temporary_join (dir : Path) (h : ProperName name) (n : Nat) :
    StateFile.temporary (dir.join name) n = dir.join (temporaryName name n) := by
  rw [StateFile.temporary, withExtension, fileName?_join dir h]
  dsimp only
  rw [trimEnd_join dir h, join_eq dir h, join_eq dir (temporaryName_proper h n), List.length_append,
    Nat.add_sub_cancel, List.take_left, temporaryName, List.append_assoc]

end Path

namespace Disk

open LogTail.Path (ProperName temporaryName)

/-- Where a name in a directory leads, if a link that it stands for is not followed. -/
def named (d : Disk) (dir : Place) (name : Bytes) : Except Cause (Place × Option Entry) :=
  if 255 < name.length then .error .nameTooLong else .ok (dir ++ [name], d.entryAt (dir ++ [name]))

section sibling
variable {d : Disk} {dir place : Place} {entry : Option Entry} {names : List Bytes} {name name' : Bytes}

theorem walkNames_name (d : Disk) (dir : Place) (h : ProperName name) :
    d.walkNames false dir [name] = (d.named dir name).map fun e => .reached e.1 e.2 := by
  rw [walkNames, if_neg h.notDot, if_neg h.notDotDot, named]
  split
  · rfl
  · rcases hentry : d.entryAt (dir ++ [name]) with _ | _ | _ | _ <;> simp [walkNames, hentry, Except.map]

/-- Names that lead to one place lead with another last name to one beside it. -/
theorem walkNames_sibling (h : ProperName name) (h' : ProperName name') (dir : Place) (names : List Bytes) :
    (∀ place entry, d.walkNames false dir (names ++ [name]) = .ok (.reached place entry) →
      d.walkNames false dir (names ++ [name']) =
        (d.named place.dropLast name').map fun e => .reached e.1 e.2) ∧
    ∀ dir' target rest, d.walkNames false dir (names ++ [name]) = .ok (.atLink dir' target rest) →
      ∃ names', rest = names' ++ [name] ∧
        d.walkNames false dir (names ++ [name']) = .ok (.atLink dir' target (names' ++ [name'])) := by
  induction names generalizing dir with
  | nil =>
    rw [List.nil_append, List.nil_append, walkNames_name d dir h, walkNames_name d dir h', named]
    split
    · exact ⟨fun _ _ hresult => (by cases hresult), fun _ _ _ hresult => (by cases hresult)⟩
    · refine ⟨fun place entry hresult => ?_, fun _ _ _ hresult => (by cases hresult)⟩
      cases hresult
      rw [List.dropLast_concat]
  | cons first rest ih =>
    have hmore (name : Bytes) : rest ++ [name] ≠ [] := by simp
    rw [List.cons_append, List.cons_append, walkNames, walkNames]
    by_cases hdot : first = Path.dot
    · rw [if_pos hdot, if_pos hdot]
      exact ih dir
    by_cases hdotDot : first = Path.dotDot
    · rw [if_neg hdot, if_neg hdot, if_pos hdotDot, if_pos hdotDot]
      exact ih dir.dropLast
    by_cases hlong : 255 < first.length
    · simp only [if_neg hdot, if_neg hdotDot, if_pos hlong]
      exact ⟨fun _ _ hresult => (by cases hresult), fun _ _ _ hresult => (by cases hresult)⟩
    simp only [if_neg hdot, if_neg hdotDot, if_neg hlong]
    rcases d.entryAt (dir ++ [first]) with _ | _ | _ | target
    · simp only [if_neg (hmore _)]
      exact ⟨fun _ _ hresult => (by cases hresult), fun _ _ _ hresult => (by cases hresult)⟩
    · simp only [if_neg (hmore _)]
      exact ⟨fun _ _ hresult => (by cases hresult), fun _ _ _ hresult => (by cases hresult)⟩
    · exact ih (dir ++ [first])
    · simp only [hmore, false_and, if_false]
      refine ⟨fun _ _ hresult => (by cases hresult), fun dir' target' rest' hresult => ?_⟩
      cases hresult
      exact ⟨rest, rfl, rfl⟩

theorem walkLinks_sibling (h : ProperName name) (h' : ProperName name') {links : Nat}
    (hwalk : d.walkLinks false links dir (names ++ [name]) = .ok (place, entry)) :
    d.walkLinks false links dir (names ++ [name']) = d.named place.dropLast name' := by
  induction links generalizing dir names with
  | zero => cases hwalk
  | succ links ih =>
    obtain ⟨hreached, hlink⟩ := walkNames_sibling (d := d) h h' dir names
    rw [walkLinks] at hwalk
    rw [walkLinks]
    rcases hnames : d.walkNames false dir (names ++ [name]) with c | ⟨p, e⟩ | ⟨dir', target, rest⟩ <;>
      rw [hnames] at hwalk
    · cases hwalk
    · cases hwalk
      rw [hreached _ _ hnames]
      rcases d.named place.dropLast name' with _ | _ <;> rfl
    · obtain ⟨names', rfl, hnames'⟩ := hlink _ _ _ hnames
      rw [hnames']
      dsimp only at hwalk ⊢
      rw [← List.append_assoc] at hwalk ⊢
      exact ih hwalk

/-- **Names in one directory.** Where a path to one of them leads, the path to another leads beside. -/
theorem walk_sibling {dir : Path} (h : ProperName name) (h' : ProperName name') (hzero : 0 ∉ name')
    (hwalk : d.walk false (dir.join name) = .ok (place, entry)) :
    d.walk false (dir.join name') = d.named place.dropLast name' := by
  obtain ⟨names, hnames⟩ := Path.exists_steps_join dir
  have hlinks := (walk_eq_of_ok hwalk d false).1
  rw [hwalk, hnames name h] at hlinks
  have hnonempty : ¬ (dir.join name').bytes = [] := by
    rw [Path.join_eq dir h']
    simp [h'.nonempty]
  have hnoZero : ¬ (dir.join name').bytes.contains 0 = true := by
    intro hcontains
    have hfront : (0 : UInt8) ∈ dir.front := by
      rw [Path.join_eq dir h', List.contains_iff_mem, List.mem_append] at hcontains
      exact hcontains.resolve_right hzero
    have hcontains' : (dir.join name).bytes.contains 0 = true := by
      rw [Path.join_eq dir h, List.contains_iff_mem]
      exact List.mem_append_left _ hfront
    rw [walk, if_pos hcontains'] at hwalk
    split_ifs at hwalk
  rw [walk, if_neg hnonempty, if_neg hnoZero, hnames name' h', Path.isAbsolute_join dir h h']
  exact walkLinks_sibling h h' hlinks.symm

theorem ending_join (d : Disk) (dir : Path) (h : ProperName name) :
    d.ending (dir.join name) = (d.walk false (dir.join name)).map fun e => .name e.1 e.2 false := by
  obtain ⟨before, last, hlast⟩ := (List.eq_nil_or_concat' name).resolve_left h.nonempty
  have hne : last ≠ Path.slash := fun heq => h.noSlash (by simp [hlast, heq])
  have hbare : ((dir.join name).bytes.reverse.dropWhile (· = Path.slash)).reverse = (dir.join name).bytes := by
    rw [Path.join_eq dir h, hlast, ← List.append_assoc, List.reverse_concat,
      List.dropWhile_cons_of_neg (by simpa using hne), List.reverse_cons, List.reverse_reverse]
  have hnonempty : ¬ (dir.join name).bytes = [] := by
    rw [Path.join_eq dir h]
    simp [h.nonempty]
  have hpiece : (dir.join name).pieces.getLast?.getD [] = name := by
    obtain ⟨pieces, hpieces⟩ := Path.exists_pieces_join dir
    rw [hpieces name h, List.getLast?_concat, Option.getD_some]
  simp only [ending, hbare, hpiece, h.notDot, h.notDotDot, or_self, Nat.lt_irrefl, decide_false, if_neg hnonempty,
    if_false]
  rcases d.walk false (dir.join name) with c | e <;> rfl

end sibling

/-! ## Homes -/

/-- A directory in which a state file can be replaced: it is there, and nothing stands under the names of
temporary files. -/
structure Home (d : Disk) (dir : Path) (name : Bytes) (place : Place) (calls : Nat) : Prop where
  tree : d.Tree
  proper : ProperName name
  leads : ∃ entry, d.walk false (dir.join name) = .ok (place, entry) ∧ ∀ number, entry ≠ some (.directory number)
  /-- The path does not lead over a link at its own end. -/
  own : place ∉ (d.trail false (dir.join name)).dropLast
  unused : ∀ n ≥ calls, d.entryAt (place.dropLast ++ [temporaryName name n]) = none ∧
    place.dropLast ++ [temporaryName name n] ∉ d.trail true (dir.join name)
  made : ∀ parent, (dir.join name).parent? = some parent → d.makeDirectories parent = .ok d

section home
variable {d : Disk} {dir : Path} {name : Bytes} {place : Place} {calls n : Nat}

theorem Home.noZero (h : d.Home dir name place calls) : 0 ∉ name := by
  obtain ⟨entry, hwalk, -⟩ := h.leads
  intro hzero
  have hcontains : (dir.join name).bytes.contains 0 = true := by
    rw [Path.join_eq dir h.proper, List.contains_iff_mem]
    exact List.mem_append_right _ hzero
  rw [walk, if_pos hcontains] at hwalk
  split_ifs at hwalk

theorem Home.ending_temporary (h : d.Home dir name place calls) (n : Nat) :
    d.ending (StateFile.temporary (dir.join name) n) =
      (d.named place.dropLast (temporaryName name n)).map fun e => .name e.1 e.2 false := by
  obtain ⟨entry, hwalk, -⟩ := h.leads
  have hproper := Path.temporaryName_proper h.proper n
  rw [Path.temporary_join dir h.proper, ending_join d dir hproper,
    walk_sibling h.proper hproper (Path.zero_not_mem_temporaryName h.noZero n) hwalk]

/-- **At home a file can be replaced.** -/
theorem Home.ready (h : d.Home dir name place calls) : d.Ready (dir.join name) calls where
  tree := h.tree
  own p target hwalk := by
    obtain ⟨entry, hleads, -⟩ := h.leads
    rw [hleads] at hwalk
    cases hwalk
    exact h.own
  unused n hn p entry slash hending := by
    rw [h.ending_temporary, named] at hending
    split at hending
    · cases hending
    · cases hending
      exact h.unused n hn

theorem Home.makes (h : d.Home dir name place calls) : d.Makes (dir.join name) := by
  intro parent d' hparent hmade
  rw [h.made parent hparent] at hmade
  cases hmade
  exact ⟨rfl, fun _ => id⟩

/-- Where others do nothing, nothing disturbs a replacement at home. -/
theorem Home.calm {w : World} (h : w.disk.Home dir name place w.calls) (hothers : ∀ m d, w.others m d = d) :
    StateFile.Calm (dir.join name) w where
  ready := h.ready
  makes := h.makes
  spares m d _ := by
    rw [hothers]
    exact ⟨rfl, fun _ _ => rfl, fun _ _ => rfl, fun _ => rfl, fun _ _ _ _ _ => rfl, id, id⟩

theorem temporaryName_not_mem {places : List Place}
    (h : ∀ p ∈ places, ∀ last ∈ p.getLast?, last.getLast? ≠ some 0x70) :
    place ++ [temporaryName name n] ∉ places :=
  fun hin => h _ hin _ List.getLast?_concat (Path.getLast?_temporaryName name n)

end home

end Disk

end LogTail
