import LogTail.Json.Record
import LogTail.Proofs.JsonValues
import Mathlib

/-!
# Records in JSON that are kept

A record has the same fields before and after it was written, read and held, although the entries are in
another order then and their numbers may have other digits.

* `toFields?_rewrites` and `get?_rewrites`: what is under a name stays under it.
* A reader that `Keeps` gives the same before and after. The readers of integers, texts and lists do, and so
  does one that reads a record field by field (`Keeps.record`).
* `Written`: a value is a written form of what a reader makes of it.
-/

namespace LogTail.Json

/-! ## Records -/

/-- The fields of a record after it was written and read: the same are missing, and the others were written and
read. -/
def Fields.Rewrites (names : List String) (fs fs' : Fields) : Prop :=
  ∀ name ∈ names, Option.Rel Json.Rewrites (fs.find? name) (fs'.find? name)

theorem find?_zip_rewrites {items items' : List Json} (h : List.Forall₂ Rewrites items items')
    (names : List String) (name : String) :
    Option.Rel Rewrites (((names.zip items).find? fun e => e.1 == name).map (·.2))
      (((names.zip items').find? fun e => e.1 == name).map (·.2)) := by
  induction h generalizing names with
  | nil => rw [List.zip_nil_right]; exact .none
  | cons hj _ ih =>
    cases names with
    | nil => exact .none
    | cons n names =>
      rw [List.zip_cons_cons, List.zip_cons_cons, List.find?_cons, List.find?_cons]
      cases n == name with
      | true => exact .some hj
      | false => exact ih names

theorem find?_rewrites {entries entries' : List (String × Json)}
    (h : List.Forall₂ EntryRewrites entries entries') (name : String) :
    Option.Rel Rewrites ((entries.find? fun e => e.1 == name).map (·.2))
      ((entries'.find? fun e => e.1 == name).map (·.2)) := by
  induction h with
  | nil => exact .none
  | @cons e e' _ _ he _ ih =>
    rw [List.find?_cons, List.find?_cons, ← he.1]
    cases e.1 == name with
    | true => exact .some he.2
    | false => exact ih

theorem keys_eq_of_rewrites {entries entries' : List (String × Json)}
    (h : List.Forall₂ EntryRewrites entries entries') : entries.map (·.1) = entries'.map (·.1) := by
  induction h with
  | nil => rfl
  | cons he _ ih => rw [List.map_cons, List.map_cons, he.1, ih]

theorem find?_filter_names {names : List String} {name : String} (hname : name ∈ names)
    (es : List (String × Json)) : (es.filter fun e => names.contains e.1).find? (fun e => e.1 == name) =
      es.find? fun e => e.1 == name := by
  rw [List.find?_filter]
  congr 1
  funext e
  by_cases h : e.1 = name
  · simp [h, hname]
  · simp [h]

theorem get?_rewrites {j j' : Json} (h : Rewrites j j') (key : String) :
    Option.Rel Rewrites (j.get? key) (j'.get? key) := by
  cases j with
  | null | bool | string | unpaired => obtain rfl := Option.some.inj h; exact .none
  | number n => obtain ⟨n', -, rfl⟩ := Option.map_eq_some_iff.1 h; exact .none
  | array items => obtain ⟨items', -, rfl⟩ := rewrites_array.1 h; exact .none
  | object entries =>
    obtain ⟨entries', hentries, rfl⟩ := rewrites_object.1 h
    have hsorted : Sorted (entries'.foldl (fun sorted e => insertSorted e.1 e.2 sorted) []) :=
      sorted_foldl .nil
    rw [get?, get?, find?_reverse_of_nodup hsorted.nodup, find?_foldl_insertSorted, List.find?_nil,
      Option.or_none]
    exact find?_rewrites (List.forall₂_reverse_iff.2 hentries) key

theorem toFields?_rewrites {names : List String} {j j' : Json} (h : Rewrites j j') {fs : Fields}
    (hfs : j.toFields? names = some fs) : ∃ fs', j'.toFields? names = some fs' ∧ fs.Rewrites names fs' := by
  cases j with
  | null | bool | number | string | unpaired => exact absurd hfs (Option.some_ne_none _).symm
  | array items =>
    obtain ⟨items', hitems, rfl⟩ := rewrites_array.1 h
    rw [toFields?] at hfs
    split_ifs at hfs with hlength
    obtain rfl := Option.some.inj hfs
    rw [hitems.length_eq] at hlength
    exact ⟨_, if_pos hlength, fun name _ => find?_zip_rewrites hitems names name⟩
  | object entries =>
    obtain ⟨entries', hentries, rfl⟩ := rewrites_object.1 h
    dsimp only [toFields?] at hfs
    split_ifs at hfs with hnodup
    obtain rfl := Option.some.inj hfs
    have hsorted : Sorted (entries'.foldl (fun sorted e => insertSorted e.1 e.2 sorted) []) :=
      sorted_foldl .nil
    refine ⟨_, if_pos ((hsorted.nodup.sublist (List.filter_sublist.map _))), fun name hname => ?_⟩
    -- the own entries have different names, so it does not matter which of a name is the last
    have hkeys (es : List (String × Json)) : (es.filter fun e => names.contains e.1).map (·.1) =
        (es.map (·.1)).filter fun k => names.contains k := by
      rw [List.filter_map]
      rfl
    have hnodup' : ((entries'.filter fun e => names.contains e.1).map (·.1)).Nodup := by
      rwa [hkeys, ← keys_eq_of_rewrites hentries, ← hkeys]
    have hlast : entries'.reverse.find? (fun e => e.1 == name) = entries'.find? fun e => e.1 == name := by
      rw [← find?_filter_names hname, List.filter_reverse, find?_reverse_of_nodup hnodup',
        find?_filter_names hname]
    rw [Fields.find?, Fields.find?, find?_filter_names hname, find?_filter_names hname,
      find?_foldl_insertSorted, hlast, List.find?_nil, Option.or_none]
    exact find?_rewrites hentries name

theorem All.find? {number : Number → Prop} {unpaired : Prop} {names : List String} {j : Json}
    (h : All number unpaired j) {fs : Fields} (hfs : j.toFields? names = some fs) {name : String} {v : Json}
    (hv : fs.find? name = some v) : All number unpaired v := by
  obtain ⟨e, he, rfl⟩ := Option.map_eq_some_iff.1 hv
  have hmem := List.mem_of_find?_eq_some he
  cases h with
  | null | bool | number | string | unpaired => exact absurd hfs (Option.some_ne_none _).symm
  | array hitems =>
    rw [toFields?] at hfs
    split_ifs at hfs
    obtain rfl := Option.some.inj hfs
    exact hitems _ (List.of_mem_zip hmem).2
  | object hentries =>
    dsimp only [toFields?] at hfs
    split_ifs at hfs
    obtain rfl := Option.some.inj hfs
    exact hentries _ (List.mem_of_mem_filter hmem)

/-- Reading a value gives the same before and after it was written and read. -/
def Keeps {α : Type} (read : Json → Option α) : Prop :=
  ∀ j j' a, Rewrites j j' → read j = some a → read j' = some a

theorem toIntIn?_rewrites {j j' : Json} (hr : Rewrites j j') {lo hi : Int} (hlo : -signedMax - 1 ≤ lo)
    (hhi : hi ≤ wordMax) : j'.toIntIn? lo hi = j.toIntIn? lo hi := by
  cases j with
  | number n =>
    obtain ⟨n', hn', rfl⟩ := Option.map_eq_some_iff.1 hr
    have hsame (i : Int) (hin : lo ≤ i ∧ i ≤ hi) : n'.toInt? = some i ↔ n.toInt? = some i :=
      Number.toInt?_canonical?_reread hn' (hlo.trans hin.1) (hin.2.trans hhi)
    ext i
    simp only [toIntIn?, Option.bind_eq_some_iff, Option.ite_none_right_eq_some, Option.some.injEq]
    constructor
    · rintro ⟨_, hi', hin, rfl⟩
      exact ⟨_, (hsame _ hin).1 hi', hin, rfl⟩
    · rintro ⟨_, hi', hin, rfl⟩
      exact ⟨_, (hsame _ hin).2 hi', hin, rfl⟩
  | array items => obtain ⟨items', -, rfl⟩ := rewrites_array.1 hr; rfl
  | object entries => obtain ⟨entries', -, rfl⟩ := rewrites_object.1 hr; rfl
  | unpaired => obtain rfl := Option.some.inj hr; rfl
  | null | bool | string => obtain rfl := Option.some.inj hr; rfl

theorem toWord?_rewrites {j j' : Json} (hr : Rewrites j j') : j'.toWord? = j.toWord? :=
  congrArg (Option.map Int.toNat) (toIntIn?_rewrites hr (by decide) le_rfl)

theorem keeps_toNatUpTo? {hi : Nat} (hhi : hi ≤ wordMax) : Keeps (toNatUpTo? hi) := by
  intro j j' a hr h
  rw [toNatUpTo?, toIntIn?_rewrites hr (by decide) (by exact_mod_cast hhi)]
  exact h

theorem keeps_toWord? : Keeps toWord? := keeps_toNatUpTo? le_rfl

theorem keeps_toSigned? : Keeps toSigned? := fun j j' a hr h => by
  rw [toSigned?, toIntIn?_rewrites hr le_rfl (by decide)]
  exact h

theorem keeps_toBool? : Keeps toBool? := by
  intro j j' a hr h
  cases j with
  | bool b => obtain rfl := Option.some.inj hr; exact h
  | _ => exact absurd h (Option.some_ne_none _).symm

theorem keeps_toText? : Keeps toText? := by
  intro j j' a hr h
  cases j with
  | string s => obtain rfl := Option.some.inj hr; exact h
  | _ => exact absurd h (Option.some_ne_none _).symm

theorem keeps_list {α : Type} {read : Json → Option α} (h : Keeps read) :
    Keeps fun j => j.toArray?.bind fun items => items.mapM read := by
  intro j j' as hr has
  cases j with
  | array items =>
    obtain ⟨items', hitems, rfl⟩ := rewrites_array.1 hr
    change items.mapM read = some as at has
    change items'.mapM read = some as
    rw [mapM_eq_some_iff] at has ⊢
    clear hr
    induction hitems generalizing as with
    | nil => exact has
    | cons hj _ ih =>
      cases has with
      | cons ha has => exact .cons (h _ _ _ hj ha) (ih _ has)
  | _ => exact absurd has (Option.some_ne_none _).symm

theorem Keeps.bind {α β : Type} {read : Json → Option α} (h : Keeps read) (f : α → Option β) :
    Keeps fun j => (read j).bind f := by
  intro j j' b hr hb
  obtain ⟨a, ha, hb⟩ := Option.bind_eq_some_iff.1 hb
  exact Option.bind_eq_some_iff.2 ⟨a, h j j' a hr ha, hb⟩

namespace Fields

/-- Reading the fields of a record gives the same before and after the record was written and read. -/
def Keeps (names : List String) {α : Type} (read : Fields → Option α) : Prop :=
  ∀ fs fs' a, fs.Rewrites names fs' → read fs = some a → read fs' = some a

variable {names : List String} {name : String} {α β : Type} {read : Json → Option α}

theorem required?_rewrites (hname : name ∈ names) (hread : Json.Keeps read) {fs fs' : Fields}
    (h : fs.Rewrites names fs') {a : α} (ha : fs.required? name read = some a) :
    fs'.required? name read = some a := by
  have hrel := h name hname
  unfold required? at ha ⊢
  generalize fs.find? name = found at hrel ha
  generalize fs'.find? name = found' at hrel ⊢
  cases hrel with
  | some hr => exact hread _ _ _ hr ha
  | none => exact ha

theorem optional?_rewrites (hname : name ∈ names) (hread : Json.Keeps read) {fs fs' : Fields}
    (h : fs.Rewrites names fs') {absent a : α} (ha : fs.optional? name absent read = some a) :
    fs'.optional? name absent read = some a := by
  have hrel := h name hname
  unfold optional? at ha ⊢
  generalize fs.find? name = found at hrel ha
  generalize fs'.find? name = found' at hrel ⊢
  cases hrel with
  | some hr => exact hread _ _ _ hr ha
  | none => exact ha

theorem Keeps.const (result : Option α) : Keeps names fun _ => result := fun _ _ _ _ h => h

theorem Keeps.required? (hname : name ∈ names) (hread : Json.Keeps read) {rest : α → Fields → Option β}
    (hrest : ∀ a, Keeps names (rest a)) : Keeps names fun fs => fs.required? name read >>= fun a => rest a fs := by
  intro fs fs' b hr hb
  obtain ⟨a, ha, hb⟩ := Option.bind_eq_some_iff.1 hb
  exact Option.bind_eq_some_iff.2 ⟨a, required?_rewrites hname hread hr ha, hrest a _ _ _ hr hb⟩

theorem Keeps.optional? (hname : name ∈ names) {absent : α} (hread : Json.Keeps read)
    {rest : α → Fields → Option β} (hrest : ∀ a, Keeps names (rest a)) :
    Keeps names fun fs => fs.optional? name absent read >>= fun a => rest a fs := by
  intro fs fs' b hr hb
  obtain ⟨a, ha, hb⟩ := Option.bind_eq_some_iff.1 hb
  exact Option.bind_eq_some_iff.2 ⟨a, optional?_rewrites hname hread hr ha, hrest a _ _ _ hr hb⟩

theorem Keeps.list (hname : name ∈ names) (hread : Json.Keeps read) {rest : List α → Fields → Option β}
    (hrest : ∀ as, Keeps names (rest as)) : Keeps names fun fs =>
      fs.required? name Json.toArray? >>= fun items => items.mapM read >>= fun as => rest as fs := by
  intro fs fs' b hr hb
  obtain ⟨items, hitems, hb⟩ := Option.bind_eq_some_iff.1 hb
  obtain ⟨as, has, hb⟩ := Option.bind_eq_some_iff.1 hb
  have hlist : fs.required? name (fun j => j.toArray?.bind fun items => items.mapM read) = some as := by
    obtain ⟨j, hj, hitems⟩ := Option.bind_eq_some_iff.1 hitems
    exact Option.bind_eq_some_iff.2 ⟨j, hj, Option.bind_eq_some_iff.2 ⟨items, hitems, has⟩⟩
  obtain ⟨j', hj', has'⟩ := Option.bind_eq_some_iff.1 (required?_rewrites hname (keeps_list hread) hr hlist)
  obtain ⟨items', hitems', has'⟩ := Option.bind_eq_some_iff.1 has'
  exact Option.bind_eq_some_iff.2 ⟨items', Option.bind_eq_some_iff.2 ⟨j', hj', hitems'⟩,
    Option.bind_eq_some_iff.2 ⟨as, has', hrest as _ _ _ hr hb⟩⟩

end Fields

theorem Keeps.record {names : List String} {α : Type} {read : Fields → Option α} (h : Fields.Keeps names read) :
    Keeps fun j => j.toFields? names >>= read := by
  intro j j' a hr ha
  obtain ⟨fs, hfs, ha⟩ := Option.bind_eq_some_iff.1 ha
  obtain ⟨fs', hfs', hrewrites⟩ := toFields?_rewrites hr hfs
  exact Option.bind_eq_some_iff.2 ⟨fs', hfs', h _ _ _ hrewrites ha⟩

/-! ## Written forms -/

/-- A written form: of texts and integers that words hold, nested up to some levels, and read as what was
written. -/
structure Written {α : Type} (read : Json → Option α) (levels : Nat) (a : α) (j : Json) : Prop where
  integral : j.All Number.Integral False
  depth : j.depth ≤ levels
  reads : read j = some a

theorem toInt?_ofInt (i : Int) : (Number.integer (decide (i < 0)) i.natAbs).toInt? = some i := by
  by_cases h : i < 0
  · rw [decide_eq_true h, Number.toInt?, if_neg (by omega)]
    exact congrArg some (by omega)
  · rw [decide_eq_false h, Number.toInt?]
    exact congrArg some (by omega)

theorem integral_ofInt {i : Int} (hlow : -signedMax - 1 ≤ i) (hhigh : i ≤ signedMax) :
    (Number.integer (decide (i < 0)) i.natAbs).Integral := by
  by_cases h : i < 0
  · rw [decide_eq_true h]
    exact .negative (by omega) (by omega)
  · have hword : signedMax ≤ wordMax := by decide
    rw [decide_eq_false h]
    exact .natural (by omega)

theorem Written.signed {i : Int} (hlow : -signedMax - 1 ≤ i) (hhigh : i ≤ signedMax) :
    Written toSigned? 0 i (.ofInt i) where
  integral := .number (integral_ofInt hlow hhigh)
  depth := le_rfl
  reads := by
    rw [Json.ofInt, toSigned?, toIntIn?, toInt?_ofInt, Option.bind_some, if_pos ⟨hlow, hhigh⟩]

theorem Written.ofNat {hi n : Nat} (hhi : hi ≤ wordMax) (h : n ≤ hi) : Written (toNatUpTo? hi) 0 n (.ofNat n) where
  integral := .number (.natural (h.trans hhi))
  depth := le_rfl
  reads := by
    rw [Json.ofNat, toNatUpTo?, toIntIn?, Number.toInt?, Option.bind_some, if_pos (by omega), Option.map_some,
      Int.toNat_natCast]

theorem Written.word {n : Nat} (h : n ≤ wordMax) : Written toWord? 0 n (.ofNat n) := .ofNat le_rfl h

theorem Written.bool (b : Bool) : Written toBool? 0 b (.bool b) := ⟨.bool b, le_rfl, rfl⟩

theorem Written.string (s : String) : Written toText? 0 s (.string s) := ⟨.string s, le_rfl, rfl⟩

section written
variable {α : Type} {levels : Nat} {j : Json}

theorem Written.part {read : Json → Option α} {a : α} (h : Written read levels a j) {n : Nat} (hn : levels ≤ n) :
    All Number.Integral False j ∧ j.depth ≤ n :=
  ⟨h.integral, h.depth.trans hn⟩

theorem Written.list {read : Json → Option α} {as : List α} {items : List Json}
    (h : List.Forall₂ (fun j a => Written read levels a j) items as) :
    Written (fun j => j.toArray?.bind fun items => items.mapM read) (levels + 1) as (.array items) where
  integral := .array fun j hj => by
    obtain ⟨a, -, ha⟩ := exists_mem_of_forall₂ h.flip hj
    exact ha.integral
  depth := Nat.succ_le_succ (depthItems_le_iff.2 fun j hj => by
    obtain ⟨a, -, ha⟩ := exists_mem_of_forall₂ h.flip hj
    exact ha.depth)
  reads := (mapM_eq_some_iff).2 (h.imp fun _ _ h => h.reads)

theorem Written.record {names : List String} {entries : List (String × Json)} {read : Fields → Option α} {a : α}
    (hnodup : (entries.map (·.1)).Nodup) (hnames : ∀ e ∈ entries, e.1 ∈ names)
    (hparts : ∀ e ∈ entries, All Number.Integral False e.2 ∧ e.2.depth ≤ levels)
    (hread : read ⟨entries⟩ = some a) :
    Written (fun j => j.toFields? names >>= read) (levels + 1) a (.object entries) where
  integral := .object fun e he => (hparts e he).1
  depth := Nat.succ_le_succ (depthEntries_le_iff.2 fun e he => (hparts e he).2)
  reads := by
    have hown : entries.filter (fun e => names.contains e.1) = entries :=
      List.filter_eq_self.2 fun e he => List.contains_iff_mem.2 (hnames e he)
    rw [toFields?, hown, if_pos hnodup]
    exact hread

end written

end LogTail.Json
