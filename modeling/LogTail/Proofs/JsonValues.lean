import LogTail.Proofs.JsonNumbers
import Mathlib

/-!
# JSON values that are held

What a document holds of a value is its canonical form: sorted keys, the last of two entries of one key, and
numbers that a word or a double can hold. Written and read again, it can be held again.

* `keyLess_iff`, `Sorted.insertSorted` and `find?_foldl_insertSorted`: entries by key.
* `All.of_ofBytes?`: what bytes spell has integers that fit a word; `All.held_canonical?`: its canonical form
  can be held.
* `Rewrites` is what becomes of a value that is written, read and held; `All.exists_rewrites`: something does,
  and `All.reread_eq`: a value of texts and integers is read as it was written.
-/

namespace LogTail.Json

/-! ## Entries by key -/

theorem charsLess_iff (a b : List Char) : charsLess a b = true ↔ a < b := by
  induction a generalizing b with
  | nil => cases b <;> simp [charsLess]
  | cons c cs ih =>
    cases b with
    | nil => simp [charsLess]
    | cons d ds =>
      rw [charsLess, List.cons_lt_cons_iff]
      split_ifs with h
      · subst h
        simp [ih]
      · simp only [decide_eq_true_eq, h, false_and, or_false]
        exact Iff.rfl

theorem keyLess_iff {a b : String} : keyLess a b = true ↔ a < b := by
  rw [keyLess, charsLess_iff, String.lt_iff_toList_lt]

def Sorted {α : Type} (es : List (String × α)) : Prop := es.Pairwise fun a b => a.1 < b.1

variable {α : Type}

theorem Sorted.nodup {es : List (String × α)} (h : Sorted es) : (es.map (·.1)).Nodup :=
  List.pairwise_map.2 (h.imp fun hlt => hlt.ne)

theorem mem_insertSorted {key : String} {value : α} {es : List (String × α)} {e : String × α}
    (h : e ∈ insertSorted key value es) : e = (key, value) ∨ e ∈ es := by
  induction es with
  | nil => simpa [insertSorted] using h
  | cons x es ih =>
    obtain ⟨k, v⟩ := x
    rw [insertSorted] at h
    split_ifs at h
    · simpa using h
    · rcases List.mem_cons.1 h with rfl | h
      · exact .inl rfl
      · exact .inr (List.mem_cons_of_mem _ h)
    · rcases List.mem_cons.1 h with rfl | h
      · exact .inr (List.mem_cons_self ..)
      · exact (ih h).imp_right (List.mem_cons_of_mem _)

theorem Sorted.insertSorted {es : List (String × α)} (h : Sorted es) (key : String) (value : α) :
    Sorted (insertSorted key value es) := by
  induction es with
  | nil => exact List.pairwise_singleton _ _
  | cons x es ih =>
    obtain ⟨k, v⟩ := x
    obtain ⟨hhead, htail⟩ := List.pairwise_cons.1 h
    rw [Json.insertSorted]
    split_ifs with hless heq
    · refine List.pairwise_cons.2 ⟨fun e he => ?_, h⟩
      rcases List.mem_cons.1 he with rfl | he
      · exact keyLess_iff.1 hless
      · exact (keyLess_iff.1 hless).trans (hhead e he)
    · exact List.pairwise_cons.2 ⟨fun e he => heq ▸ hhead e he, htail⟩
    · refine List.pairwise_cons.2 ⟨fun e he => ?_, ih htail⟩
      rcases mem_insertSorted he with rfl | he
      · have hnot : ¬ key < k := fun hlt => hless (keyLess_iff.2 hlt)
        exact lt_of_le_of_ne (not_lt.1 hnot) (Ne.symm heq)
      · exact hhead e he

theorem find?_insertSorted (key : String) (value : α) (es : List (String × α)) (k : String) :
    (insertSorted key value es).find? (fun e => e.1 == k) =
      if key = k then some (key, value) else es.find? fun e => e.1 == k := by
  induction es with
  | nil => by_cases h : key = k <;> simp [insertSorted, h]
  | cons x es ih =>
    obtain ⟨l, v⟩ := x
    rw [insertSorted]
    by_cases hless : keyLess key l = true
    · rw [if_pos hless]
      by_cases hk : key = k <;> simp [hk]
    · rw [if_neg hless]
      by_cases heq : key = l
      · subst heq
        by_cases hk : key = k <;> simp [hk]
      · rw [if_neg heq]
        by_cases hl : l = k
        · subst hl
          simp [heq]
        · simp [hl, ih]

/-- Entries put in one after the other: the last one of a key is found, or else what was there. -/
theorem find?_foldl_insertSorted (es sorted : List (String × α)) (k : String) :
    (es.foldl (fun sorted e => insertSorted e.1 e.2 sorted) sorted).find? (fun e => e.1 == k) =
      (es.reverse.find? fun e => e.1 == k).or (sorted.find? fun e => e.1 == k) := by
  induction es generalizing sorted with
  | nil => simp
  | cons x es ih =>
    rw [List.foldl_cons, ih, find?_insertSorted, List.reverse_cons, List.find?_append, Option.or_assoc]
    by_cases h : x.1 = k
    · subst h
      simp
    · simp [h]

theorem sorted_foldl {es sorted : List (String × α)} (h : Sorted sorted) :
    Sorted (es.foldl (fun sorted e => insertSorted e.1 e.2 sorted) sorted) := by
  induction es generalizing sorted with
  | nil => exact h
  | cons x es ih => exact ih (h.insertSorted _ _)

theorem mem_foldl_insertSorted {es sorted : List (String × α)} {e : String × α}
    (h : e ∈ es.foldl (fun sorted e => insertSorted e.1 e.2 sorted) sorted) : e ∈ es ∨ e ∈ sorted := by
  induction es generalizing sorted with
  | nil => exact .inr h
  | cons x es ih =>
    rcases ih h with h | h
    · exact .inl (List.mem_cons_of_mem _ h)
    · rcases mem_insertSorted h with rfl | h
      · exact .inl (List.mem_cons_self ..)
      · exact .inr h

theorem find?_reverse_of_nodup {es : List (String × α)} (h : (es.map (·.1)).Nodup) (k : String) :
    es.reverse.find? (fun e => e.1 == k) = es.find? fun e => e.1 == k := by
  induction es with
  | nil => rfl
  | cons x es ih =>
    rw [List.map_cons, List.nodup_cons] at h
    rw [List.reverse_cons, List.find?_append, ih h.2]
    by_cases hk : x.1 = k
    · have hnone : es.find? (fun e => e.1 == k) = none := by
        refine List.find?_eq_none.2 fun e he heq => h.1 ?_
        rw [hk, ← beq_iff_eq.1 heq]
        exact List.mem_map_of_mem he
      simp [hk, hnone]
    · simp [hk]

/-! ## Values that can be held -/

/-- A value all of whose numbers have a property, and whose strings may or may not be no text. -/
inductive All (number : Number → Prop) (unpaired : Prop) : Json → Prop
  | null : All number unpaired .null
  | bool (b : Bool) : All number unpaired (.bool b)
  | number {n : Number} (h : number n) : All number unpaired (.number n)
  | string (s : String) : All number unpaired (.string s)
  | unpaired (h : unpaired) : All number unpaired .unpaired
  | array {items : List Json} (h : ∀ j ∈ items, All number unpaired j) : All number unpaired (.array items)
  | object {entries : List (String × Json)} (h : ∀ e ∈ entries, All number unpaired e.2) :
      All number unpaired (.object entries)

theorem rereadItems_eq (items : List Json) : rereadItems items = items.map reread := by
  induction items with
  | nil => rfl
  | cons j items ih => rw [rereadItems, ih, List.map_cons]

theorem rereadEntries_eq (entries : List (String × Json)) :
    rereadEntries entries = entries.map fun e => (e.1, e.2.reread) := by
  induction entries with
  | nil => rfl
  | cons e entries ih => rw [rereadEntries, ih, List.map_cons]

theorem canonicalItems?_iff {items items' : List Json} :
    canonicalItems? items = some items' ↔ List.Forall₂ (fun j j' => j.canonical? = some j') items items' := by
  induction items generalizing items' with
  | nil => simp [canonicalItems?, eq_comm]
  | cons j items ih =>
    simp only [canonicalItems?, Option.bind_eq_bind, Option.bind_eq_some_iff, Option.some.injEq,
      List.forall₂_cons_left_iff, ih]
    constructor
    · rintro ⟨j', hj, items', hitems, rfl⟩
      exact ⟨j', items', hj, hitems, rfl⟩
    · rintro ⟨j', items', hj, hitems, rfl⟩
      exact ⟨j', hj, items', hitems, rfl⟩

theorem canonicalEntries?_iff {entries entries' : List (String × Json)} :
    canonicalEntries? entries = some entries' ↔
      List.Forall₂ (fun e e' => e.1 = e'.1 ∧ e.2.canonical? = some e'.2) entries entries' := by
  induction entries generalizing entries' with
  | nil => simp [canonicalEntries?, eq_comm]
  | cons e entries ih =>
    obtain ⟨k, j⟩ := e
    simp only [canonicalEntries?, Option.bind_eq_bind, Option.bind_eq_some_iff, Option.some.injEq,
      List.forall₂_cons_left_iff, ih]
    constructor
    · rintro ⟨j', hj, entries', hentries, rfl⟩
      exact ⟨(k, j'), entries', ⟨rfl, hj⟩, hentries, rfl⟩
    · rintro ⟨⟨k', j'⟩, entries', ⟨rfl, hj⟩, hentries, rfl⟩
      exact ⟨j', hj, entries', hentries, rfl⟩

/-! ## Depth -/

theorem depthItems_le_iff {items : List Json} {n : Nat} : depthItems items ≤ n ↔ ∀ j ∈ items, j.depth ≤ n := by
  induction items with
  | nil => simp [depthItems]
  | cons j items ih => simp [depthItems, ih]

theorem depthEntries_le_iff {entries : List (String × Json)} {n : Nat} :
    depthEntries entries ≤ n ↔ ∀ e ∈ entries, e.2.depth ≤ n := by
  induction entries with
  | nil => simp [depthEntries]
  | cons e entries ih =>
    obtain ⟨k, j⟩ := e
    simp [depthEntries, ih]

/-! ## Canonical forms -/

theorem exists_mem_of_forall₂ {β γ : Type} {r : β → γ → Prop} {bs : List β} {cs : List γ}
    (h : List.Forall₂ r bs cs) {c : γ} (hc : c ∈ cs) : ∃ b ∈ bs, r b c := by
  induction h with
  | nil => exact absurd hc (List.not_mem_nil)
  | cons hr _ ih =>
    rcases List.mem_cons.1 hc with rfl | hc
    · exact ⟨_, List.mem_cons_self .., hr⟩
    · obtain ⟨b, hb, hr⟩ := ih hc
      exact ⟨b, List.mem_cons_of_mem _ hb, hr⟩

theorem exists_forall₂ {β γ : Type} {r : β → γ → Prop} {bs : List β} (h : ∀ b ∈ bs, ∃ c, r b c) :
    ∃ cs, List.Forall₂ r bs cs := by
  induction bs with
  | nil => exact ⟨[], .nil⟩
  | cons b bs ih =>
    obtain ⟨c, hc⟩ := h b (List.mem_cons_self ..)
    obtain ⟨cs, hcs⟩ := ih fun b hb => h b (List.mem_cons_of_mem _ hb)
    exact ⟨c :: cs, .cons hc hcs⟩

/-- The canonical form of a value that was read can be held, and is not nested more deeply. -/
theorem All.held_canonical? {j : Json} (h : All Number.FitsWord True j) {j' : Json}
    (hj : j.canonical? = some j') : All Number.Held False j' ∧ j'.depth ≤ j.depth := by
  induction h generalizing j' with
  | null => obtain rfl := Option.some.inj hj; exact ⟨.null, le_rfl⟩
  | bool b => obtain rfl := Option.some.inj hj; exact ⟨.bool b, le_rfl⟩
  | @number n hn =>
    obtain ⟨n', hn', rfl⟩ := Option.map_eq_some_iff.1 hj
    exact ⟨.number (Number.held_canonical? hn hn'), le_rfl⟩
  | string s => obtain rfl := Option.some.inj hj; exact ⟨.string s, le_rfl⟩
  | unpaired => exact absurd hj (Option.some_ne_none _).symm
  | @array items _ ih =>
    obtain ⟨items', hitems, rfl⟩ := Option.map_eq_some_iff.1 hj
    have hitem : ∀ j' ∈ items', All Number.Held False j' ∧ j'.depth ≤ depthItems items := by
      intro j' hj'
      obtain ⟨j, hmem, hcanonical⟩ := exists_mem_of_forall₂ (canonicalItems?_iff.1 hitems) hj'
      have hheld := ih j hmem hcanonical
      exact ⟨hheld.1, hheld.2.trans (depthItems_le_iff.1 le_rfl j hmem)⟩
    exact ⟨.array fun j hj => (hitem j hj).1,
      Nat.succ_le_succ (depthItems_le_iff.2 fun j hj => (hitem j hj).2)⟩
  | @object entries _ ih =>
    obtain ⟨entries', hentries, rfl⟩ := Option.map_eq_some_iff.1 hj
    have hentry : ∀ e' ∈ entries'.foldl (fun sorted e => insertSorted e.1 e.2 sorted) [],
        All Number.Held False e'.2 ∧ e'.2.depth ≤ depthEntries entries := by
      intro e' he'
      have hmem' := (mem_foldl_insertSorted he').resolve_right List.not_mem_nil
      obtain ⟨e, hmem, -, hcanonical⟩ := exists_mem_of_forall₂ (canonicalEntries?_iff.1 hentries) hmem'
      have hheld := ih e hmem hcanonical
      exact ⟨hheld.1, hheld.2.trans (depthEntries_le_iff.1 le_rfl e hmem)⟩
    exact ⟨.object fun e he => (hentry e he).1,
      Nat.succ_le_succ (depthEntries_le_iff.2 fun e he => (hentry e he).2)⟩

/-! ## What the parser reads -/

theorem fitsWord_number? {cs : List Char} {n : Number} {rest : List Char} (h : number? cs = some (n, rest)) :
    n.FitsWord := by
  unfold number? at h
  dsimp only at h
  split at h
  all_goals
    split_ifs at h
    obtain ⟨⟨fraction, _⟩, -, h⟩ := Option.bind_eq_some_iff.1 h
    obtain ⟨⟨power, _⟩, -, h⟩ := Option.bind_eq_some_iff.1 h
    obtain rfl := (Prod.mk.inj (Option.some.inj h)).1
    exact Number.fitsWord_ofDigits ..

/-- With some fuel, what is read has integers that fit a word: a value, items, and entries. -/
structure ReadsWords (fuel : Nat) : Prop where
  value : ∀ cs j rest, value? fuel cs = some (j, rest) → All Number.FitsWord True j
  items : ∀ cs items rest, items? fuel cs = some (items, rest) → ∀ j ∈ items, All Number.FitsWord True j
  entries : ∀ cs entries rest, entries? fuel cs = some (entries, rest) →
    ∀ e ∈ entries, All Number.FitsWord True e.2

namespace ReadsWords

variable {fuel : Nat}

theorem value_succ (ih : ReadsWords fuel) {cs : List Char} {j : Json} {rest : List Char}
    (h : value? (fuel + 1) cs = some (j, rest)) : All Number.FitsWord True j := by
  rw [value?] at h
  split at h
  · obtain ⟨_, -, h⟩ := Option.map_eq_some_iff.1 h
    obtain ⟨rfl, -⟩ := Prod.mk.inj h
    exact .null
  · obtain ⟨_, -, h⟩ := Option.map_eq_some_iff.1 h
    obtain ⟨rfl, -⟩ := Prod.mk.inj h
    exact .bool true
  · obtain ⟨_, -, h⟩ := Option.map_eq_some_iff.1 h
    obtain ⟨rfl, -⟩ := Prod.mk.inj h
    exact .bool false
  · obtain ⟨⟨s, _⟩, -, h⟩ := Option.map_eq_some_iff.1 h
    obtain ⟨rfl, -⟩ := Prod.mk.inj h
    cases s with
    | none => exact .unpaired trivial
    | some s => exact .string s
  · split at h
    · obtain ⟨rfl, -⟩ := Prod.mk.inj (Option.some.inj h)
      exact .array (by simp)
    · obtain ⟨⟨items, _⟩, hitems, h⟩ := Option.map_eq_some_iff.1 h
      obtain ⟨rfl, -⟩ := Prod.mk.inj h
      exact .array (ih.items _ _ _ hitems)
  · split at h
    · obtain ⟨rfl, -⟩ := Prod.mk.inj (Option.some.inj h)
      exact .object (by simp)
    · obtain ⟨⟨entries, _⟩, hentries, h⟩ := Option.map_eq_some_iff.1 h
      obtain ⟨rfl, -⟩ := Prod.mk.inj h
      exact .object (ih.entries _ _ _ hentries)
  · obtain ⟨⟨n, _⟩, hn, h⟩ := Option.map_eq_some_iff.1 h
    obtain ⟨rfl, -⟩ := Prod.mk.inj h
    exact .number (fitsWord_number? hn)

theorem items_succ (ih : ReadsWords fuel) {cs : List Char} {items : List Json} {rest : List Char}
    (h : items? (fuel + 1) cs = some (items, rest)) : ∀ j ∈ items, All Number.FitsWord True j := by
  rw [items?] at h
  obtain ⟨⟨j, _⟩, hj, h⟩ := Option.bind_eq_some_iff.1 h
  have hfirst := ih.value _ _ _ hj
  dsimp only at h
  split at h
  · obtain ⟨rfl, -⟩ := Prod.mk.inj (Option.some.inj h)
    simpa using hfirst
  · obtain ⟨⟨more, _⟩, hmore, h⟩ := Option.map_eq_some_iff.1 h
    obtain ⟨rfl, -⟩ := Prod.mk.inj h
    exact List.forall_mem_cons.2 ⟨hfirst, ih.items _ _ _ hmore⟩
  · exact absurd h (Option.some_ne_none _).symm

theorem entries_succ (ih : ReadsWords fuel) {cs : List Char} {entries : List (String × Json)} {rest : List Char}
    (h : entries? (fuel + 1) cs = some (entries, rest)) : ∀ e ∈ entries, All Number.FitsWord True e.2 := by
  rw [entries?] at h
  split at h
  · obtain ⟨⟨s, _⟩, -, h⟩ := Option.bind_eq_some_iff.1 h
    obtain ⟨key, -, h⟩ := Option.bind_eq_some_iff.1 h
    dsimp only at h
    split at h
    · obtain ⟨⟨j, _⟩, hj, h⟩ := Option.bind_eq_some_iff.1 h
      have hfirst := ih.value _ _ _ hj
      dsimp only at h
      split at h
      · obtain ⟨rfl, -⟩ := Prod.mk.inj (Option.some.inj h)
        simpa using hfirst
      · obtain ⟨⟨more, _⟩, hmore, h⟩ := Option.map_eq_some_iff.1 h
        obtain ⟨rfl, -⟩ := Prod.mk.inj h
        exact List.forall_mem_cons.2 ⟨hfirst, ih.entries _ _ _ hmore⟩
      · exact absurd h (Option.some_ne_none _).symm
    · exact absurd h (Option.some_ne_none _).symm
  · exact absurd h (Option.some_ne_none _).symm

end ReadsWords

theorem readsWords (fuel : Nat) : ReadsWords fuel := by
  induction fuel with
  | zero => exact ⟨fun _ _ _ h => absurd h (by simp [value?]), fun _ _ _ h => absurd h (by simp [items?]),
      fun _ _ _ h => absurd h (by simp [entries?])⟩
  | succ fuel ih => exact ⟨fun _ _ _ => ih.value_succ, fun _ _ _ => ih.items_succ, fun _ _ _ => ih.entries_succ⟩

theorem All.of_ofBytes? {bytes : Bytes} {j : Json} (h : ofBytes? bytes = some j) :
    All Number.FitsWord True j := by
  obtain ⟨⟨v, rest⟩, hv, h⟩ := Option.bind_eq_some_iff.1 h
  dsimp only at h
  split_ifs at h
  obtain rfl := Option.some.inj h
  exact (readsWords _).value _ _ _ hv

/-! ## Written and read -/

/-- What is held of a value after it was written and read. -/
def Rewrites (j j' : Json) : Prop := j.reread.canonical? = some j'

theorem rewrites_array {items : List Json} {j' : Json} :
    Rewrites (.array items) j' ↔ ∃ items', List.Forall₂ Rewrites items items' ∧ j' = .array items' := by
  rw [Rewrites, Json.reread, rereadItems_eq, Json.canonical?, Option.map_eq_some_iff]
  refine exists_congr fun items' => and_congr ?_ eq_comm
  rw [canonicalItems?_iff, List.forall₂_map_left_iff]
  rfl

def EntryRewrites (e e' : String × Json) : Prop := e.1 = e'.1 ∧ Rewrites e.2 e'.2

theorem rewrites_object {entries : List (String × Json)} {j' : Json} :
    Rewrites (.object entries) j' ↔
      ∃ entries', List.Forall₂ EntryRewrites entries entries' ∧
        j' = .object (entries'.foldl (fun sorted e => insertSorted e.1 e.2 sorted) []) := by
  rw [Rewrites, Json.reread, rereadEntries_eq, Json.canonical?, Option.map_eq_some_iff]
  refine exists_congr fun entries' => and_congr ?_ eq_comm
  rw [canonicalEntries?_iff, List.forall₂_map_left_iff]
  rfl

theorem All.reread {number : Number → Prop} {unpaired : Prop} {j : Json} (h : All number unpaired j) :
    All Number.FitsWord True j.reread ∧ j.reread.depth = j.depth := by
  induction h with
  | null => exact ⟨.null, rfl⟩
  | bool b => exact ⟨.bool b, rfl⟩
  | @number n hn => exact ⟨.number n.fitsWord_reread, rfl⟩
  | string s => exact ⟨.string s, rfl⟩
  | unpaired => exact ⟨.string _, rfl⟩
  | @array items _ ih =>
    rw [Json.reread, rereadItems_eq]
    constructor
    · refine .array fun j' hj' => ?_
      obtain ⟨j, hj, rfl⟩ := List.mem_map.1 hj'
      exact (ih j hj).1
    · have hdepth (n : Nat) : depthItems (items.map Json.reread) ≤ n ↔ depthItems items ≤ n := by
        rw [depthItems_le_iff, depthItems_le_iff, List.forall_mem_map]
        exact forall₂_congr fun j hj => by rw [(ih j hj).2]
      exact congrArg (· + 1) (eq_of_forall_ge_iff hdepth)
  | @object entries _ ih =>
    rw [Json.reread, rereadEntries_eq]
    constructor
    · refine .object fun e' he' => ?_
      obtain ⟨e, he, rfl⟩ := List.mem_map.1 he'
      exact (ih e he).1
    · have hdepth (n : Nat) : depthEntries (entries.map fun e => (e.1, e.2.reread)) ≤ n ↔
          depthEntries entries ≤ n := by
        rw [depthEntries_le_iff, depthEntries_le_iff, List.forall_mem_map]
        exact forall₂_congr fun e he => by rw [(ih e he).2]
      exact congrArg (· + 1) (eq_of_forall_ge_iff hdepth)

theorem All.exists_rewrites {j : Json} (h : All Number.Held False j) : ∃ j', Rewrites j j' := by
  induction h with
  | null => exact ⟨.null, rfl⟩
  | bool b => exact ⟨.bool b, rfl⟩
  | @number n hn =>
    obtain ⟨n', hn'⟩ := hn.canonical?_reread
    exact ⟨.number n', congrArg (Option.map Json.number) hn'⟩
  | string s => exact ⟨.string s, rfl⟩
  | unpaired h => exact absurd h id
  | @array items _ ih =>
    obtain ⟨items', hitems⟩ := exists_forall₂ ih
    exact ⟨_, rewrites_array.2 ⟨items', hitems, rfl⟩⟩
  | @object entries _ ih =>
    have hentry : ∀ e ∈ entries, ∃ e', EntryRewrites e e' := fun e he => by
      obtain ⟨j', hj'⟩ := ih e he
      exact ⟨(e.1, j'), rfl, hj'⟩
    obtain ⟨entries', hentries⟩ := exists_forall₂ hentry
    exact ⟨_, rewrites_object.2 ⟨entries', hentries, rfl⟩⟩

theorem Rewrites.held {j j' : Json} (h : All Number.Held False j) (hr : Rewrites j j') :
    All Number.Held False j' ∧ j'.depth ≤ j.depth := by
  have hread := h.reread
  have hheld := hread.1.held_canonical? hr
  exact ⟨hheld.1, hheld.2.trans hread.2.le⟩

theorem All.reread_eq {j : Json} (h : All Number.Integral False j) : j.reread = j := by
  induction h with
  | null | bool | string => rfl
  | number hn => rw [Json.reread, hn.reread]
  | unpaired h => exact absurd h id
  | array _ ih => rw [Json.reread, rereadItems_eq, List.map_congr_left ih, List.map_id']
  | object _ ih =>
    rw [Json.reread, rereadEntries_eq, List.map_congr_left fun e he => by rw [ih e he], List.map_id']

theorem All.mono {p q : Number → Prop} {u : Prop} (hpq : ∀ n, p n → q n) {j : Json} (h : All p u j) :
    All q u j := by
  induction h with
  | null => exact .null
  | bool b => exact .bool b
  | number hn => exact .number (hpq _ hn)
  | string s => exact .string s
  | unpaired h => exact .unpaired h
  | array _ ih => exact .array ih
  | object _ ih => exact .object ih

end LogTail.Json
