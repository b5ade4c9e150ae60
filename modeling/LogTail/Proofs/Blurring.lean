import LogTail.Proofs.SavedState

/-!
# Values up to the digits of doubles

A double that is written and read again may come back as another one. Nothing else changes of the entries of a
document: without the digits of doubles (`Json.blurred`) they are read as they were written.

* `Json.Ordered` says of a value that all its objects have increasing keys, as those of a document do.
* `Json.Rewrites.blurred_eq`: what is read where such a value was written differs in digits of doubles only.
* `Document.Alike` is the same for whole documents, and `Document.Kept.reopen_alike` for reading their bytes.
-/

namespace LogTail

namespace Json

/-! ## Increasing keys -/

/-- A value all of whose objects have increasing keys. -/
inductive Ordered : Json → Prop
  | null : Ordered .null
  | bool (b : Bool) : Ordered (.bool b)
  | number (n : Number) : Ordered (.number n)
  | string (s : String) : Ordered (.string s)
  | array {items : List Json} (h : ∀ j ∈ items, Ordered j) : Ordered (.array items)
  | object {entries : List (String × Json)} (sorted : Sorted entries) (h : ∀ e ∈ entries, Ordered e.2) :
      Ordered (.object entries)

theorem ordered_of_canonical? (j : Json) {j' : Json} (h : j.canonical? = some j') : j'.Ordered := by
  match j, h with
  | .null, h => exact Option.some.inj h ▸ .null
  | .bool b, h => exact Option.some.inj h ▸ .bool b
  | .number _, h =>
    obtain ⟨n, -, rfl⟩ := Option.map_eq_some_iff.1 h
    exact .number n
  | .string s, h => exact Option.some.inj h ▸ .string s
  | .unpaired, h => exact absurd h (Option.some_ne_none _).symm
  | .array items, h =>
    obtain ⟨items', hitems, rfl⟩ := Option.map_eq_some_iff.1 h
    refine .array fun j' hj' => ?_
    obtain ⟨j, hmem, hcanonical⟩ := exists_mem_of_forall₂ (canonicalItems?_iff.1 hitems) hj'
    have := List.sizeOf_lt_of_mem hmem
    exact ordered_of_canonical? j hcanonical
  | .object entries, h =>
    obtain ⟨entries', hentries, rfl⟩ := Option.map_eq_some_iff.1 h
    refine .object (sorted_foldl .nil) fun e' he' => ?_
    have hmem' := (mem_foldl_insertSorted he').resolve_right List.not_mem_nil
    obtain ⟨⟨key, j⟩, hmem, -, hcanonical⟩ := exists_mem_of_forall₂ (canonicalEntries?_iff.1 hentries) hmem'
    have := List.sizeOf_lt_of_mem hmem
    exact ordered_of_canonical? j hcanonical
termination_by j
decreasing_by all_goals simp_wf; simp at *; omega

theorem insertSorted_of_lt {α : Type} {key : String} {value : α} {es : List (String × α)}
    (h : ∀ e ∈ es, e.1 < key) : insertSorted key value es = es ++ [(key, value)] := by
  induction es with
  | nil => rfl
  | cons e es ih =>
    obtain ⟨hlt, hrest⟩ := List.forall_mem_cons.1 h
    have hless : ¬ keyLess key e.1 = true := fun hless => lt_asymm hlt (keyLess_iff.1 hless)
    rw [insertSorted, if_neg hless, if_neg hlt.ne', ih hrest, List.cons_append]

theorem foldl_insertSorted_eq {α : Type} {es sorted : List (String × α)} (h : Sorted (sorted ++ es)) :
    es.foldl (fun sorted e => insertSorted e.1 e.2 sorted) sorted = sorted ++ es := by
  induction es generalizing sorted with
  | nil => rw [List.foldl_nil, List.append_nil]
  | cons e es ih =>
    have hlast : ∀ e' ∈ sorted, e'.1 < e.1 := fun e' he' =>
      (List.pairwise_append.1 h).2.2 e' he' e List.mem_cons_self
    rw [List.append_cons] at h ⊢
    rw [List.foldl_cons, insertSorted_of_lt hlast, ih h]

/-! ## Without digits of doubles -/

mutual
/-- A value without the digits of its doubles. -/
def blurred : Json → Json
  | .number (.decimal negative _ _) => .number (.decimal negative 0 0)
  | .array items => .array (blurredItems items)
  | .object entries => .object (blurredEntries entries)
  | j => j
def blurredItems : List Json → List Json
  | [] => []
  | j :: rest => j.blurred :: blurredItems rest
def blurredEntries : List (String × Json) → List (String × Json)
  | [] => []
  | (k, j) :: rest => (k, j.blurred) :: blurredEntries rest
end

theorem blurredItems_eq (items : List Json) : blurredItems items = items.map blurred := by
  induction items with
  | nil => rfl
  | cons j items ih => rw [blurredItems, ih, List.map_cons]

theorem blurredEntries_eq (entries : List (String × Json)) :
    blurredEntries entries = entries.map fun e => (e.1, e.2.blurred) := by
  induction entries with
  | nil => rfl
  | cons e entries ih => rw [blurredEntries, ih, List.map_cons]

theorem map_eq_of_forall₂ {β γ δ : Type} {r : β → γ → Prop} {f : β → δ} {g : γ → δ} {bs : List β} {cs : List γ}
    (h : List.Forall₂ r bs cs) (heq : ∀ b ∈ bs, ∀ c, r b c → g c = f b) : cs.map g = bs.map f := by
  induction h with
  | nil => rfl
  | cons hr _ ih =>
    obtain ⟨hhead, htail⟩ := List.forall_mem_cons.1 heq
    rw [List.map_cons, List.map_cons, hhead _ hr, ih htail]

theorem Number.Held.blurred_eq {n n' : Number} (h : n.Held) (hr : n.reread.canonical? = some n') :
    (Json.number n').blurred = (Json.number n).blurred := by
  cases h with
  | integral h =>
    rw [h.reread, h.canonical?] at hr
    rw [Option.some.inj hr]
  | decimal negative hd =>
    obtain ⟨digits, exponent, hreread, -⟩ := reread_decimal negative _ _
    rw [hreread] at hr
    obtain ⟨d, -, rfl⟩ := Option.map_eq_some_iff.1 hr
    rfl

/-- **What is read where a value was written differs in digits of doubles only.** -/
theorem Rewrites.blurred_eq {j j' : Json} (hheld : All Number.Held False j) (hordered : j.Ordered)
    (h : Rewrites j j') : j'.blurred = j.blurred := by
  induction hheld generalizing j' with
  | null | bool | string => exact Option.some.inj h ▸ rfl
  | @number n hn =>
    obtain ⟨n', hn', rfl⟩ := Option.map_eq_some_iff.1 h
    exact hn.blurred_eq hn'
  | unpaired hno => exact absurd hno id
  | @array items _ ih =>
    cases hordered with | array hordered => ?_
    obtain ⟨items', hitems, rfl⟩ := rewrites_array.1 h
    rw [blurred, blurred, blurredItems_eq, blurredItems_eq,
      map_eq_of_forall₂ hitems fun j hj _ => ih j hj (hordered j hj)]
  | @object entries _ ih =>
    cases hordered with | object hsorted hordered => ?_
    obtain ⟨entries', hentries, rfl⟩ := rewrites_object.1 h
    have hsorted' : Sorted entries' := by
      have hkeys : (entries'.map (·.1)).Pairwise (· < ·) :=
        keys_eq_of_rewrites hentries ▸ List.pairwise_map.2 hsorted
      exact List.pairwise_map.1 hkeys
    rw [@foldl_insertSorted_eq _ entries' [] hsorted', List.nil_append, blurred, blurred, blurredEntries_eq,
      blurredEntries_eq, map_eq_of_forall₂ hentries fun e he e' hr => ?_]
    rw [ih e he (hordered e he) hr.2, hr.1]

end Json

/-! ## Documents -/

namespace Document

/-- A document whose entries have increasing keys all the way down. -/
def Ordered (d : Document) : Prop := ∀ e ∈ d.watches, e.2.Ordered

/-- Documents that are the same up to digits of doubles. -/
def Alike (d d' : Document) : Prop := ∀ key, (d'.find? key).map Json.blurred = (d.find? key).map Json.blurred

theorem Alike.refl (d : Document) : d.Alike d := fun _ => rfl

theorem Ordered.insert {d : Document} (h : d.Ordered) (key : String) {j : Json} (hj : j.Ordered) :
    (d.insert key j).Ordered := by
  intro e he
  rcases Json.mem_insertSorted he with rfl | he
  · exact hj
  · exact h e he

theorem Ordered.erase {d : Document} (h : d.Ordered) (key : String) : (d.erase key).Ordered :=
  fun e he => h e (List.mem_of_mem_filter he)

theorem ordered_of_ofBytes? {bytes : Bytes} {d : Document} (h : ofBytes? bytes = some d) : d.Ordered := by
  unfold ofBytes? at h
  split_ifs at h
  · obtain rfl := Option.some.inj h
    exact List.forall_mem_nil _
  · obtain ⟨j, -, h⟩ := Option.bind_eq_some_iff.1 h
    obtain ⟨fs, -, h⟩ := Option.bind_eq_some_iff.1 h
    obtain ⟨es, -, h⟩ := Option.bind_eq_some_iff.1 h
    obtain ⟨es', hes', h⟩ := Option.bind_eq_some_iff.1 h
    obtain rfl := Option.some.inj h
    rw [foldl_insert]
    intro e' he'
    have hmem := (Json.mem_foldl_insertSorted he').resolve_right List.not_mem_nil
    obtain ⟨e, -, heq⟩ := Json.exists_mem_of_forall₂ (mapM_eq_some_iff.1 hes') hmem
    obtain ⟨j', hj', rfl⟩ := Option.map_eq_some_iff.1 heq
    unfold held? at hj'
    split_ifs at hj'
    exact Json.ordered_of_canonical? e.2 hj'

/-- **The bytes of a document are read as a document that is the same** up to digits of doubles. -/
theorem Kept.reopen_alike {d : Document} (h : d.Kept) (ho : d.Ordered) :
    ∃ d', ofBytes? d.toBytes = some d' ∧ d.Alike d' := by
  obtain ⟨d', hd', -, hfind⟩ := h.reopen
  refine ⟨d', hd', fun key => ?_⟩
  have hmem {j : Json} (hj : d.find? key = some j) := mem_of_find? hj
  have hrel := hfind key
  generalize d.find? key = found at hmem hrel ⊢
  generalize d'.find? key = found' at hrel ⊢
  cases hrel with
  | none => rfl
  | some hr =>
    have hmem := hmem rfl
    rw [Option.map_some, Option.map_some, hr.blurred_eq (h.holds _ hmem).held (ho _ hmem)]

end Document

end LogTail
