import LogTail.Filter.Basic

/-!
# Templates and filters

A text that was written for items is read as these items, with neighbouring literals joined and empty ones left out.
Joining changes neither the groups that are used nor what the items come to, so a template is told by the items that it
was written for (`Template.parse_print`).

* `Template.itemsFrom_print`: the reading of a written text, behind a literal that was begun before it. What stands
  in front of a digit is an even number of backslashes, and the one that makes it a group.
* `Filter.apply_eq_some_iff`: what a filter leaves of a record. An expression that excludes it wins over all others
  (`Filter.apply_of_excluded`), and apart from the first include, which has the groups, the order of expressions and
  their number do not matter (`Filter.apply_congr`).
-/

namespace LogTail.Template

/-- Items behind a text, which is joined to a literal that comes next, and left out if it is empty. -/
def behindText (s : String) : List Item → List Item
  | .literal t :: items => .literal (s ++ t) :: items
  | items => if s = "" then items else .literal s :: items

/-- Items with neighbouring literals joined and empty ones left out. -/
def joined : List Item → List Item
  | [] => []
  | .literal s :: items => behindText s (joined items)
  | .group n :: items => .group n :: joined items

/-- What an item stands for: its own text, or that of its group, if there is such a group and it is present. -/
def Item.meaning (groups : List (Option String)) : Item → String
  | .literal text => text
  | .group n =>
    match groups[n]? with
    | some (some text) => text
    | _ => ""

variable {items : List Item} {n : Nat}

/-! ## Joining literals -/

theorem behindText_empty (items : List Item) : behindText "" items = items := by
  rcases items with _ | ⟨⟨t⟩ | n, items⟩ <;> simp [behindText]

theorem behindText_behindText (s t : String) (items : List Item) :
    behindText s (behindText t items) = behindText (s ++ t) items := by
  rcases items with _ | ⟨⟨u⟩ | n, items⟩
  · by_cases ht : t = "" <;> simp [behindText, ht]
  · simp only [behindText, String.append_assoc]
  · by_cases ht : t = "" <;> simp [behindText, ht]

theorem flush_eq (literal : List Char) (items : List Item) :
    flush literal items =
      if String.ofList literal.reverse = "" then items else .literal (String.ofList literal.reverse) :: items := by
  rw [flush]
  simp

theorem groups_behindText (s : String) (items : List Item) :
    (behindText s items).filterMap Item.group? = items.filterMap Item.group? := by
  unfold behindText
  split
  · rfl
  · split <;> rfl

theorem groups_joined (items : List Item) : (joined items).filterMap Item.group? = items.filterMap Item.group? := by
  induction items with
  | nil => rfl
  | cons item items ih =>
    cases item with
    | literal s => rw [joined, groups_behindText, ih]; rfl
    | group n => rw [joined, List.filterMap_cons, ih, List.filterMap_cons]

theorem render_eq_meaning (groups : List (Option String)) (item : Item) : item.render groups = item.meaning groups := by
  cases item with
  | literal s => rfl
  | group n => rcases h : groups[n]? with _ | _ | text <;> simp [Item.render, Item.meaning, h]

theorem meaning_behindText (groups : List (Option String)) (s : String) (items : List Item) :
    String.join ((behindText s items).map (Item.meaning groups)) =
      s ++ String.join (items.map (Item.meaning groups)) := by
  unfold behindText
  split
  · simp [Item.meaning, String.append_assoc]
  · split
    · simp [*]
    · simp [Item.meaning]

theorem meaning_joined (groups : List (Option String)) (items : List Item) :
    String.join ((joined items).map (Item.meaning groups)) = String.join (items.map (Item.meaning groups)) := by
  induction items with
  | nil => rfl
  | cons item items ih =>
    cases item with
    | literal s => rw [joined, meaning_behindText, ih]; simp [Item.meaning]
    | group n => simp [joined, ih]

/-! ## Reading what was written -/

theorem itemsFrom_literal (literal : List Char) (cs rest : List Char) :
    itemsFrom literal ((cs.flatMap fun c => if c = '\\' then ['\\', '\\'] else [c]) ++ rest) =
      itemsFrom (cs.reverse ++ literal) rest := by
  induction cs generalizing literal with
  | nil => rfl
  | cons c cs ih =>
    have hone : itemsFrom literal ((if c = '\\' then ['\\', '\\'] else [c]) ++
        ((cs.flatMap fun c => if c = '\\' then ['\\', '\\'] else [c]) ++ rest)) =
          itemsFrom (c :: literal) ((cs.flatMap fun c => if c = '\\' then ['\\', '\\'] else [c]) ++ rest) := by
      by_cases hc : c = '\\'
      · subst hc
        rw [if_pos rfl]
        rfl
      · rw [if_neg hc, List.singleton_append, itemsFrom]
        · exact fun _ h _ => hc h
        · exact fun _ _ h _ => hc h
    rw [List.flatMap_cons, List.append_assoc, hone, ih, List.reverse_cons, List.append_assoc]
    rfl

theorem itemsFrom_group (literal rest : List Char) (hn : n ≤ 9) :
    itemsFrom literal ('\\' :: Char.ofNat (0x30 + n) :: rest) =
      flush literal (.group n :: itemsFrom [] rest) := by
  have hdigit : ∀ n ≤ 9, Char.ofNat (0x30 + n) ≠ '\\' ∧ (Char.ofNat (0x30 + n)).isDigit = true ∧
      (Char.ofNat (0x30 + n)).toNat - 0x30 = n := by decide
  obtain ⟨hother, hdigit, hvalue⟩ := hdigit n hn
  rw [itemsFrom, if_pos hdigit, hvalue]
  exact hother

/-- **What was written for items is read as them**, joined to the literal that was begun in front of it. -/
theorem itemsFrom_print (h : ∀ n, .group n ∈ items → n ≤ 9) (literal : List Char) :
    itemsFrom literal (items.flatMap Item.print) = behindText (String.ofList literal.reverse) (joined items) := by
  induction items generalizing literal with
  | nil => exact flush_eq literal []
  | cons item items ih =>
    have hrest : ∀ n, .group n ∈ items → n ≤ 9 := fun n hn => h n (List.mem_cons_of_mem item hn)
    cases item with
    | literal s =>
      rw [List.flatMap_cons, Item.print, itemsFrom_literal, ih hrest, joined, behindText_behindText,
        List.reverse_append, List.reverse_reverse, String.ofList_append, String.ofList_toList]
    | group n =>
      rw [List.flatMap_cons, Item.print, List.cons_append, List.singleton_append, itemsFrom_group _ _ (h n (by simp)),
        ih hrest, flush_eq, joined, List.reverse_nil, String.ofList_nil, behindText_empty]
      rfl

/-! ## The template of a written text -/

theorem mem_groups : n ∈ items.filterMap Item.group? ↔ .group n ∈ items := by
  rw [List.mem_filterMap]
  constructor
  · rintro ⟨⟨s⟩ | m, hitem, hm⟩
    · cases hm
    · obtain rfl : m = n := Option.some.inj hm
      exact hitem
  · exact fun h => ⟨_, h, rfl⟩

theorem maxGroup_spec (t : Template) :
    (∀ n, .group n ∈ t.items → n ≤ t.maxGroup) ∧
      (.group t.maxGroup ∈ t.items ∨ t.maxGroup = 0 ∧ ∀ n, .group n ∉ t.items) := by
  have hmax : (0 :: t.items.filterMap Item.group?).max? = some t.maxGroup := List.max?_cons'
  obtain ⟨hin, hle⟩ := List.max?_eq_some_iff.1 hmax
  have hbound (n : Nat) (hn : .group n ∈ t.items) : n ≤ t.maxGroup := hle n (List.mem_cons_of_mem 0 (mem_groups.2 hn))
  refine ⟨hbound, ?_⟩
  rcases List.mem_cons.1 hin with hzero | hused
  · rw [hzero]
    by_cases h : .group 0 ∈ t.items
    · exact .inl h
    · refine .inr ⟨rfl, fun n hn => h ?_⟩
      obtain rfl : n = 0 := by
        have := hbound n hn
        omega
      exact hn
  · exact .inl (mem_groups.1 hused)

theorem maxGroup_joined (items : List Item) : maxGroup ⟨joined items⟩ = maxGroup ⟨items⟩ := by
  rw [maxGroup, groups_joined]
  rfl

theorem render_joined (items : List Item) (groups : List (Option String)) :
    render ⟨joined items⟩ groups = String.join (items.map (Item.meaning groups)) := by
  rw [render, ← meaning_joined]
  exact congrArg String.join (List.map_congr_left fun item _ => render_eq_meaning groups item)

/-- **A template is told by the items that it was written for**: its largest group is theirs, and it is filled with
what they come to. There is one unless more than 64 items are left after joining. -/
theorem parse_print (h : ∀ n, .group n ∈ items → n ≤ 9) :
    ((joined items).length ≤ 64 →
      ∃ t, parse (print items) = .ok t ∧
        (∀ n, .group n ∈ items → n ≤ t.maxGroup) ∧
        (.group t.maxGroup ∈ items ∨ t.maxGroup = 0 ∧ ∀ n, .group n ∉ items) ∧
        ∀ groups, t.render groups = String.join (items.map (Item.meaning groups))) ∧
      (64 < (joined items).length → parse (print items) = .error .tooManyParameters) := by
  have hread : itemsFrom [] (print items).toList = joined items := by
    rw [print, String.toList_ofList, itemsFrom_print h, List.reverse_nil, String.ofList_nil, behindText_empty]
  constructor
  · intro hfew
    have hparse : parse (print items) = .ok ⟨joined items⟩ := by
      simp only [parse, hread]
      exact if_neg (Nat.not_lt.2 hfew)
    obtain ⟨hle, hlargest⟩ := maxGroup_spec ⟨items⟩
    refine ⟨⟨joined items⟩, hparse, ?_, ?_, render_joined items⟩
    · rwa [maxGroup_joined]
    · rwa [maxGroup_joined]
  · intro hmany
    simp only [parse, hread]
    exact if_pos hmany

def backslashItems : List Item :=
  [.literal "a\\", .literal "", .literal "1\\", .group 3, .literal "7", .group 1, .group 0, .literal "\\"]

/-- Three literals that stand together are one, and a digit behind a group is no part of it. The group 1 is absent, and
there is no group 3 at all. -/
theorem parse_print_backslashes :
    (∀ n, .group n ∈ backslashItems → n ≤ 9) ∧ (joined backslashItems).length = 6 ∧
      print backslashItems = "a\\\\1\\\\\\37\\1\\0\\\\" ∧
      ∃ t, parse "a\\\\1\\\\\\37\\1\\0\\\\" = .ok t ∧ t.maxGroup = 3 ∧
        t.render [some "x", none] = "a\\1\\7x\\" := by
  have hused {n : Nat} (hn : .group n ∈ backslashItems) : n ∈ [3, 1, 0] := mem_groups.2 hn
  have hdigits : ∀ n, .group n ∈ backslashItems → n ≤ 9 := fun n hn => (by decide : ∀ n ∈ [3, 1, 0], n ≤ 9) n (hused hn)
  have hlength : (joined backslashItems).length = 6 := by decide
  have hprint : print backslashItems = "a\\\\1\\\\\\37\\1\\0\\\\" := by decide
  obtain ⟨t, hparse, hle, hlargest, hrender⟩ := (parse_print hdigits).1 (by rw [hlength]; decide)
  rw [hprint] at hparse
  refine ⟨hdigits, hlength, hprint, t, hparse, ?_, (hrender [some "x", none]).trans (by decide)⟩
  have hthree : 3 ≤ t.maxGroup := hle 3 (by simp [backslashItems])
  rcases hlargest with hin | ⟨hzero, -⟩
  · have hat : t.maxGroup ≤ 3 := (by decide : ∀ n ∈ [3, 1, 0], n ≤ 3) _ (hused hin)
    omega
  · omega

end LogTail.Template

namespace LogTail

theorem Pattern.isSome_captures? (p : Pattern) (text : String) : (p.captures? text).isSome = p.isMatch text := by
  rw [captures?, isMatch, Option.isSome_map]

theorem Pattern.length_captures? {p : Pattern} {text : String} {groups : List (Option String)}
    (h : p.captures? text = some groups) : groups.length = p.groups + 1 := by
  obtain ⟨slots, -, rfl⟩ := Option.map_eq_some_iff.1 h
  rw [List.length_map, List.length_range]

/-- A group that an expression does not have is empty in a template. -/
theorem Template.render_of_groups_lt {p : Pattern} {text : String} {groups : List (Option String)}
    (h : p.captures? text = some groups) {n : Nat} (hn : p.groups < n) : (Item.group n).render groups = "" := by
  have hlength := Pattern.length_captures? h
  rw [Item.render, List.getElem?_eq_none (by omega)]
  rfl

namespace Filter

variable {f g : Filter} {record value : String}

/-- No exclude occurs in a record, and every include does. -/
structure Passes (f : Filter) (record : String) : Prop where
  excludes : ∀ p ∈ f.excludes, p.isMatch record = false
  includes : ∀ p ∈ f.includes, p.isMatch record = true

/-- The groups for a template: those of the first include, or the record as a whole if there is none. -/
def groups? (f : Filter) (record : String) : Option (List (Option String)) :=
  match f.includes.head? with
  | some first => first.captures? record
  | none => some [some record]

def filled (f : Filter) (record : String) (groups : List (Option String)) : String :=
  match f.template with
  | some t => t.render groups
  | none => record

theorem passes_iff : f.Passes record ↔
    f.excludes.any (·.isMatch record) = false ∧ f.includes.all (·.isMatch record) = true := by
  rw [List.any_eq_false, List.all_eq_true]
  exact ⟨fun h => ⟨fun p hp => Bool.not_eq_true _ ▸ h.excludes p hp, h.includes⟩,
    fun h => ⟨fun p hp => (Bool.not_eq_true _).mp (h.1 p hp), h.2⟩⟩

theorem apply_eq (f : Filter) (record : String) : f.apply record =
    if f.excludes.any (·.isMatch record) = false ∧ f.includes.all (·.isMatch record) = true then
      (f.groups? record).map (f.filled record)
    else none := by
  unfold apply groups?
  cases f.excludes.any (·.isMatch record) with
  | true => rfl
  | false =>
    rcases f.includes with _ | ⟨first, others⟩
    · rfl
    · have hfirst := first.isSome_captures? record
      dsimp only [List.head?_cons]
      rw [List.all_cons, ← hfirst]
      rcases first.captures? record with _ | groups
      · rfl
      · cases others.all (·.isMatch record) <;> rfl

theorem apply_of_passes (h : f.Passes record) : f.apply record = (f.groups? record).map (f.filled record) := by
  rw [apply_eq, if_pos (passes_iff.1 h)]

theorem apply_of_not_passes (h : ¬ f.Passes record) : f.apply record = none := by
  rw [apply_eq, if_neg (mt passes_iff.2 h)]

/-- **An exclude wins** over every include. -/
theorem apply_of_excluded {p : Pattern} (hp : p ∈ f.excludes) (h : p.isMatch record = true) :
    f.apply record = none :=
  apply_of_not_passes fun hpasses => Bool.false_ne_true ((hpasses.excludes p hp).symm.trans h)

theorem exists_groups? (h : f.Passes record) : ∃ groups, f.groups? record = some groups := by
  rw [groups?]
  rcases hfirst : f.includes.head? with _ | first
  · exact ⟨_, rfl⟩
  · dsimp only
    rw [← Option.isSome_iff_exists, Pattern.isSome_captures?]
    exact h.includes first (List.mem_of_head? hfirst)

/-- **What a filter leaves of a record.** The record passes all expressions, and what is left is the template filled
with the groups of the first include. -/
theorem apply_eq_some_iff : f.apply record = some value ↔
    f.Passes record ∧ ∃ groups, f.groups? record = some groups ∧ f.filled record groups = value := by
  by_cases h : f.Passes record
  · rw [apply_of_passes h, Option.map_eq_some_iff, and_iff_right h]
  · rw [apply_of_not_passes h]
    exact ⟨nofun, fun hpasses => absurd hpasses.1 h⟩

theorem isSome_apply : (f.apply record).isSome = true ↔ f.Passes record := by
  rw [Option.isSome_iff_exists]
  constructor
  · rintro ⟨value, hvalue⟩
    exact (apply_eq_some_iff.1 hvalue).1
  · intro h
    obtain ⟨groups, hgroups⟩ := exists_groups? h
    exact ⟨_, apply_eq_some_iff.2 ⟨h, groups, hgroups, rfl⟩⟩

/-- **The order of expressions does not matter, nor how often they are given**, but for the first include. -/
theorem apply_congr (hfirst : f.includes.head? = g.includes.head?) (hincludes : ∀ p, p ∈ f.includes ↔ p ∈ g.includes)
    (hexcludes : ∀ p, p ∈ f.excludes ↔ p ∈ g.excludes) (htemplate : f.template = g.template) (record : String) :
    f.apply record = g.apply record := by
  have hpasses : f.Passes record ↔ g.Passes record :=
    ⟨fun h => ⟨fun p hp => h.excludes p ((hexcludes p).2 hp), fun p hp => h.includes p ((hincludes p).2 hp)⟩,
      fun h => ⟨fun p hp => h.excludes p ((hexcludes p).1 hp), fun p hp => h.includes p ((hincludes p).1 hp)⟩⟩
  have hgroups : f.groups? record = g.groups? record := by rw [groups?, groups?, hfirst]
  have hfilled : f.filled record = g.filled record := by
    funext groups
    rw [filled, filled, htemplate]
  by_cases h : f.Passes record
  · rw [apply_of_passes h, apply_of_passes (hpasses.1 h), hgroups, hfilled]
  · rw [apply_of_not_passes h, apply_of_not_passes (mt hpasses.2 h)]

end Filter

end LogTail
