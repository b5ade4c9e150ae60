import LogTail.Proofs.Copying

/-!
# Slots

The links of a level are settled one after the other, and each finds the slots as those before it have left them. The
slots show at every moment what a matching says of the links so far (`Slots.Shows.place`), since of two links of one
level that share an end neither stands alone. So in the end they show the matching of all links
(`Slots.shows_ofLinks`): the same candidates have the same links, the same ends are taken, and the same candidates are
in a tie, in the same order.
-/

namespace LogTail

namespace Matching

open Link (alone)

/-! ## What a matching says of an end -/

def oldSlot (m : Matching) (i : Nat) : Slot :=
  if m.matchedOld i then .matched else if i ∈ m.settledOld then .ambiguous else .free

def candSlot (m : Matching) (j : Nat) : Slot :=
  if (m.linkOf? j).isSome then .matched else if j ∈ m.settledCand then .ambiguous else .free

variable {links level done rest : List Link} {m : Matching} {l : Link} {least score i j : Nat}

theorem matchedOld_eq_true : m.matchedOld i = true ↔ ∃ l ∈ m.chosen, l.old = i := by
  simp [matchedOld]

theorem isSome_linkOf? : (m.linkOf? j).isSome = true ↔ ∃ l ∈ m.chosen, l.cand = j := by
  simp [linkOf?, List.find?_isSome]

theorem Consistent.oldSlot_eq_free (h : m.Consistent links least) : m.oldSlot i = .free ↔ i ∉ m.settledOld := by
  have hmatched : m.matchedOld i = true → i ∈ m.settledOld := by
    rintro hmatched
    obtain ⟨l, hl, rfl⟩ := matchedOld_eq_true.1 hmatched
    exact h.old_settled l hl
  grind [oldSlot]

theorem Consistent.candSlot_eq_free (h : m.Consistent links least) : m.candSlot j = .free ↔ j ∉ m.settledCand := by
  have hmatched : (m.linkOf? j).isSome = true → j ∈ m.settledCand := by
    rintro hmatched
    obtain ⟨l, hl, rfl⟩ := isSome_linkOf?.1 hmatched
    exact h.cand_settled l hl
  grind [candSlot]

/-! ## One link of a level -/

section step
variable (h : m.Consistent links least) (hlevel : done ++ l :: rest = m.openAt links score) (hnodup : links.Nodup)
include h hlevel hnodup

theorem apart_after {a : Link} (ha : a ∈ (after (m.openAt links score) m done).chosen) :
    a.old ≠ l.old ∧ a.cand ≠ l.cand := by
  have hl : l ∈ m.openAt links score := hlevel ▸ List.mem_append_right _ (List.mem_cons_self ..)
  obtain ⟨-, -, hold, hcand⟩ := mem_openAt.1 hl
  rcases List.mem_append.1 ha with ha | ha
  · exact ⟨fun heq => hold (heq ▸ h.old_settled a ha), fun heq => hcand (heq ▸ h.cand_settled a ha)⟩
  · obtain ⟨ha, halone⟩ := List.mem_filter.1 ha
    have hne : a ≠ l := by
      have hlevelNodup : (done ++ l :: rest).Nodup := hlevel ▸ hnodup.filter _
      exact (List.nodup_append.1 hlevelNodup).2.2 a ha l (List.mem_cons_self ..)
    have hmem : a ∈ m.openAt links score := hlevel ▸ List.mem_append_left _ ha
    exact ⟨fun heq => hne (eq_of_alone halone hmem hl (.inl heq)), fun heq => hne (eq_of_alone halone hmem hl (.inr heq))⟩

theorem linkOf?_after : (after (m.openAt links score) m done).linkOf? l.cand = none := by
  refine List.find?_eq_none.2 fun a ha => ?_
  simpa using (apart_after h hlevel hnodup ha).2

omit h hlevel hnodup in
theorem chosen_concat (level done : List Link) (l : Link) : (after level m (done ++ [l])).chosen =
    (after level m done).chosen ++ if alone level l then [l] else [] := by
  simp [after, List.filter_append, List.filter_singleton]

theorem oldSlot_concat (i : Nat) : (after (m.openAt links score) m (done ++ [l])).oldSlot i =
    if l.old = i then (if alone (m.openAt links score) l then .matched else .ambiguous)
    else (after (m.openAt links score) m done).oldSlot i := by
  have hmatched : (after (m.openAt links score) m (done ++ [l])).matchedOld i =
      ((after (m.openAt links score) m done).matchedOld i || (alone (m.openAt links score) l && l.old = i)) := by
    rw [matchedOld, chosen_concat, List.any_append, matchedOld]
    cases alone (m.openAt links score) l <;> simp
  have hsettled : i ∈ (after (m.openAt links score) m (done ++ [l])).settledOld ↔
      i ∈ (after (m.openAt links score) m done).settledOld ∨ l.old = i := by
    simp [after, or_assoc, eq_comm (b := l.old)]
  rw [oldSlot, oldSlot, hmatched]
  by_cases hi : l.old = i
  · have hnone : (after (m.openAt links score) m done).matchedOld i = false := by
      rw [Bool.eq_false_iff]
      intro hmatched
      obtain ⟨a, ha, hold⟩ := matchedOld_eq_true.1 hmatched
      exact (apart_after h hlevel hnodup ha).1 (hold.trans hi.symm)
    simp [hnone, hsettled, hi]
  · simp [hsettled, hi]

theorem linkOf?_concat (j : Nat) : (after (m.openAt links score) m (done ++ [l])).linkOf? j =
    if l.cand = j ∧ alone (m.openAt links score) l then some l
    else (after (m.openAt links score) m done).linkOf? j := by
  rw [linkOf?, chosen_concat, List.find?_append, linkOf?]
  by_cases hj : l.cand = j
  · have hnone : (after (m.openAt links score) m done).chosen.find? (·.cand = j) = none :=
      hj ▸ linkOf?_after h hlevel hnodup
    rw [hnone]
    cases alone (m.openAt links score) l <;> simp [hj]
  · cases alone (m.openAt links score) l <;> simp [hj]

theorem candSlot_concat (j : Nat) : (after (m.openAt links score) m (done ++ [l])).candSlot j =
    if l.cand = j then (if alone (m.openAt links score) l then .matched else .ambiguous)
    else (after (m.openAt links score) m done).candSlot j := by
  have hsettled : j ∈ (after (m.openAt links score) m (done ++ [l])).settledCand ↔
      j ∈ (after (m.openAt links score) m done).settledCand ∨ l.cand = j := by
    simp [after, or_assoc, eq_comm (b := l.cand)]
  rw [candSlot, candSlot, linkOf?_concat h hlevel hnodup]
  by_cases hj : l.cand = j
  · have hnone : (after (m.openAt links score) m done).linkOf? j = none := hj ▸ linkOf?_after h hlevel hnodup
    cases alone (m.openAt links score) l <;> simp [hnone, hsettled, hj]
  · simp [hsettled, hj]

/-- A candidate in a tie is noted when the first of its links is settled. -/
theorem tied_concat (halone : alone (m.openAt links score) l = false) :
    (after (m.openAt links score) m (done ++ [l])).tied =
      if (after (m.openAt links score) m done).candSlot l.cand = .free then
        (after (m.openAt links score) m done).tied ++ [l.cand]
      else (after (m.openAt links score) m done).tied := by
  have hl : l ∈ m.openAt links score := hlevel ▸ List.mem_append_right _ (List.mem_cons_self ..)
  have hfree : (after (m.openAt links score) m done).candSlot l.cand = .free ↔
      l.cand ∉ (done.filter fun a => !alone (m.openAt links score) a).map (·.cand) := by
    have hunsettled : l.cand ∉ m.settledCand := (mem_openAt.1 hl).2.2.2
    -- a link of the level with this candidate does not stand alone, or it would have been chosen
    have htied (a : Link) (ha : a ∈ done) (hcand : a.cand = l.cand) : alone (m.openAt links score) a = false := by
      rw [Bool.eq_false_iff]
      intro halone
      exact (apart_after h hlevel hnodup (List.mem_append_right _ (List.mem_filter.2 ⟨ha, halone⟩))).2 hcand
    have hsame : l.cand ∈ (after (m.openAt links score) m done).settledCand ↔
        l.cand ∈ (done.filter fun a => !alone (m.openAt links score) a).map (·.cand) := by
      simp only [after, List.mem_append, hunsettled, false_or, List.mem_map, List.mem_filter, Bool.not_eq_true']
      exact exists_congr fun a => ⟨fun ⟨ha, hcand⟩ => ⟨⟨ha, htied a ha hcand⟩, hcand⟩, fun ⟨⟨ha, _⟩, hcand⟩ => ⟨ha, hcand⟩⟩
    rw [candSlot, linkOf?_after h hlevel hnodup, ← hsame]
    simp
  have hconcat : (after (m.openAt links score) m (done ++ [l])).tied = (after (m.openAt links score) m done).tied ++
      ([l.cand].removeAll ((done.filter fun a => !alone (m.openAt links score) a).map (·.cand))).eraseDups := by
    simp [after, List.filter_append, halone, List.eraseDups_append]
  rw [hconcat, List.cons_removeAll]
  by_cases hmem : l.cand ∈ (done.filter fun a => !alone (m.openAt links score) a).map (·.cand)
  · rw [if_neg (by simpa only [Bool.not_eq_false, List.contains_iff_mem] using hmem),
      if_neg (hfree.not.2 (not_not_intro hmem))]
    simp
  · rw [if_pos (by simpa using hmem), if_pos (hfree.2 hmem)]
    rfl

end step

end Matching

namespace Slots

open Link (alone)
open Matching (after)

/-! ## What slots show -/

/-- The slots of so many tracked files and candidates show what a matching says. -/
structure Shows (olds cands : Nat) (m : Matching) (s : Slots) : Prop where
  old : ∀ i, s.old[i]? = if i < olds then some (m.oldSlot i) else none
  cand : ∀ j, s.cand[j]? = if j < cands then some (m.candSlot j) else none
  matched : ∀ j, s.matched[j]? = if j < cands then some (m.linkOf? j) else none
  tied : s.tied = m.tied

/-- Links between so many tracked files and candidates. -/
def Within (olds cands : Nat) (links : List Link) : Prop := ∀ l ∈ links, l.old < olds ∧ l.cand < cands

variable {olds cands least score : Nat} {links done rest : List Link} {m : Matching} {s : Slots} {l : Link}

theorem shows_free (olds cands : Nat) : Shows olds cands {} (free olds cands) := by
  refine ⟨fun i => ?_, fun j => ?_, fun j => ?_, rfl⟩
  all_goals
    rw [free, List.getElem?_replicate]
    rfl

theorem getElem?_set {α : Type} {xs : List α} {n k i : Nat} {a : α} {f : Nat → α} (hi : i < n)
    (h : ∀ k, xs[k]? = if k < n then some (f k) else none) :
    (xs.set i a)[k]? = if k < n then some (if i = k then a else f k) else none := by
  rw [List.getElem?_set', h]
  by_cases hk : i = k
  · subst hk
    simp [hi]
  · simp [hk]

/-- The slots show the matching after one more link of a level. -/
theorem Shows.place (hwithin : Within olds cands links) (h : m.Consistent links least)
    (hlevel : done ++ l :: rest = m.openAt links score) (hnodup : links.Nodup)
    (hs : Shows olds cands (after (m.openAt links score) m done) s) :
    Shows olds cands (after (m.openAt links score) m (done ++ [l])) (place (m.openAt links score) s l) := by
  have hl : l ∈ m.openAt links score := hlevel ▸ List.mem_append_right _ (List.mem_cons_self ..)
  obtain ⟨hold, hcand⟩ := hwithin l (Matching.mem_openAt.1 hl).1
  have holdSlot := Matching.oldSlot_concat h hlevel hnodup
  have hcandSlot := Matching.candSlot_concat h hlevel hnodup
  have hlinkOf? := Matching.linkOf?_concat h hlevel hnodup
  rw [Slots.place]
  cases halone : alone (m.openAt links score) l with
  | true =>
    refine ⟨fun i => ?_, fun j => ?_, fun j => ?_, ?_⟩
    · rw [holdSlot, halone]
      exact getElem?_set hold hs.old
    · rw [hcandSlot, halone]
      exact getElem?_set hcand hs.cand
    · rw [hlinkOf?, halone]
      simpa using getElem?_set hcand hs.matched
    · simpa [after, List.filter_append, halone] using hs.tied
  | false =>
    refine ⟨fun i => ?_, fun j => ?_, fun j => ?_, ?_⟩
    · rw [holdSlot, halone]
      exact getElem?_set hold hs.old
    · rw [hcandSlot, halone]
      exact getElem?_set hcand hs.cand
    · rw [hlinkOf?, halone]
      simpa using hs.matched j
    · rw [Matching.tied_concat h hlevel hnodup halone, ← hs.tied]
      simp [hs.cand, hcand]

theorem Shows.foldl_place (hwithin : Within olds cands links) (h : m.Consistent links least)
    (hlevel : done ++ rest = m.openAt links score) (hnodup : links.Nodup)
    (hs : Shows olds cands (after (m.openAt links score) m done) s) :
    Shows olds cands (Matching.settle links m score) (rest.foldl (Slots.place (m.openAt links score)) s) := by
  induction rest generalizing done s with
  | nil =>
    rw [List.append_nil] at hlevel
    rw [Matching.settle]
    rwa [hlevel] at hs
  | cons l rest ih => exact ih (by simpa using hlevel) (hs.place hwithin h hlevel hnodup)

theorem after_nil (level : List Link) (m : Matching) : after level m [] = m := by simp [after]

theorem Shows.openAt (hwithin : Within olds cands links) (h : m.Consistent links least) (hs : Shows olds cands m s) :
    s.openAt links score = m.openAt links score := by
  refine List.filter_congr fun l hl => ?_
  obtain ⟨hold, hcand⟩ := hwithin l hl
  rw [hs.old, hs.cand, if_pos hold, if_pos hcand]
  simp only [Option.some_inj, h.oldSlot_eq_free, h.candSlot_eq_free]
  simp

/-- **The slots show the matching after a level.** -/
theorem Shows.settle (hwithin : Within olds cands links) (h : m.Consistent links least) (hnodup : links.Nodup)
    (hs : Shows olds cands m s) : Shows olds cands (Matching.settle links m score) (Slots.settle links s score) := by
  rw [Slots.settle, hs.openAt hwithin h]
  exact Shows.foldl_place hwithin h (List.nil_append _) hnodup (by rwa [after_nil])

/-- **The slots show the matching of all links.** -/
theorem shows_ofLinks (hwithin : Within olds cands links) (hnodup : links.Nodup) :
    Shows olds cands (Matching.ofLinks links) (ofLinks olds cands links) := by
  have hfoldl (n : Nat) {m : Matching} {s : Slots} (h : m.Consistent links n) (hs : Shows olds cands m s) :
      Shows olds cands ((List.range n).reverse.foldl (Matching.settle links) m)
        ((List.range n).reverse.foldl (settle links) s) := by
    induction n generalizing m s with
    | zero => exact hs
    | succ n ih =>
      rw [Matching.foldl_range_succ, Matching.foldl_range_succ]
      exact ih h.settle (hs.settle hwithin h hnodup)
  exact hfoldl _ (Matching.consistent_empty links _) (shows_free olds cands)

section ofLinks
variable (hwithin : Within olds cands links) (hnodup : links.Nodup)
include hwithin hnodup

theorem linkOf?_ofLinks {j : Nat} (hj : j < cands) :
    (ofLinks olds cands links).linkOf? j = (Matching.ofLinks links).linkOf? j := by
  rw [linkOf?, (shows_ofLinks hwithin hnodup).matched, if_pos hj, Option.join_some]

theorem matchedOld_ofLinks {i : Nat} (hi : i < olds) :
    (ofLinks olds cands links).matchedOld i = (Matching.ofLinks links).matchedOld i := by
  rw [matchedOld, (shows_ofLinks hwithin hnodup).old, if_pos hi, Matching.oldSlot]
  cases (Matching.ofLinks links).matchedOld i with
  | true => simp
  | false => simp; split <;> simp

theorem mem_takenCand_ofLinks {j : Nat} (hj : j < cands) :
    j ∈ (ofLinks olds cands links).takenCand ↔ j ∈ (Matching.ofLinks links).settledCand := by
  have hslot := (shows_ofLinks hwithin hnodup).cand j
  rw [if_pos hj] at hslot
  have hfree := (Matching.consistent_ofLinks hnodup).candSlot_eq_free (j := j)
  rw [← Decidable.not_iff_not, ← hfree]
  simp [takenCand, List.mem_zipIdx_iff_getElem?, hslot]

end ofLinks

end Slots

end LogTail
