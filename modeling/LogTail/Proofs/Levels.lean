import LogTail.Proofs.Resolving
import Mathlib.Algebra.Order.BigOperators.Group.List
import Mathlib.Algebra.Order.Group.Nat
import Mathlib.Order.Lattice.Nat

/-!
# Matching level by level

Which links a matching chooses, said without a run: an end is settled at the highest score at which it has a
link to an end that is not settled above, and of the links of a score between ends that are not settled
above it those are chosen that stand alone (`Assignment.ByLevels`).

* These rules leave no choice: no two assignments follow them (`Assignment.ByLevels.unique`).
* A link that is not chosen loses to a chosen link of a higher score, or an end of it is tied
  (`Assignment.ByLevels.outdone`); a candidate that is tied is never matched
  (`Assignment.ByLevels.ne_of_tiedCand`).
* A matching follows them (`Matching.byLevels`).
-/

namespace LogTail

/-! ## The rules -/

/-- At which scores the ends of links are settled, and which links are chosen. -/
@[ext] structure Assignment where
  oldAt : Nat → Nat → Prop
  candAt : Nat → Nat → Prop
  chosen : Link → Prop

namespace Assignment

/-- The scores at which an end has a link whose other end is not settled above. -/
def reach (links : List Link) (near far : Link → Nat) (farAt : Nat → Nat → Prop) (i : Nat) : Set Nat :=
  {s | ∃ l ∈ links, near l = i ∧ l.score = s ∧ ∀ t, farAt (far l) t → t ≤ s}

/-- Neither end of a link is settled at a score above its own. -/
def IsOpen (a : Assignment) (l : Link) : Prop :=
  (∀ t, a.oldAt l.old t → t ≤ l.score) ∧ ∀ t, a.candAt l.cand t → t ≤ l.score

def TiedOld (a : Assignment) (links : List Link) (old score : Nat) : Prop :=
  ∃ l ∈ links, l.old = old ∧ l.score = score ∧ a.IsOpen l ∧ ¬ a.chosen l

def TiedCand (a : Assignment) (links : List Link) (cand score : Nat) : Prop :=
  ∃ l ∈ links, l.cand = cand ∧ l.score = score ∧ a.IsOpen l ∧ ¬ a.chosen l

/-- The rules of matching level by level. -/
structure ByLevels (links : List Link) (a : Assignment) : Prop where
  /-- A tracked file is settled at the highest score at which it has a link to a candidate that is not
  settled above. -/
  old_iff : ∀ i s, a.oldAt i s ↔ IsGreatest (reach links Link.old Link.cand a.candAt i) s
  /-- And a candidate likewise. -/
  cand_iff : ∀ j s, a.candAt j s ↔ IsGreatest (reach links Link.cand Link.old a.oldAt j) s
  /-- An open link is chosen if no other open link of its score touches an end of it. -/
  chosen_iff : ∀ l, a.chosen l ↔ l ∈ links ∧ a.IsOpen l ∧
    ∀ l' ∈ links, l'.score = l.score → a.IsOpen l' → l'.old = l.old ∨ l'.cand = l.cand → l' = l

theorem exists_score_lt (links : List Link) : ∃ n, ∀ l ∈ links, l.score < n :=
  ⟨(links.map Link.score).sum + 1, fun _ hl =>
    Nat.lt_succ_of_le (List.le_sum_of_mem (List.mem_map_of_mem hl))⟩

/-! ## One kind of ends -/

section ends
variable {links : List Link} {near far : Link → Nat} {nearAt farAt farAt' : Nat → Nat → Prop}
  {i s t : Nat} {l : Link}

theorem isGreatest_congr (h : ∀ t, s < t → ∀ j, farAt j t ↔ farAt' j t)
    (hs : IsGreatest (reach links near far farAt i) s) : IsGreatest (reach links near far farAt' i) s := by
  have hclear {u j : Nat} (hu : s ≤ u) : (∀ t, farAt j t → t ≤ u) ↔ ∀ t, farAt' j t → t ≤ u := by
    constructor <;> intro hall t ht <;> by_contra hlt
    · exact hlt (hall t ((h t (by omega) j).2 ht))
    · exact hlt (hall t ((h t (by omega) j).1 ht))
  obtain ⟨⟨l, hl, hend, hscore, hopen⟩, hbest⟩ := hs
  refine ⟨⟨l, hl, hend, hscore, (hclear (Nat.le_refl s)).1 hopen⟩, ?_⟩
  rintro u ⟨l', hl', hend', hscore', hopen'⟩
  by_contra hlt
  exact hlt (hbest ⟨l', hl', hend', hscore', (hclear (by omega)).2 hopen'⟩)

variable (h : ∀ i s, nearAt i s ↔ IsGreatest (reach links near far farAt i) s)
include h

theorem settled_unique (hs : nearAt i s) (ht : nearAt i t) : s = t :=
  ((h i s).1 hs).unique ((h i t).1 ht)

theorem exists_settled (hl : l ∈ links) (hclear : ∀ t, farAt (far l) t → t ≤ l.score) :
    ∃ t, l.score ≤ t ∧ nearAt (near l) t := by
  have hmem : l.score ∈ reach links near far farAt (near l) := ⟨l, hl, rfl, rfl, hclear⟩
  have hbounded : BddAbove (reach links near far farAt (near l)) := by
    obtain ⟨n, hn⟩ := exists_score_lt links
    refine ⟨n, ?_⟩
    rintro _ ⟨l', hl', _, rfl, _⟩
    exact Nat.le_of_lt (hn l' hl')
  exact ⟨_, le_csSup hbounded hmem, (h _ _).2 ⟨Nat.sSup_mem ⟨_, hmem⟩ hbounded, fun _ => le_csSup hbounded⟩⟩

theorem exists_open (hs : nearAt i s) : ∃ l ∈ links, near l = i ∧ l.score = s ∧
    (∀ t, nearAt (near l) t → t ≤ l.score) ∧ ∀ t, farAt (far l) t → t ≤ l.score := by
  obtain ⟨⟨l, hl, rfl, rfl, hclear⟩, _⟩ := (h i s).1 hs
  exact ⟨l, hl, rfl, rfl, fun t ht => Nat.le_of_eq (settled_unique h ht hs), hclear⟩

omit h in
/-- An end that is settled with its open links is settled at the highest score that it can reach. -/
theorem isGreatest_iff (hnear : ∀ i s, nearAt i s ↔ ∃ l ∈ links, near l = i ∧ l.score = s ∧
      (∀ t, nearAt (near l) t → t ≤ l.score) ∧ ∀ t, farAt (far l) t → t ≤ l.score) (i s : Nat) :
    nearAt i s ↔ IsGreatest (reach links near far farAt i) s := by
  constructor
  · intro hs
    obtain ⟨l, hl, rfl, rfl, hopen, hclear⟩ := (hnear i s).1 hs
    refine ⟨⟨l, hl, rfl, rfl, hclear⟩, ?_⟩
    rintro u ⟨l', hl', hend, rfl, hclear'⟩
    by_contra hlt
    refine hlt (hopen l'.score ((hnear _ _).2 ⟨l', hl', hend, rfl, ?_, hclear'⟩))
    intro t ht
    exact Nat.le_trans (hopen t (hend ▸ ht)) (Nat.le_of_not_le hlt)
  · rintro ⟨⟨l, hl, rfl, rfl, hclear⟩, hbest⟩
    refine (hnear _ _).2 ⟨l, hl, rfl, rfl, ?_, hclear⟩
    intro t ht
    obtain ⟨l', hl', hend, rfl, _, hclear'⟩ := (hnear _ _).1 ht
    exact hbest ⟨l', hl', hend, rfl, hclear'⟩

end ends

namespace ByLevels

variable {links : List Link} {a b : Assignment} {l l' : Link} {i j s t : Nat}

/-! ## No choice -/

theorem settled_congr (ha : a.ByLevels links) (hb : b.ByLevels links) (s : Nat) :
    (∀ i, a.oldAt i s ↔ b.oldAt i s) ∧ ∀ j, a.candAt j s ↔ b.candAt j s := by
  obtain ⟨n, hn⟩ := exists_score_lt links
  -- downwards from a score that no link has
  induction hk : n - s using Nat.strong_induction_on generalizing s with
  | _ k ih =>
    subst hk
    have habove (t : Nat) (hst : s < t) :
        (∀ i, a.oldAt i t ↔ b.oldAt i t) ∧ ∀ j, a.candAt j t ↔ b.candAt j t := by
      rcases Nat.lt_or_ge s n with hlt | hge
      · exact ih (n - t) (by omega) t rfl
      · have hnone {c : Assignment} (hc : c.ByLevels links) :
            (∀ i, ¬ c.oldAt i t) ∧ ∀ j, ¬ c.candAt j t := by
          constructor
          · intro i h
            obtain ⟨l, hl, _, hscore, _⟩ := exists_open hc.old_iff h
            have := hn l hl
            omega
          · intro j h
            obtain ⟨l, hl, _, hscore, _⟩ := exists_open hc.cand_iff h
            have := hn l hl
            omega
        exact ⟨fun i => iff_of_false ((hnone ha).1 i) ((hnone hb).1 i),
          fun j => iff_of_false ((hnone ha).2 j) ((hnone hb).2 j)⟩
    constructor
    · intro i
      rw [ha.old_iff, hb.old_iff]
      exact ⟨isGreatest_congr fun t ht => (habove t ht).2,
        isGreatest_congr fun t ht j => ((habove t ht).2 j).symm⟩
    · intro j
      rw [ha.cand_iff, hb.cand_iff]
      exact ⟨isGreatest_congr fun t ht => (habove t ht).1,
        isGreatest_congr fun t ht i => ((habove t ht).1 i).symm⟩

/-- **No two assignments follow the rules.** -/
theorem unique (ha : a.ByLevels links) (hb : b.ByLevels links) : a = b := by
  have hold : a.oldAt = b.oldAt := funext fun i => funext fun s => propext ((settled_congr ha hb s).1 i)
  have hcand : a.candAt = b.candAt := funext fun j => funext fun s => propext ((settled_congr ha hb s).2 j)
  have hopen : a.IsOpen = b.IsOpen := by
    funext l
    rw [IsOpen, IsOpen, hold, hcand]
  refine Assignment.ext hold hcand (funext fun l => propext ?_)
  rw [ha.chosen_iff, hb.chosen_iff, hopen]

/-! ## What follows from the rules -/

variable (h : a.ByLevels links)
include h

theorem settled_of_isOpen (hl : l ∈ links) (hopen : a.IsOpen l) :
    a.oldAt l.old l.score ∧ a.candAt l.cand l.score := by
  obtain ⟨t, ht, hold⟩ := exists_settled h.old_iff hl hopen.2
  obtain ⟨u, hu, hcand⟩ := exists_settled h.cand_iff hl hopen.1
  obtain rfl := Nat.le_antisymm ht (hopen.1 t hold)
  exact ⟨hold, Nat.le_antisymm hu (hopen.2 u hcand) ▸ hcand⟩

theorem score_eq (hl : l ∈ links) (hl' : l' ∈ links) (hopen : a.IsOpen l) (hopen' : a.IsOpen l')
    (hends : l.old = l'.old ∨ l.cand = l'.cand) : l.score = l'.score := by
  obtain ⟨hold, hcand⟩ := h.settled_of_isOpen hl hopen
  obtain ⟨hold', hcand'⟩ := h.settled_of_isOpen hl' hopen'
  rcases hends with heq | heq
  · exact settled_unique h.old_iff (heq ▸ hold) hold'
  · exact settled_unique h.cand_iff (heq ▸ hcand) hcand'

/-- An open link that touches an end of a chosen one is that link. -/
theorem eq_of_chosen (hl : a.chosen l) (hl' : l' ∈ links) (hopen : a.IsOpen l')
    (hends : l'.old = l.old ∨ l'.cand = l.cand) : l' = l := by
  obtain ⟨hmem, hopen', halone⟩ := (h.chosen_iff l).1 hl
  exact halone l' hl' (h.score_eq hl' hmem hopen hopen' hends) hopen hends

/-- **Chosen links share no end.** -/
theorem apart (hl : a.chosen l) (hl' : a.chosen l') (hends : l.old = l'.old ∨ l.cand = l'.cand) : l = l' :=
  have hmem := (h.chosen_iff l).1 hl
  h.eq_of_chosen hl' hmem.1 hmem.2.1 hends

/-- **A link that is not chosen** has an end with a chosen link of a higher score, or one that is tied at
its score or above. -/
theorem outdone (hl : l ∈ links) (hno : ¬ a.chosen l) :
    (∃ l', a.chosen l' ∧ l.score < l'.score ∧ (l'.old = l.old ∨ l'.cand = l.cand)) ∨
      ∃ t, l.score ≤ t ∧ (a.TiedOld links l.old t ∨ a.TiedCand links l.cand t) := by
  by_cases hopen : a.IsOpen l
  · exact .inr ⟨l.score, Nat.le_refl _, .inl ⟨l, hl, rfl, rfl, hopen, hno⟩⟩
  · simp only [IsOpen, not_and_or, not_forall, Nat.not_le] at hopen
    rcases hopen with ⟨t, hat, hlt⟩ | ⟨t, hat, hlt⟩
    · obtain ⟨l', hl', hend, rfl, hopen'⟩ := exists_open h.old_iff hat
      by_cases hyes : a.chosen l'
      · exact .inl ⟨l', hyes, hlt, .inl hend⟩
      · exact .inr ⟨_, Nat.le_of_lt hlt, .inl ⟨l', hl', hend, rfl, hopen', hyes⟩⟩
    · obtain ⟨l', hl', hend, rfl, hopen'⟩ := exists_open h.cand_iff hat
      by_cases hyes : a.chosen l'
      · exact .inl ⟨l', hyes, hlt, .inr hend⟩
      · exact .inr ⟨_, Nat.le_of_lt hlt, .inr ⟨l', hl', hend, rfl, hopen'.symm, hyes⟩⟩

/-- **A candidate that is tied at some score is matched at none.** -/
theorem ne_of_tiedCand (htied : a.TiedCand links j s) (hl : a.chosen l) : l.cand ≠ j := by
  obtain ⟨l', hl', hcand, _, hopen, hno⟩ := htied
  rintro rfl
  exact hno (h.eq_of_chosen hl hl' hopen (.inr hcand) ▸ hl)

end ByLevels

end Assignment

/-! ## A matching follows them -/

namespace Matching

open Link (alone)

variable {links : List Link} {l : Link} {i j s : Nat}

def settledFrom (links : List Link) (s : Nat) : Matching :=
  (List.range' s (Link.topScore + 1 - s)).reverse.foldl (settle links) {}

def level (links : List Link) (s : Nat) : List Link := (settledFrom links (s + 1)).openAt links s

theorem settledFrom_of_le (h : s ≤ Link.topScore) :
    settledFrom links s = settle links (settledFrom links (s + 1)) s := by
  rw [settledFrom, show Link.topScore + 1 - s = (Link.topScore + 1 - (s + 1)) + 1 by omega,
    List.range'_succ, List.reverse_cons, List.foldl_append]
  rfl

theorem settledFrom_zero : settledFrom links 0 = ofLinks links := by
  rw [settledFrom, ofLinks, List.range_eq_range']
  rfl

variable (hscore : ∀ l ∈ links, l.score ≤ Link.topScore)
include hscore

theorem level_eq_nil (h : Link.topScore < s) : level links s = [] := by
  rw [List.eq_nil_iff_forall_not_mem]
  intro l hl
  obtain ⟨hmem, rfl, _⟩ := mem_openAt.1 hl
  exact absurd (hscore l hmem) (Nat.not_le.2 h)

/-- What is collected from the levels is found in one of them. -/
theorem mem_settledFrom {α : Type} (field : Matching → List α) (part : List Link → List α)
    (hempty : field {} = []) (hnil : part [] = [])
    (hsettle : ∀ m s, field (settle links m s) = field m ++ part (m.openAt links s)) (x : α) (s : Nat) :
    x ∈ field (settledFrom links s) ↔ ∃ t, s ≤ t ∧ x ∈ part (level links t) := by
  induction hk : Link.topScore + 1 - s generalizing s with
  | zero =>
    have hnone (t : Nat) (ht : s ≤ t) : x ∉ part (level links t) := by
      rw [level_eq_nil hscore (by omega), hnil]
      exact List.not_mem_nil
    rw [settledFrom, hk]
    simp only [List.range'_zero, List.reverse_nil, List.foldl_nil, hempty, List.not_mem_nil, false_iff]
    rintro ⟨t, ht, hx⟩
    exact hnone t ht hx
  | succ k ih =>
    rw [settledFrom_of_le (by omega), hsettle, List.mem_append, ih (s + 1) (by omega)]
    constructor
    · rintro (⟨t, ht, hx⟩ | hx)
      · exact ⟨t, by omega, hx⟩
      · exact ⟨s, Nat.le_refl s, hx⟩
    · rintro ⟨t, ht, hx⟩
      rcases Nat.lt_or_eq_of_le ht with hlt | rfl
      · exact .inl ⟨t, hlt, hx⟩
      · exact .inr hx

omit hscore in
/-- The ends that are settled at each score, and the links that are chosen. -/
def assignment (links : List Link) : Assignment where
  oldAt i s := ∃ l ∈ level links s, l.old = i
  candAt j s := ∃ l ∈ level links s, l.cand = j
  chosen l := l ∈ (ofLinks links).chosen

theorem mem_settledOld (i s : Nat) :
    i ∈ (settledFrom links s).settledOld ↔ ∃ t, s ≤ t ∧ (assignment links).oldAt i t := by
  rw [mem_settledFrom hscore settledOld (List.map Link.old) rfl rfl fun _ _ => rfl]
  simp only [List.mem_map, assignment]

theorem mem_settledCand (j s : Nat) :
    j ∈ (settledFrom links s).settledCand ↔ ∃ t, s ≤ t ∧ (assignment links).candAt j t := by
  rw [mem_settledFrom hscore settledCand (List.map Link.cand) rfl rfl fun _ _ => rfl]
  simp only [List.mem_map, assignment]

theorem mem_level : l ∈ level links s ↔ l ∈ links ∧ l.score = s ∧ (assignment links).IsOpen l := by
  rw [level, mem_openAt, mem_settledOld hscore, mem_settledCand hscore]
  refine and_congr_right fun _ => and_congr_right fun hs => ?_
  subst hs
  simp only [Assignment.IsOpen, not_exists, not_and', Nat.not_le, Nat.lt_succ_iff]

theorem oldAt_iff : (assignment links).oldAt i s ↔
    ∃ l ∈ links, l.old = i ∧ l.score = s ∧ (assignment links).IsOpen l := by
  constructor
  · rintro ⟨l, hl, hend⟩
    obtain ⟨hl, hs, hopen⟩ := (mem_level hscore).1 hl
    exact ⟨l, hl, hend, hs, hopen⟩
  · rintro ⟨l, hl, hend, hs, hopen⟩
    exact ⟨l, (mem_level hscore).2 ⟨hl, hs, hopen⟩, hend⟩

theorem candAt_iff : (assignment links).candAt j s ↔ ∃ l ∈ links, l.cand = j ∧ l.score = s ∧
    (∀ t, (assignment links).candAt l.cand t → t ≤ l.score) ∧
      ∀ t, (assignment links).oldAt l.old t → t ≤ l.score := by
  constructor
  · rintro ⟨l, hl, hend⟩
    obtain ⟨hl, hs, hopen⟩ := (mem_level hscore).1 hl
    exact ⟨l, hl, hend, hs, hopen.symm⟩
  · rintro ⟨l, hl, hend, hs, hopen⟩
    exact ⟨l, (mem_level hscore).2 ⟨hl, hs, hopen.symm⟩, hend⟩

theorem chosen_iff_alone : (assignment links).chosen l ↔
    l ∈ level links l.score ∧ alone (level links l.score) l = true := by
  show l ∈ (ofLinks links).chosen ↔ _
  rw [← settledFrom_zero, mem_settledFrom hscore chosen (fun level => level.filter (alone level)) rfl rfl
    fun _ _ => rfl]
  simp only [List.mem_filter]
  constructor
  · rintro ⟨t, _, hl, halone⟩
    obtain rfl := ((mem_level hscore).1 hl).2.1
    exact ⟨hl, halone⟩
  · rintro ⟨hl, halone⟩
    exact ⟨l.score, Nat.zero_le _, hl, halone⟩

theorem mem_tied : j ∈ (settledFrom links s).tied ↔
    ∃ t, s ≤ t ∧ (assignment links).TiedCand links j t := by
  rw [mem_settledFrom hscore tied
    (fun level => ((level.filter fun l => !alone level l).map Link.cand).eraseDups) rfl rfl fun _ _ => rfl]
  refine exists_congr fun t => and_congr_right fun _ => ?_
  simp only [List.mem_eraseDups, List.mem_map, List.mem_filter, Bool.not_eq_true', ← Bool.not_eq_true]
  constructor
  · rintro ⟨l, ⟨hl, hno⟩, hcand⟩
    obtain ⟨hmem, rfl, hopen⟩ := (mem_level hscore).1 hl
    exact ⟨l, hmem, hcand, rfl, hopen, fun h => hno ((chosen_iff_alone hscore).1 h).2⟩
  · rintro ⟨l, hmem, hcand, rfl, hopen, hno⟩
    have hl : l ∈ level links l.score := (mem_level hscore).2 ⟨hmem, rfl, hopen⟩
    exact ⟨l, ⟨hl, fun h => hno ((chosen_iff_alone hscore).2 ⟨hl, h⟩)⟩, hcand⟩

/-- **A matching follows the rules.** -/
theorem byLevels (hnodup : links.Nodup) : (assignment links).ByLevels links where
  old_iff := Assignment.isGreatest_iff fun _ _ => oldAt_iff hscore
  cand_iff := Assignment.isGreatest_iff fun _ _ => candAt_iff hscore
  chosen_iff l := by
    rw [chosen_iff_alone hscore, mem_level hscore]
    constructor
    · rintro ⟨⟨hmem, _, hopen⟩, halone⟩
      refine ⟨hmem, hopen, fun l' hl' hs hopen' hends => ?_⟩
      exact (eq_of_alone halone ((mem_level hscore).2 ⟨hmem, rfl, hopen⟩)
        ((mem_level hscore).2 ⟨hl', hs, hopen'⟩) (hends.imp Eq.symm Eq.symm)).symm
    · rintro ⟨hmem, hopen, honly⟩
      refine ⟨⟨hmem, rfl, hopen⟩, alone_of_forall (hnodup.filter _)
        ((mem_level hscore).2 ⟨hmem, rfl, hopen⟩) fun l' hl' hends => ?_⟩
      obtain ⟨hl', hs, hopen'⟩ := (mem_level hscore).1 hl'
      exact honly l' hl' hs hopen' hends

/-! ## Ties -/

omit hscore in
theorem nodup_eraseDups (xs : List Nat) : xs.eraseDups.Nodup := by
  induction hn : xs.length using Nat.strong_induction_on generalizing xs with
  | _ n ih =>
    cases xs with
    | nil => exact List.nodup_nil
    | cons x xs =>
      rw [List.eraseDups_cons, List.nodup_cons, List.mem_eraseDups]
      refine ⟨by simp, ih _ ?_ _ rfl⟩
      have := List.length_filter_le (fun y => !y == x) xs
      rw [← hn, List.length_cons]
      omega

theorem nodup_tied (s : Nat) : (settledFrom links s).tied.Nodup := by
  induction hk : Link.topScore + 1 - s generalizing s with
  | zero =>
    rw [settledFrom, hk]
    exact List.nodup_nil
  | succ k ih =>
    rw [settledFrom_of_le (by omega)]
    refine List.nodup_append.2 ⟨ih (s + 1) (by omega), nodup_eraseDups _, ?_⟩
    rintro j hj _ hj' rfl
    -- what was tied above is settled, so no open link touches it
    obtain ⟨t, ht, l, hl, hcand, rfl, hopen, _⟩ := (mem_tied hscore).1 hj
    simp only [List.mem_eraseDups, List.mem_map, List.mem_filter] at hj'
    obtain ⟨l', ⟨hl', _⟩, hcand'⟩ := hj'
    obtain ⟨_, rfl, hopen'⟩ := (mem_level hscore).1 hl'
    have hsettled : (assignment links).candAt j l.score := ⟨l, (mem_level hscore).2 ⟨hl, rfl, hopen⟩, hcand⟩
    exact absurd (hopen'.2 l.score (hcand' ▸ hsettled)) (by omega)

end Matching

/-! ## What a resolution makes of it -/

namespace Resolution

variable {policy : RotationPolicy} {encoding : Encoding} {state : WatchState}
  {candidates : List Candidate} {j s : Nat}

theorem score_le_of_mem_all : ∀ l ∈ Link.all policy state.useIdentity state.files candidates,
    l.score ≤ Link.topScore := by
  intro l hl
  obtain ⟨_, _, _, _, hrelate⟩ := Link.mem_all.1 hl
  exact Link.score_le hrelate

theorem mem_tied : j ∈ (matching policy state candidates).tied ↔
    ∃ s, (Matching.assignment (Link.all policy state.useIdentity state.files candidates)).TiedCand
      (Link.all policy state.useIdentity state.files candidates) j s := by
  rw [matching, ← Matching.settledFrom_zero, Matching.mem_tied score_le_of_mem_all]
  simp

theorem settled_of_tied (hj : j ∈ (matching policy state candidates).tied) :
    j ∈ (matching policy state candidates).settledCand := by
  obtain ⟨s, l, hl, rfl, rfl, hopen, _⟩ := mem_tied.1 hj
  rw [matching, ← Matching.settledFrom_zero, Matching.mem_settledCand score_le_of_mem_all]
  exact ⟨_, Nat.zero_le _, ((Matching.byLevels score_le_of_mem_all (Link.nodup_all ..)).settled_of_isOpen hl
    hopen).2⟩

theorem new_of_tied (encoding : Encoding) (hj : j ∈ (matching policy state candidates).tied) :
    ∃ c, candidates[j]? = some c ∧ c.path ∈ (resolve policy encoding state candidates).ambiguous ∧
      (resolve policy encoding state candidates).transitions[j]? = some .new := by
  obtain ⟨s, htied⟩ := mem_tied.1 hj
  have hlevels := Matching.byLevels score_le_of_mem_all
    (Link.nodup_all policy state.useIdentity state.files candidates)
  obtain ⟨l, hl, rfl, _⟩ := id htied
  obtain ⟨_, c, _, hc, _⟩ := Link.mem_all.1 hl
  refine ⟨c, hc, ?_, ?_⟩
  · rw [ambiguous_eq, List.mem_filterMap]
    exact ⟨l.cand, List.mem_append_left _ hj, by rw [hc, Option.map_some]⟩
  · obtain ⟨f, t, _, ht, hentry⟩ := exists_entry policy encoding state hc
    rw [ht, hentry.new_of_not fun l' hl' => hlevels.ne_of_tiedCand htied hl']
    intro i hclaimed
    -- what is tied is settled, and claims nothing
    obtain ⟨_, ⟨_, _, hunsettled, _⟩, _⟩ := sources_eq_some.1 hclaimed
    exact hunsettled (settled_of_tied hj)

/-- **A resolution matches level by level, and never guesses.** There is one assignment that follows the
rules, and a candidate continues a tracked file if and only if it chooses their link. Chosen links share no
end, a link that is not chosen is outdone, and a candidate in a tie is new. -/
theorem resolve_byLevels (policy : RotationPolicy) (encoding : Encoding) (state : WatchState)
    (candidates : List Candidate) :
    let links := Link.all policy state.useIdentity state.files candidates
    let r := resolve policy encoding state candidates
    ∃ a : Assignment, a.ByLevels links ∧ (∀ b : Assignment, b.ByLevels links → b = a) ∧
      (∀ l, a.chosen l → ∃ f c seq, state.files[l.old]? = some f ∧ candidates[l.cand]? = some c ∧
        r.files[l.cand]? = some (continueFile f c seq l.truncated) ∧
        r.transitions[l.cand]? = some (if l.truncated then .truncated else .unchanged)) ∧
      (∀ j, r.transitions[j]? = some .unchanged ∨ r.transitions[j]? = some .truncated →
        ∃ l, a.chosen l ∧ l.cand = j) ∧
      (∀ l l', a.chosen l → a.chosen l' → l.old = l'.old ∨ l.cand = l'.cand → l = l') ∧
      (∀ l ∈ links, ¬ a.chosen l →
        (∃ l', a.chosen l' ∧ l.score < l'.score ∧ (l'.old = l.old ∨ l'.cand = l.cand)) ∨
          ∃ t, l.score ≤ t ∧ (a.TiedOld links l.old t ∨ a.TiedCand links l.cand t)) ∧
      ∀ j t, a.TiedCand links j t → (∀ l, a.chosen l → l.cand ≠ j) ∧
        ∃ c, candidates[j]? = some c ∧ c.path ∈ r.ambiguous ∧ r.transitions[j]? = some .new := by
  intro links r
  have hlevels : (Matching.assignment links).ByLevels links :=
    Matching.byLevels score_le_of_mem_all (Link.nodup_all ..)
  refine ⟨Matching.assignment links, hlevels, fun b hb => hb.unique hlevels, ?_, fun j => exists_mem_chosen,
    fun l l' => hlevels.apart, fun l => hlevels.outdone, ?_⟩
  · intro l (hl : l ∈ (matching policy state candidates).chosen)
    obtain ⟨f, c, hf, hc, hfile, ht⟩ := exists_of_mem_chosen encoding hl
    exact ⟨f, c, _, hf, hc, hfile, ht⟩
  · intro j t htied
    exact ⟨fun l => hlevels.ne_of_tiedCand htied, new_of_tied encoding (mem_tied.2 ⟨t, htied⟩)⟩

end Resolution

end LogTail
