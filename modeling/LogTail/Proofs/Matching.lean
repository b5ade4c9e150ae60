import LogTail.Resolution.Link
import Mathlib.Data.List.Nodup

/-!
# Chosen links

Links are settled from the highest score down. A matching says what comes of it without slots: of all open links of a
score together, those that stand alone are chosen. What is chosen is consistent: no two chosen links share an end
(`Matching.consistent_ofLinks`). And a link is sure to be chosen if it scores more than every other link of its ends
(`Dominant.mem_chosen`), whatever else is tied.
-/

namespace LogTail

/-! ## The links of a scan -/

namespace Link

variable {policy : RotationPolicy} {useIdentity : Bool} {previous : List LogFile}
  {candidates : List Candidate} {l l' : Link}

theorem mem_all : l ∈ all policy useIdentity previous candidates ↔
    ∃ f c, previous[l.old]? = some f ∧ candidates[l.cand]? = some c ∧
      relate policy useIdentity previous (f, l.old) (c, l.cand) = some l := by
  simp only [all, List.mem_flatMap, List.mem_filterMap, List.mem_zipIdx_iff_getElem?, Prod.exists]
  constructor
  · rintro ⟨f, i, hf, c, j, hc, h⟩
    have hl := h
    simp only [relate, Option.map_eq_some_iff] at hl
    obtain ⟨_, _, rfl⟩ := hl
    exact ⟨f, c, hf, hc, h⟩
  · rintro ⟨f, c, hf, hc, h⟩
    exact ⟨f, l.old, hf, c, l.cand, hc, h⟩

theorem pairwise_zipIdx {α : Type} (xs : List α) : xs.zipIdx.Pairwise fun a b => a.2 ≠ b.2 := by
  have h : (xs.zipIdx.map Prod.snd).Nodup := by
    rw [List.zipIdx_map_snd]
    exact List.nodup_range'
  exact List.pairwise_map.1 h

theorem relate_ends {old : LogFile × Nat} {cand : Candidate × Nat}
    (h : relate policy useIdentity previous old cand = some l) : l.old = old.2 ∧ l.cand = cand.2 := by
  simp only [relate, Option.map_eq_some_iff] at h
  obtain ⟨_, _, rfl⟩ := h
  exact ⟨rfl, rfl⟩

theorem nodup_all (policy : RotationPolicy) (useIdentity : Bool) (previous : List LogFile)
    (candidates : List Candidate) : (all policy useIdentity previous candidates).Nodup := by
  rw [all, List.Nodup, List.pairwise_flatMap]
  refine ⟨?_, (pairwise_zipIdx previous).imp ?_⟩
  · intro old _
    rw [List.pairwise_filterMap]
    refine (pairwise_zipIdx candidates).imp fun hne l hl l' hl' heq => hne ?_
    rw [← (relate_ends hl).2, ← (relate_ends hl').2, heq]
  · intro old old' hne l hl l' hl'
    rw [List.mem_filterMap] at hl hl'
    obtain ⟨_, _, hl⟩ := hl
    obtain ⟨_, _, hl'⟩ := hl'
    rintro rfl
    exact hne ((relate_ends hl).1.symm.trans (relate_ends hl').1)

/-- A link between files told by identity: they are the same, and a name in common counts two, the size
and time of the last scan one. -/
theorem relate_identity {f : LogFile} {c : Candidate} {i j : Nat}
    (h : relate policy true previous (f, i) (c, j) = some l) :
    f.id = c.id ∧ l.truncated = isTruncated policy f c ∧
      l.score = 4 + (if sameName f c then 2 else 0) + (if sameStat f c then 1 else 0) := by
  simp only [relate, base?, if_true, Option.map_eq_some_iff, Option.ite_none_right_eq_some,
    Option.some.injEq] at h
  obtain ⟨_, ⟨hid, rfl⟩, rfl⟩ := h
  exact ⟨hid, rfl, rfl⟩

theorem score_le {old : LogFile × Nat} {cand : Candidate × Nat}
    (h : relate policy useIdentity previous old cand = some l) : l.score ≤ topScore := by
  simp only [relate, Option.map_eq_some_iff] at h
  obtain ⟨base, hbase, rfl⟩ := h
  have hle : base ≤ 4 := by
    unfold base? at hbase
    grind
  have hname : (if sameName old.1 cand.1 then 2 else 0) ≤ 2 := by split <;> omega
  have hstat : (if sameStat old.1 cand.1 then 1 else 0) ≤ 1 := by split <;> omega
  show base + (if sameName old.1 cand.1 then 2 else 0) + (if sameStat old.1 cand.1 then 1 else 0) ≤ 7
  omega

theorem exists_relate_identity (policy : RotationPolicy) (previous : List LogFile) {f : LogFile}
    {c : Candidate} (hid : f.id = c.id) (i j : Nat) :
    ∃ l, relate policy true previous (f, i) (c, j) = some l := by
  simp [relate, base?, hid]

end Link

/-- Links that were chosen, the ends that are settled, and the candidates that were tied. -/
structure Matching where
  chosen : List Link := []
  settledOld : List Nat := []
  settledCand : List Nat := []
  tied : List Nat := []

namespace Matching

open Link (alone)

/-- The links of a score between ends that are not settled. -/
def openAt (m : Matching) (links : List Link) (score : Nat) : List Link :=
  links.filter fun l =>
    l.score = score && !m.settledOld.contains l.old && !m.settledCand.contains l.cand

/-- The matching after some links of a level: those that stand alone are chosen, and the ends of the others are
tied. -/
def after (level : List Link) (m : Matching) (done : List Link) : Matching where
  chosen := m.chosen ++ done.filter (alone level)
  settledOld := m.settledOld ++ done.map (·.old)
  settledCand := m.settledCand ++ done.map (·.cand)
  tied := m.tied ++ ((done.filter fun l => !alone level l).map (·.cand)).eraseDups

def settle (links : List Link) (m : Matching) (score : Nat) : Matching :=
  after (m.openAt links score) m (m.openAt links score)

def ofLinks (links : List Link) : Matching :=
  (List.range (Link.topScore + 1)).reverse.foldl (settle links) {}

def linkOf? (m : Matching) (cand : Nat) : Option Link := m.chosen.find? (·.cand = cand)

def matchedOld (m : Matching) (old : Nat) : Bool := m.chosen.any (·.old = old)

variable {links : List Link} {m : Matching} {l l' : Link} {score : Nat}

/-! ## One score -/

/-- What is chosen comes from the links, has settled ends, and shares no end with another choice; and
every settled end is one of a link with at least a certain score. -/
structure Consistent (links : List Link) (least : Nat) (m : Matching) : Prop where
  chosen_mem : ∀ l ∈ m.chosen, l ∈ links
  old_settled : ∀ l ∈ m.chosen, l.old ∈ m.settledOld
  cand_settled : ∀ l ∈ m.chosen, l.cand ∈ m.settledCand
  apart : ∀ l ∈ m.chosen, ∀ l' ∈ m.chosen, l.old = l'.old ∨ l.cand = l'.cand → l = l'
  old_linked : ∀ i ∈ m.settledOld, ∃ l ∈ links, l.old = i ∧ least ≤ l.score
  cand_linked : ∀ j ∈ m.settledCand, ∃ l ∈ links, l.cand = j ∧ least ≤ l.score

theorem mem_openAt : l ∈ m.openAt links score ↔
    l ∈ links ∧ l.score = score ∧ l.old ∉ m.settledOld ∧ l.cand ∉ m.settledCand := by
  simp [openAt, and_assoc]

theorem eq_of_alone {level : List Link} (h : alone level l = true) (hl : l ∈ level) (hl' : l' ∈ level)
    (hends : l.old = l'.old ∨ l.cand = l'.cand) : l = l' := by
  simp only [alone, Bool.and_eq_true, decide_eq_true_eq] at h
  have hone {p : Link → Bool} (hcount : level.countP p = 1) (hp : p l = true) (hp' : p l' = true) :
      l = l' := by
    rw [List.countP_eq_length_filter, List.length_eq_one_iff] at hcount
    obtain ⟨l₀, hfilter⟩ := hcount
    have hmem : l ∈ level.filter p := List.mem_filter.2 ⟨hl, hp⟩
    have hmem' : l' ∈ level.filter p := List.mem_filter.2 ⟨hl', hp'⟩
    rw [hfilter, List.mem_singleton] at hmem hmem'
    rw [hmem, hmem']
  rcases hends with hold | hcand
  · exact hone h.1 (by simp) (by simp [hold])
  · exact hone h.2 (by simp) (by simp [hcand])

theorem alone_of_forall {level : List Link} (hnodup : level.Nodup) (hl : l ∈ level)
    (h : ∀ l' ∈ level, l'.old = l.old ∨ l'.cand = l.cand → l' = l) : alone level l = true := by
  have hone {p : Link → Bool} (hp : p l = true) (honly : ∀ l' ∈ level, p l' = true → l' = l) :
      level.countP p = 1 := by
    rw [List.countP_congr (q := (· == l)) fun l' hl' => ⟨fun h => by simp [honly l' hl' h], fun h => by
      rw [eq_of_beq h]; exact hp⟩]
    exact List.count_eq_one_of_mem hnodup hl
  simp only [alone, Bool.and_eq_true, decide_eq_true_eq]
  exact ⟨hone (by simp) fun l' hl' hp => h l' hl' (.inl (of_decide_eq_true hp)),
    hone (by simp) fun l' hl' hp => h l' hl' (.inr (of_decide_eq_true hp))⟩

/-- **Settling a score keeps the choice consistent.** -/
theorem Consistent.settle (h : m.Consistent links (score + 1)) :
    (settle links m score).Consistent links score where
  chosen_mem l hl := by
    rcases List.mem_append.1 hl with hl | hl
    · exact h.chosen_mem l hl
    · exact (mem_openAt.1 (List.mem_filter.1 hl).1).1
  old_settled l hl := by
    rcases List.mem_append.1 hl with hl | hl
    · exact List.mem_append_left _ (h.old_settled l hl)
    · exact List.mem_append_right _ (List.mem_map_of_mem (List.mem_filter.1 hl).1)
  cand_settled l hl := by
    rcases List.mem_append.1 hl with hl | hl
    · exact List.mem_append_left _ (h.cand_settled l hl)
    · exact List.mem_append_right _ (List.mem_map_of_mem (List.mem_filter.1 hl).1)
  apart l hl l' hl' hends := by
    -- an open link shares no end with one that was chosen before
    have hopen {a b : Link} (ha : a ∈ m.chosen) (hb : b ∈ m.openAt links score) :
        ¬ (a.old = b.old ∨ a.cand = b.cand) := by
      obtain ⟨_, _, hold, hcand⟩ := mem_openAt.1 hb
      rintro (heq | heq)
      · exact hold (heq ▸ h.old_settled a ha)
      · exact hcand (heq ▸ h.cand_settled a ha)
    rcases List.mem_append.1 hl with hl | hl <;> rcases List.mem_append.1 hl' with hl' | hl'
    · exact h.apart l hl l' hl' hends
    · exact absurd hends (hopen hl (List.mem_filter.1 hl').1)
    · exact absurd (hends.imp Eq.symm Eq.symm) (hopen hl' (List.mem_filter.1 hl).1)
    · obtain ⟨hl, halone⟩ := List.mem_filter.1 hl
      exact eq_of_alone halone hl (List.mem_filter.1 hl').1 hends
  old_linked i hi := by
    rcases List.mem_append.1 hi with hi | hi
    · obtain ⟨l, hl, hold, hle⟩ := h.old_linked i hi
      exact ⟨l, hl, hold, by omega⟩
    · obtain ⟨l, hl, hold⟩ := List.mem_map.1 hi
      obtain ⟨hl, hscore, _⟩ := mem_openAt.1 hl
      exact ⟨l, hl, hold, by omega⟩
  cand_linked j hj := by
    rcases List.mem_append.1 hj with hj | hj
    · obtain ⟨l, hl, hcand, hle⟩ := h.cand_linked j hj
      exact ⟨l, hl, hcand, by omega⟩
    · obtain ⟨l, hl, hcand⟩ := List.mem_map.1 hj
      obtain ⟨hl, hscore, _⟩ := mem_openAt.1 hl
      exact ⟨l, hl, hcand, by omega⟩

/-- A link that scores more than all others of its ends. -/
def Dominant (links : List Link) (l : Link) : Prop :=
  l ∈ links ∧ ∀ l' ∈ links, l'.old = l.old ∨ l'.cand = l.cand → l' = l ∨ l'.score < l.score

theorem Dominant.mem_settle (hl : Dominant links l) (hnodup : links.Nodup)
    (h : m.Consistent links (l.score + 1)) : l ∈ (settle links m l.score).chosen := by
  obtain ⟨hmem, hbest⟩ := hl
  have hless {l' : Link} (hl' : l' ∈ links) (hends : l'.old = l.old ∨ l'.cand = l.cand) :
      ¬ l.score + 1 ≤ l'.score := by
    rcases hbest l' hl' hends with rfl | hlt <;> omega
  have hopen : l ∈ m.openAt links l.score := by
    refine mem_openAt.2 ⟨hmem, rfl, ?_, ?_⟩
    · intro hold
      obtain ⟨l', hl', hend, hle⟩ := h.old_linked _ hold
      exact hless hl' (.inl hend) hle
    · intro hcand
      obtain ⟨l', hl', hend, hle⟩ := h.cand_linked _ hcand
      exact hless hl' (.inr hend) hle
  refine List.mem_append_right _ (List.mem_filter.2 ⟨hopen, ?_⟩)
  apply alone_of_forall (hnodup.filter _) hopen
  intro l' hl' hends
  obtain ⟨hl', hscore, _⟩ := mem_openAt.1 hl'
  exact (hbest l' hl' hends).resolve_right (by omega)

/-! ## All scores -/

theorem consistent_empty (links : List Link) (least : Nat) : Consistent links least {} :=
  ⟨by simp, by simp, by simp, by simp, by simp, by simp⟩

theorem mem_foldl_settle (scores : List Nat) (h : l ∈ m.chosen) :
    l ∈ (scores.foldl (settle links) m).chosen := by
  induction scores generalizing m with
  | nil => exact h
  | cons score scores ih => exact ih (List.mem_append_left _ h)

theorem foldl_range_succ {α : Type} (f : α → Nat → α) (a : α) (n : Nat) :
    (List.range (n + 1)).reverse.foldl f a = (List.range n).reverse.foldl f (f a n) := by
  rw [List.range_succ, List.reverse_append, List.reverse_singleton, List.singleton_append, List.foldl_cons]

theorem foldl_settle {n : Nat} (h : m.Consistent links n) (hnodup : links.Nodup) :
    ((List.range n).reverse.foldl (settle links) m).Consistent links 0 ∧
      ∀ l, Dominant links l → l.score < n →
        l ∈ ((List.range n).reverse.foldl (settle links) m).chosen := by
  induction n generalizing m with
  | zero => exact ⟨h, fun l _ hlt => absurd hlt (Nat.not_lt_zero _)⟩
  | succ n ih =>
    obtain ⟨hconsistent, hchosen⟩ := ih h.settle
    rw [foldl_range_succ]
    refine ⟨hconsistent, ?_⟩
    intro l hl hlt
    rcases Nat.lt_succ_iff_lt_or_eq.1 hlt with hlt | rfl
    · exact hchosen l hl hlt
    · exact mem_foldl_settle _ (hl.mem_settle hnodup h)

/-- **No two chosen links share an end**, and all are links. -/
theorem consistent_ofLinks (hnodup : links.Nodup) : (ofLinks links).Consistent links 0 :=
  (foldl_settle (consistent_empty links _) hnodup).1

/-- **A link that scores more than all others of its ends is chosen.** -/
theorem Dominant.mem_chosen (hl : Dominant links l) (hnodup : links.Nodup)
    (hscore : l.score ≤ Link.topScore) : l ∈ (ofLinks links).chosen :=
  (foldl_settle (consistent_empty links _) hnodup).2 l hl (by omega)

theorem linkOf?_of_mem_chosen (hnodup : links.Nodup) (hl : l ∈ (ofLinks links).chosen) :
    (ofLinks links).linkOf? l.cand = some l := by
  rw [linkOf?]
  rcases hfind : (ofLinks links).chosen.find? (·.cand = l.cand) with _ | l'
  · exact absurd (List.find?_eq_none.1 hfind l hl) (by simp)
  · have hcand : l'.cand = l.cand := by simpa using List.find?_some hfind
    refine hfind.trans (congrArg some ?_)
    exact (consistent_ofLinks hnodup).apart l' (List.mem_of_find?_eq_some hfind) l hl (.inr hcand)

theorem linkOf?_eq_some {j : Nat} (h : m.linkOf? j = some l) : l ∈ m.chosen ∧ l.cand = j :=
  ⟨List.mem_of_find?_eq_some h, by simpa using List.find?_some h⟩

end Matching

end LogTail
