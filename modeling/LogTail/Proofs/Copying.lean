import LogTail.Proofs.Matching
import LogTail.Resolution.Copies

/-!
# Claims on copy sources

A candidate that is not settled claims the tracked file that its verdict names (`Copies.Claims`). It is a copy
of it if no other candidate claims the same (`Copies.sources_eq_some`); else it is undecided, and so is one
whose sources leave a choice (`Copies.mem_undecided`).
-/

namespace LogTail.Copies

variable {previous : List LogFile} {candidates : List Candidate} {settled : List Nat} {c : Candidate}
  {i i' j : Nat}

theorem mem_sourcesOf :
    i ∈ sourcesOf previous c ↔ ∃ f, previous[i]? = some f ∧ Link.sharesPrefix f c = true := by
  simp [sourcesOf, List.mem_zipIdx_iff_getElem?]

theorem mem_exactSourcesOf :
    i ∈ exactSourcesOf previous c ↔ ∃ f, previous[i]? = some f ∧ Link.reproduces f c = true := by
  simp [exactSourcesOf, List.mem_zipIdx_iff_getElem?]

theorem nodup_sourcesOf : (sourcesOf previous c).Nodup := List.pairwise_map.2 ((Link.pairwise_zipIdx _).filter _)

theorem nodup_exactSourcesOf : (exactSourcesOf previous c).Nodup :=
  List.pairwise_map.2 ((Link.pairwise_zipIdx _).filter _)

theorem mem_sourcesOf_of_exact (h : i ∈ exactSourcesOf previous c) : i ∈ sourcesOf previous c := by
  obtain ⟨f, hf, hsame⟩ := mem_exactSourcesOf.1 h
  exact mem_sourcesOf.2 ⟨f, hf, (Bool.and_eq_true_iff.1 hsame).1⟩

theorem judge_eq_copyOf : judge previous c = .copyOf i ↔
    sourcesOf previous c = [i] ∨ exactSourcesOf previous c = [i] := by
  have hexact {k : Nat} (h : exactSourcesOf previous c = [k]) : k ∈ sourcesOf previous c :=
    mem_sourcesOf_of_exact (h ▸ List.mem_singleton_self k)
  unfold judge
  rcases hsources : sourcesOf previous c with _ | ⟨source, _ | ⟨source', more⟩⟩
  · rw [hsources] at hexact
    simpa using fun h => hexact h
  · rw [hsources] at hexact
    simpa using fun h => (List.mem_singleton.1 (hexact h)).symm
  · rcases exactSourcesOf previous c with _ | ⟨exact, _ | ⟨_, _⟩⟩ <;> simp

theorem judge_eq_undecided : judge previous c = .undecided ↔
    sourcesOf previous c ≠ [] ∧ ∀ i, judge previous c ≠ .copyOf i := by
  unfold judge
  rcases sourcesOf previous c with _ | ⟨source, _ | ⟨source', more⟩⟩
  · simp
  · simp
  · rcases exactSourcesOf previous c with _ | ⟨exact, _ | ⟨_, _⟩⟩ <;> simp

theorem exists_of_judge (h : judge previous c = .copyOf i) :
    ∃ f, previous[i]? = some f ∧ Link.sharesPrefix f c = true := by
  rw [← mem_sourcesOf]
  rcases judge_eq_copyOf.1 h with hsources | hexact
  · exact hsources ▸ List.mem_singleton_self i
  · exact mem_sourcesOf_of_exact (hexact ▸ List.mem_singleton_self i)

/-! ## Claims -/

/-- A candidate that is not settled is taken for a copy of a tracked file. -/
def Claims (previous : List LogFile) (candidates : List Candidate) (settled : List Nat) (j i : Nat) : Prop :=
  ∃ c, candidates[j]? = some c ∧ j ∉ settled ∧ judge previous c = .copyOf i

theorem Claims.unique (h : Claims previous candidates settled j i)
    (h' : Claims previous candidates settled j i') : i = i' := by
  obtain ⟨c, hc, _, hi⟩ := h
  obtain ⟨c', hc', _, hi'⟩ := h'
  obtain rfl : c = c' := Option.some.inj (hc.symm.trans hc')
  exact Verdict.copyOf.inj (hi.symm.trans hi')

theorem getElem?_verdicts {v : Verdict} (hv : v ≠ .noCopy) :
    (verdicts previous candidates settled)[j]? = some v ↔
      ∃ c, candidates[j]? = some c ∧ j ∉ settled ∧ judge previous c = v := by
  simp only [verdicts, List.getElem?_map, List.getElem?_zipIdx, Option.map_map, Option.map_eq_some_iff,
    Function.comp_apply, Nat.zero_add, List.contains_iff_mem]
  refine exists_congr fun c => and_congr_right fun _ => ?_
  by_cases hj : j ∈ settled
  · simp [hj, hv.symm]
  · simp [hj]

theorem find_congr {settled' : List Nat} (h : ∀ j < candidates.length, (j ∈ settled ↔ j ∈ settled')) :
    find previous candidates settled = find previous candidates settled' := by
  have hverdicts : verdicts previous candidates settled = verdicts previous candidates settled' := by
    refine List.map_congr_left fun c hc => ?_
    have hlt := (List.getElem?_eq_some_iff.1 (List.mem_zipIdx_iff_getElem?.1 hc)).1
    rw [Bool.eq_iff_iff.2 (List.contains_iff_mem.trans ((h c.2 hlt).trans List.contains_iff_mem.symm))]
  rw [find, find, hverdicts]

def claimants (previous : List LogFile) (candidates : List Candidate) (settled : List Nat) (i : Nat) :
    List Nat :=
  ((((verdicts previous candidates settled).map Verdict.source?).zipIdx.filter fun c => c.1 = some i).map
    (·.2))

theorem source?_eq_some {v : Verdict} : v.source? = some i ↔ v = .copyOf i := by
  cases v <;> simp [Verdict.source?]

theorem mem_claimants :
    j ∈ claimants previous candidates settled i ↔ Claims previous candidates settled j i := by
  rw [Claims, ← getElem?_verdicts (by simp)]
  simp [claimants, List.mem_zipIdx_iff_getElem?, source?_eq_some]

theorem nodup_claimants : (claimants previous candidates settled i).Nodup :=
  List.pairwise_map.2 ((Link.pairwise_zipIdx _).filter _)

theorem contested_iff (h : Claims previous candidates settled j i) :
    1 < (claimants previous candidates settled i).length ↔
      ∃ k, Claims previous candidates settled k i ∧ k ≠ j := by
  have hj := mem_claimants.2 h
  constructor
  · intro hmany
    by_contra hnone
    have honly : ∀ k ∈ claimants previous candidates settled i, k = j := by
      intro k hk
      by_contra hne
      exact hnone ⟨k, mem_claimants.1 hk, hne⟩
    have hnodup : (claimants previous candidates settled i).Nodup := nodup_claimants
    rw [List.eq_replicate_of_mem honly, List.nodup_replicate] at hnodup
    omega
  · rintro ⟨k, hk, hne⟩
    by_contra hfew
    obtain ⟨x, hx⟩ := List.length_eq_one_iff.1
      (Nat.le_antisymm (Nat.not_lt.1 hfew) (List.length_pos_of_mem hj))
    have hk := mem_claimants.2 hk
    rw [hx, List.mem_singleton] at hj hk
    exact hne (hk.trans hj.symm)

/-! ## What comes of them -/

def contested (previous : List LogFile) (candidates : List Candidate) (settled : List Nat) : List Nat :=
  (List.range previous.length).filter fun i => 1 < (claimants previous candidates settled i).length

theorem sources_eq : (find previous candidates settled).sources =
    ((verdicts previous candidates settled).map Verdict.source?).map fun c =>
      c.filter fun i => !decide (1 < (claimants previous candidates settled i).length) := rfl

theorem undecided_eq : (find previous candidates settled).undecided =
    (((verdicts previous candidates settled).zipIdx.filter fun v => v.1 = .undecided).map (·.2)) ++
      (contested previous candidates settled).flatMap (claimants previous candidates settled) := rfl

/-- **A candidate is a copy of the tracked file that it alone claims.** -/
theorem sources_eq_some : (find previous candidates settled).sources[j]? = some (some i) ↔
    Claims previous candidates settled j i ∧ ∀ k, Claims previous candidates settled k i → k = j := by
  have hclaim : ((verdicts previous candidates settled).map Verdict.source?)[j]? = some (some i) ↔
      Claims previous candidates settled j i := by
    rw [Claims, ← getElem?_verdicts (by simp)]
    simp [source?_eq_some]
  have hfilter : (find previous candidates settled).sources[j]? = some (some i) ↔
      Claims previous candidates settled j i ∧
        ¬ 1 < (claimants previous candidates settled i).length := by
    rw [sources_eq, List.getElem?_map, Option.map_eq_some_iff, ← hclaim]
    constructor
    · rintro ⟨c, hc, hkept⟩
      obtain ⟨rfl, hkept⟩ := Option.filter_eq_some_iff.1 hkept
      exact ⟨hc, by simpa using hkept⟩
    · rintro ⟨hc, hfew⟩
      exact ⟨_, hc, Option.filter_eq_some_iff.2 ⟨rfl, by simpa using hfew⟩⟩
  rw [hfilter]
  refine and_congr_right fun h => ?_
  rw [contested_iff h]
  simp only [not_exists, not_and, ne_eq, Decidable.not_not]

theorem mem_contested : i ∈ contested previous candidates settled ↔
    1 < (claimants previous candidates settled i).length := by
  simp only [contested, List.mem_filter, List.mem_range, decide_eq_true_eq, and_iff_right_iff_imp]
  intro hmany
  obtain ⟨j, hj⟩ := List.exists_mem_of_length_pos (Nat.lt_trans Nat.zero_lt_one hmany)
  obtain ⟨c, _, _, hjudge⟩ := mem_claimants.1 hj
  obtain ⟨f, hf, _⟩ := exists_of_judge hjudge
  exact (List.getElem?_eq_some_iff.1 hf).1

theorem mem_tiedSources : j ∈ (((verdicts previous candidates settled).zipIdx.filter fun v =>
      v.1 = .undecided).map (·.2)) ↔
    ∃ c, candidates[j]? = some c ∧ j ∉ settled ∧ judge previous c = .undecided := by
  rw [← getElem?_verdicts (by simp)]
  simp [List.mem_zipIdx_iff_getElem?]

/-- A candidate is undecided if its sources leave a choice, or if another one claims the same. -/
theorem mem_undecided : j ∈ (find previous candidates settled).undecided ↔
    (∃ c, candidates[j]? = some c ∧ j ∉ settled ∧ judge previous c = .undecided) ∨
      ∃ i, Claims previous candidates settled j i ∧ ∃ k, Claims previous candidates settled k i ∧ k ≠ j := by
  rw [undecided_eq, List.mem_append, mem_tiedSources, List.mem_flatMap]
  refine or_congr_right (exists_congr fun i => ?_)
  rw [mem_contested, mem_claimants]
  exact ⟨fun ⟨hmany, h⟩ => ⟨h, (contested_iff h).1 hmany⟩, fun ⟨h, hother⟩ => ⟨(contested_iff h).2 hother, h⟩⟩

theorem nodup_undecided : (find previous candidates settled).undecided.Nodup := by
  rw [undecided_eq, List.nodup_append]
  refine ⟨List.pairwise_map.2 ((Link.pairwise_zipIdx _).filter _), ?_, ?_⟩
  · rw [List.Nodup, List.pairwise_flatMap]
    refine ⟨fun _ _ => nodup_claimants, (List.nodup_range.filter _).imp ?_⟩
    intro i i' hne j hj j' hj' heq
    subst heq
    exact hne ((mem_claimants.1 hj).unique (mem_claimants.1 hj'))
  · intro j hj j' hj' heq
    subst heq
    obtain ⟨c, hc, _, hjudge⟩ := mem_tiedSources.1 hj
    obtain ⟨i, _, hclaim⟩ := List.mem_flatMap.1 hj'
    obtain ⟨c', hc', _, hjudge'⟩ := mem_claimants.1 hclaim
    obtain rfl : c = c' := Option.some.inj (hc.symm.trans hc')
    rw [hjudge] at hjudge'
    cases hjudge'

end LogTail.Copies
