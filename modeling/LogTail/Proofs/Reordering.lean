import LogTail.Proofs.Accounting
import Mathlib.Data.List.Sort
import Mathlib.Logic.Equiv.Basic

/-!
# The order of the saved list

A resolution does not depend on the order in which the tracked files stand in the state. A rearranged list has
the same links with their ends renamed (`Link.mem_all_moved`). The rules of matching do not look at places, so
the assignment that follows them is the renamed one (`Assignment.ByLevels.pulled`), and there is no other. The
claims on copy sources go by which places a candidate begins as, and not by their order (`Copies.judge_moved`).
What rotated away is sorted by its numbers, which are distinct. So each candidate becomes the same file, and what
it is a copy of is told by the new place (`Resolution.resolve_rearranged`).
-/

namespace LogTail

/-! ## Rearranged lists -/

/-- Each place of a list holds what another list has in the place that a permutation gives. -/
def Rearranges {α : Type} (π : Equiv.Perm Nat) (xs ys : List α) : Prop := ∀ i : Nat, ys[i]? = xs[π i]?

namespace Rearranges

variable {α : Type} {π ρ : Equiv.Perm Nat} {xs ys zs : List α} {x : α}

theorem trans (h : Rearranges π xs ys) (h' : Rearranges ρ ys zs) : Rearranges (ρ.trans π) xs zs := fun i => by
  rw [h' i, h (ρ i), Equiv.trans_apply]

theorem mem_iff (h : Rearranges π xs ys) : x ∈ ys ↔ x ∈ xs := by
  rw [List.mem_iff_getElem?, List.mem_iff_getElem?]
  exact π.exists_congr fun i => by rw [h i]

theorem isEmpty_eq (h : Rearranges π xs ys) : ys.isEmpty = xs.isEmpty := by
  rw [Bool.eq_iff_iff, List.isEmpty_iff, List.isEmpty_iff, List.eq_nil_iff_forall_not_mem,
    List.eq_nil_iff_forall_not_mem]
  exact forall_congr' fun _ => not_congr h.mem_iff

theorem nodup (h : Rearranges π xs ys) (hnodup : xs.Nodup) : ys.Nodup := by
  rw [List.nodup_iff_getElem?_ne_getElem?]
  intro i j hij hj heq
  have hi : i < ys.length := Nat.lt_trans hij hj
  obtain ⟨x, hx⟩ : ∃ x, ys[i]? = some x := ⟨_, List.getElem?_eq_getElem hi⟩
  rw [h i, h j] at heq
  rw [h i] at hx
  have hsame := (List.getElem?_inj (List.getElem?_eq_some_iff.1 hx).1 hnodup).1 heq
  exact absurd (π.injective hsame) (Nat.ne_of_lt hij)

end Rearranges

def shifted (π : Equiv.Perm Nat) : Equiv.Perm Nat where
  toFun i := i.casesOn 0 fun i => π i + 1
  invFun i := i.casesOn 0 fun i => π.symm i + 1
  left_inv i := by cases i <;> simp
  right_inv i := by cases i <;> simp

/-- **Every permutation of a list is one of its places.** -/
theorem exists_rearranges {α : Type} {xs ys : List α} (h : ys.Perm xs) : ∃ π, Rearranges π xs ys := by
  induction h with
  | nil => exact ⟨Equiv.refl _, fun _ => rfl⟩
  | cons x _ ih =>
    obtain ⟨π, hπ⟩ := ih
    refine ⟨shifted π, fun i => ?_⟩
    cases i with
    | zero => rfl
    | succ i => exact hπ i
  | swap x y xs =>
    refine ⟨Equiv.swap 0 1, fun i => ?_⟩
    match i with
    | 0 | 1 => rfl
    | i + 2 =>
      rw [Equiv.swap_apply_of_ne_of_ne (by omega) (by omega)]
      rfl
  | trans _ _ ih ih' =>
    obtain ⟨π, hπ⟩ := ih
    obtain ⟨ρ, hρ⟩ := ih'
    exact ⟨π.trans ρ, hρ.trans hπ⟩

/-! ## Links -/

def Link.moved (π : Equiv.Perm Nat) : Equiv.Perm Link where
  toFun l := { l with old := π l.old }
  invFun l := { l with old := π.symm l.old }
  left_inv l := by simp
  right_inv l := by simp

namespace Link

variable {policy : RotationPolicy} {useIdentity : Bool} {previous previous' : List LogFile}
  {candidates : List Candidate} {π : Equiv.Perm Nat} {l : Link}

@[simp] theorem moved_old (π : Equiv.Perm Nat) (l : Link) : (moved π l).old = π l.old := rfl

@[simp] theorem moved_cand (π : Equiv.Perm Nat) (l : Link) : (moved π l).cand = l.cand := rfl

@[simp] theorem moved_score (π : Equiv.Perm Nat) (l : Link) : (moved π l).score = l.score := rfl

@[simp] theorem moved_truncated (π : Equiv.Perm Nat) (l : Link) : (moved π l).truncated = l.truncated := rfl

/-- Of the other tracked files a score depends only on which there are. -/
theorem base?_congr (h : ∀ f, f ∈ previous' ↔ f ∈ previous) (f : LogFile) (c : Candidate) :
    base? policy useIdentity previous' f c = base? policy useIdentity previous f c := by
  have hany : previous'.any (reproduces · c) = previous.any (reproduces · c) := by
    rw [Bool.eq_iff_iff, List.any_eq_true, List.any_eq_true]
    exact exists_congr fun g => and_congr_left fun _ => h g
  rw [base?, base?, hany]

theorem relate_moved (h : ∀ f, f ∈ previous' ↔ f ∈ previous) (f : LogFile) (c : Candidate) (i j : Nat) :
    relate policy useIdentity previous (f, π i) (c, j) =
      (relate policy useIdentity previous' (f, i) (c, j)).map (moved π) := by
  rw [relate, relate, base?_congr h, Option.map_map]
  rfl

/-- **A rearranged list has the same links**, with their ends renamed. -/
theorem mem_all_moved (h : Rearranges π previous previous') :
    l ∈ all policy useIdentity previous' candidates ↔
      moved π l ∈ all policy useIdentity previous candidates := by
  rw [mem_all, mem_all]
  refine exists_congr fun f => exists_congr fun c => and_congr (by rw [h]; rfl) (and_congr_right fun _ => ?_)
  rw [moved_old, moved_cand, relate_moved fun _ => h.mem_iff]
  exact (Option.map_injective (moved π).injective).eq_iff.symm

end Link

/-! ## The rules of matching -/

namespace Assignment

variable {π : Equiv.Perm Nat} {links links' : List Link} {a : Assignment} {l : Link} {i j s : Nat}

def pulled (π : Equiv.Perm Nat) (a : Assignment) : Assignment where
  oldAt i := a.oldAt (π i)
  candAt := a.candAt
  chosen l := a.chosen (Link.moved π l)

theorem isOpen_pulled : (a.pulled π).IsOpen l ↔ a.IsOpen (Link.moved π l) := Iff.rfl

variable (hlinks : ∀ l, l ∈ links' ↔ Link.moved π l ∈ links)
include hlinks

/-- **The renamed assignment follows the rules.** -/
theorem ByLevels.pulled (h : a.ByLevels links) : (a.pulled π).ByLevels links' where
  old_iff i s := by
    have hreach : reach links' Link.old Link.cand a.candAt i = reach links Link.old Link.cand a.candAt (π i) := by
      ext t
      refine (Link.moved π).exists_congr fun l => and_congr (hlinks l) ?_
      rw [Link.moved_old, π.injective.eq_iff, Link.moved_score, Link.moved_cand]
    exact (h.old_iff (π i) s).trans (by rw [← hreach]; rfl)
  cand_iff j s := by
    have hreach : reach links' Link.cand Link.old (a.pulled π).oldAt j = reach links Link.cand Link.old a.oldAt j := by
      ext t
      exact (Link.moved π).exists_congr fun l => and_congr (hlinks l) Iff.rfl
    exact (h.cand_iff j s).trans (by rw [← hreach])
  chosen_iff l := by
    -- all links are renamed links, so that the rivals of a renamed link are the renamed rivals
    refine (h.chosen_iff (Link.moved π l)).trans (and_congr (hlinks l).symm (and_congr_right fun _ => ?_))
    refine ((Link.moved π).forall_congr fun l' => ?_).symm
    rw [hlinks l', isOpen_pulled, Link.moved_old, Link.moved_old, π.injective.eq_iff, (Link.moved π).injective.eq_iff,
      Link.moved_score, Link.moved_score, Link.moved_cand, Link.moved_cand]

theorem tiedCand_pulled : (a.pulled π).TiedCand links' j s ↔ a.TiedCand links j s :=
  (Link.moved π).exists_congr fun l => and_congr (hlinks l) Iff.rfl

end Assignment

/-! ## Claims on copy sources -/

namespace Copies

variable {previous previous' : List LogFile} {candidates : List Candidate} {settled settled' : List Nat}
  {c : Candidate} {π : Equiv.Perm Nat} {i j : Nat}

theorem eq_singleton_iff {xs : List Nat} (hnodup : xs.Nodup) : xs = [i] ↔ ∀ k, k ∈ xs ↔ k = i := by
  rw [← List.perm_singleton, List.perm_ext_iff_of_nodup hnodup (List.nodup_singleton i)]
  exact forall_congr' fun k => by rw [List.mem_singleton]

section rearranged
variable (h : Rearranges π previous previous')
include h

theorem mem_sourcesOf_moved : i ∈ sourcesOf previous' c ↔ π i ∈ sourcesOf previous c := by
  rw [mem_sourcesOf, mem_sourcesOf, h]

theorem mem_exactSourcesOf_moved : i ∈ exactSourcesOf previous' c ↔ π i ∈ exactSourcesOf previous c := by
  rw [mem_exactSourcesOf, mem_exactSourcesOf, h]

/-- **The verdict on a candidate** names the same source. -/
theorem judge_moved : judge previous' c = .copyOf i ↔ judge previous c = .copyOf (π i) := by
  rw [judge_eq_copyOf, judge_eq_copyOf, eq_singleton_iff nodup_sourcesOf, eq_singleton_iff nodup_sourcesOf,
    eq_singleton_iff nodup_exactSourcesOf, eq_singleton_iff nodup_exactSourcesOf]
  refine or_congr (π.forall_congr fun k => ?_) (π.forall_congr fun k => ?_)
  · rw [mem_sourcesOf_moved h, π.injective.eq_iff]
  · rw [mem_exactSourcesOf_moved h, π.injective.eq_iff]

theorem judge_undecided_moved : judge previous' c = .undecided ↔ judge previous c = .undecided := by
  rw [judge_eq_undecided, judge_eq_undecided, ne_eq, ne_eq, List.eq_nil_iff_forall_not_mem,
    List.eq_nil_iff_forall_not_mem]
  refine and_congr (not_congr (π.forall_congr fun i => ?_)) (π.forall_congr fun i => not_congr (judge_moved h))
  rw [mem_sourcesOf_moved h]

variable (hsettled : ∀ j, j ∈ settled' ↔ j ∈ settled)
include hsettled

theorem claims_moved :
    Claims previous' candidates settled' j i ↔ Claims previous candidates settled j (π i) :=
  exists_congr fun _ => and_congr_right fun _ => and_congr (not_congr (hsettled j)) (judge_moved h)

theorem mem_undecided_moved : j ∈ (find previous' candidates settled').undecided ↔
    j ∈ (find previous candidates settled).undecided := by
  rw [mem_undecided, mem_undecided]
  refine or_congr (exists_congr fun c => and_congr_right fun _ =>
    and_congr (not_congr (hsettled j)) (judge_undecided_moved h)) (π.exists_congr fun i => ?_)
  rw [claims_moved h hsettled]
  exact and_congr_right fun _ => exists_congr fun k => and_congr_left fun _ => claims_moved h hsettled

end rearranged

end Copies

/-! ## The resolution -/

def LogFile.moved (π : Equiv.Perm Nat) (f : LogFile) : LogFile := { f with copyOf := f.copyOf.map π }

namespace Resolution

/-- Sorted by distinct numbers, the order in which files stood is lost. -/
theorem bySeq_eq_of_perm {files files' : List LogFile} (hseq : (files.map (·.seq)).Nodup)
    (hperm : files'.Perm files) : bySeq files' = bySeq files := by
  refine List.Perm.eq_of_pairwise (fun f g hf hg hle hge => ?_) (pairwise_sorted (·.seq) files')
    (pairwise_sorted (·.seq) files) ((List.mergeSort_perm ..).trans (hperm.trans (List.mergeSort_perm ..).symm))
  rw [bySeq, List.mem_mergeSort] at hf hg
  exact List.inj_on_of_nodup_map hseq (hperm.mem_iff.1 hf) hg (Nat.le_antisymm hle hge)

theorem continueFile_moved (π : Equiv.Perm Nat) (old : LogFile) (c : Candidate) (seq : Nat) (truncated : Bool) :
    (continueFile old c seq truncated).moved π = continueFile old c seq truncated := by
  rw [LogFile.moved, continueFile_copyOf, Option.map_none, ← continueFile_copyOf old c seq truncated]

theorem copyFile_moved (π : Equiv.Perm Nat) (encoding : Encoding) (source : LogFile) (place : Nat) (c : Candidate)
    (seq : Nat) : (copyFile encoding source place c seq).moved π = copyFile encoding source (π place) c seq := by
  simp only [copyFile, track]
  split_ifs <;> rfl

section rearranged
variable {policy : RotationPolicy} {encoding : Encoding} {state : WatchState} {files : List LogFile}
  {candidates : List Candidate} {π : Equiv.Perm Nat} {l : Link} {i j : Nat} {f f' : LogFile} {c : Candidate}
  {t t' : Transition}

theorem ext_candidates {α : Type} {xs ys : List α} (hxs : xs.length = candidates.length)
    (hys : ys.length = candidates.length)
    (heach : ∀ (j : Nat) (c : Candidate), candidates[j]? = some c → xs[j]? = ys[j]?) : xs = ys := by
  refine List.ext_getElem? fun j => ?_
  rcases hc : candidates[j]? with _ | c
  · have hle : candidates.length ≤ j := List.getElem?_eq_none_iff.1 hc
    rw [List.getElem?_eq_none (hxs ▸ hle), List.getElem?_eq_none (hys ▸ hle)]
  · exact heach j c hc

theorem Entry.unique (h : Entry policy encoding state candidates c j f t)
    (h' : Entry policy encoding state candidates c j f' t') : f = f' ∧ t = t' := by
  cases h with
  | continued hchosen htracked =>
    cases h' with
    | continued hchosen' htracked' =>
      obtain rfl := Option.some.inj (hchosen.symm.trans hchosen')
      obtain rfl := Option.some.inj (htracked.symm.trans htracked')
      exact ⟨rfl, rfl⟩
    | copied hunlinked | new hunlinked =>
      rw [hchosen] at hunlinked
      cases hunlinked
  | copied hunlinked hclaimed htracked =>
    cases h' with
    | continued hchosen =>
      rw [hchosen] at hunlinked
      cases hunlinked
    | copied _ hclaimed' htracked' =>
      obtain rfl := Option.some.inj (Option.some.inj (hclaimed.symm.trans hclaimed'))
      obtain rfl := Option.some.inj (htracked.symm.trans htracked')
      exact ⟨rfl, rfl⟩
    | new _ hunclaimed =>
      rw [hclaimed] at hunclaimed
      cases hunclaimed
  | new hunlinked hunclaimed =>
    cases h' with
    | continued hchosen =>
      rw [hchosen] at hunlinked
      cases hunlinked
    | copied _ hclaimed =>
      rw [hclaimed] at hunclaimed
      cases hunclaimed
    | new => exact ⟨rfl, rfl⟩

variable (h : Rearranges π state.files files)
include h

/-- The assignment of the rearranged list is the renamed one: both follow the rules. -/
theorem assignment_rearranged :
    Matching.assignment (Link.all policy state.useIdentity files candidates) =
      (Matching.assignment (Link.all policy state.useIdentity state.files candidates)).pulled π := by
  have hlevels (files : List LogFile) :
      (Matching.assignment (Link.all policy state.useIdentity files candidates)).ByLevels
        (Link.all policy state.useIdentity files candidates) :=
    Matching.byLevels (@score_le_of_mem_all policy { state with files := files } candidates) (Link.nodup_all ..)
  exact (hlevels files).unique ((hlevels state.files).pulled fun _ => Link.mem_all_moved h)

theorem mem_chosen_moved : l ∈ (matching policy { state with files := files } candidates).chosen ↔
    Link.moved π l ∈ (matching policy state candidates).chosen :=
  iff_of_eq (congrFun (congrArg Assignment.chosen (assignment_rearranged h)) l)

theorem mem_settledCand_rearranged :
    j ∈ (matching policy { state with files := files } candidates).settledCand ↔
      j ∈ (matching policy state candidates).settledCand := by
  rw [matching, matching, ← Matching.settledFrom_zero, ← Matching.settledFrom_zero,
    Matching.mem_settledCand score_le_of_mem_all, Matching.mem_settledCand score_le_of_mem_all,
    assignment_rearranged h]
  rfl

theorem mem_tied_rearranged : j ∈ (matching policy { state with files := files } candidates).tied ↔
    j ∈ (matching policy state candidates).tied := by
  rw [mem_tied, mem_tied, assignment_rearranged h]
  exact exists_congr fun s => Assignment.tiedCand_pulled fun _ => Link.mem_all_moved h

theorem linkOf?_rearranged : (matching policy state candidates).linkOf? j =
    ((matching policy { state with files := files } candidates).linkOf? j).map (Link.moved π) := by
  rcases hlink : (matching policy { state with files := files } candidates).linkOf? j with _ | l
  · -- a link that is chosen of the saved list, renamed back, would be chosen of the rearranged one
    rw [Option.map_none, Option.eq_none_iff_forall_ne_some]
    intro l hl
    obtain ⟨hchosen, rfl⟩ := Matching.linkOf?_eq_some hl
    rw [← (Link.moved π).apply_symm_apply l, ← mem_chosen_moved h] at hchosen
    have hlinked := linkOf?_of_mem_chosen hchosen
    rw [show ((Link.moved π).symm l).cand = l.cand from rfl, hlink] at hlinked
    cases hlinked
  · obtain ⟨hchosen, rfl⟩ := Matching.linkOf?_eq_some hlink
    exact linkOf?_of_mem_chosen ((mem_chosen_moved h).1 hchosen)

theorem matchedOld_rearranged : (matching policy { state with files := files } candidates).matchedOld i =
    (matching policy state candidates).matchedOld (π i) := by
  rw [Bool.eq_iff_iff, matchedOld_iff, matchedOld_iff]
  refine exists_congr fun j => (Link.moved π).exists_congr fun l => and_congr (mem_chosen_moved h) ?_
  rw [Link.moved_old, π.injective.eq_iff, Link.moved_cand]

theorem sources_moved : (copies policy { state with files := files } candidates).sources[j]? = some (some i) ↔
    (copies policy state candidates).sources[j]? = some (some (π i)) := by
  have hclaims (k : Nat) : Copies.Claims files candidates
        (matching policy { state with files := files } candidates).settledCand k i ↔
      Copies.Claims state.files candidates (matching policy state candidates).settledCand k (π i) :=
    Copies.claims_moved h fun _ => mem_settledCand_rearranged h
  rw [sources_eq_some, sources_eq_some]
  exact and_congr_right fun _ => and_congr (hclaims j) (forall_congr' fun k => imp_congr_left (hclaims k))

theorem sources_none_rearranged
    (hnone : (copies policy { state with files := files } candidates).sources[j]? = some none) :
    (copies policy state candidates).sources[j]? = some none := by
  have hlt : j < (copies policy state candidates).sources.length := by
    rw [length_sources, ← @length_sources policy { state with files := files }]
    exact (List.getElem?_eq_some_iff.1 hnone).1
  rcases hsource : (copies policy state candidates).sources[j] with _ | i
  · rw [List.getElem?_eq_getElem hlt, hsource]
  · have hclaimed := List.getElem?_eq_getElem hlt
    rw [hsource, ← π.apply_symm_apply i, ← sources_moved h, hnone] at hclaimed
    cases hclaimed

theorem mem_undecided_rearranged : j ∈ (copies policy { state with files := files } candidates).undecided ↔
    j ∈ (copies policy state candidates).undecided := by
  rw [copies, copies]
  split_ifs
  · exact Copies.mem_undecided_moved h fun _ => mem_settledCand_rearranged h
  · exact Iff.rfl

theorem ambiguous_rearranged :
    (resolve policy encoding { state with files := files } candidates).ambiguous.Perm
      (resolve policy encoding state candidates).ambiguous := by
  rw [ambiguous_eq, ambiguous_eq]
  refine List.Perm.filterMap _ ((List.perm_ext_iff_of_nodup nodup_doubtful nodup_doubtful).2 fun j => ?_)
  rw [List.mem_append, List.mem_append, mem_tied_rearranged h, mem_undecided_rearranged h]

theorem left_rearranged (hseq : (state.files.map (·.seq)).Nodup) :
    (left policy { state with files := files } candidates).Perm (left policy state candidates) := by
  have hnodup : state.files.Nodup := List.Nodup.of_map _ hseq
  refine (List.perm_ext_iff_of_nodup ((h.nodup hnodup).sublist left_sublist)
    (hnodup.sublist left_sublist)).2 fun f => ?_
  rw [mem_left, mem_left]
  refine π.exists_congr fun i => ?_
  rw [h, matchedOld_rearranged h, List.mem_iff_getElem?, List.mem_iff_getElem?]
  exact and_congr_right fun _ => and_congr_right fun _ => not_congr (exists_congr fun _ => sources_moved h)

theorem rotatedAway_rearranged (hseq : (state.files.map (·.seq)).Nodup) :
    (resolve policy encoding { state with files := files } candidates).rotatedAway =
      (resolve policy encoding state candidates).rotatedAway := by
  rw [rotatedAway_eq, rotatedAway_eq,
    bySeq_eq_of_perm (hseq.sublist (left_sublist.map _)) (left_rearranged h hseq)]

theorem startOf_rearranged : startOf { state with files := files }
    (resumedAt? { state with files := files } candidates) c j = startOf state (resumedAt? state candidates) c j := by
  have hresuming : isResuming { state with files := files } = isResuming state := by
    rw [isResuming, isResuming, h.isEmpty_eq]
  rw [startOf, startOf, resumedAt?, resumedAt?, hresuming]

/-- **A candidate becomes the same file**, and what it is a copy of is told by the new place. -/
theorem Entry.moved (hseq : (state.files.map (·.seq)).Nodup)
    (hentry : Entry policy encoding { state with files := files } candidates c j f t) :
    Entry policy encoding state candidates c j (f.moved π) t := by
  have hlink : (matching policy state candidates).linkOf? j =
      ((matching policy { state with files := files } candidates).linkOf? j).map (Link.moved π) :=
    linkOf?_rearranged h
  cases hentry with
  | continued hchosen htracked =>
    rw [hchosen, Option.map_some] at hlink
    rw [h] at htracked
    rw [continueFile_moved, rotatedAway_rearranged h hseq]
    exact .continued (l := Link.moved π _) hlink htracked
  | copied hunlinked hclaimed htracked =>
    rw [hunlinked, Option.map_none] at hlink
    rw [h] at htracked
    rw [copyFile_moved, rotatedAway_rearranged h hseq]
    exact .copied hlink ((sources_moved h).1 hclaimed) htracked
  | new hunlinked hunclaimed =>
    rw [hunlinked, Option.map_none] at hlink
    rw [startOf_rearranged h, rotatedAway_rearranged h hseq]
    exact .new hlink (sources_none_rearranged h hunclaimed)

theorem files_rearranged (hseq : (state.files.map (·.seq)).Nodup) :
    (resolve policy encoding { state with files := files } candidates).files.map (LogFile.moved π) =
      (resolve policy encoding state candidates).files := by
  refine ext_candidates (by rw [List.length_map, length_files]) (length_files ..) fun j c hc => ?_
  obtain ⟨f, t, hf, _, hentry⟩ := exists_entry policy encoding state hc
  obtain ⟨f', t', hf', _, hentry'⟩ := exists_entry policy encoding { state with files := files } hc
  rw [List.getElem?_map, hf', hf, Option.map_some, (hentry.unique (hentry'.moved h hseq)).1]

theorem transitions_rearranged (hseq : (state.files.map (·.seq)).Nodup) :
    (resolve policy encoding { state with files := files } candidates).transitions =
      (resolve policy encoding state candidates).transitions := by
  refine ext_candidates (length_transitions ..) (length_transitions ..) fun j c hc => ?_
  obtain ⟨f, t, _, ht, hentry⟩ := exists_entry policy encoding state hc
  obtain ⟨f', t', _, ht', hentry'⟩ := exists_entry policy encoding { state with files := files } hc
  rw [ht', ht, (hentry.unique (hentry'.moved h hseq)).2]

end rearranged

/-- **A resolution does not depend on the order of the saved list.** If the numbers of the tracked files are
distinct, each permutation of them is one of their places, and the same resolution comes of it but for the places
that name the sources of copies. -/
theorem resolve_rearranged (policy : RotationPolicy) (encoding : Encoding) {state : WatchState}
    (hseq : (state.files.map (·.seq)).Nodup) {files : List LogFile} (hperm : files.Perm state.files)
    (candidates : List Candidate) :
    let r := resolve policy encoding state candidates
    let r' := resolve policy encoding { state with files := files } candidates
    (∃ π, Rearranges π state.files files) ∧ ∀ π, Rearranges π state.files files →
      r'.files.map (LogFile.moved π) = r.files ∧ r'.transitions = r.transitions ∧
      r'.rotatedAway = r.rotatedAway ∧ r'.ambiguous.Perm r.ambiguous := by
  refine ⟨exists_rearranges hperm, fun π h => ?_⟩
  exact ⟨files_rearranged h hseq, transitions_rearranged h hseq, rotatedAway_rearranged h hseq,
    ambiguous_rearranged h⟩

/-- The state is saved backwards: what the copy is told to be a copy of moves from the last place to the first. -/
theorem resolve_rearranged_backwards :
    let r := resolve .copyTruncate .utf8 mixedState mixedCandidates
    let r' := resolve .copyTruncate .utf8 { mixedState with files := mixedState.files.reverse } mixedCandidates
    (mixedState.files.map (·.seq)).Nodup ∧ mixedState.files.reverse.Perm mixedState.files ∧
      (∃ π, Rearranges π mixedState.files mixedState.files.reverse ∧ r'.files.map (LogFile.moved π) = r.files) ∧
      r.files.map (·.copyOf) = [none, some 2] ∧ r'.files.map (·.copyOf) = [none, some 0] ∧
      r'.rotatedAway = r.rotatedAway := by
  intro r r'
  have hseq : (mixedState.files.map (·.seq)).Nodup := by decide
  have hperm : mixedState.files.reverse.Perm mixedState.files := List.reverse_perm _
  obtain ⟨⟨π, hπ⟩, hsame⟩ := resolve_rearranged .copyTruncate .utf8 hseq hperm mixedCandidates
  obtain ⟨hfiles, _, haway, _⟩ := hsame π hπ
  exact ⟨hseq, hperm, ⟨π, hπ, hfiles⟩, by decide +kernel, by decide +kernel, haway⟩

end Resolution

end LogTail
