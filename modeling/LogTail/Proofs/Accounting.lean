import LogTail.Proofs.Continuation
import LogTail.Proofs.Levels

/-!
# Where every file goes

A resolution loses no tracked file and counts none twice (`Resolution.resolve_accounted`). Every candidate
becomes one file. Every tracked file is continued by one of them, or is the source of one copy, or has rotated
away and waits before them all, and only one of the three. Whoever could not be decided is reported once, and
is new.
-/

namespace LogTail

/-- One of three holds, and no two of them. -/
def ExactlyOne (p q r : Prop) : Prop := (p ∧ ¬ q ∧ ¬ r) ∨ (¬ p ∧ q ∧ ¬ r) ∨ (¬ p ∧ ¬ q ∧ r)

namespace Resolution

def Continues (policy : RotationPolicy) (state : WatchState) (candidates : List Candidate)
    (i j : Nat) : Prop :=
  ∃ l ∈ (matching policy state candidates).chosen, l.old = i ∧ l.cand = j

def CopiedAt (r : Resolution) (i j : Nat) : Prop := ∃ f, r.files[j]? = some f ∧ f.copyOf = some i

/-- What becomes of the candidates, of the tracked files, and of those among them that rotated away, by their
places. -/
structure Accounted (policy : RotationPolicy) (state : WatchState) (candidates : List Candidate)
    (r : Resolution) (away : List Nat) : Prop where
  /-- There is one file for each candidate, in its place. -/
  files_length : r.files.length = candidates.length
  transitions_length : r.transitions.length = candidates.length
  describes : ∀ (j : Nat) (f : LogFile) (c : Candidate), r.files[j]? = some f → candidates[j]? = some c →
    f.Describes c
  /-- A candidate that continues a tracked file is that file, grown, renamed or truncated. -/
  continued : ∀ i j, Continues policy state candidates i j → ∃ old c truncated, state.files[i]? = some old ∧
    candidates[j]? = some c ∧
    r.files[j]? = some (continueFile old c (r.rotatedAway.length + j) truncated) ∧
    r.transitions[j]? = some (if truncated then .truncated else .unchanged)
  continues : ∀ j, r.transitions[j]? = some .unchanged ∨ r.transitions[j]? = some .truncated →
    ∃! i, Continues policy state candidates i j
  /-- A tracked file goes one way only. -/
  one_way : ∀ i < state.files.length, ExactlyOne (∃! j, Continues policy state candidates i j)
    ((∀ j, ¬ Continues policy state candidates i j) ∧ ∃! j, r.CopiedAt i j) (i ∈ away)
  /-- The files that rotated away are tracked ones in their former order, each of them once, and they keep
  all but their place in the order. -/
  away_nodup : away.Nodup
  away_lt : ∀ i ∈ away, i < state.files.length
  away_sorted : away.Pairwise fun i i' => ∀ f f', state.files[i]? = some f → state.files[i']? = some f' →
    f.seq ≤ f'.seq
  rotatedAway : ∀ k, r.rotatedAway[k]? = (away[k]?.bind (state.files[·]?)).map fun f : LogFile =>
    { f with seq := k, copyOf := none }
  /-- A copy is marked as one, and begins as its source, which has no other copy. -/
  copies_marked : ∀ (j : Nat) (f : LogFile) (t : Transition), r.files[j]? = some f →
    r.transitions[j]? = some t → (f.copyOf ≠ none ↔ t = .rotatedCopy)
  copies_begin : ∀ i j, r.CopiedAt i j → ∃ source c, state.files[i]? = some source ∧
    candidates[j]? = some c ∧ source.digest.isEmpty = false ∧ source.digest.matchesHead c.head = true
  copies_apart : ∀ i j j', r.CopiedAt i j → r.CopiedAt i j' → j = j'
  /-- What could not be decided is reported once, and is new. -/
  ambiguous_nodup : r.ambiguous.Nodup
  ambiguous_new : ∀ p ∈ r.ambiguous, ∃! j : Nat, (∃ f, r.files[j]? = some f ∧ f.path = p) ∧
    r.transitions[j]? = some .new
  /-- The files that rotated away and then those of the scan are numbered. -/
  numbered : ∀ (k : Nat) (f : LogFile), (r.rotatedAway ++ r.files)[k]? = some f → f.seq = k

variable {policy : RotationPolicy} {encoding : Encoding} {state : WatchState} {candidates : List Candidate}
  {i i' j j' : Nat}

/-! ## Continued files -/

theorem Continues.eq_cand (h : Continues policy state candidates i j)
    (h' : Continues policy state candidates i j') : j = j' := by
  obtain ⟨l, hl, hold, rfl⟩ := h
  obtain ⟨l', hl', hold', rfl⟩ := h'
  rw [(Matching.consistent_ofLinks (Link.nodup_all ..)).apart l hl l' hl' (.inl (hold.trans hold'.symm))]

theorem Continues.eq_old (h : Continues policy state candidates i j)
    (h' : Continues policy state candidates i' j) : i = i' := by
  obtain ⟨l, hl, rfl, hcand⟩ := h
  obtain ⟨l', hl', rfl, hcand'⟩ := h'
  rw [(Matching.consistent_ofLinks (Link.nodup_all ..)).apart l hl l' hl' (.inr (hcand.trans hcand'.symm))]

theorem matchedOld_iff : (matching policy state candidates).matchedOld i = true ↔
    ∃ j, Continues policy state candidates i j := by
  simp [Matching.matchedOld, Continues, List.any_eq_true]

/-! ## Copies -/

theorem copiedAt_iff : (resolve policy encoding state candidates).CopiedAt i j ↔
    (copies policy state candidates).sources[j]? = some (some i) := by
  constructor
  · rintro ⟨f, hf, hcopy⟩
    obtain ⟨c, t, _, _, hentry⟩ := exists_entry_of_files hf
    exact hentry.copyOf_eq_some.1 hcopy
  · intro h
    obtain ⟨_, ⟨c, hc, _⟩, _⟩ := sources_eq_some.1 h
    obtain ⟨f, t, hf, _, hentry⟩ := exists_entry policy encoding state hc
    exact ⟨f, hf, hentry.copyOf_eq_some.2 h⟩

theorem CopiedAt.unique (h : (resolve policy encoding state candidates).CopiedAt i j)
    (h' : (resolve policy encoding state candidates).CopiedAt i j') : j = j' := by
  obtain ⟨_, hclaims, _⟩ := sources_eq_some.1 (copiedAt_iff.1 h)
  obtain ⟨_, _, halone⟩ := sources_eq_some.1 (copiedAt_iff.1 h')
  exact halone j hclaims

theorem mem_sources_iff (encoding : Encoding) :
    some i ∈ (copies policy state candidates).sources ↔
      ∃ j, (resolve policy encoding state candidates).CopiedAt i j := by
  simp only [List.mem_iff_getElem?, copiedAt_iff]

/-! ## Files that rotated away -/

section away
variable (policy state candidates)

/-- The tracked files that no candidate continues or copies, with their places, in their former order. -/
def inFormerOrder : List (LogFile × Nat) :=
  (state.files.zipIdx.filter fun f => !(matching policy state candidates).matchedOld f.2 &&
    !(copies policy state candidates).sources.contains (some f.2)).mergeSort fun a b => a.1.seq ≤ b.1.seq

def away : List Nat := (inFormerOrder policy state candidates).map (·.2)

variable {policy state candidates}

theorem mem_inFormerOrder {f : LogFile} : (f, i) ∈ inFormerOrder policy state candidates ↔
    state.files[i]? = some f ∧ (matching policy state candidates).matchedOld i = false ∧
      some i ∉ (copies policy state candidates).sources := by
  simp [inFormerOrder, List.mem_mergeSort, List.mem_filter, List.mem_zipIdx_iff_getElem?]

theorem rotatedAway_eq_renumber (policy : RotationPolicy) (encoding : Encoding) (state : WatchState)
    (candidates : List Candidate) : (resolve policy encoding state candidates).rotatedAway =
      renumber 0 ((inFormerOrder policy state candidates).map (·.1)) := by
  rw [rotatedAway_eq, inFormerOrder, bySeq, left, List.map_mergeSort]
  intros
  rfl

theorem getElem?_rotatedAway (k : Nat) : (resolve policy encoding state candidates).rotatedAway[k]? =
    ((away policy state candidates)[k]?.bind (state.files[·]?)).map fun f : LogFile =>
      { f with seq := k, copyOf := none } := by
  rw [rotatedAway_eq_renumber, getElem?_renumber, away, List.getElem?_map, List.getElem?_map]
  rcases hk : (inFormerOrder policy state candidates)[k]? with _ | ⟨f, i⟩
  · rfl
  · obtain ⟨hf, _⟩ := mem_inFormerOrder.1 (List.mem_of_getElem? hk)
    simp [hf]

theorem nodup_away : (away policy state candidates).Nodup := by
  rw [away, inFormerOrder, ((List.mergeSort_perm _ _).map _).nodup_iff]
  exact List.pairwise_map.2 ((Link.pairwise_zipIdx _).filter _)

theorem sorted_away : (away policy state candidates).Pairwise fun i i' =>
    ∀ f f', state.files[i]? = some f → state.files[i']? = some f' → f.seq ≤ f'.seq := by
  rw [away, List.pairwise_map]
  have hsorted : (inFormerOrder policy state candidates).Pairwise fun a b => a.1.seq ≤ b.1.seq :=
    pairwise_sorted (fun a : LogFile × Nat => a.1.seq) _
  refine hsorted.imp_of_mem ?_
  rintro ⟨f, i⟩ ⟨f', i'⟩ hmem hmem' hle g g' hg hg'
  obtain rfl : f = g := Option.some.inj ((mem_inFormerOrder.1 hmem).1.symm.trans hg)
  obtain rfl : f' = g' := Option.some.inj ((mem_inFormerOrder.1 hmem').1.symm.trans hg')
  exact hle

end away

/-- **A tracked file goes one way only.** -/
theorem exactlyOne_way (encoding : Encoding) (hi : i < state.files.length) :
    ExactlyOne (∃! j, Continues policy state candidates i j)
      ((∀ j, ¬ Continues policy state candidates i j) ∧
        ∃! j, (resolve policy encoding state candidates).CopiedAt i j)
      (i ∈ away policy state candidates) := by
  have hcontinued : (∃! j, Continues policy state candidates i j) ↔
      ∃ j, Continues policy state candidates i j :=
    ⟨ExistsUnique.exists, fun ⟨j, hj⟩ => ⟨j, hj, fun _ hj' => hj'.eq_cand hj⟩⟩
  have hcopied : (∃! j, (resolve policy encoding state candidates).CopiedAt i j) ↔
      ∃ j, (resolve policy encoding state candidates).CopiedAt i j :=
    ⟨ExistsUnique.exists, fun ⟨j, hj⟩ => ⟨j, hj, fun _ hj' => hj'.unique hj⟩⟩
  have haway : i ∈ away policy state candidates ↔
      ¬ (∃ j, Continues policy state candidates i j) ∧
        ¬ ∃ j, (resolve policy encoding state candidates).CopiedAt i j := by
    simp only [away, List.mem_map, Prod.exists, mem_inFormerOrder, ← mem_sources_iff, ← matchedOld_iff,
      Bool.not_eq_true]
    constructor
    · rintro ⟨_, _, ⟨_, hway⟩, rfl⟩
      exact hway
    · exact fun hway => ⟨_, i, ⟨List.getElem?_eq_getElem hi, hway⟩, rfl⟩
  rw [hcontinued, hcopied, haway, ← not_exists, ExactlyOne]
  by_cases h : ∃ j, Continues policy state candidates i j <;>
    by_cases h' : ∃ j, (resolve policy encoding state candidates).CopiedAt i j <;>
    simp only [h, h'] <;> decide

theorem seq_eq (k : Nat) (f : LogFile) (h : ((resolve policy encoding state candidates).rotatedAway ++
    (resolve policy encoding state candidates).files)[k]? = some f) : f.seq = k := by
  rcases Nat.lt_or_ge k (resolve policy encoding state candidates).rotatedAway.length with hlt | hge
  · rw [List.getElem?_append_left hlt, getElem?_rotatedAway] at h
    obtain ⟨_, _, rfl⟩ := Option.map_eq_some_iff.1 h
    rfl
  · rw [List.getElem?_append_right hge] at h
    obtain ⟨_, _, _, _, hentry⟩ := exists_entry_of_files h
    rw [hentry.seq_eq]
    omega

/-! ## Candidates that could not be decided -/

theorem new_of_undecided (encoding : Encoding) (hj : j ∈ (copies policy state candidates).undecided) :
    j ∉ (matching policy state candidates).settledCand ∧ ∃ c, candidates[j]? = some c ∧
      (resolve policy encoding state candidates).transitions[j]? = some .new := by
  by_cases hlooks : policy.detectsCopies = true
  · rw [copies, if_pos hlooks, Copies.mem_undecided] at hj
    -- with no verdict it claims nothing, and else it does not claim alone
    obtain ⟨c, hc, hunsettled, hnone⟩ : ∃ c, candidates[j]? = some c ∧
        j ∉ (matching policy state candidates).settledCand ∧
        ∀ i, (copies policy state candidates).sources[j]? ≠ some (some i) := by
      rcases hj with ⟨c, hc, hunsettled, hjudge⟩ | ⟨i, hclaims, k, hk, hne⟩
      · refine ⟨c, hc, hunsettled, fun i hi => ?_⟩
        obtain ⟨_, ⟨c', hc', _, hjudge'⟩, _⟩ := sources_eq_some.1 hi
        obtain rfl : c = c' := Option.some.inj (hc.symm.trans hc')
        rw [hjudge] at hjudge'
        cases hjudge'
      · obtain ⟨c, hc, hunsettled, _⟩ := id hclaims
        refine ⟨c, hc, hunsettled, fun i' hi' => ?_⟩
        obtain ⟨_, hclaims', halone⟩ := sources_eq_some.1 hi'
        obtain rfl := hclaims.unique hclaims'
        exact hne (halone k hk)
    refine ⟨hunsettled, c, hc, ?_⟩
    obtain ⟨f, t, _, ht, hentry⟩ := exists_entry policy encoding state hc
    rw [ht, hentry.new_of_not (fun l hl hcand => ?_) hnone]
    exact hunsettled (hcand ▸ (Matching.consistent_ofLinks (Link.nodup_all ..)).cand_settled l hl)
  · simp [copies, hlooks, Copies.none] at hj

theorem nodup_doubtful : ((matching policy state candidates).tied ++
    (copies policy state candidates).undecided).Nodup := by
  refine List.nodup_append.2 ⟨?_, ?_, ?_⟩
  · rw [matching, ← Matching.settledFrom_zero]
    exact Matching.nodup_tied score_le_of_mem_all 0
  · rw [copies]
    by_cases hlooks : policy.detectsCopies = true
    · rw [if_pos hlooks]
      exact Copies.nodup_undecided
    · rw [if_neg hlooks]
      exact List.nodup_nil
  · rintro j hj _ hj' rfl
    exact (new_of_undecided .utf8 hj').1 (settled_of_tied hj)

theorem new_of_doubtful (encoding : Encoding) (hj : j ∈ (matching policy state candidates).tied ++
    (copies policy state candidates).undecided) : ∃ c, candidates[j]? = some c ∧
      (resolve policy encoding state candidates).transitions[j]? = some .new := by
  rcases List.mem_append.1 hj with hj | hj
  · obtain ⟨c, hc, _, hnew⟩ := new_of_tied encoding hj
    exact ⟨c, hc, hnew⟩
  · exact (new_of_undecided encoding hj).2

section paths
variable (hpaths : (candidates.map (·.path)).Nodup)
include hpaths

theorem nodup_ambiguous : (resolve policy encoding state candidates).ambiguous.Nodup := by
  rw [ambiguous_eq]
  refine nodup_doubtful.filterMap ?_
  intro j j' p hj hj'
  obtain ⟨c, hc, rfl⟩ := Option.map_eq_some_iff.1 hj
  obtain ⟨c', hc', hpath⟩ := Option.map_eq_some_iff.1 hj'
  exact index_eq hpaths hc hc' hpath.symm

theorem existsUnique_ambiguous {p : Path} (hp : p ∈ (resolve policy encoding state candidates).ambiguous) :
    ∃! j : Nat, (∃ f, (resolve policy encoding state candidates).files[j]? = some f ∧ f.path = p) ∧
      (resolve policy encoding state candidates).transitions[j]? = some .new := by
  rw [ambiguous_eq] at hp
  obtain ⟨j, hj, hpath⟩ := List.mem_filterMap.1 hp
  obtain ⟨c, hc, hnew⟩ := new_of_doubtful encoding hj
  rw [hc, Option.map_some, Option.some.injEq] at hpath
  obtain ⟨f, t, hf, _⟩ := exists_entry policy encoding state hc
  obtain ⟨c', hc', horigin⟩ := origin_of_files hf
  obtain rfl : c = c' := Option.some.inj (hc.symm.trans hc')
  refine ⟨j, ⟨⟨f, hf, horigin.describes.path.trans hpath⟩, hnew⟩, ?_⟩
  rintro k ⟨⟨g, hg, hgpath⟩, _⟩
  obtain ⟨c', hc', horigin'⟩ := origin_of_files hg
  exact index_eq hpaths hc' hc (horigin'.describes.path.symm.trans (hgpath.trans hpath.symm))

/-- **No tracked file is lost or counted twice by a resolution.** -/
theorem resolve_accounted (policy : RotationPolicy) (encoding : Encoding) (state : WatchState) :
    Accounted policy state candidates (resolve policy encoding state candidates)
      (away policy state candidates) where
  files_length := length_files ..
  transitions_length := length_transitions ..
  describes := by
    intro j f c hf hc
    obtain ⟨c', hc', horigin⟩ := origin_of_files hf
    obtain rfl : c' = c := Option.some.inj (hc'.symm.trans hc)
    exact horigin.describes
  continued := by
    rintro _ _ ⟨l, hl, rfl, rfl⟩
    obtain ⟨old, c, hold, hc, hf, ht⟩ := exists_of_mem_chosen encoding hl
    exact ⟨old, c, _, hold, hc, hf, ht⟩
  continues := by
    intro j hj
    obtain ⟨l, hl, hcand⟩ := exists_mem_chosen hj
    have hcontinues : Continues policy state candidates l.old j := ⟨l, hl, rfl, hcand⟩
    exact ⟨l.old, hcontinues, fun i hi => hi.eq_old hcontinues⟩
  one_way := fun i => exactlyOne_way encoding
  away_nodup := nodup_away
  away_lt := by
    intro i hi
    obtain ⟨⟨f, _⟩, hmem, rfl⟩ := List.mem_map.1 hi
    exact (List.getElem?_eq_some_iff.1 (mem_inFormerOrder.1 hmem).1).1
  away_sorted := sorted_away
  rotatedAway := getElem?_rotatedAway
  copies_marked := by
    intro j f t hf ht
    obtain ⟨c, t', _, ht', hentry⟩ := exists_entry_of_files hf
    obtain rfl : t' = t := Option.some.inj (ht'.symm.trans ht)
    rw [hentry.copies_iff, Option.ne_none_iff_exists']
    exact exists_congr fun i => hentry.copyOf_eq_some
  copies_begin := by
    intro i j hij
    obtain ⟨_, ⟨c, hc, _, hjudge⟩, _⟩ := sources_eq_some.1 (copiedAt_iff.1 hij)
    obtain ⟨source, hsource, hshares⟩ := Copies.exists_of_judge hjudge
    rw [Link.sharesPrefix, Bool.and_eq_true, Bool.not_eq_true'] at hshares
    exact ⟨source, c, hsource, hc, hshares⟩
  copies_apart := fun i j j' => CopiedAt.unique
  ambiguous_nodup := nodup_ambiguous hpaths
  ambiguous_new := fun p => existsUnique_ambiguous hpaths
  numbered := seq_eq

end paths

/-! A file that goes on, one that is gone, and one that was copied. -/

/-- A tracked file of which all was read. -/
def readFully (name : String) (inode : Nat) (content : Bytes) (seq : Nat) : LogFile :=
  { path := .ofText name, mtime := 5, id := .ofNumber inode, size := content.length,
    processed := content.length, digest := .of content, seq := seq }

def mixedState : WatchState :=
  { useIdentity := true
    files := [readFully "/on" 1 [0x61, 0x0a] 0, readFully "/gone" 2 [0x62, 0x0a] 1,
      readFully "/copied" 3 [0x0a] 2] }

/-- A scan that finds the first file again and a copy of the last. -/
def mixedCandidates : List Candidate :=
  [⟨.ofText "/on", 2, 5, .ofNumber 1, [0x61, 0x0a]⟩, ⟨.ofText "/copied.1", 1, 6, .ofNumber 4, [0x0a]⟩]

theorem resolve_accounted_mixed : (mixedCandidates.map (·.path)).Nodup ∧
    Accounted .copyTruncate mixedState mixedCandidates
      (resolve .copyTruncate .utf8 mixedState mixedCandidates)
      (away .copyTruncate mixedState mixedCandidates) ∧
    (resolve .copyTruncate .utf8 mixedState mixedCandidates).transitions = [.unchanged, .rotatedCopy] :=
  have hpaths : (mixedCandidates.map (·.path)).Nodup := by decide +kernel
  ⟨hpaths, resolve_accounted hpaths .copyTruncate .utf8 mixedState, by decide +kernel⟩

end Resolution

end LogTail
