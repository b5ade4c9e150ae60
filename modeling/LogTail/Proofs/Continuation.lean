import LogTail.Proofs.AnyWorld
import LogTail.Proofs.Resolving

/-!
# Files told by their identity

Where files are told by their identity, a tracked file is continued by the candidate with its name and
identity (`Resolution.exists_linkOf?`): such a link scores more than all others of its ends. So a resolution
keeps files orderly (`Resolution.resolve_orderly`), and what a cycle leaves is found again by the next one,
as long as the candidates stay the same (`LeftBehind.resolve_again`).
-/

namespace LogTail

def Candidate.key (c : Candidate) : Option Bytes × FileId := (c.path.fileName?, c.id)

theorem index_eq {α β : Type} {xs : List α} {key : α → β} (h : (xs.map key).Nodup) {i j : Nat} {a b : α}
    (hi : xs[i]? = some a) (hj : xs[j]? = some b) (hkey : key a = key b) : i = j := by
  have hlt : i < (xs.map key).length := by
    rw [List.length_map]
    exact (List.getElem?_eq_some_iff.1 hi).1
  refine (List.getElem?_inj hlt h).1 ?_
  rw [List.getElem?_map, List.getElem?_map, hi, hj, Option.map_some, Option.map_some, hkey]

namespace Resolution

section identity
variable {policy : RotationPolicy} {encoding : Encoding} {state : WatchState}
  {candidates : List Candidate} {i j : Nat} {f : LogFile} {c : Candidate}

/-- A link between ends with the same name and identity scores more than all others of its ends. -/
theorem dominant_of_key (policy : RotationPolicy) (hid : state.useIdentity = true)
    (hapart : (state.files.map LogFile.key).Nodup)
    (hnames : (candidates.map fun c => c.path.fileName?).Nodup) (hf : state.files[i]? = some f)
    (hc : candidates[j]? = some c) (hkey : f.key = c.key) :
    ∃ l, l.old = i ∧ l.cand = j ∧ l.truncated = Link.isTruncated policy f c ∧ l.score ≤ Link.topScore ∧
      Matching.Dominant (Link.all policy state.useIdentity state.files candidates) l := by
  obtain ⟨hname, hsame⟩ := Prod.mk.inj hkey
  obtain ⟨l, hl⟩ := Link.exists_relate_identity policy state.files hsame i j
  obtain ⟨hold, hcand⟩ := Link.relate_ends hl
  obtain ⟨_, htruncated, hscore⟩ := Link.relate_identity hl
  have hsameName : Link.sameName f c = true := decide_eq_true hname
  rw [hsameName, if_pos rfl] at hscore
  refine ⟨l, hold, hcand, htruncated, Link.score_le hl, ?_, ?_⟩
  · rw [hid, Link.mem_all]
    exact ⟨f, c, hold ▸ hf, hcand ▸ hc, by rw [hold, hcand]; exact hl⟩
  · intro l' hl' hends
    -- a link that shares an end and the name is the same link
    rw [hid] at hl'
    obtain ⟨f', c', hf', hc', hrelate⟩ := Link.mem_all.1 hl'
    obtain ⟨hid', _, hscore'⟩ := Link.relate_identity hrelate
    have hboth (hi : l'.old = i) (hj : l'.cand = j) : l' = l := by
      have hff : f' = f := Option.some.inj (hf'.symm.trans (hi ▸ hf))
      have hcc : c' = c := Option.some.inj (hc'.symm.trans (hj ▸ hc))
      rw [hff, hcc, hi, hj, hl] at hrelate
      exact (Option.some.inj hrelate).symm
    by_cases hsameName' : Link.sameName f' c' = true
    · have hname' : f'.path.fileName? = c'.path.fileName? := of_decide_eq_true hsameName'
      left
      rcases hends with hend | hend
      · have hff : f' = f := Option.some.inj (hf'.symm.trans ((hend.trans hold) ▸ hf))
        refine hboth (hend.trans hold) (index_eq hnames hc' hc ?_)
        rw [← hname', hff]
        exact hname
      · have hcc : c' = c := Option.some.inj (hc'.symm.trans ((hend.trans hcand) ▸ hc))
        refine hboth (index_eq hapart hf' hf ?_) (hend.trans hcand)
        rw [hkey, LogFile.key, Candidate.key, hname', hid', hcc]
    · right
      rw [Bool.not_eq_true] at hsameName'
      rw [hscore, hscore', hsameName', if_neg Bool.false_ne_true]
      by_cases hstat' : Link.sameStat f' c' = true
      · rw [if_pos hstat']
        omega
      · rw [if_neg hstat']
        omega

theorem linkOf?_of_dominant {l : Link} (hscore : l.score ≤ Link.topScore)
    (h : Matching.Dominant (Link.all policy state.useIdentity state.files candidates) l) :
    (matching policy state candidates).linkOf? l.cand = some l ∧
      (matching policy state candidates).matchedOld l.old = true ∧
      l.cand ∈ (matching policy state candidates).settledCand := by
  have hchosen := h.mem_chosen (Link.nodup_all ..) hscore
  have hconsistent := Matching.consistent_ofLinks
    (Link.nodup_all policy state.useIdentity state.files candidates)
  refine ⟨Matching.linkOf?_of_mem_chosen (Link.nodup_all ..) hchosen,
    List.any_eq_true.2 ⟨l, hchosen, by simp⟩, hconsistent.cand_settled l hchosen⟩

/-- **A tracked file is continued by the candidate with its name and identity.** -/
theorem exists_linkOf? (policy : RotationPolicy) (hid : state.useIdentity = true)
    (hapart : (state.files.map LogFile.key).Nodup)
    (hnames : (candidates.map fun c => c.path.fileName?).Nodup) (hf : state.files[i]? = some f)
    (hc : candidates[j]? = some c) (hkey : f.key = c.key) :
    ∃ l, (matching policy state candidates).linkOf? j = some l ∧ l.old = i ∧
      l.truncated = Link.isTruncated policy f c ∧ (matching policy state candidates).matchedOld i = true ∧
      j ∈ (matching policy state candidates).settledCand := by
  obtain ⟨l, rfl, rfl, htruncated, hscore, hdominant⟩ :=
    dominant_of_key policy hid hapart hnames hf hc hkey
  obtain ⟨hlink, hmatched, hsettled⟩ := linkOf?_of_dominant hscore hdominant
  exact ⟨l, hlink, rfl, htruncated, hmatched, hsettled⟩

theorem dominant_of_id (policy : RotationPolicy) (hid : state.useIdentity = true)
    (hfiles : (state.files.map (·.id)).Nodup) (hcandidates : (candidates.map (·.id)).Nodup)
    (hf : state.files[i]? = some f) (hc : candidates[j]? = some c) (hsame : f.id = c.id) :
    ∃ l, l.old = i ∧ l.cand = j ∧ l.score ≤ Link.topScore ∧
      Matching.Dominant (Link.all policy state.useIdentity state.files candidates) l := by
  obtain ⟨l, hl⟩ := Link.exists_relate_identity policy state.files hsame i j
  obtain ⟨hold, hcand⟩ := Link.relate_ends hl
  refine ⟨l, hold, hcand, Link.score_le hl, ?_, fun l' hl' hends => .inl ?_⟩
  · rw [hid, Link.mem_all]
    exact ⟨f, c, hold ▸ hf, hcand ▸ hc, by rw [hold, hcand]; exact hl⟩
  · rw [hid] at hl'
    obtain ⟨f', c', hf', hc', hrelate⟩ := Link.mem_all.1 hl'
    obtain ⟨hsame', _, _⟩ := Link.relate_identity hrelate
    have hends' : l'.old = i ∧ l'.cand = j := by
      rcases hends with hend | hend
      · have hi : l'.old = i := hend.trans hold
        have hff : f' = f := Option.some.inj (hf'.symm.trans (hi ▸ hf))
        exact ⟨hi, index_eq hcandidates hc' hc (by rw [← hsame', hff, hsame])⟩
      · have hj : l'.cand = j := hend.trans hcand
        have hcc : c' = c := Option.some.inj (hc'.symm.trans (hj ▸ hc))
        exact ⟨index_eq hfiles hf' hf (by rw [hsame', hcc, hsame]), hj⟩
    obtain ⟨hi, hj⟩ := hends'
    have hff : f' = f := Option.some.inj (hf'.symm.trans (hi ▸ hf))
    have hcc : c' = c := Option.some.inj (hc'.symm.trans (hj ▸ hc))
    rw [hff, hcc, hi, hj, hl] at hrelate
    exact (Option.some.inj hrelate).symm

end identity

/-! ## What a resolution keeps -/

section progress
variable {policy : RotationPolicy} {encoding : Encoding} {state : WatchState}
  {candidates : List Candidate}

theorem Origin.within {c : Candidate} {place : Nat} {f : LogFile} (hc : candidates[place]? = some c)
    (h : Origin policy encoding state candidates c place f) : f.processed ≤ f.size := by
  cases h with
  | @continued l old seq hchosen htracked =>
    have htruncated := truncated_of_linkOf? hchosen htracked hc
    unfold continueFile
    by_cases hcut : l.truncated = true
    · rw [hcut]
      exact Nat.zero_le _
    · rw [Bool.not_eq_true] at hcut
      rw [hcut] at htruncated ⊢
      unfold Link.isTruncated at htruncated
      by_cases hless : c.size < old.processed
      · rw [if_pos hless] at htruncated
        cases htruncated
      · exact Nat.not_lt.1 hless
  | @copied source i seq _ _ _ =>
    unfold copyFile
    dsimp only
    by_cases hread : source.processed ≤ min source.digest.length c.size
    · rw [if_pos hread]
      exact Nat.le_trans hread (Nat.min_le_right ..)
    · rw [if_neg hread]
      by_cases htail : source.tailStart ≤ min source.digest.length c.size
      · rw [if_pos htail]
        exact Nat.le_trans htail (Nat.min_le_right ..)
      · rw [if_neg htail]
        exact Nat.min_le_right ..
  | new seq _ =>
    show startOf state (resumedAt? state candidates) c place ≤ c.size
    unfold startOf
    by_cases hskip : state.skipOldData = true
    · exact Nat.le_of_eq (if_pos hskip)
    rw [if_neg hskip]
    by_cases hresumed : resumedAt? state candidates = some place
    · rw [if_pos hresumed]
      unfold resumedAt? at hresumed
      by_cases hresuming : isResuming state = true
      · rw [if_pos hresuming, Option.map_eq_some_iff] at hresumed
        obtain ⟨⟨c', place'⟩, hfind, rfl⟩ := hresumed
        have hmem := List.mem_of_find?_eq_some hfind
        rw [List.mem_reverse, List.mem_zipIdx_iff_getElem?] at hmem
        obtain rfl : c' = c := Option.some.inj (hmem.symm.trans hc)
        have hfound := List.find?_some hfind
        simp only [Bool.and_eq_true, decide_eq_true_eq] at hfound
        exact hfound.2
      · rw [if_neg hresuming] at hresumed
        cases hresumed
    rw [if_neg hresumed]
    by_cases holder : (isResuming state && decide (c.mtime < state.lastMtime)) = true
    · exact Nat.le_of_eq (if_pos holder)
    · rw [if_neg holder]
      exact Nat.zero_le _

theorem Origin.tail_cases {c : Candidate} {place : Nat} {f : LogFile}
    (h : Origin policy encoding state candidates c place f) : f.tail = [] ∨ ∃ old ∈ state.files, f.tail = old.tail := by
  cases h with
  | @continued l old seq _ htracked =>
    unfold continueFile
    by_cases hcut : l.truncated = true
    · rw [hcut]
      exact .inl rfl
    · rw [Bool.not_eq_true] at hcut
      rw [hcut]
      exact .inr ⟨old, List.mem_of_getElem? htracked, rfl⟩
  | @copied source i seq _ _ hmem =>
    unfold copyFile
    dsimp only
    split_ifs
    · exact .inr ⟨source, hmem, rfl⟩
    · exact .inl rfl
    · exact .inl rfl
  | new => exact .inl rfl

theorem Origin.tidy {s : Splitter} (hpos : 0 < s.longest) (hfiles : ∀ f ∈ state.files, f.Tidy s)
    {c : Candidate} {place : Nat} {f : LogFile} (h : Origin policy encoding state candidates c place f) :
    f.Tidy s := by
  cases h with
  | @continued l old seq hchosen htracked =>
    unfold continueFile
    by_cases hcut : l.truncated = true
    · rw [hcut]
      exact .of_nil hpos rfl rfl
    · rw [Bool.not_eq_true] at hcut
      rw [hcut]
      exact (hfiles old (List.mem_of_getElem? htracked)).congr rfl rfl rfl rfl
  | @copied source i seq _ _ hmem =>
    unfold copyFile
    dsimp only
    by_cases hread : source.processed ≤ min source.digest.length c.size
    · rw [if_pos hread]
      exact (hfiles source hmem).congr rfl rfl rfl rfl
    · rw [if_neg hread]
      by_cases htail : source.tailStart ≤ min source.digest.length c.size
      · rw [if_pos htail]
        exact .of_nil hpos rfl rfl
      · rw [if_neg htail]
        exact .of_nil hpos rfl rfl
  | new => exact .of_nil hpos rfl rfl

theorem map_renumber {α : Type} {g : LogFile → α}
    (hg : ∀ f seq, g { f with seq := seq, copyOf := none } = g f) (first : Nat) (files : List LogFile) :
    (renumber first files).map g = files.map g := by
  rw [renumber, List.map_map]
  have : g ∘ (fun f : LogFile × Nat => { f.1 with seq := first + f.2, copyOf := none }) =
      g ∘ Prod.fst := funext fun f => hg f.1 _
  rw [this, ← List.map_map, List.zipIdx_map_fst]

theorem getElem?_renumber (files : List LogFile) (i : Nat) :
    (renumber 0 files)[i]? = files[i]?.map fun f => { f with seq := i, copyOf := none } := by
  rw [renumber, List.getElem?_map, List.getElem?_zipIdx, Option.map_map]
  congr
  funext f
  simp

theorem exists_of_getElem?_renumber {files : List LogFile} {i : Nat} {f : LogFile}
    (hf : (renumber 0 files)[i]? = some f) :
    ∃ g, files[i]? = some g ∧ f = { g with seq := i, copyOf := none } := by
  rw [getElem?_renumber, Option.map_eq_some_iff] at hf
  obtain ⟨g, hg, rfl⟩ := hf
  exact ⟨g, hg, rfl⟩

theorem length_renumber (first : Nat) (files : List LogFile) : (renumber first files).length = files.length := by
  rw [renumber, List.length_map, List.length_zipIdx]

theorem left_sublist : (left policy state candidates).Sublist state.files := by
  have h := (List.filter_sublist (p := fun f : LogFile × Nat =>
    !(matching policy state candidates).matchedOld f.2 &&
      !(copies policy state candidates).sources.contains (some f.2)) (l := state.files.zipIdx)).map Prod.fst
  rwa [List.zipIdx_map_fst] at h

theorem keys_rotatedAway : ((resolve policy encoding state candidates).rotatedAway.map LogFile.key).Perm
    ((left policy state candidates).map LogFile.key) := by
  rw [rotatedAway_eq, map_renumber (fun _ _ => rfl)]
  exact (List.mergeSort_perm _ _).map _

theorem resolve_tidy {s : Splitter} (hpos : 0 < s.longest) (hfiles : ∀ f ∈ state.files, f.Tidy s) :
    ∀ f ∈ (resolve policy encoding state candidates).rotatedAway ++
      (resolve policy encoding state candidates).files, f.Tidy s := by
  intro f hf
  rcases List.mem_append.1 hf with hf | hf
  · obtain ⟨i, old, seq, hold, _, rfl⟩ := gone_of_mem_rotatedAway hf
    exact (hfiles old (List.mem_of_getElem? hold)).congr rfl rfl rfl rfl
  · obtain ⟨i, hi⟩ := List.getElem?_of_mem hf
    obtain ⟨c, _, horigin⟩ := origin_of_files hi
    exact horigin.tidy hpos hfiles

theorem resolve_within (hfiles : ∀ f ∈ state.files, f.processed ≤ f.size) :
    ∀ f ∈ (resolve policy encoding state candidates).rotatedAway ++
      (resolve policy encoding state candidates).files, f.processed ≤ f.size := by
  intro f hf
  rcases List.mem_append.1 hf with hf | hf
  · obtain ⟨i, old, seq, hold, _, rfl⟩ := gone_of_mem_rotatedAway hf
    exact hfiles old (List.mem_of_getElem? hold)
  · obtain ⟨i, hi⟩ := List.getElem?_of_mem hf
    obtain ⟨c, hc, horigin⟩ := origin_of_files hi
    exact horigin.within hc

theorem tail_cases_of_resolve {f : LogFile} (hf : f ∈ (resolve policy encoding state candidates).rotatedAway ++
    (resolve policy encoding state candidates).files) : f.tail = [] ∨ ∃ old ∈ state.files, f.tail = old.tail := by
  rcases List.mem_append.1 hf with hf | hf
  · obtain ⟨i, old, seq, hold, _, rfl⟩ := gone_of_mem_rotatedAway hf
    exact .inr ⟨old, List.mem_of_getElem? hold, rfl⟩
  · obtain ⟨i, hi⟩ := List.getElem?_of_mem hf
    obtain ⟨c, _, horigin⟩ := origin_of_files hi
    exact horigin.tail_cases

/-- Where files are told by their identity, a resolution leaves no two with the same name and identity. -/
theorem resolve_apart (hid : state.useIdentity = true)
    (hnames : (candidates.map fun c => c.path.fileName?).Nodup) (hapart : (state.files.map LogFile.key).Nodup) :
    (((resolve policy encoding state candidates).rotatedAway ++
      (resolve policy encoding state candidates).files).map LogFile.key).Nodup := by
  have hkeys : (resolve policy encoding state candidates).files.map LogFile.key =
      candidates.map Candidate.key := by
    refine List.ext_getElem? ?_
    intro i
    rw [List.getElem?_map, List.getElem?_map]
    rcases hi : (resolve policy encoding state candidates).files[i]? with _ | f
    · have hle := List.getElem?_eq_none_iff.1 hi
      rw [length_files] at hle
      rw [List.getElem?_eq_none_iff.2 hle]
      rfl
    · obtain ⟨c, hc, horigin⟩ := origin_of_files hi
      obtain ⟨hpath, _, hfid, _⟩ := horigin.describes
      rw [hc, Option.map_some, Option.map_some, LogFile.key, Candidate.key, hpath, hfid]
  rw [List.map_append, List.nodup_append]
  refine ⟨keys_rotatedAway.nodup_iff.2 (hapart.sublist (left_sublist.map _)), ?_, ?_⟩
  · rw [hkeys]
    apply List.Nodup.of_map Prod.fst
    rw [List.map_map]
    exact hnames
  · -- a tracked file with the key of a candidate is continued by it
    intro k hk k' hk' heq
    rw [hkeys] at hk'
    obtain ⟨f, hf, rfl⟩ := List.mem_map.1 hk
    obtain ⟨c, hc, rfl⟩ := List.mem_map.1 hk'
    obtain ⟨i, old, seq, hold, hgone, rfl⟩ := gone_of_mem_rotatedAway hf
    obtain ⟨j, hj⟩ := List.getElem?_of_mem hc
    obtain ⟨_, _, _, _, hmatched, _⟩ := exists_linkOf? policy hid hapart hnames hold hj heq
    rw [hgone] at hmatched
    cases hmatched

/-- **A resolution keeps files orderly**, where they are told by their identity. -/
theorem resolve_orderly {s : Splitter} (hpos : 0 < s.longest) (hid : state.useIdentity = true)
    (hnames : (candidates.map fun c => c.path.fileName?).Nodup) (h : Orderly s state.files) :
    Orderly s ((resolve policy encoding state candidates).rotatedAway ++
      (resolve policy encoding state candidates).files) :=
  ⟨resolve_tidy hpos h.tidy, resolve_apart hid hnames h.apart⟩

end progress

/-! ## The same candidates again -/

def plain (f : LogFile) : LogFile := { f with seq := 0, copyOf := none }

theorem renumber_append (first : Nat) (a b : List LogFile) :
    renumber first (a ++ b) = renumber first a ++ renumber (first + a.length) b := by
  refine List.ext_getElem? ?_
  intro i
  rcases Nat.lt_or_ge i a.length with hlt | hge
  · rw [List.getElem?_append_left (by simpa [renumber] using hlt)]
    simp [renumber, List.getElem?_append_left hlt]
  · rw [List.getElem?_append_right (by simpa [renumber] using hge)]
    simp only [renumber, List.getElem?_map, List.getElem?_zipIdx, List.getElem?_append_right hge,
      List.length_map, List.length_zipIdx, Option.map_map]
    apply Option.map_congr
    intro f _
    simp
    omega

theorem renumber_renumber (files : List LogFile) : renumber 0 (renumber 0 files) = renumber 0 files := by
  refine List.ext_getElem? ?_
  intro i
  simp only [renumber, List.getElem?_map, List.getElem?_zipIdx, Option.map_map]
  rfl

theorem bySeq_renumber (files : List LogFile) : bySeq (renumber 0 files) = renumber 0 files := by
  apply List.mergeSort_of_pairwise
  have h : (files.zipIdx.map Prod.snd).Pairwise (· < ·) := by
    rw [List.zipIdx_map_snd]
    exact List.pairwise_lt_range'
  rw [renumber, List.pairwise_map]
  apply (List.pairwise_map.1 h).imp
  intro hlt
  simp only [decide_eq_true_eq]
  omega

section again
variable {policy : RotationPolicy} {encoding : Encoding} {state : WatchState}
  {candidates : List Candidate} {away files : List LogFile}

/-- What a cycle left: the files that rotated away and still wait, and the files of the scan. -/
structure LeftBehind (state : WatchState) (candidates : List Candidate) (away files : List LogFile) :
    Prop where
  identity : state.useIdentity = true
  numbered : state.files = renumber 0 (away ++ files)
  apart : ((away ++ files).map LogFile.key).Nodup
  names : (candidates.map fun c => c.path.fileName?).Nodup
  length : files.length = candidates.length
  describes : ∀ (i : Nat) (f : LogFile) (c : Candidate), files[i]? = some f → candidates[i]? = some c →
    f.Describes c
  within : ∀ f ∈ files, f.processed ≤ f.size

variable (h : LeftBehind state candidates away files)
include h

theorem LeftBehind.getElem?_state {i : Nat} {f : LogFile} (hf : files[i]? = some f) :
    state.files[away.length + i]? = some { f with seq := away.length + i, copyOf := none } := by
  rw [h.numbered, renumber_append, List.getElem?_append_right (by simp [renumber])]
  simp [renumber, hf]

theorem LeftBehind.linkOf? (policy : RotationPolicy) {i : Nat} {f : LogFile} (hf : files[i]? = some f) :
    ∃ l, (matching policy state candidates).linkOf? i = some l ∧ l.old = away.length + i ∧
      l.truncated = false ∧ (matching policy state candidates).matchedOld (away.length + i) = true ∧
      i ∈ (matching policy state candidates).settledCand := by
  have hlt : i < candidates.length := h.length ▸ (List.getElem?_eq_some_iff.1 hf).1
  have hc := List.getElem?_eq_getElem hlt
  generalize candidates[i] = c at hc
  have hdescribes := h.describes i f c hf hc
  have hapart : (state.files.map LogFile.key).Nodup := by
    rw [h.numbered, map_renumber (fun _ _ => rfl)]
    exact h.apart
  obtain ⟨l, hlink, hold, htruncated, hmatched, hsettled⟩ := exists_linkOf? policy h.identity hapart h.names
    (h.getElem?_state hf) hc (by rw [LogFile.key, Candidate.key, hdescribes.path, hdescribes.id])
  refine ⟨l, hlink, hold, ?_, hmatched, hsettled⟩
  have hwithin := h.within f (List.mem_of_getElem? hf)
  rw [hdescribes.size] at hwithin
  rw [htruncated, Link.isTruncated]
  simp [Nat.not_lt.2 hwithin, hdescribes.size, hdescribes.mtime]

theorem LeftBehind.not_matchedOld (policy : RotationPolicy) {k : Nat} (hk : k < away.length) :
    (matching policy state candidates).matchedOld k = false := by
  rw [← Bool.not_eq_true, Matching.matchedOld, List.any_eq_true]
  rintro ⟨l, hl, hold⟩
  have hold : l.old = k := of_decide_eq_true hold
  have hconsistent := Matching.consistent_ofLinks
    (Link.nodup_all policy state.useIdentity state.files candidates)
  obtain ⟨_, c, _, hc, _⟩ := Link.mem_all.1 (hconsistent.chosen_mem l hl)
  have hlt : l.cand < files.length := h.length ▸ (List.getElem?_eq_some_iff.1 hc).1
  obtain ⟨l', hlink, hold', _⟩ := h.linkOf? policy (List.getElem?_eq_getElem hlt)
  obtain ⟨hl', hcand⟩ := Matching.linkOf?_eq_some hlink
  have := hconsistent.apart l hl l' hl' (.inr hcand.symm)
  rw [this, hold'] at hold
  omega

theorem LeftBehind.no_copies (policy : RotationPolicy) (k : Nat) :
    (copies policy state candidates).sources.contains (some k) = false := by
  rw [← Bool.not_eq_true, List.contains_iff_mem]
  intro hmem
  obtain ⟨j, hj⟩ := List.getElem?_of_mem hmem
  obtain ⟨_, ⟨c, hc, hunsettled, _⟩, _⟩ := sources_eq_some.1 hj
  have hlt : j < files.length := h.length ▸ (List.getElem?_eq_some_iff.1 hc).1
  obtain ⟨_, _, _, _, _, hsettled⟩ := h.linkOf? policy (List.getElem?_eq_getElem hlt)
  exact hunsettled hsettled

/-- **What a cycle left is found again by the next one.** -/
theorem LeftBehind.resolve_again (policy : RotationPolicy) (encoding : Encoding) :
    (resolve policy encoding state candidates).rotatedAway = renumber 0 away ∧
      (resolve policy encoding state candidates).files.map plain = files.map plain := by
  constructor
  · have hleft : left policy state candidates = renumber 0 away := by
      rw [left, h.numbered, renumber_append, List.zipIdx_append, List.filter_append, List.map_append]
      rw [List.filter_eq_self.2, List.filter_eq_nil_iff.2, List.map_nil, List.append_nil,
        List.zipIdx_map_fst]
      · rintro ⟨f, k⟩ hk
        obtain ⟨i, hi, rfl⟩ : ∃ i, i < files.length ∧ k = away.length + i := by
          obtain ⟨hle, hlt, _⟩ := List.mem_zipIdx hk
          simp only [length_renumber] at hle hlt
          exact ⟨k - away.length, by omega, by omega⟩
        obtain ⟨_, _, _, _, hmatched, _⟩ := h.linkOf? policy (List.getElem?_eq_getElem hi)
        simp [hmatched]
      · rintro ⟨f, k⟩ hk
        have hlt : k < away.length := by
          obtain ⟨_, hlt, _⟩ := List.mem_zipIdx hk
          simpa [renumber] using hlt
        simp only [h.not_matchedOld policy hlt, h.no_copies policy k, Bool.not_false, Bool.and_true]
    rw [rotatedAway_eq, hleft, bySeq_renumber, renumber_renumber]
  · refine List.ext_getElem? ?_
    intro i
    rw [List.getElem?_map, List.getElem?_map]
    rcases hi : (resolve policy encoding state candidates).files[i]? with _ | f
    · have hle := List.getElem?_eq_none_iff.1 hi
      rw [length_files, ← h.length] at hle
      rw [List.getElem?_eq_none_iff.2 hle, Option.map_none]
    · have hlt : i < files.length := by
        rw [h.length, ← length_files policy encoding state candidates]
        exact (List.getElem?_eq_some_iff.1 hi).1
      have hf := List.getElem?_eq_getElem hlt
      generalize files[i] = g at hf
      obtain ⟨c, hc, horigin⟩ := origin_of_files hi
      obtain ⟨l, hlink, hold, hcut, _⟩ := h.linkOf? policy hf
      rw [hf, Option.map_some, Option.map_some]
      have hdescribes := h.describes i g c hf hc
      cases horigin with
      | @continued l' old seq hchosen htracked =>
        obtain rfl : l = l' := Option.some.inj (hlink.symm.trans hchosen)
        rw [hold, h.getElem?_state hf] at htracked
        obtain rfl := Option.some.inj htracked
        rw [hcut, continueFile, plain, plain, hdescribes.path, hdescribes.mtime, hdescribes.id,
          hdescribes.size, hdescribes.digest]
        rfl
      | copied _ _ _ hunlinked _ =>
        rw [hlink] at hunlinked
        cases hunlinked
      | new _ hunlinked =>
        rw [hlink] at hunlinked
        cases hunlinked

end again

end Resolution

end LogTail
