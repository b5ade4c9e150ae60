import LogTail.Proofs.FileReading
import LogTail.Proofs.Slots
import LogTail.Resolution.Basic

/-!
# What a resolution makes of the tracked files

Every file of a resolution describes the candidate of its place: it continues a tracked file, is a copy of
one, or is new (`Resolution.Entry`, and without its transition `Resolution.Origin`). What rotated away is
tracked already (`Resolution.Gone`). In each case the progress is one that reading can go on from.
-/

namespace LogTail

/-- A tracked file bears the name, the identity, the statistics and the first bytes of a candidate. -/
structure LogFile.Describes (f : LogFile) (c : Candidate) : Prop where
  path : f.path = c.path
  mtime : f.mtime = c.mtime
  id : f.id = c.id
  size : f.size = c.size
  digest : f.digest = Digest.of c.head

theorem LogFile.SameAs.describes {f f' : LogFile} {c : Candidate} (h : f.SameAs f') (hf : f.Describes c) :
    f'.Describes c := by
  rw [SameAs] at h
  rw [h]
  exact ⟨hf.path, hf.mtime, hf.id, hf.size, hf.digest⟩

theorem LogFile.Describes.renumber {f : LogFile} {c : Candidate} (h : f.Describes c) (seq : Nat) :
    ({ f with seq := seq, copyOf := none } : LogFile).Describes c :=
  ⟨h.path, h.mtime, h.id, h.size, h.digest⟩

namespace Resolution

section sorting
variable {α : Type} (number : α → Nat)

theorem number_trans (a b c : α) (hab : decide (number a ≤ number b) = true)
    (hbc : decide (number b ≤ number c) = true) : decide (number a ≤ number c) = true :=
  decide_eq_true (Nat.le_trans (of_decide_eq_true hab) (of_decide_eq_true hbc))

theorem number_total (a b : α) : (decide (number a ≤ number b) || decide (number b ≤ number a)) = true := by
  simpa using Nat.le_total (number a) (number b)

theorem pairwise_sorted (xs : List α) :
    (xs.mergeSort fun a b => number a ≤ number b).Pairwise fun a b => number a ≤ number b :=
  (List.pairwise_mergeSort (number_trans number) (number_total number) xs).imp of_decide_eq_true

end sorting

theorem continueFile_seq (old : LogFile) (c : Candidate) (seq : Nat) (truncated : Bool) :
    (continueFile old c seq truncated).seq = seq := by
  cases truncated <;> rfl

theorem continueFile_copyOf (old : LogFile) (c : Candidate) (seq : Nat) (truncated : Bool) :
    (continueFile old c seq truncated).copyOf = none := by
  cases truncated <;> rfl

theorem copyFile_seq (encoding : Encoding) (source : LogFile) (place : Nat) (c : Candidate) (seq : Nat) :
    (copyFile encoding source place c seq).seq = seq := by
  simp only [copyFile]
  split_ifs <;> rfl

theorem copyFile_copyOf (encoding : Encoding) (source : LogFile) (place : Nat) (c : Candidate) (seq : Nat) :
    (copyFile encoding source place c seq).copyOf = some place := by
  simp only [copyFile]
  split_ifs <;> rfl

theorem copyFile_describes (encoding : Encoding) (source : LogFile) (place : Nat) (c : Candidate) (seq : Nat) :
    (copyFile encoding source place c seq).Describes c := by
  simp only [copyFile]
  split_ifs <;> exact ⟨rfl, rfl, rfl, rfl, rfl⟩

section resolve
variable (policy : RotationPolicy) (encoding : Encoding) (state : WatchState)
  (candidates : List Candidate)

def matching : Matching := Matching.ofLinks (Link.all policy state.useIdentity state.files candidates)

def copies : Copies :=
  if policy.detectsCopies then
    Copies.find state.files candidates (matching policy state candidates).settledCand
  else Copies.none candidates

def left : List LogFile :=
  (state.files.zipIdx.filter fun f => !(matching policy state candidates).matchedOld f.2 &&
    !(copies policy state candidates).sources.contains (some f.2)).map (·.1)

def slots : Slots :=
  Slots.ofLinks state.files.length candidates.length (Link.all policy state.useIdentity state.files candidates)

theorem within_all : Slots.Within state.files.length candidates.length
    (Link.all policy state.useIdentity state.files candidates) := by
  intro l hl
  obtain ⟨_, _, hf, hc, _⟩ := Link.mem_all.1 hl
  exact ⟨(List.getElem?_eq_some_iff.1 hf).1, (List.getElem?_eq_some_iff.1 hc).1⟩

theorem linkOf?_slots {j : Nat} (hj : j < candidates.length) :
    (slots policy state candidates).linkOf? j = (matching policy state candidates).linkOf? j :=
  Slots.linkOf?_ofLinks (within_all policy state candidates) (Link.nodup_all ..) hj

theorem matchedOld_slots {i : Nat} (hi : i < state.files.length) :
    (slots policy state candidates).matchedOld i = (matching policy state candidates).matchedOld i :=
  Slots.matchedOld_ofLinks (within_all policy state candidates) (Link.nodup_all ..) hi

theorem copies_slots :
    (if policy.detectsCopies then Copies.find state.files candidates (slots policy state candidates).takenCand
      else Copies.none candidates) = copies policy state candidates := by
  have hfind : Copies.find state.files candidates (slots policy state candidates).takenCand =
      Copies.find state.files candidates (matching policy state candidates).settledCand :=
    Copies.find_congr fun _ hj =>
      Slots.mem_takenCand_ofLinks (within_all policy state candidates) (Link.nodup_all ..) hj
  rw [hfind, copies]

def entries : List (LogFile × Transition) :=
  (candidates.zip (copies policy state candidates).sources).zipIdx.map fun ((c, source), place) =>
    entryOf encoding state (resumedAt? state candidates) ((matching policy state candidates).linkOf? place) source c place
      ((renumber 0 (bySeq (left policy state candidates))).length + place)

/-- **What a resolution says**, by the matching of all links: which files go on, are copies or are new, which rotated
away, and which are in a tie. -/
theorem resolve_eq : resolve policy encoding state candidates = {
    files := (entries policy encoding state candidates).map (·.1)
    transitions := (entries policy encoding state candidates).map (·.2)
    rotatedAway := renumber 0 (bySeq (left policy state candidates))
    ambiguous := ((matching policy state candidates).tied ++ (copies policy state candidates).undecided).filterMap
      fun j => candidates[j]?.map (·.path) } := by
  have hleft : ((state.files.zipIdx.filter fun f => !(slots policy state candidates).matchedOld f.2 &&
      !(copies policy state candidates).sources.contains (some f.2)).map (·.1)) = left policy state candidates := by
    refine congrArg (List.map _) (List.filter_congr fun f hf => ?_)
    have hlt := (List.getElem?_eq_some_iff.1 (List.mem_zipIdx_iff_getElem?.1 hf)).1
    rw [matchedOld_slots policy state candidates hlt]
  have hentries : ((candidates.zip (copies policy state candidates).sources).zipIdx.map fun ((c, source), place) =>
      entryOf encoding state (resumedAt? state candidates) ((slots policy state candidates).linkOf? place) source c place
        ((renumber 0 (bySeq (left policy state candidates))).length + place)) =
      entries policy encoding state candidates := by
    refine List.map_congr_left fun x hx => ?_
    have hlt := (List.getElem?_eq_some_iff.1 (List.mem_zipIdx_iff_getElem?.1 hx)).1
    rw [List.length_zip] at hlt
    dsimp only
    rw [linkOf?_slots policy state candidates (Nat.lt_of_lt_of_le hlt (Nat.min_le_left ..))]
  have htied : (slots policy state candidates).tied = (matching policy state candidates).tied :=
    (Slots.shows_ofLinks (within_all policy state candidates) (Link.nodup_all ..)).tied
  have hresolve : resolve policy encoding state candidates = {
      files := (entries policy encoding state candidates).map (·.1)
      transitions := (entries policy encoding state candidates).map (·.2)
      rotatedAway := renumber 0 (bySeq (left policy state candidates))
      ambiguous := ((slots policy state candidates).tied ++ (copies policy state candidates).undecided).filterMap
        fun j => candidates[j]?.map (·.path) } := by
    rw [← hentries, ← hleft, ← copies_slots]
    rfl
  rw [hresolve, htied]

theorem rotatedAway_eq :
    (resolve policy encoding state candidates).rotatedAway =
      renumber 0 (bySeq (left policy state candidates)) := by
  rw [resolve_eq]

theorem ambiguous_eq : (resolve policy encoding state candidates).ambiguous =
    ((matching policy state candidates).tied ++ (copies policy state candidates).undecided).filterMap
      fun j => candidates[j]?.map (·.path) := by
  rw [resolve_eq]

/-- What the candidate of a place becomes, and the transition that tells it. -/
inductive Entry (c : Candidate) (place : Nat) : LogFile → Transition → Prop
  | continued {l : Link} {old : LogFile}
    (chosen : (matching policy state candidates).linkOf? place = some l)
    (tracked : state.files[l.old]? = some old) :
    Entry c place
      (continueFile old c ((resolve policy encoding state candidates).rotatedAway.length + place) l.truncated)
      (if l.truncated then .truncated else .unchanged)
  | copied {i : Nat} {source : LogFile} (unlinked : (matching policy state candidates).linkOf? place = none)
    (claimed : (copies policy state candidates).sources[place]? = some (some i))
    (tracked : state.files[i]? = some source) :
    Entry c place
      (copyFile encoding source i c ((resolve policy encoding state candidates).rotatedAway.length + place))
      .rotatedCopy
  | new (unlinked : (matching policy state candidates).linkOf? place = none)
    (unclaimed : (copies policy state candidates).sources[place]? = some none) :
    Entry c place
      { track c ((resolve policy encoding state candidates).rotatedAway.length + place) with
        processed := startOf state (resumedAt? state candidates) c place } .new

/-- Where the file of a candidate comes from. -/
inductive Origin (c : Candidate) (place : Nat) : LogFile → Prop
  | continued {l : Link} {old : LogFile} (seq : Nat)
    (chosen : (matching policy state candidates).linkOf? place = some l)
    (tracked : state.files[l.old]? = some old) :
    Origin c place (continueFile old c seq l.truncated)
  | copied {source : LogFile} (i seq : Nat) (looks : policy.detectsCopies = true)
    (unlinked : (matching policy state candidates).linkOf? place = none)
    (tracked : source ∈ state.files) :
    Origin c place (copyFile encoding source i c seq)
  | new (seq : Nat) (unlinked : (matching policy state candidates).linkOf? place = none) :
    Origin c place
      { track c seq with processed := startOf state (resumedAt? state candidates) c place }

def Gone (f : LogFile) : Prop :=
  ∃ i old seq, state.files[i]? = some old ∧ (matching policy state candidates).matchedOld i = false ∧
    f = { old with seq := seq, copyOf := none }

variable {policy encoding state candidates}

theorem mem_links_of_linkOf? {place : Nat} {l : Link}
    (h : (matching policy state candidates).linkOf? place = some l) :
    l ∈ Link.all policy state.useIdentity state.files candidates ∧ l.cand = place :=
  have hl := Matching.linkOf?_eq_some h
  ⟨(Matching.consistent_ofLinks (Link.nodup_all ..)).chosen_mem l hl.1, hl.2⟩

theorem truncated_of_linkOf? {place : Nat} {l : Link} {old : LogFile} {c : Candidate}
    (h : (matching policy state candidates).linkOf? place = some l) (hold : state.files[l.old]? = some old)
    (hc : candidates[place]? = some c) : l.truncated = Link.isTruncated policy old c := by
  obtain ⟨hl, rfl⟩ := mem_links_of_linkOf? h
  obtain ⟨old', c', hold', hc', hrelate⟩ := Link.mem_all.1 hl
  obtain rfl : old' = old := Option.some.inj (hold'.symm.trans hold)
  obtain rfl : c' = c := Option.some.inj (hc'.symm.trans hc)
  simp only [Link.relate, Option.map_eq_some_iff] at hrelate
  obtain ⟨_, _, heq⟩ := hrelate
  exact (congrArg Link.truncated heq).symm

theorem length_sources : (copies policy state candidates).sources.length = candidates.length := by
  rw [copies]
  by_cases h : policy.detectsCopies = true <;> simp [h, Copies.find, Copies.verdicts, Copies.none]

theorem length_files (policy : RotationPolicy) (encoding : Encoding) (state : WatchState)
    (candidates : List Candidate) :
    (resolve policy encoding state candidates).files.length = candidates.length := by
  have hlength : (copies policy state candidates).sources.length = candidates.length := length_sources
  simp only [resolve_eq, entries, List.length_map, List.length_zipIdx, List.length_zip, hlength, Nat.min_self]

theorem length_transitions (policy : RotationPolicy) (encoding : Encoding) (state : WatchState)
    (candidates : List Candidate) :
    (resolve policy encoding state candidates).transitions.length = candidates.length := by
  rw [← length_files policy encoding state candidates]
  simp only [resolve_eq, List.length_map]

/-- Where copies are looked for, a candidate is a copy of the tracked file that it alone claims. -/
theorem sources_eq_some {i j : Nat} : (copies policy state candidates).sources[j]? = some (some i) ↔
    policy.detectsCopies = true ∧
      Copies.Claims state.files candidates (matching policy state candidates).settledCand j i ∧
      ∀ k, Copies.Claims state.files candidates (matching policy state candidates).settledCand k i →
        k = j := by
  by_cases hlooks : policy.detectsCopies = true
  · rw [copies, if_pos hlooks, Copies.sources_eq_some, and_iff_right hlooks]
  · simp only [copies, hlooks, Bool.false_eq_true, if_false, Copies.none, List.getElem?_map,
      Option.map_eq_some_iff, false_and, iff_false]
    rintro ⟨_, _, hnone⟩
    cases hnone

/-- **Every candidate becomes a file**, in its place. -/
theorem exists_entry (policy : RotationPolicy) (encoding : Encoding) (state : WatchState) {j : Nat}
    {c : Candidate} (hc : candidates[j]? = some c) :
    ∃ f t, (resolve policy encoding state candidates).files[j]? = some f ∧
      (resolve policy encoding state candidates).transitions[j]? = some t ∧
      Entry policy encoding state candidates c j f t := by
  have hlt : j < (copies policy state candidates).sources.length := by
    rw [length_sources]
    exact (List.getElem?_eq_some_iff.1 hc).1
  have hsource := List.getElem?_eq_getElem hlt
  generalize (copies policy state candidates).sources[j] = source at hsource
  have hzip : (candidates.zip (copies policy state candidates).sources).zipIdx[j]? =
      some ((c, source), j) := by
    rw [List.getElem?_zipIdx, (List.getElem?_zip_eq_some (z := (c, source))).2 ⟨hc, hsource⟩,
      Option.map_some, Nat.zero_add]
  simp only [resolve_eq, entries, List.getElem?_map, hzip, Option.map_some]
  refine ⟨_, _, rfl, rfl, ?_⟩
  rw [entryOf, ← rotatedAway_eq policy encoding state candidates]
  rcases hlink : (matching policy state candidates).linkOf? j with _ | l
  · simp only [Option.bind_none]
    rcases source with _ | i
    · exact .new hlink hsource
    · obtain ⟨_, ⟨_, _, _, hjudge⟩, _⟩ := sources_eq_some.1 hsource
      obtain ⟨f, hf, _⟩ := Copies.exists_of_judge hjudge
      simp only [Option.bind_some, hf, Option.map_some]
      exact .copied hlink hsource hf
  · obtain ⟨hl, _⟩ := mem_links_of_linkOf? hlink
    obtain ⟨old, _, hold, _⟩ := Link.mem_all.1 hl
    simp only [Option.bind_some, hold, Option.map_some]
    exact .continued hlink hold

theorem exists_entry_of_files {j : Nat} {f : LogFile}
    (h : (resolve policy encoding state candidates).files[j]? = some f) :
    ∃ c t, candidates[j]? = some c ∧ (resolve policy encoding state candidates).transitions[j]? = some t ∧
      Entry policy encoding state candidates c j f t := by
  have hlt : j < candidates.length := by
    rw [← length_files policy encoding state candidates]
    exact (List.getElem?_eq_some_iff.1 h).1
  have hc := List.getElem?_eq_getElem hlt
  obtain ⟨f', t, hf', ht, hentry⟩ := exists_entry policy encoding state hc
  obtain rfl : f' = f := Option.some.inj (hf'.symm.trans h)
  exact ⟨_, t, hc, ht, hentry⟩

theorem exists_entry_of_transitions {j : Nat} {t : Transition}
    (h : (resolve policy encoding state candidates).transitions[j]? = some t) :
    ∃ c f, candidates[j]? = some c ∧ (resolve policy encoding state candidates).files[j]? = some f ∧
      Entry policy encoding state candidates c j f t := by
  have hlt : j < (resolve policy encoding state candidates).files.length := by
    rw [length_files, ← length_transitions policy encoding state candidates]
    exact (List.getElem?_eq_some_iff.1 h).1
  have hf := List.getElem?_eq_getElem hlt
  obtain ⟨c, t', hc, ht', hentry⟩ := exists_entry_of_files hf
  obtain rfl : t' = t := Option.some.inj (ht'.symm.trans h)
  exact ⟨c, _, hc, hf, hentry⟩

theorem linkOf?_of_mem_chosen {l : Link} (h : l ∈ (matching policy state candidates).chosen) :
    (matching policy state candidates).linkOf? l.cand = some l :=
  Matching.linkOf?_of_mem_chosen (Link.nodup_all ..) h

theorem linkOf?_eq_none_of_claimed {i j : Nat}
    (h : (copies policy state candidates).sources[j]? = some (some i)) :
    (matching policy state candidates).linkOf? j = none := by
  obtain ⟨_, ⟨_, _, hopen, _⟩, _⟩ := sources_eq_some.1 h
  rw [Option.eq_none_iff_forall_ne_some]
  intro l hl
  obtain ⟨hchosen, rfl⟩ := Matching.linkOf?_eq_some hl
  exact hopen ((Matching.consistent_ofLinks (Link.nodup_all ..)).cand_settled l hchosen)

section entry
variable {c : Candidate} {j : Nat} {f : LogFile} {t : Transition}
  (h : Entry policy encoding state candidates c j f t)
include h

theorem Entry.continues_iff : t = .unchanged ∨ t = .truncated ↔
    ∃ l ∈ (matching policy state candidates).chosen, l.cand = j := by
  have hlink : (∃ l ∈ (matching policy state candidates).chosen, l.cand = j) ↔
      ∃ l, (matching policy state candidates).linkOf? j = some l := by
    constructor
    · rintro ⟨l, hl, rfl⟩
      exact ⟨l, linkOf?_of_mem_chosen hl⟩
    · rintro ⟨l, hl⟩
      exact ⟨l, Matching.linkOf?_eq_some hl⟩
  rw [hlink]
  cases h with
  | @continued l old hchosen _ => cases l.truncated <;> simp [hchosen]
  | copied hunlinked => simp [hunlinked]
  | new hunlinked => simp [hunlinked]

theorem Entry.copies_iff : t = .rotatedCopy ↔
    ∃ i, (copies policy state candidates).sources[j]? = some (some i) := by
  cases h with
  | @continued l old hchosen _ =>
    refine iff_of_false (by cases l.truncated <;> simp) ?_
    rintro ⟨i, hi⟩
    rw [linkOf?_eq_none_of_claimed hi] at hchosen
    cases hchosen
  | copied _ hclaimed => simp [hclaimed]
  | new _ hunclaimed => simp [hunclaimed]

theorem Entry.seq_eq : f.seq = (resolve policy encoding state candidates).rotatedAway.length + j := by
  cases h with
  | continued => exact continueFile_seq ..
  | copied => exact copyFile_seq ..
  | new => rfl

theorem Entry.copyOf_eq_some {i : Nat} :
    f.copyOf = some i ↔ (copies policy state candidates).sources[j]? = some (some i) := by
  cases h with
  | continued hchosen _ =>
    rw [continueFile_copyOf]
    refine iff_of_false (by simp) fun hi => ?_
    rw [linkOf?_eq_none_of_claimed hi] at hchosen
    cases hchosen
  | copied _ hclaimed _ => simp [copyFile_copyOf, hclaimed]
  | new _ hunclaimed =>
    rw [hunclaimed]
    simp [track]

theorem Entry.new_of_not (hlink : ∀ l ∈ (matching policy state candidates).chosen, l.cand ≠ j)
    (hcopy : ∀ i, (copies policy state candidates).sources[j]? ≠ some (some i)) : t = .new := by
  cases h with
  | continued hchosen _ =>
    have := Matching.linkOf?_eq_some hchosen
    exact absurd this.2 (hlink _ this.1)
  | copied _ hclaimed => exact absurd hclaimed (hcopy _)
  | new => rfl

end entry

theorem exists_of_mem_chosen (encoding : Encoding) {l : Link}
    (hl : l ∈ (matching policy state candidates).chosen) :
    ∃ old c, state.files[l.old]? = some old ∧ candidates[l.cand]? = some c ∧
      (resolve policy encoding state candidates).files[l.cand]? = some (continueFile old c
        ((resolve policy encoding state candidates).rotatedAway.length + l.cand) l.truncated) ∧
      (resolve policy encoding state candidates).transitions[l.cand]? =
        some (if l.truncated then .truncated else .unchanged) := by
  have hlink := linkOf?_of_mem_chosen hl
  obtain ⟨hmem, _⟩ := mem_links_of_linkOf? hlink
  obtain ⟨_, c, _, hc, _⟩ := Link.mem_all.1 hmem
  obtain ⟨f, t, hf, ht, hentry⟩ := exists_entry policy encoding state hc
  cases hentry with
  | @continued l' old hchosen hold =>
    obtain rfl : l = l' := Option.some.inj (hlink.symm.trans hchosen)
    exact ⟨old, c, hold, hc, hf, ht⟩
  | copied hunlinked =>
    rw [hlink] at hunlinked
    cases hunlinked
  | new hunlinked =>
    rw [hlink] at hunlinked
    cases hunlinked

theorem exists_mem_chosen {j : Nat}
    (h : (resolve policy encoding state candidates).transitions[j]? = some .unchanged ∨
      (resolve policy encoding state candidates).transitions[j]? = some .truncated) :
    ∃ l ∈ (matching policy state candidates).chosen, l.cand = j := by
  obtain ⟨t, ht⟩ : ∃ t, (resolve policy encoding state candidates).transitions[j]? = some t := by
    rcases h with h | h <;> exact ⟨_, h⟩
  obtain ⟨c, f, _, _, hentry⟩ := exists_entry_of_transitions ht
  rw [ht, Option.some.injEq, Option.some.injEq] at h
  exact hentry.continues_iff.1 h

/-- **Every file of a resolution describes the candidate of its place.** -/
theorem origin_of_files {i : Nat} {f : LogFile}
    (h : (resolve policy encoding state candidates).files[i]? = some f) :
    ∃ c, candidates[i]? = some c ∧ Origin policy encoding state candidates c i f := by
  obtain ⟨c, t, hc, _, hentry⟩ := exists_entry_of_files h
  refine ⟨c, hc, ?_⟩
  cases hentry with
  | continued hlink hold => exact .continued _ hlink hold
  | copied hlink hclaimed hf =>
    exact .copied _ _ (sources_eq_some.1 hclaimed).1 hlink (List.mem_of_getElem? hf)
  | new hlink => exact .new _ hlink

theorem exists_of_mem_renumber {first : Nat} {files : List LogFile} {f' : LogFile} (h : f' ∈ renumber first files) :
    ∃ f ∈ files, ∃ seq, f' = { f with seq := seq, copyOf := none } := by
  rw [renumber, List.mem_map] at h
  obtain ⟨x, hx, rfl⟩ := h
  exact ⟨x.1, List.mem_of_getElem? (List.mem_zipIdx_iff_getElem?.1 hx), _, rfl⟩

theorem mem_left {f : LogFile} : f ∈ left policy state candidates ↔
    ∃ i, state.files[i]? = some f ∧ (matching policy state candidates).matchedOld i = false ∧
      some i ∉ (copies policy state candidates).sources := by
  simp [left, List.mem_zipIdx_iff_getElem?]

theorem gone_of_mem_rotatedAway {f : LogFile}
    (h : f ∈ (resolve policy encoding state candidates).rotatedAway) :
    Gone policy state candidates f := by
  rw [rotatedAway_eq] at h
  obtain ⟨old, hmem, seq, rfl⟩ := exists_of_mem_renumber h
  rw [bySeq, List.mem_mergeSort, mem_left] at hmem
  obtain ⟨i, hi, hmatched, _⟩ := hmem
  exact ⟨i, _, _, hi, hmatched, rfl⟩

/-! ## What a file of a resolution tells -/

theorem Origin.describes {c : Candidate} {place : Nat} {f : LogFile}
    (h : Origin policy encoding state candidates c place f) : f.Describes c := by
  cases h with
  | @continued l old seq _ _ =>
    unfold continueFile
    cases l.truncated <;> exact ⟨rfl, rfl, rfl, rfl, rfl⟩
  | copied => exact copyFile_describes ..
  | new => exact ⟨rfl, rfl, rfl, rfl, rfl⟩

theorem origin_of_getElem? {i : Nat} {f : LogFile} {c : Candidate}
    (hf : (resolve policy encoding state candidates).files[i]? = some f) (hc : candidates[i]? = some c) :
    Origin policy encoding state candidates c i f := by
  obtain ⟨c', hc', horigin⟩ := origin_of_files hf
  rwa [Option.some.inj (hc.symm.trans hc')]

theorem exists_describes {f : LogFile} (hf : f ∈ (resolve policy encoding state candidates).files) :
    ∃ c ∈ candidates, f.Describes c := by
  obtain ⟨i, hi⟩ := List.getElem?_of_mem hf
  obtain ⟨c, hc, horigin⟩ := origin_of_files hi
  exact ⟨c, List.mem_of_getElem? hc, horigin.describes⟩

theorem describes_of_same {files : List LogFile}
    (hlength : files.length = (resolve policy encoding state candidates).files.length)
    (hsame : ∀ (i : Nat) (f f' : LogFile), (resolve policy encoding state candidates).files[i]? = some f →
      files[i]? = some f' → f.SameAs f') {i : Nat} {f : LogFile} (hf : files[i]? = some f) :
    ∃ c, candidates[i]? = some c ∧ f.Describes c := by
  have hlt : i < (resolve policy encoding state candidates).files.length :=
    hlength ▸ (List.getElem?_eq_some_iff.1 hf).1
  have hg := List.getElem?_eq_getElem hlt
  obtain ⟨c, hc, horigin⟩ := origin_of_files hg
  exact ⟨c, hc, (hsame i _ f hg hf).describes horigin.describes⟩

end resolve

end Resolution

end LogTail
