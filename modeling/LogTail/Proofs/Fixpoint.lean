import LogTail.Proofs.Accounting
import LogTail.Proofs.Dealing
import LogTail.Proofs.Justification
import LogTail.Proofs.LossyCycles
import LogTail.Proofs.Representation
import LogTail.Proofs.Turns

/-!
# A completed cycle is a fixpoint

Where a cycle over a disk that stays as it is ends before its budget does, the next one finds nothing to do and
leaves the state as it is, by identity and by content, for every policy (`Watcher.process_fixpoint`).

* `Resolution.Mirrors`: the tracked files are the candidates, one by one. The link of each file to itself then
  scores more than all others of its ends, so a resolution gives the tracked files back (`Mirrors.resolve`).
* `LogFile.AtRest`: a file with nothing to read. A pass that halts nowhere leaves files at rest
  (`Cycle.visits_atRest`), and a run over files at rest does nothing (`Cycle.run_idle`).
-/

namespace LogTail

/-! ## Files that are their candidates -/

namespace Resolution

/-- The tracked files are the candidates, one by one and in the same order. -/
structure Mirrors (state : WatchState) (candidates : List Candidate) : Prop where
  length : state.files.length = candidates.length
  names : (candidates.map fun c => c.path.fileName?).Nodup
  describes : ∀ (i : Nat) (f : LogFile) (c : Candidate), state.files[i]? = some f → candidates[i]? = some c →
    f.Describes c
  within : ∀ f ∈ state.files, f.processed ≤ f.size
  numbered : ∀ (i : Nat) (f : LogFile), state.files[i]? = some f → f.seq = i ∧ f.copyOf = none

section mirrors
variable {policy : RotationPolicy} {encoding : Encoding} {state : WatchState} {candidates : List Candidate}
  {i j : Nat} {f f' : LogFile} {c c' : Candidate} {l : Link}

theorem mirrors_renumber {files : List LogFile} (hstate : state.files = renumber 0 files)
    (hlength : files.length = candidates.length) (hnames : (candidates.map fun c => c.path.fileName?).Nodup)
    (hdescribes : ∀ (i : Nat) (f : LogFile) (c : Candidate), files[i]? = some f → candidates[i]? = some c →
      f.Describes c)
    (hwithin : ∀ f ∈ files, f.processed ≤ f.size) : Mirrors state candidates where
  length := by rw [hstate, length_renumber, hlength]
  names := hnames
  describes i f c hf hc := by
    obtain ⟨g, hg, rfl⟩ := exists_of_getElem?_renumber (hstate ▸ hf)
    exact (hdescribes i g c hg hc).renumber i
  within f hf := by
    obtain ⟨g, hg, _, rfl⟩ := exists_of_mem_renumber (hstate ▸ hf)
    exact hwithin g hg
  numbered i f hf := by
    obtain ⟨g, _, rfl⟩ := exists_of_getElem?_renumber (hstate ▸ hf)
    exact ⟨rfl, rfl⟩

theorem matchesHead_of_describes (h : f.Describes c) : f.digest.matchesHead c.head = true := by
  rw [h.digest]
  exact Digest.matchesHead_iff.2 ⟨c.head, List.prefix_rfl, rfl⟩

theorem not_isTruncated_of_describes (policy : RotationPolicy) (h : f.Describes c)
    (hwithin : f.processed ≤ f.size) : Link.isTruncated policy f c = false := by
  have hless : ¬ c.size < f.processed := by
    rw [← h.size]
    omega
  simp [Link.isTruncated, hless, h.size, h.mtime]

theorem exists_base?_of_describes (policy : RotationPolicy) (useIdentity : Bool) (previous : List LogFile)
    (h : f.Describes c) : ∃ base, Link.base? policy useIdentity previous f c = some base ∧
      (useIdentity = true → base = 4) ∧
      (useIdentity = false → policy.detectsCopies = false → f.digest.isEmpty = false → base = 4) := by
  have hname : Link.sameName f c = true := decide_eq_true (congrArg Path.fileName? h.path)
  have hhead := matchesHead_of_describes h
  have htime : ¬ c.mtime < f.mtime := by
    rw [h.mtime]
    exact Int.lt_irrefl _
  unfold Link.base?
  cases useIdentity with
  | true => exact ⟨4, by simp [h.id], fun _ => rfl, fun hno => by cases hno⟩
  | false =>
    by_cases hcopies : policy.detectsCopies = true
    · exact ⟨0, by simp [hcopies, hname, hhead], (fun hno => by cases hno), fun _ hno => by simp [hcopies] at hno⟩
    by_cases hempty : f.digest.isEmpty = true
    · exact ⟨0, by simp [hcopies, hempty, hname], (fun hno => by cases hno), fun _ _ hno => by simp [hempty] at hno⟩
    · exact ⟨4, by simp [hcopies, hempty, htime, hhead], (fun hno => by cases hno), fun _ _ _ => rfl⟩

/-- The link of a file to the candidate that it is scores more than a link of another name that shares an
end. -/
theorem score_lt_of_sameName {useIdentity : Bool} {previous : List LogFile} {g : LogFile} {b : Candidate}
    {m n : Nat} (h : f.Describes c) (hl : Link.relate policy useIdentity previous (f, i) (c, j) = some l)
    {l' : Link} (hl' : Link.relate policy useIdentity previous (g, m) (b, n) = some l')
    (hname : Link.sameName g b = false) (hend : g = f ∨ b = c) : l'.score < l.score := by
  obtain ⟨base, hbase, hidentity, hcontent⟩ := exists_base?_of_describes policy useIdentity previous h
  have hsame : Link.sameName f c = true := decide_eq_true (congrArg Path.fileName? h.path)
  have hstat : Link.sameStat f c = true := by simp [Link.sameStat, h.size, h.mtime]
  simp only [Link.relate, hbase, Option.map_some, Option.some.injEq, hsame, hstat, if_true] at hl
  simp only [Link.relate, Option.map_eq_some_iff, hname, Bool.false_eq_true, if_false] at hl'
  obtain ⟨base', hbase', rfl⟩ := hl'
  have hscore : l.score = base + 2 + 1 := (congrArg Link.score hl).symm
  have hle : (if Link.sameStat g b = true then 1 else 0) ≤ 1 := by split <;> omega
  -- another name is possible only where identity or content count four
  suffices hboth : base' ≤ base by
    rw [hscore]
    show base' + 0 + _ < _
    omega
  unfold Link.base? at hbase'
  cases useIdentity with
  | true =>
    rw [hidentity rfl]
    simp only [if_true, Option.ite_none_right_eq_some, Option.some.injEq] at hbase'
    omega
  | false =>
    by_cases hcopies : policy.detectsCopies = true
    · simp [hcopies, hname] at hbase'
    rw [Bool.not_eq_true] at hcopies
    by_cases hempty : g.digest.isEmpty = true
    · simp [hcopies, hempty, hname] at hbase'
    simp only [hcopies, hempty, Bool.false_eq_true, if_false, Option.ite_none_left_eq_some,
      Option.some.injEq] at hbase'
    obtain ⟨hno, rfl⟩ := hbase'
    refine Nat.le_of_eq (hcontent rfl hcopies ?_).symm
    rcases hend with rfl | rfl
    · simpa using hempty
    · -- what begins with the bytes of a digest is not empty itself
      rw [Bool.or_eq_true, not_or, Bool.not_eq_true', Bool.not_eq_false] at hno
      have hle := Digest.length_le_of_matchesHead hno.2
      have hlength : f.digest.length = b.head.length := by rw [h.digest]; rfl
      simp only [Digest.isEmpty, beq_iff_eq, beq_eq_false_iff_ne] at hempty ⊢
      omega

theorem continueFile_of_describes (h : f.Describes c) (seq : Nat) :
    continueFile f c seq false = { f with seq := seq, copyOf := none } := by
  rw [continueFile, ← h.path, ← h.mtime, ← h.id, ← h.size, ← h.digest]
  rfl

/-- **The link of a file to itself is chosen.** -/
theorem Mirrors.linkOf? (policy : RotationPolicy) (h : Mirrors state candidates) (hf : state.files[i]? = some f) :
    ∃ l, (matching policy state candidates).linkOf? i = some l ∧ l.old = i ∧ l.truncated = false ∧
      (matching policy state candidates).matchedOld i = true := by
  have hlt : i < candidates.length := h.length ▸ (List.getElem?_eq_some_iff.1 hf).1
  have hc := List.getElem?_eq_getElem hlt
  generalize candidates[i] = c at hc
  have hdescribes := h.describes i f c hf hc
  obtain ⟨base, hbase, _⟩ := exists_base?_of_describes policy state.useIdentity state.files hdescribes
  obtain ⟨l, hl⟩ : ∃ l, Link.relate policy state.useIdentity state.files (f, i) (c, i) = some l := by
    simp [Link.relate, hbase]
  obtain ⟨hold, hcand⟩ := Link.relate_ends hl
  have htruncated : l.truncated = Link.isTruncated policy f c := by
    simp only [Link.relate, hbase, Option.map_some, Option.some.injEq] at hl
    rw [← hl]
  have hdominant : Matching.Dominant (Link.all policy state.useIdentity state.files candidates) l := by
    refine ⟨Link.mem_all.2 ⟨f, c, hold ▸ hf, hcand ▸ hc, by rw [hold, hcand]; exact hl⟩, ?_⟩
    intro l' hl' hends
    obtain ⟨g, b, hg, hb, hrelate⟩ := Link.mem_all.1 hl'
    have hends' : l'.old = i ∨ l'.cand = i := hends.imp (·.trans hold) (·.trans hcand)
    by_cases hname : Link.sameName g b = true
    · -- the names are those of the candidates, so both ends are the same
      left
      have hlt' : l'.old < candidates.length := h.length ▸ (List.getElem?_eq_some_iff.1 hg).1
      have hpath := (h.describes _ g _ hg (List.getElem?_eq_getElem hlt')).path
      have hkey : g.path.fileName? = b.path.fileName? := of_decide_eq_true hname
      have hsame : l'.old = l'.cand :=
        index_eq h.names (List.getElem?_eq_getElem hlt') hb (by rw [← hpath, hkey])
      have hboth : l'.old = i ∧ l'.cand = i := by omega
      obtain ⟨hi, hj⟩ := hboth
      rw [hi] at hg hrelate
      rw [hj] at hb hrelate
      obtain rfl : f = g := Option.some.inj (hf.symm.trans hg)
      obtain rfl : c = b := Option.some.inj (hc.symm.trans hb)
      exact Option.some.inj (hrelate.symm.trans hl)
    · right
      refine score_lt_of_sameName hdescribes hl hrelate (by simpa using hname) ?_
      rcases hends' with hi | hj
      · exact .inl (Option.some.inj ((hi ▸ hg).symm.trans hf))
      · exact .inr (Option.some.inj ((hj ▸ hb).symm.trans hc))
  obtain ⟨hlink, hmatched, _⟩ := linkOf?_of_dominant (Link.score_le hl) hdominant
  rw [hcand] at hlink
  rw [hold] at hmatched
  exact ⟨l, hlink, hold,
    htruncated.trans (not_isTruncated_of_describes policy hdescribes (h.within f (List.mem_of_getElem? hf))),
    hmatched⟩

theorem Mirrors.entry (policy : RotationPolicy) (encoding : Encoding) (h : Mirrors state candidates)
    (hf : state.files[i]? = some f) :
    (resolve policy encoding state candidates).transitions[i]? = some .unchanged ∧
      ∃ seq, (resolve policy encoding state candidates).files[i]? = some { f with seq := seq, copyOf := none } := by
  have hlt : i < candidates.length := h.length ▸ (List.getElem?_eq_some_iff.1 hf).1
  obtain ⟨f', t, hf', ht, hentry⟩ := exists_entry policy encoding state (List.getElem?_eq_getElem hlt)
  have hdescribes := h.describes i f _ hf (List.getElem?_eq_getElem hlt)
  obtain ⟨l, hlink, hold, hcut, _⟩ := h.linkOf? policy hf
  cases hentry with
  | @continued l' old hchosen htracked =>
    obtain rfl : l = l' := Option.some.inj (hlink.symm.trans hchosen)
    rw [hold, hf] at htracked
    obtain rfl := Option.some.inj htracked
    rw [hcut] at hf' ht
    rw [continueFile_of_describes hdescribes] at hf'
    exact ⟨ht, _, hf'⟩
  | copied hunlinked =>
    rw [hlink] at hunlinked
    cases hunlinked
  | new hunlinked =>
    rw [hlink] at hunlinked
    cases hunlinked

theorem Mirrors.rotatedAway (policy : RotationPolicy) (encoding : Encoding) (h : Mirrors state candidates) :
    (resolve policy encoding state candidates).rotatedAway = [] := by
  have hleft : left policy state candidates = [] := by
    rw [left, List.map_eq_nil_iff, List.filter_eq_nil_iff]
    rintro ⟨f, i⟩ hmem
    obtain ⟨_, _, _, _, hmatched⟩ := h.linkOf? policy (List.mem_zipIdx_iff_getElem?.1 hmem)
    simp [hmatched]
  simp [rotatedAway_eq, hleft, bySeq, renumber]

/-- **Tracked files that are the candidates are given back by a resolution**, and nothing is in doubt. -/
theorem Mirrors.resolve (policy : RotationPolicy) (encoding : Encoding) (h : Mirrors state candidates) :
    resolve policy encoding state candidates =
      ⟨state.files, List.replicate candidates.length .unchanged, [], []⟩ := by
  have haway := h.rotatedAway policy encoding
  have hfiles : (Resolution.resolve policy encoding state candidates).files = state.files := by
    refine List.ext_getElem? fun i => ?_
    rcases hi : state.files[i]? with _ | f
    · have hle := List.getElem?_eq_none_iff.1 hi
      rw [h.length, ← length_files policy encoding state candidates] at hle
      exact List.getElem?_eq_none_iff.2 hle
    · obtain ⟨_, seq, hf⟩ := h.entry policy encoding hi
      have hseq := seq_eq i _ (by rw [haway, List.nil_append]; exact hf)
      obtain ⟨hplace, horiginal⟩ := h.numbered i f hi
      rw [hf, show seq = f.seq from hseq.trans hplace.symm, ← horiginal]
  have htransitions : (Resolution.resolve policy encoding state candidates).transitions =
      List.replicate candidates.length .unchanged := by
    refine List.eq_replicate_iff.2 ⟨length_transitions .., fun t ht => ?_⟩
    obtain ⟨i, hi⟩ := List.getElem?_of_mem ht
    obtain ⟨c, _, hc, _, _⟩ := exists_entry_of_transitions hi
    have hlt : i < state.files.length := h.length ▸ (List.getElem?_eq_some_iff.1 hc).1
    exact Option.some.inj (hi.symm.trans (h.entry policy encoding (List.getElem?_eq_getElem hlt)).1)
  have hambiguous : (Resolution.resolve policy encoding state candidates).ambiguous = [] := by
    rw [ambiguous_eq, List.filterMap_eq_nil_iff]
    intro j hj
    -- what is in doubt is new
    obtain ⟨_, _, hnew⟩ := new_of_doubtful encoding hj
    rw [htransitions] at hnew
    cases List.eq_of_mem_replicate (List.mem_of_getElem? hnew)
  rw [← hfiles, ← htransitions, ← haway, ← hambiguous]

end mirrors

end Resolution

/-! ## Files at rest -/

namespace Watcher

variable {watch : Watcher} {useIdentity : Bool} {d : Disk} {s : Reading}

theorem readFile_atRest (finished : Bool) (hchunk : 0 < watch.config.chunkSize)
    (hmax : watch.config.chunkSize ≤ watch.config.maxRecordSize) (hw : s.world.Still d)
    (hopens : s.file.Opens d useIdentity (d.bytesAt s.file.path))
    (hsize : s.file.size = d.sizeAt s.file.path) (hsound : s.file.Sound watch.splitter)
    (hwithin : s.file.processed ≤ s.file.size) {outcome : FileOutcome} {s' : Reading}
    (h : watch.readFile .acceptAll useIdentity finished s = (outcome, s')) :
    s'.world.Still d ∧ (outcome = .budget ∨ (outcome = .done ∨ outcome = .idle) ∧ s.file.SameAs s'.file ∧
      s'.file.processed ≤ s'.file.size ∧ s'.file.AtRest finished) := by
  have hreads := watch.readFile_spec .acceptAll useIdentity finished hchunk hmax hw hopens.readable hsound
  obtain ⟨offers, hattempt⟩ := watch.readFile_attempt .acceptAll useIdentity finished hchunk hsound.inside
  rw [h] at hreads hattempt
  refine ⟨hattempt.later.still hw, ?_⟩
  have hle : s'.file.processed ≤ s'.file.size := by
    rw [hattempt.same.size]
    exact Nat.max_eq_right hwithin ▸ hattempt.processed_le
  have hends := hattempt.ends
  cases hreads with
  | ended hway =>
    refine .inr ⟨hway, hattempt.same, hle, ?_⟩
    rcases hway with rfl | rfl
    · have hthrough := hends.2.1.size_le hw hsize
      rw [← hattempt.same.size] at hthrough
      exact ⟨Nat.sub_eq_zero_of_le hthrough, hends.2.2⟩
    · rw [show s' = s from hends.1]
      exact ⟨hends.2.2.1, hends.2.2.2⟩
  | budget => exact .inl rfl
  | rejected _ _ _ hrefused => cases hrefused

end Watcher

namespace Cycle

section rest
variable {watch : Watcher} {sink : Sink} {useIdentity : Bool} {newest : Nat} {c : Cycle} {d : Disk}

theorem visit_atRest {x : LogFile × Nat} (h : x.1.AtRest (x.2 < newest)) :
    visit watch sink useIdentity newest c x = c.keep x.1 := by
  rcases hhalt : c.halted with _ | _
  · exact visit_idle hhalt (watch.readFile_idle sink useIdentity h)
  · exact visit_waits hhalt x

/-- **A pass over files at rest only keeps them.** -/
theorem visits_idle (sink : Sink) (xs : List (LogFile × Nat)) (h : ∀ x ∈ xs, x.1.AtRest (x.2 < newest)) :
    xs.foldl (visit watch sink useIdentity newest) c = { c with kept := c.kept ++ xs.map (·.1) } := by
  induction xs generalizing c with
  | nil => simp
  | cons x xs ih =>
    rw [List.foldl_cons, visit_atRest (h x (by simp)), ih fun y hy => h y (by simp [hy])]
    simp [keep]

/-- **A pass that halts nowhere leaves files at rest**, with a receiver that accepts everything, on a disk that
stays as it is. -/
theorem visits_atRest (hchunk : 0 < watch.config.chunkSize)
    (hmax : watch.config.chunkSize ≤ watch.config.maxRecordSize) (hw : c.world.Still d)
    (xs : List (LogFile × Nat)) (hxs : ∀ x ∈ xs, x.1.Opens d useIdentity (d.bytesAt x.1.path) ∧
      x.1.size = d.sizeAt x.1.path ∧ x.1.Sound watch.splitter ∧ x.1.processed ≤ x.1.size)
    (hend : (xs.foldl (visit watch .acceptAll useIdentity newest) c).halted = false) :
    ∃ files, (xs.foldl (visit watch .acceptAll useIdentity newest) c).kept = c.kept ++ files ∧
      List.Forall₂ (fun x f => x.1.SameAs f ∧ f.processed ≤ f.size ∧ f.AtRest (x.2 < newest)) xs files := by
  induction xs generalizing c with
  | nil => exact ⟨[], by simp, .nil⟩
  | cons x xs ih =>
    rw [List.foldl_cons] at hend ⊢
    obtain ⟨hopens, hsize, hsound, hwithin⟩ := hxs x (by simp)
    have hgoes : (visit watch .acceptAll useIdentity newest c x).halted = false := by
      rw [← Bool.not_eq_true]
      intro hhalted
      rw [visits_halted _ hhalted] at hend
      rw [hhalted] at hend
      cases hend
    have hhalt : c.halted = false := by
      rw [← Bool.not_eq_true]
      intro hhalted
      rw [visit_waits hhalted, keep, hhalted] at hgoes
      cases hgoes
    obtain ⟨f, hw', hkept, hf⟩ : ∃ f, (visit watch .acceptAll useIdentity newest c x).world.Still d ∧
        (visit watch .acceptAll useIdentity newest c x).kept = c.kept ++ [f] ∧
        x.1.SameAs f ∧ f.processed ≤ f.size ∧ f.AtRest (x.2 < newest) := by
      rcases hread : watch.readFile .acceptAll useIdentity (x.2 < newest) ⟨x.1, c.tracker, c.world⟩ with
        ⟨outcome, s⟩
      have hafter := visit_reads hhalt hread
      obtain ⟨hw', hcases⟩ := watch.readFile_atRest (s := ⟨x.1, c.tracker, c.world⟩) _ hchunk hmax hw hopens
        hsize hsound hwithin hread
      rcases hcases with rfl | ⟨_, hsame, hle, hrest⟩
      · rw [hafter.halted] at hgoes
        cases hgoes
      · exact ⟨s.file, hafter.world ▸ hw', hafter.kept_of_scan, hsame, hle, hrest⟩
    obtain ⟨files, hall, hrest⟩ := ih hw' (fun y hy => hxs y (by simp [hy])) hend
    exact ⟨f :: files, by rw [hall, hkept]; simp, .cons hf hrest⟩

end rest

section runs
variable {watch : Watcher} {sink : Sink} {useIdentity : Bool} {c : Cycle} {d : Disk} {r : Resolution}

theorem run_atRest (hchunk : 0 < watch.config.chunkSize)
    (hmax : watch.config.chunkSize ≤ watch.config.maxRecordSize) (hw : c.world.Still d)
    (hhalt : c.halted = false) (haway : ∀ f ∈ r.rotatedAway, f.Sound watch.splitter)
    (hfiles : ∀ f ∈ r.files, f.Opens d useIdentity (d.bytesAt f.path) ∧
      f.size = d.sizeAt f.path ∧ f.Sound watch.splitter ∧ f.processed ≤ f.size)
    (hend : (run watch .acceptAll useIdentity r c).halted = false) :
    ∃ files, (run watch .acceptAll useIdentity r c).kept = c.kept ++ files ∧
      files.length = r.files.length ∧ ∀ (i : Nat) (f f' : LogFile), r.files[i]? = some f → files[i]? = some f' →
        f.SameAs f' ∧ f'.processed ≤ f'.size ∧ f'.AtRest (i < r.files.length - 1) := by
  obtain ⟨_, away, hdrains⟩ := drains_spec useIdentity hchunk hmax hw hhalt r.rotatedAway haway
  rw [run] at hend ⊢
  generalize r.rotatedAway.foldl (drain watch .acceptAll useIdentity) c = drained at hdrains hend ⊢
  have hgoes : drained.halted = false := by
    rw [← Bool.not_eq_true]
    intro hhalted
    rw [visits_halted _ hhalted] at hend
    rw [hhalted] at hend
    cases hend
  obtain ⟨rfl, _⟩ := hdrains.through hgoes
  have hplaced : ∀ x ∈ r.files.zipIdx, x.1 ∈ r.files := fun x hx =>
    List.mem_of_getElem? (List.mem_zipIdx_iff_getElem?.1 hx)
  obtain ⟨files, hkept, hrest⟩ := visits_atRest hchunk hmax hdrains.still r.files.zipIdx
    (fun x hx => hfiles x.1 (hplaced x hx)) hend
  obtain ⟨hlength, hget⟩ := List.forall₂_iff_get.1 hrest
  rw [List.length_zipIdx] at hlength
  refine ⟨files, by rw [hkept, hdrains.kept, List.append_nil], hlength.symm, ?_⟩
  intro i f f' hf hf'
  obtain ⟨hi, rfl⟩ := List.getElem?_eq_some_iff.1 hf
  obtain ⟨hi', rfl⟩ := List.getElem?_eq_some_iff.1 hf'
  simpa using hget i (by simpa using hi) hi'

theorem run_idle (sink : Sink) (haway : r.rotatedAway = [])
    (hfiles : ∀ (i : Nat) (f : LogFile), r.files[i]? = some f → f.AtRest (i < r.files.length - 1)) :
    run watch sink useIdentity r c = { c with kept := c.kept ++ r.files } := by
  have hrest : ∀ x ∈ r.files.zipIdx, x.1.AtRest (x.2 < r.files.length - 1) := fun x hx =>
    hfiles x.2 x.1 (List.mem_zipIdx_iff_getElem?.1 hx)
  simp only [run, haway, List.foldl_nil]
  rw [visits_idle sink _ hrest, List.zipIdx_map_fst]

end runs

end Cycle

/-! ## The next cycle -/

theorem LogFile.Valid.tidy {config : WatchConfig} {place : Nat} {f : LogFile} (h : f.Valid config place) :
    f.Tidy ⟨config.encoding, config.maxRecordSize⟩ where
  inside := h.inside
  free := Encoding.terminator?_eq_none_iff.2 fun k hk => h.unterminated k hk.feed
  short := by
    have hshort := h.short
    have hskipped := h.skipped
    by_cases hskip : f.skipping = true
    · rw [if_pos hskip]
      exact hskipped hskip
    · rw [if_neg hskip]
      exact hshort.resolve_right fun hno => hskip hno.1
  marked := by
    have hmarked := h.marked
    rw [LogFile.Marked, Bool.eq_iff_iff, hmarked, Bool.not_eq_true', List.isEmpty_eq_false_iff]

theorem LogFile.tidy_of_valid {config : WatchConfig} {files : List LogFile}
    (hvalid : ∀ (i : Nat) (f : LogFile), files[i]? = some f → f.Valid config i) :
    ∀ f ∈ files, f.Tidy ⟨config.encoding, config.maxRecordSize⟩ ∧ f.processed ≤ f.size := fun f hf => by
  obtain ⟨i, hi⟩ := List.getElem?_of_mem hf
  exact ⟨(hvalid i f hi).tidy, (hvalid i f hi).within⟩

/-- A state in which a watch has nothing to do, as long as it finds the same candidates. -/
structure WatchState.Quiescent (state : WatchState) (candidates : List Candidate) : Prop
    extends Resolution.Mirrors state candidates where
  rest : ∀ (i : Nat) (f : LogFile), state.files[i]? = some f → f.AtRest (i < state.files.length - 1)
  started : state.skipOldData = false
  counted : state.processedBytes ≤ Json.wordMax

theorem Resolution.Mirrors.quiescent {state : WatchState} {candidates : List Candidate} {files : List LogFile}
    (h : Resolution.Mirrors state candidates) (hstate : state.files = Resolution.renumber 0 files)
    (hrest : ∀ (i : Nat) (f : LogFile), files[i]? = some f → f.AtRest (i < files.length - 1))
    (hstarted : state.skipOldData = false) (hcounted : state.processedBytes ≤ Json.wordMax) :
    state.Quiescent candidates where
  toMirrors := h
  started := hstarted
  counted := hcounted
  rest i f hf := by
    obtain ⟨g, hg, rfl⟩ := Resolution.exists_of_getElem?_renumber (hstate ▸ hf)
    rw [hstate, Resolution.length_renumber]
    exact ⟨(hrest i g hg).unread, (hrest i g hg).last⟩

namespace Watcher

section fixpoint
variable {config : WatchConfig} {watch : Watcher} {d : Disk} {w w' : World} {state : WatchState} {scan : Scan}

/-- **Where nothing is to be done a cycle does nothing**, whatever happens after its scan. -/
theorem process_quiescent (sink : Sink) (time : CycleTime) (hscan : watch.matcher.scan w = (.ok scan, w'))
    (h : state.Quiescent scan.candidates) :
    watch.process sink time state w =
      .ok ⟨⟨0, 0, 0, false, [], [], [], scan.unreadable, 0⟩, state, [], w'⟩ := by
  have hresolve := h.resolve watch.config.rotation watch.config.encoding
  have hrun : Cycle.run watch sink state.useIdentity
      ⟨state.files, List.replicate scan.candidates.length .unchanged, [], []⟩
      { tracker := watch.opening time, world := w' } =
      { tracker := watch.opening time, world := w', kept := state.files } :=
    Cycle.run_idle sink rfl h.rest
  have hfiles : Resolution.renumber 0 state.files = state.files := by
    refine List.ext_getElem? fun i => ?_
    rw [Resolution.getElem?_renumber]
    rcases hi : state.files[i]? with _ | f
    · rfl
    · obtain ⟨hseq, hcopy⟩ := h.numbered i f hi
      rw [Option.map_some, ← hseq, ← hcopy]
  have hnext : Cycle.nextState { tracker := watch.opening time, world := w', kept := state.files } state =
      state := by
    have hcount : addWord state.processedBytes 0 = state.processedBytes := addWord_of_le h.counted
    simp only [Cycle.nextState, opening, hfiles, Option.map_none, Option.getD_none, hcount]
    rw [← h.started]
  simp only [opening] at hrun hnext
  simp only [process, hscan, hresolve, hrun, hnext]
  rfl

/-- A cycle that accepted everything and did not spend its budget drops what rotated away, and leaves the files of its
scan at rest. -/
theorem atRest_of_process (hbounded : watch.config.Bounded)
    (hvalid : ∀ (i : Nat) (f : LogFile), state.files[i]? = some f → f.Valid watch.config i) {time : CycleTime}
    (hfound : watch.matcher.found d = .ok candidates) (hw' : w'.Still d) {c : Cycle} {first : CycleResult}
    (hran : watch.Ran .acceptAll time state candidates w' c first) (hleft : c.tracker.budget.exhausted = false) :
    ∃ files, first.state.files = Resolution.renumber 0 files ∧
      files.length = (watch.resolution state candidates).files.length ∧
      ∀ (i : Nat) (f f' : LogFile), (watch.resolution state candidates).files[i]? = some f → files[i]? = some f' →
        f.SameAs f' ∧ f'.processed ≤ f'.size ∧
          f'.AtRest (i < (watch.resolution state candidates).files.length - 1) := by
  have htidy := tidy_of_resolution hbounded.chunk_pos hbounded.chunk_le (LogFile.tidy_of_valid hvalid) candidates
  have haway : ∀ f ∈ (watch.resolution state candidates).rotatedAway, f.Sound watch.splitter :=
    fun f hf => (htidy f (List.mem_append_left _ hf)).1.toSound
  have hfiles : ∀ f ∈ (watch.resolution state candidates).files,
      f.Opens d state.useIdentity (d.bytesAt f.path) ∧ f.size = d.sizeAt f.path ∧
        f.Sound watch.splitter ∧ f.processed ≤ f.size := fun f hf =>
    have h := htidy f (List.mem_append_right _ hf)
    ⟨opens_of_mem_files hfound hf state.useIdentity, sizeAt_of_mem_files hfound hf, h.1.toSound, h.2⟩
  obtain ⟨_, _, _, hruns⟩ := hran.runs hbounded.chunk_pos hbounded.chunk_le hw' hfound
    fun f hf => (htidy f hf).1.toSound
  have hgoes : c.halted = false := hruns.not_halted hleft
  obtain ⟨files, hkept, hlength, hrest⟩ := Cycle.run_atRest hbounded.chunk_pos hbounded.chunk_le hw' rfl haway
    hfiles (hran.run ▸ hgoes)
  rw [← hran.run] at hkept
  exact ⟨files, by rw [hran.state]; exact congrArg (Resolution.renumber 0) hkept, hlength, hrest⟩

theorem quiescent_of_process (hbounded : watch.config.Bounded) (hd : d.Proper)
    (hvalid : ∀ (i : Nat) (f : LogFile), state.files[i]? = some f → f.Valid watch.config i) {time : CycleTime}
    (hw : w.Still d) (hscan : watch.matcher.scan w = (.ok scan, w')) {c : Cycle} {first : CycleResult}
    (hran : watch.Ran .acceptAll time state scan.candidates w' c first)
    (hleft : c.tracker.budget.exhausted = false) :
    first.state.Quiescent scan.candidates := by
  obtain ⟨hfound, hw'⟩ := found_of_scan hw hscan
  obtain ⟨files, hnext, hlength, hrest⟩ := atRest_of_process hbounded hvalid hfound hw' hran hleft
  have hrests {i : Nat} {f : LogFile} (hf : files[i]? = some f) :
      f.processed ≤ f.size ∧ f.AtRest (i < files.length - 1) := by
    have hlt : i < (watch.resolution state scan.candidates).files.length :=
      hlength ▸ (List.getElem?_eq_some_iff.1 hf).1
    rw [hlength]
    exact (hrest i _ f (List.getElem?_eq_getElem hlt) hf).2
  have hmirrors : Resolution.Mirrors first.state scan.candidates := by
    refine Resolution.mirrors_renumber hnext (hlength.trans (Resolution.length_files ..))
      (Matcher.nodup_names (hw.proper hd) hscan) (fun i f c hf hc => ?_) fun f hf => ?_
    · obtain ⟨c', hc', hdescribes⟩ :=
        Resolution.describes_of_same hlength (fun i f f' h h' => (hrest i f f' h h').1) hf
      rwa [Option.some.inj (hc.symm.trans hc')]
    · obtain ⟨i, hi⟩ := List.getElem?_of_mem hf
      exact (hrests hi).1
  exact hmirrors.quiescent hnext (fun i f hf => (hrests hf).2) (by rw [hran.state]; rfl)
    (by rw [hran.state]; exact addWord_le ..)

/-- **A completed cycle is a fixpoint.** After a cycle that accepted everything and did not spend its budget, the
next one over the same disk finds every file unchanged and nothing to read, and leaves the state as it is. -/
theorem process_fixpoint (hconfig : Watcher.ofConfig config = .ok watch) (hd : d.Proper)
    (hvalid : ∀ (i : Nat) (f : LogFile), state.files[i]? = some f → f.Valid config i) {time : CycleTime}
    (hw : w.Still d) {first : CycleResult} (hfirst : watch.process .acceptAll time state w = .ok first)
    (hleft : (watch.closing .acceptAll time state w).exhausted = false)
    (sink : Sink) (time' : CycleTime) (hw' : w'.Still d) :
    ∃ candidates second, watch.matcher.found d = .ok candidates ∧
      (watch.resolution first.state candidates).transitions = List.replicate candidates.length .unchanged ∧
      watch.process sink time' first.state w' = .ok second ∧ second.offers = [] ∧
      second.report = ⟨0, 0, 0, false, [], [], [], first.report.unreadable, 0⟩ ∧
      second.state = first.state := by
  obtain ⟨rfl, hbounded, _⟩ := ofConfig_ok hconfig
  obtain ⟨scan, w₁, c, hscan, hran⟩ := of_process hfirst
  obtain ⟨answer, hsteady, _⟩ := watch.matcher.scan_still d
  obtain ⟨w₂, _, hscan₂⟩ := hsteady w hw
  obtain ⟨w₃, _, hscan'⟩ := hsteady w' hw'
  obtain rfl : answer = .ok scan := congrArg Prod.fst (hscan₂.symm.trans hscan)
  rw [closing_eq hscan hran] at hleft
  have hquiescent := quiescent_of_process hbounded hd hvalid hw hscan hran hleft
  have hunreadable : first.report.unreadable = scan.unreadable := by
    rw [process, hscan] at hfirst
    cases hfirst
    rfl
  refine ⟨scan.candidates, _, (found_of_scan hw hscan).1, ?_,
    process_quiescent sink time' hscan' hquiescent, rfl, by rw [hunreadable], rfl⟩
  rw [resolution, hquiescent.resolve]

end fixpoint

/-- By content: what is left of a file that rotated away is read, and then a file with a record that may go on. -/
theorem process_fixpoint_begun :
    let watch := logWatch "a" 100 0 rfl
    let disk := logDisk [([0x62], [0x70, 0x0a, 0x71]), ([0x61], [0x72, 0x0a, 0x73])]
    let state : WatchState := { files := [⟨.ofText "/log/b", 0, .ofNumber 2, 2, 2, .of [0x70, 0x0a], 0, 0, false, [],
      false, none⟩] }
    ∃ first second, watch.process .acceptAll {} state (.quiet disk) = .ok first ∧
      first.offers.map (·.delivery.value) = ["q", "r"] ∧ first.state.files.map (·.tail) = [[0x73]] ∧
      watch.process .acceptAll {} first.state (.quiet disk) = .ok second ∧ second.offers = [] ∧
      second.state = first.state := by
  intro watch disk state
  obtain ⟨first, hfirst, hresult⟩ := ok_of_any (x := watch.process .acceptAll {} state (.quiet disk))
    (p := fun first => decide (first.offers.map (·.delivery.value) = ["q", "r"] ∧
      first.state.files.map (·.tail) = [[0x73]])) (by decide +kernel)
  obtain ⟨hoffers, htails⟩ := of_decide_eq_true hresult
  have hproper : disk.Proper := logDisk_proper (by decide) fun f hf => by
    simp only [List.mem_cons, List.not_mem_nil, or_false] at hf
    rcases hf with rfl | rfl <;> exact ⟨by decide, by decide, by decide, by decide⟩
  have hvalid (i : Nat) (f : LogFile) (hf : state.files[i]? = some f) : f.Valid (logConfig "a" 100 0) i := by
    obtain ⟨rfl, rfl⟩ : i = 0 ∧ _ = f := by simpa [state, List.getElem?_singleton] using hf
    exact ⟨by decide, by decide, by decide, fun k => by simp [Encoding.unitAt]; decide, .inl (by decide),
      by decide, rfl, rfl⟩
  have hconfig : Watcher.ofConfig (logConfig "a" 100 0) = .ok watch := rfl
  obtain ⟨_, second, _, _, hsecond, hnone, _, hstate⟩ := process_fixpoint hconfig hproper hvalid
    (World.still_quiet disk) hfirst (by decide +kernel) .acceptAll {} (World.still_quiet disk)
  exact ⟨first, second, hfirst, hoffers, htails, hsecond, hnone, hstate⟩

end Watcher

end LogTail
