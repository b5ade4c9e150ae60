import LogTail.Proofs.Pending
import LogTail.Proofs.Representation

/-!
# Cold starts

A position stands for the files of a state: how far the file that was processed last was read, and its time.
`Watcher.cold_start` says what a start from the position alone makes of the files that a cycle left: of each no
more than was read of it, with one exception. A second may have seen several files change. If the cycle halted at
one of them, a file behind it that it never came to may be taken for the one that the position is of
(`Watcher.cold_start_mistaken`).
-/

namespace LogTail

/-! ## The position of a state -/

/-- What is left of a state without its files. -/
def WatchState.position (s : WatchState) : WatchState := { s with files := [] }

namespace Resolution

section position
variable {state : WatchState} {candidates : List Candidate} {i : Nat} {c : Candidate}

theorem resumedAt?_eq_some (h : resumedAt? state candidates = some i) (hc : candidates[i]? = some c) :
    c.mtime = state.lastMtime ∧ state.lastSize ≤ c.size ∧
      ∀ (j : Nat) (b : Candidate), i < j → candidates[j]? = some b → b.mtime = state.lastMtime →
        b.size < state.lastSize := by
  unfold resumedAt? at h
  by_cases hresuming : isResuming state = true
  · rw [if_pos hresuming, Option.map_eq_some_iff] at h
    obtain ⟨⟨c', i'⟩, hfind, rfl⟩ := h
    obtain ⟨hfits, after, before, hsplit, hafter⟩ := List.find?_eq_some_iff_append.1 hfind
    simp only [Bool.and_eq_true, decide_eq_true_eq] at hfits
    have hmem : (c', i') ∈ candidates.zipIdx := by
      rw [← List.mem_reverse, hsplit]
      simp
    obtain rfl : c = c' := Option.some.inj (hc.symm.trans (List.mem_zipIdx_iff_getElem?.1 hmem))
    refine ⟨hfits.1, hfits.2, fun j b hj hb hmtime => ?_⟩
    -- the places go down, so what stands at a later one was tried before
    have hdown : candidates.zipIdx.reverse.Pairwise fun a b => b.2 < a.2 := by
      rw [List.pairwise_reverse, ← List.pairwise_map (f := Prod.snd) (R := (· < ·)), List.zipIdx_map_snd]
      exact List.pairwise_lt_range'
    rw [hsplit, List.pairwise_append, List.pairwise_cons] at hdown
    have hlate : (b, j) ∈ after ++ (c, i') :: before := by
      rw [← hsplit, List.mem_reverse]
      exact List.mem_zipIdx_iff_getElem?.2 hb
    rw [List.mem_append, List.mem_cons] at hlate
    rcases hlate with hlate | heq | hlate
    · have hnot := hafter _ hlate
      simp only [hmtime, decide_true, Bool.true_and, Bool.not_eq_true', decide_eq_false_iff_not] at hnot
      exact Nat.lt_of_not_le hnot
    · cases heq
      exact absurd hj (Nat.lt_irrefl _)
    · exact absurd (hdown.2.1.1 _ hlate) (Nat.lt_asymm hj)
  · rw [if_neg hresuming] at h
    cases h

/-- No start lies past the end, and of what lies past the beginning either the file is older than the position, or
the position is its own. -/
theorem startOf_cases (state : WatchState) (hskip : state.skipOldData = false) (hc : candidates[i]? = some c) :
    startOf state (resumedAt? state candidates) c i ≤ c.size ∧
      (startOf state (resumedAt? state candidates) c i = 0 ∨ c.mtime < state.lastMtime ∨
        resumedAt? state candidates = some i ∧
          startOf state (resumedAt? state candidates) c i = state.lastSize) := by
  rw [startOf, hskip, if_neg Bool.false_ne_true]
  by_cases hresumed : resumedAt? state candidates = some i
  · rw [if_pos hresumed]
    exact ⟨(resumedAt?_eq_some hresumed hc).2.1, .inr (.inr ⟨hresumed, rfl⟩)⟩
  · rw [if_neg hresumed]
    by_cases hold : (isResuming state && decide (c.mtime < state.lastMtime)) = true
    · rw [if_pos hold]
      simp only [Bool.and_eq_true, decide_eq_true_eq] at hold
      exact ⟨Nat.le_refl _, .inr (.inl hold.2)⟩
    · rw [if_neg hold]
      exact ⟨Nat.zero_le _, .inl rfl⟩

theorem startOf_le_lastSize (state : WatchState) (hskip : state.skipOldData = false) (hc : candidates[i]? = some c)
    (htime : c.mtime = state.lastMtime) :
    startOf state (resumedAt? state candidates) c i ≤ state.lastSize := by
  rcases (startOf_cases state hskip hc).2 with hzero | hold | ⟨-, hresumed⟩
  · rw [hzero]
    exact Nat.zero_le _
  · rw [htime] at hold
    exact absurd hold (Int.lt_irrefl _)
  · exact Nat.le_of_eq hresumed

theorem startOf_behind (state : WatchState) (hskip : state.skipOldData = false)
    (hordered : candidates.Pairwise fun a b => a.mtime ≤ b.mtime) {k : Nat} {a : Candidate} (hk : k < i)
    (ha : candidates[k]? = some a) (htime : a.mtime = state.lastMtime) (hc : candidates[i]? = some c) :
    startOf state (resumedAt? state candidates) c i = 0 ∨
      resumedAt? state candidates = some i ∧
        startOf state (resumedAt? state candidates) c i = state.lastSize := by
  refine (startOf_cases state hskip hc).2.imp_right fun hcases => hcases.resolve_left fun hold => ?_
  obtain ⟨hka, rfl⟩ := List.getElem?_eq_some_iff.1 ha
  obtain ⟨hic, rfl⟩ := List.getElem?_eq_some_iff.1 hc
  have hle := List.pairwise_iff_getElem.1 hordered k i hka hic hk
  exact absurd hold (Int.not_lt.2 (htime ▸ hle))

/-- **From a position alone all candidates are new**, and reading starts where the position says. -/
theorem files_position (state : WatchState) (policy : RotationPolicy) (encoding : Encoding)
    (hc : candidates[i]? = some c) :
    (resolve policy encoding state.position candidates).files[i]? =
      some { track c i with processed := startOf state.position (resumedAt? state.position candidates) c i } := by
  have haway : (resolve policy encoding state.position candidates).rotatedAway = [] := by
    rw [rotatedAway_eq]
    simp [left, WatchState.position, bySeq, renumber]
  obtain ⟨f, t, hf, _, hentry⟩ := exists_entry policy encoding state.position hc
  rw [hf]
  cases hentry with
  | continued _ tracked => cases tracked
  | copied _ _ tracked => cases tracked
  | new => rw [haway, List.length_nil, Nat.zero_add]

end position

end Resolution

/-! ## What a cycle leaves of the files of its scan -/

namespace Cycle

section passed
variable {watch : Watcher} {d : Disk} {p : Part} {ps : List Part} {c c' : Cycle} {files : List LogFile}
  {goOn : List (List LogFile)}

theorem Dealt.passed (h : Dealt watch d p c files c') (hscanned : p.scanned = true)
    (hsize : p.file.size = d.sizeAt p.file.path) (hgoes : c.halted = false) :
    c.stalled <+: c'.stalled ∧ c.readErrors <+: c'.readErrors ∧ ∃ f, files = [f] ∧ p.file.SameAs f ∧
      (c'.stalled = [] → c'.readErrors = [] → if c'.halted then c'.lastProcessed = some (f.tailStart, f.mtime)
        else f.unread = 0) := by
  cases h with
  | waits hhalted =>
    rw [hgoes] at hhalted
    cases hhalted
  | gone haway =>
    rw [hscanned] at haway
    cases haway
  | @read s s' offers outcome c' _ hfile _ hstill _ hattempt _ hafter =>
    rw [LogFile.sized_of_size hsize] at hfile
    refine ⟨hafter.stalled ▸ List.prefix_append .., hafter.readErrors ▸ List.prefix_append .., s'.file, ?_,
      hfile ▸ hattempt.same, fun hstalled herrors => ?_⟩
    · rw [hscanned, Bool.true_or, if_pos rfl]
    rw [hafter.stalled, List.append_eq_nil_iff] at hstalled
    rw [hafter.readErrors, List.append_eq_nil_iff] at herrors
    have hends := hattempt.ends
    rw [hafter.halted, hafter.lastProcessed, hscanned]
    cases outcome with
    | done =>
      have hle := hends.2.1.size_le hstill (hfile ▸ hsize)
      rw [← hattempt.same.size] at hle
      exact Nat.sub_eq_zero_of_le hle
    | idle =>
      rw [show s' = s from hends.1]
      exact hends.2.2.1
    | budget => rfl
    | rejected =>
      by_cases hretry : s'.file.retry ≤ watch.config.maxRetries
      · simp [hretry]
      · exact absurd hstalled.2 (by simp [Nat.lt_of_not_le hretry])
    | failed => cases herrors.2

theorem Dealt.waits_of_halted (h : Dealt watch d p c files c') (hhalted : c.halted = true) :
    files = [p.file] ∧ c' = c.keep p.file := by
  cases h with
  | waits => exact ⟨rfl, rfl⟩
  | gone _ hgoes =>
    rw [hhalted] at hgoes
    cases hgoes
  | read hgoes =>
    rw [hhalted] at hgoes
    cases hgoes

theorem Deals.waits_of_halted (h : Deals watch d ps c goOn c') (hhalted : c.halted = true) :
    goOn = ps.map (fun p => [p.file]) ∧ c'.stalled = c.stalled ∧ c'.readErrors = c.readErrors ∧
      c'.lastProcessed = c.lastProcessed := by
  induction h with
  | nil => exact ⟨rfl, rfl, rfl, rfl⟩
  | cons hdealt _ ih =>
    obtain ⟨rfl, rfl⟩ := hdealt.waits_of_halted hhalted
    obtain ⟨rfl, hstalled, herrors, hlast⟩ := ih hhalted
    exact ⟨rfl, hstalled, herrors, hlast⟩

/-- What the steps with the files of a scan leave of them, if none stalled and all could be read: they have
nothing to read, up to the one at which the cycle halted; the position is of that one, and those behind it are
as they were. -/
inductive Passed (last : Option (Nat × Int)) : List LogFile → List LogFile → Prop
  | nil : Passed last [] []
  | through {f f' : LogFile} {fs fs' : List LogFile} (same : f.SameAs f') (read : f'.unread = 0)
    (passed : Passed last fs fs') : Passed last (f :: fs) (f' :: fs')
  | halts {f f' : LogFile} (same : f.SameAs f') (position : last = some (f'.tailStart, f'.mtime))
    (behind : List LogFile) : Passed last (f :: behind) (f' :: behind)

/-- **The files of a scan are passed one after the other.** -/
theorem Deals.passed (h : Deals watch d ps c goOn c')
    (hps : ∀ p ∈ ps, p.scanned = true ∧ p.file.size = d.sizeAt p.file.path) (hgoes : c.halted = false) :
    c.stalled <+: c'.stalled ∧ c.readErrors <+: c'.readErrors ∧
      (c'.stalled = [] → c'.readErrors = [] →
        Passed c'.lastProcessed (ps.map Part.file) goOn.flatten) := by
  induction h with
  | nil => exact ⟨List.prefix_rfl, List.prefix_rfl, fun _ _ => .nil⟩
  | @cons p ps c c₁ c' files rest hdealt hdeals ih =>
    obtain ⟨hscanned, hsize⟩ := hps p (by simp)
    obtain ⟨hstalls, herrs, f, rfl, hsame, hend⟩ := hdealt.passed hscanned hsize hgoes
    by_cases hhalted : c₁.halted = true
    · obtain ⟨rfl, hstalled, herrors, hlast⟩ := hdeals.waits_of_halted hhalted
      rw [hstalled, herrors, hlast]
      refine ⟨hstalls, herrs, fun hs he => ?_⟩
      have hposition := hend hs he
      rw [if_pos hhalted] at hposition
      rw [List.flatten_cons, ← List.flatMap_def, ← List.map_eq_flatMap]
      exact .halts hsame hposition _
    · rw [Bool.not_eq_true] at hhalted
      obtain ⟨hstalls', herrs', hrest⟩ := ih (fun q hq => hps q (by simp [hq])) hhalted
      refine ⟨hstalls.trans hstalls', herrs.trans herrs', fun hs he => ?_⟩
      have hread := hend (List.prefix_nil.1 (hs ▸ hstalls')) (List.prefix_nil.1 (he ▸ herrs'))
      rw [hhalted, if_neg Bool.false_ne_true] at hread
      exact .through hsame hread (hrest hs he)

theorem Deals.halted_of_flatten (h : Deals watch d ps c goOn c') (hgoes : c.halted = false)
    (hnone : goOn.flatten = []) : c'.halted = false := by
  induction h with
  | nil => exact hgoes
  | @cons p ps c c₁ c' files rest hdealt hdeals ih =>
    rw [List.flatten_cons, List.append_eq_nil_iff] at hnone
    refine ih ?_ hnone.2
    cases hdealt with
    | waits => cases hnone.1
    | gone _ _ _ _ _ hhalted => exact hhalted
    | read =>
      have hfiles := hnone.1
      rw [← Bool.not_eq_true]
      intro hhalted
      rw [hhalted, Bool.or_true, if_pos rfl] at hfiles
      cases hfiles

end passed

section places
variable {last : Option (Nat × Int)} {fs fs' : List LogFile}

theorem Passed.length (h : Passed last fs fs') : fs'.length = fs.length := by
  induction h with
  | nil => rfl
  | through _ _ _ ih => simp [ih]
  | halts => rfl

theorem Passed.cases_getElem? (h : Passed last fs fs') {i : Nat} {f' : LogFile} (hf : fs'[i]? = some f') :
    ∃ f, fs[i]? = some f ∧ f.SameAs f' ∧ (f'.unread = 0 ∨ last = some (f'.tailStart, f'.mtime) ∨
      f' = f ∧ ∃ (k : Nat) (g : LogFile), k < i ∧ fs'[k]? = some g ∧ last = some (g.tailStart, g.mtime) ∧
        fs'.drop (k + 1) = fs.drop (k + 1)) := by
  induction h generalizing i with
  | nil => cases hf
  | @through g g' gs gs' hsame hread _ ih =>
    cases i with
    | zero =>
      obtain rfl : g' = f' := by simpa using hf
      exact ⟨g, rfl, hsame, .inl hread⟩
    | succ i =>
      obtain ⟨f, hf, hsame, hcases⟩ := ih (by simpa using hf)
      refine ⟨f, by simpa using hf, hsame, hcases.imp_right (.imp_right ?_)⟩
      rintro ⟨rfl, k, b, hk, hb, hlast, hdrop⟩
      exact ⟨rfl, k + 1, b, by omega, by simpa using hb, hlast, by simpa using hdrop⟩
  | @halts g g' hsame hlast behind =>
    cases i with
    | zero =>
      obtain rfl : g' = f' := by simpa using hf
      exact ⟨g, rfl, hsame, .inr (.inl hlast)⟩
    | succ i =>
      exact ⟨f', by simpa using hf, rfl, .inr (.inr ⟨rfl, 0, g', by omega, rfl, hlast, rfl⟩)⟩

end places

end Cycle

namespace Watcher

section coldStart
variable {config : WatchConfig} {watch : Watcher} {sink : Sink} {time : CycleTime} {state : WatchState} {d : Disk}
  {w : World} {candidates : List Candidate} {result : CycleResult}

/-- After a cycle in which no file stalled, none failed, and that did not halt at a file that rotated away, the files
of the scan have been passed. -/
theorem passed_of_process (hbounded : watch.config.Bounded)
    (hfiles : ∀ f ∈ state.files, f.tail.length ≤ f.processed ∧ f.processed ≤ f.size) (hw : w.Still d)
    (hprocess : watch.process sink time state w = .ok result) (hfound : watch.matcher.found d = .ok candidates)
    (hstalled : result.report.stalled = []) (herrors : result.report.readErrors = [])
    (haway : result.state.files.length = candidates.length) :
    ∃ last files, Cycle.Passed last (watch.resolution state candidates).files files ∧
      result.state.files = Resolution.renumber 0 files ∧
      result.state.lastSize = (last.map (·.1)).getD state.lastSize ∧
      result.state.lastMtime = (last.map (·.2)).getD state.lastMtime ∧ result.state.skipOldData = false := by
  obtain ⟨scan, w', cycle, hscan, hran⟩ := of_process hprocess
  obtain ⟨hfound', hw'⟩ := found_of_scan hw hscan
  obtain rfl : candidates = scan.candidates := Except.ok.inj (hfound.symm.trans hfound')
  have hsized : ∀ f ∈ (watch.resolution state scan.candidates).files, f.size = d.sizeAt f.path := fun f hf =>
    sizeAt_of_mem_files hfound hf
  obtain ⟨drained, away, goOn, hdrains, hvisits⟩ := Cycle.run_deals sink state.useIdentity hbounded.chunk_pos
    (c := { tracker := watch.opening time, world := w' }) hw' (r := watch.resolution state scan.candidates)
    (Resolution.resolve_inside _ _ scan.candidates fun f hf => (hfiles f hf).1)
    (fun f hf => ⟨Resolution.resolve_within (fun f hf => (hfiles f hf).2) f (List.mem_append_right _ hf),
      hsized f hf⟩)
  rw [← hran.run] at hvisits
  have hkept : cycle.kept = away.flatten ++ goOn.flatten := by
    rw [hvisits.kept, hdrains.kept]
    rfl
  have hstate : result.state.files = Resolution.renumber 0 cycle.kept := by
    rw [hran.state]
    rfl
  -- the files of the scan account for all that goes on, so the cycle did not halt before them
  have hnone : away.flatten = [] := by
    obtain ⟨files, hfiles, hlength, _⟩ := hvisits.scan hsized
    rw [hstate, Resolution.length_renumber, hkept, List.length_append] at haway
    have hgoOn := List.append_cancel_left (hvisits.kept.symm.trans hfiles)
    rw [hgoOn, hlength, resolution, Resolution.length_files] at haway
    exact List.length_eq_zero_iff.1 (by omega)
  have hgoes := hdrains.halted_of_flatten rfl hnone
  obtain ⟨hstalled', herrors', -⟩ := hran.reports hscan hprocess
  have hpassed := (hvisits.passed (fun p hp => by
    obtain ⟨x, hx, rfl⟩ := List.mem_map.1 hp
    exact ⟨rfl, hsized x.1 (List.mem_of_getElem? (List.mem_zipIdx_iff_getElem?.1 hx))⟩) hgoes).2.2
      (hstalled' ▸ hstalled) (herrors' ▸ herrors)
  have hparts : ((watch.resolution state scan.candidates).files.zipIdx.map (Cycle.Part.ofScan
      ((watch.resolution state scan.candidates).files.length - 1))).map Cycle.Part.file =
        (watch.resolution state scan.candidates).files := by
    rw [List.map_map, show Cycle.Part.file ∘ Cycle.Part.ofScan _ = Prod.fst from rfl, List.zipIdx_map_fst]
  rw [hparts] at hpassed
  refine ⟨cycle.lastProcessed, goOn.flatten, hpassed, ?_, ?_, ?_, ?_⟩
  · rw [hstate, hkept, hnone, List.nil_append]
  · rw [hran.state]
    rfl
  · rw [hran.state]
    rfl
  · rw [hran.state]
    rfl

theorem describes_of_passed {last : Option (Nat × Int)} {files : List LogFile}
    (h : Cycle.Passed last (watch.resolution state candidates).files files) {j : Nat} {b : LogFile}
    (hb : files[j]? = some b) : ∃ c, candidates[j]? = some c ∧ b.Describes c := by
  obtain ⟨b₀, hb₀, hsame, _⟩ := h.cases_getElem? hb
  obtain ⟨c, hc, horigin⟩ := Resolution.origin_of_files hb₀
  exact ⟨c, hc, hsame.describes horigin.describes⟩

theorem exists_passed {last : Option (Nat × Int)} {files : List LogFile}
    (h : Cycle.Passed last (watch.resolution state candidates).files files) {i : Nat} {c : Candidate}
    (hc : candidates[i]? = some c) : ∃ f, files[i]? = some f ∧ f.Describes c := by
  have hlength : files.length = candidates.length := h.length.trans (Resolution.length_files ..)
  have hf := List.getElem?_eq_getElem (l := files) (hlength ▸ (List.getElem?_eq_some_iff.1 hc).1)
  obtain ⟨c', hc', hdescribes⟩ := describes_of_passed h hf
  obtain rfl : c = c' := Option.some.inj (hc.symm.trans hc')
  exact ⟨_, hf, hdescribes⟩

/-- **A cold start takes no unread data for read**, but for one file. After a cycle over a disk that stays as it is,
in which no file stalled, none failed, and the cycle did not halt at a file that rotated away, a resolution from the
position alone starts each candidate no later than its tail begins or, if it was read to its end, no later than it
was read. The exception is a candidate behind the file at which the cycle halted: if it is the last of the same
second that reaches as far as that file was read, it starts where that one is to go on. Of the tracked files only
that the tails lie before the offsets and these within the sizes is needed. -/
theorem cold_start (hconfig : Watcher.ofConfig config = .ok watch)
    (hfiles : ∀ f ∈ state.files, f.tail.length ≤ f.processed ∧ f.processed ≤ f.size) (hw : w.Still d)
    (hprocess : watch.process sink time state w = .ok result) (hfound : watch.matcher.found d = .ok candidates)
    (hstalled : result.report.stalled = []) (herrors : result.report.readErrors = [])
    (haway : result.state.files.length = candidates.length)
    {i : Nat} {c : Candidate} (hc : candidates[i]? = some c) :
    ∃ f g, result.state.files[i]? = some f ∧ f.path = c.path ∧
      (watch.resolution result.state.position candidates).files[i]? = some g ∧ g.path = c.path ∧
      (g.processed ≤ f.tailStart ∨ f.unread = 0 ∧ g.processed ≤ f.processed ∨
        ∃ k h, k < i ∧ result.state.files[k]? = some h ∧ h.mtime = f.mtime ∧ g.processed = h.tailStart ∧
          h.tailStart ≤ f.size ∧
          (∀ j b, i < j → result.state.files[j]? = some b → b.mtime = f.mtime → b.size < h.tailStart) ∧
          ∀ j b, k < j → result.state.files[j]? = some b →
            ∃ a, (watch.resolution state candidates).files[j]? = some a ∧
              Resolution.plain b = Resolution.plain a) := by
  obtain ⟨rfl, hbounded, _⟩ := ofConfig_ok hconfig
  obtain ⟨last, files, hpassed, hstate, hsize, htime, hskip⟩ :=
    passed_of_process hbounded hfiles hw hprocess hfound hstalled herrors haway
  have hat (j : Nat) : result.state.files[j]? = files[j]?.map fun f => { f with seq := j, copyOf := none } := by
    rw [hstate, Resolution.getElem?_renumber]
  obtain ⟨f, hf, hdescribes⟩ := exists_passed hpassed hc
  have hg := Resolution.files_position result.state watch.config.rotation watch.config.encoding hc
  refine ⟨{ f with seq := i, copyOf := none }, _, by rw [hat, hf, Option.map_some], hdescribes.path, hg, rfl, ?_⟩
  show Resolution.startOf .. ≤ f.tailStart ∨ f.unread = 0 ∧ Resolution.startOf .. ≤ f.processed ∨ _
  obtain ⟨-, -, -, hread | hlast | ⟨-, k, h, hk, hh, hlast, hbehind⟩⟩ := hpassed.cases_getElem? hf
  · right; left
    refine ⟨hread, Nat.le_trans (Resolution.startOf_cases result.state.position hskip hc).1 ?_⟩
    rw [← hdescribes.size]
    exact Nat.le_of_sub_eq_zero hread
  · -- the position is the file's own
    rw [hlast] at hsize htime
    left
    exact Nat.le_trans (Resolution.startOf_le_lastSize result.state.position hskip hc
      (hdescribes.mtime.symm.trans htime.symm)) (Nat.le_of_eq hsize)
  · rw [hlast] at hsize htime
    obtain ⟨a, ha, hdescribes'⟩ := describes_of_passed hpassed hh
    rcases Resolution.startOf_behind result.state.position hskip (Matcher.found_ordered hfound) hk ha
      (hdescribes'.mtime.symm.trans htime.symm) hc with hzero | ⟨hresumes, hresumed⟩
    · left
      rw [hzero]
      exact Nat.zero_le _
    · right; right
      obtain ⟨hsame, hreaches, hlater⟩ := Resolution.resumedAt?_eq_some hresumes hc
      rw [show result.state.position.lastMtime = h.mtime from htime] at hsame hlater
      rw [show result.state.position.lastSize = h.tailStart from hsize] at hreaches hlater hresumed
      refine ⟨k, { h with seq := k, copyOf := none }, hk, by rw [hat, hh, Option.map_some],
        (hdescribes.mtime.trans hsame).symm, hresumed, hdescribes.size ▸ hreaches, fun j b hj hb hmtime => ?_,
        fun j b hj hb => ?_⟩
      · rw [hat, Option.map_eq_some_iff] at hb
        obtain ⟨b, hb, rfl⟩ := hb
        obtain ⟨c', hc', hdescribes'⟩ := describes_of_passed hpassed hb
        have hlt := hlater j c' hj hc' (by rw [← hdescribes'.mtime, show b.mtime = f.mtime from hmtime,
          hdescribes.mtime, hsame])
        rwa [← hdescribes'.size] at hlt
      · rw [hat, Option.map_eq_some_iff] at hb
        obtain ⟨b, hb, rfl⟩ := hb
        have hsplit : j = k + 1 + (j - (k + 1)) := by omega
        rw [hsplit, ← List.getElem?_drop, hbehind, List.getElem?_drop, ← hsplit] at hb
        exact ⟨b, hb, rfl⟩

end coldStart

/-! ## Two files of one second -/

/-- A budget of one record, and two files that changed in the same second. -/
def twinWatch : Watcher := logWatch "b|a" 1 0 (by decide +kernel)

def twinDisk : Disk :=
  let d := logDisk [([0x62], [0x70, 0x0a, 0x71, 0x0a]), ([0x61], [0x72, 0x0a, 0x73, 0x0a])]
  { d with nodes := d.nodes.map fun n => (n.1, { n.2 with modified := ⟨5, 0⟩ }) }

def twins : List Candidate :=
  [⟨.ofText "/log/b", 4, 5, .ofNumber 2, [0x70, 0x0a, 0x71, 0x0a]⟩,
    ⟨.ofText "/log/a", 4, 5, .ofNumber 3, [0x72, 0x0a, 0x73, 0x0a]⟩]

theorem found_twins : twinWatch.matcher.found twinDisk = .ok twins := by
  have hlist : twinDisk.list (.ofText "/log") = .ok [[0x62], [0x61]] := by decide +kernel
  have hnames : ([[0x62], [0x61]].filterMap (twinWatch.matcher.candidateNamed? twinDisk (.ofText "/log")
      ((Pattern.compile? "b|a").get (by decide +kernel)))).insertionSort (fun a b => Matcher.precedes a b = true) =
        twins := by
    decide +kernel
  simp only [Matcher.found, twinWatch, logWatch, hlist]
  rw [mergeSort_eq_insertionSort Matcher.precedes_trans Matcher.precedes_total]
  exact congrArg Except.ok hnames

/-- The file at which a cycle halted goes on where it was left, also from the position alone. -/
theorem cold_start_halted : ∃ result f g,
    twinWatch.process .acceptAll {} (.fresh false) (.quiet twinDisk) = .ok result ∧
      result.state.files[0]? = some f ∧ f.path = .ofText "/log/b" ∧
      (twinWatch.resolution result.state.position twins).files[0]? = some g ∧
      (g.processed ≤ f.tailStart ∨ f.unread = 0 ∧ g.processed ≤ f.processed) := by
  have hsort : @Matcher.inOrder = _ := funext Matcher.inOrder_eq_insertionSort
  obtain ⟨result, hprocess, hresult⟩ := ok_of_any
    (x := twinWatch.process .acceptAll {} (.fresh false) (.quiet twinDisk))
    (p := fun result => decide (result.report.stalled = [] ∧ result.report.readErrors = [] ∧
      result.state.files.length = twins.length))
    (by unfold Watcher.process Matcher.scan; rw [hsort]; decide +kernel)
  obtain ⟨hstalled, herrors, haway⟩ := of_decide_eq_true hresult
  have hconfig : Watcher.ofConfig (logConfig "b|a" 1 0) = .ok twinWatch := rfl
  obtain ⟨f, g, hf, hpath, hg, _, hcases⟩ := cold_start (i := 0) hconfig
    (fun f hf => absurd hf (by simp [WatchState.fresh])) (World.still_quiet twinDisk) hprocess found_twins hstalled
    herrors haway rfl
  refine ⟨result, f, g, hprocess, hf, hpath, hg, ?_⟩
  rcases hcases with hstart | hread | ⟨k, _, hk, _⟩
  · exact .inl hstart
  · exact .inr hread
  · exact absurd hk (Nat.not_lt_zero k)

/-- A cold start takes for read what a cycle left unread of a file. -/
structure Skips (config : WatchConfig) (watch : Watcher) (state : WatchState) (d : Disk)
    (candidates : List Candidate) (result : CycleResult) : Prop where
  configured : Watcher.ofConfig config = .ok watch
  valid : ∀ (i : Nat) (f : LogFile), state.files[i]? = some f → f.Valid config i
  found : watch.matcher.found d = .ok candidates
  ran : watch.process .acceptAll {} state (.quiet d) = .ok result
  stalled : result.report.stalled = []
  readErrors : result.report.readErrors = []
  positioned : 0 < result.state.lastMtime
  skips : ∃ f ∈ result.state.files, ∃ g ∈ (watch.resolution result.state.position candidates).files,
    f.path = g.path ∧ f.tailStart < g.processed ∧ 0 < f.unread

/-- **A cold start can skip unread data**: of a file that changed in the same second as the one at which the cycle
halted, though none rotated away; and of one that changed before a file at which the cycle halted and that rotated
away, though no two of the scan changed in the same second. -/
theorem cold_start_mistaken :
    (∃ config watch state d candidates result, Skips config watch state d candidates result ∧
      result.state.files.length = candidates.length) ∧
    ∃ config watch state d candidates result, Skips config watch state d candidates result ∧
      (candidates.map Candidate.mtime).Nodup := by
  have hsort : @Matcher.inOrder = _ := funext Matcher.inOrder_eq_insertionSort
  refine ⟨⟨logConfig "b|a" 1 0, twinWatch, .fresh false, twinDisk, twins, ?_⟩, ?_⟩
  · obtain ⟨result, hprocess, hresult⟩ := ok_of_any
      (x := twinWatch.process .acceptAll {} (.fresh false) (.quiet twinDisk))
      (p := fun result => decide (result.report.stalled = [] ∧ result.report.readErrors = [] ∧
        0 < result.state.lastMtime ∧ result.state.files.length = twins.length ∧
        ∃ f ∈ result.state.files, ∃ g ∈ (twinWatch.resolution result.state.position twins).files,
          f.path = g.path ∧ f.tailStart < g.processed ∧ 0 < f.unread))
      (by unfold Watcher.process Watcher.resolution Matcher.scan Resolution.resolve; rw [hsort]; decide +kernel)
    obtain ⟨hstalled, herrors, hposition, hlength, hskips⟩ := of_decide_eq_true hresult
    exact ⟨result, ⟨rfl, by simp [WatchState.fresh], found_twins, hprocess, hstalled, herrors, hposition, hskips⟩,
      hlength⟩
  · let d := logDisk [([0x62], [0x70, 0x0a]), ([0x78], [0x71, 0x0a, 0x72, 0x0a])]
    let gone : LogFile := ⟨.ofText "/log/x", 1, .ofNumber 3, 0, 0, .of [], 0, 0, false, [], false, none⟩
    let state : WatchState := { useIdentity := true, files := [gone] }
    let watch := logWatch "b" 1 0 rfl
    have hfound : watch.matcher.found d = .ok [⟨.ofText "/log/b", 2, 0, .ofNumber 2, [0x70, 0x0a]⟩] := by
      have hlist : d.list (.ofText "/log") = .ok [[0x62], [0x78]] := by decide +kernel
      have hnames : [[0x62], [0x78]].filterMap (watch.matcher.candidateNamed? d (.ofText "/log")
          ((Pattern.compile? "b").get rfl)) = [⟨.ofText "/log/b", 2, 0, .ofNumber 2, [0x70, 0x0a]⟩] := by
        decide +kernel
      simp only [Matcher.found, watch, logWatch, hlist]
      exact congrArg Except.ok ((congrArg (List.mergeSort · Matcher.precedes) hnames).trans
        (List.mergeSort_singleton _))
    have hvalid : ∀ (i : Nat) (f : LogFile), state.files[i]? = some f → f.Valid (logConfig "b" 1 0) i := by
      intro i f hf
      rw [List.getElem?_singleton, Option.ite_none_right_eq_some] at hf
      obtain ⟨rfl, hf⟩ := hf
      obtain rfl : gone = f := Option.some.inj hf
      have hunit (k : Nat) : Encoding.utf8.unitAt [] k = [] := by simp [Encoding.unitAt]
      exact {
        within := by decide
        inside := by decide
        marked := by decide
        unterminated := fun k => by
          rw [show (logConfig "b" 1 0).encoding.unitAt gone.tail k = [] from hunit k]
          decide
        short := by decide
        skipped := by decide
        numbered := rfl
        original := rfl }
    obtain ⟨result, hprocess, hresult⟩ := ok_of_any (x := watch.process .acceptAll {} state (.quiet d))
      (p := fun result => decide (result.report.stalled = [] ∧ result.report.readErrors = [] ∧
        0 < result.state.lastMtime ∧ ∃ f ∈ result.state.files,
          ∃ g ∈ (watch.resolution result.state.position [⟨.ofText "/log/b", 2, 0, .ofNumber 2, [0x70, 0x0a]⟩]).files,
          f.path = g.path ∧ f.tailStart < g.processed ∧ 0 < f.unread))
      (by unfold Watcher.process Watcher.resolution Matcher.scan Resolution.resolve; rw [hsort]; decide +kernel)
    obtain ⟨hstalled, herrors, hposition, hskips⟩ := of_decide_eq_true hresult
    exact ⟨logConfig "b" 1 0, watch, state, d, _, result,
      ⟨rfl, hvalid, hfound, hprocess, hstalled, herrors, hposition, hskips⟩, List.nodup_singleton _⟩

end Watcher

end LogTail
