import LogTail.Proofs.Dealing
import LogTail.Proofs.ReadingOrder
import LogTail.Proofs.Turns

/-!
# States that are reached

The states that are reached from a fresh one by cycles, each with a valid configuration of its own: the pattern,
the limits and the encoding may change from one to the next (`WatchState.Reached`). Their files are `Coherent`,
whatever others do to the disk meanwhile.

* `Watcher.Round`: a cycle from such a state over a disk that stays as it is, with the files that it leaves; the
  next one finds them again (`Resolution.LeftBehind`).
* `Watcher.apart_of_reached`: two tracked files may share a name, since a file that rotated away and waits keeps the
  name that a new file bears by now. Two may share an identity: the links of one file, or a file and the one that was
  given its number after it. No two share both. A resolution keeps it so, since the candidate with the name and the
  identity of a tracked file continues that file: their link scores more than all others of its ends, and is never
  tied (`Resolution.dominant_of_key`). What a cycle does with the files that it reads changes neither.
-/

namespace LogTail

/-- No more was processed of a file than there is, all tails lie before the offsets, and no two files have the
same name and identity. -/
structure Coherent (files : List LogFile) : Prop where
  progress : ∀ f ∈ files, f.tail.length ≤ f.processed ∧ f.processed ≤ f.size
  apart : (files.map LogFile.key).Nodup

namespace Coherent

variable {files front back : List LogFile} {f f' : LogFile}

theorem drop (h : Coherent (front ++ f :: back)) : Coherent (front ++ back) :=
  ⟨LogFile.forall_drop h.progress, LogFile.nodup_drop h.apart⟩

theorem replace (h : Coherent (front ++ f :: back)) (hkey : f'.key = f.key)
    (hprogress : f'.tail.length ≤ f'.processed ∧ f'.processed ≤ f'.size) : Coherent (front ++ [f'] ++ back) :=
  ⟨LogFile.forall_replace h.progress hprogress, LogFile.nodup_replace h.apart hkey⟩

theorem renumber (h : Coherent files) : Coherent (Resolution.renumber 0 files) where
  progress f hf := by
    obtain ⟨g, hg, _, rfl⟩ := Resolution.exists_of_mem_renumber hf
    exact h.progress g hg
  apart := by
    rw [Resolution.map_renumber (fun _ _ => rfl)]
    exact h.apart

end Coherent

theorem Resolution.resolve_coherent (policy : RotationPolicy) (encoding : Encoding) {state : WatchState}
    {candidates : List Candidate} (hid : state.useIdentity = true)
    (hnames : (candidates.map fun c => c.path.fileName?).Nodup) (h : Coherent state.files) :
    Coherent ((resolve policy encoding state candidates).rotatedAway ++
      (resolve policy encoding state candidates).files) where
  progress f hf := ⟨resolve_inside policy encoding candidates (fun f hf => (h.progress f hf).1) f hf,
    resolve_within (fun f hf => (h.progress f hf).2) f hf⟩
  apart := resolve_apart hid hnames h.apart

theorem Cycle.Carried.progress {watch : Watcher} {sink : Sink} {useIdentity : Bool} {f f' : LogFile}
    (h : Carried watch sink useIdentity f f') (hchunk : 0 < watch.config.chunkSize)
    (hf : f.tail.length ≤ f.processed ∧ f.processed ≤ f.size) :
    f'.key = f.key ∧ f'.tail.length ≤ f'.processed ∧ f'.processed ≤ f'.size := by
  cases h with
  | waits => exact ⟨rfl, hf⟩
  | @read size hsized finished tracker world =>
    have hle : f.processed ≤ size := hsized.elim (fun heq => heq ▸ hf.2) id
    obtain ⟨_, hattempt⟩ := watch.readFile_attempt (s := ⟨{ f with size := size }, tracker, world⟩) sink
      useIdentity finished hchunk hf.1
    refine ⟨?_, hattempt.inside, ?_⟩
    · rw [LogFile.key, LogFile.key, hattempt.same.path, hattempt.same.id]
    · rw [hattempt.same.size]
      exact Nat.le_trans hattempt.processed_le (Nat.max_le.2 ⟨hle, Nat.le_refl _⟩)

/-- **Whatever the world does, a cycle keeps files coherent.** -/
theorem Cycle.run_coherent {watch : Watcher} (sink : Sink) (useIdentity : Bool)
    (hchunk : 0 < watch.config.chunkSize) {c : Cycle} (r : Resolution)
    (h : Coherent (c.kept ++ r.rotatedAway ++ r.files)) : Coherent (run watch sink useIdentity r c).kept := by
  refine run_kept sink useIdentity (fun {_ _ f _} h hcarried => ?_) (fun h => h.drop) r h
  obtain ⟨hkey, hprogress⟩ := hcarried.progress hchunk (h.progress f (by simp))
  exact h.replace hkey hprogress

/-- The states that are reached from a fresh one by cycles, each with a valid configuration of its own, whatever
the receivers answer and whatever others do to the disk before and during the cycles. -/
inductive WatchState.Reached : WatchState → Prop
  | fresh (skipOldData : Bool) : Reached (.fresh skipOldData)
  | cycle {state : WatchState} {config : WatchConfig} {watch : Watcher} {sink : Sink} {time : CycleTime}
    {w : World} {result : CycleResult} (before : Reached state) (valid : Watcher.ofConfig config = .ok watch)
    (proper : w.Proper) (ran : watch.process sink time state w = .ok result) : Reached result.state

namespace Watcher

section reached
variable {watch : Watcher} {sink : Sink} {time : CycleTime} {state : WatchState} {w w' : World} {c : Cycle}
  {candidates : List Candidate} {result : CycleResult}

theorem Ran.coherent (hran : watch.Ran sink time state candidates w c result)
    (hchunk : 0 < watch.config.chunkSize) (hid : state.useIdentity = true)
    (hnames : (candidates.map fun c => c.path.fileName?).Nodup) (h : Coherent state.files) :
    Coherent c.kept := by
  rw [hran.run]
  exact Cycle.run_coherent sink state.useIdentity hchunk _ (Resolution.resolve_coherent _ _ hid hnames h)

/-- **The files of a state that is reached are coherent**, and told by their identity. -/
theorem coherent_of_reached (h : state.Reached) : state.useIdentity = true ∧ Coherent state.files := by
  induction h with
  | fresh => exact ⟨rfl, by simp [WatchState.fresh], List.nodup_nil⟩
  | cycle _ hvalid hproper hprocess ih =>
    obtain ⟨hid, hcoherent⟩ := ih
    obtain ⟨rfl, hbounded, _⟩ := ofConfig_ok hvalid
    obtain ⟨scan, w', c, hscan, hran⟩ := of_process hprocess
    have hkept := hran.coherent hbounded.chunk_pos hid (Matcher.nodup_names hproper hscan) hcoherent
    rw [hran.state]
    exact ⟨hid, hkept.renumber⟩

/-! ## A cycle over a disk that stays as it is -/

/-- A cycle over a disk that stays as it is: what it found, what it did, and the files that it left, those that
rotated away and wait and those of the scan. -/
structure Round (watch : Watcher) (d : Disk) (time : CycleTime) (state : WatchState)
    (candidates : List Candidate) (away files : List LogFile) (c : Cycle) (result : CycleResult) : Prop where
  found : watch.matcher.found d = .ok candidates
  deals : ∃ (w : World) (goOn : List (List LogFile)), w.Still d ∧
    Cycle.Deals watch d (Cycle.parts (watch.resolution state candidates))
      { tracker := watch.opening time, world := w } goOn c
  kept : c.kept = away ++ files
  coherent : Coherent result.state.files
  left : Resolution.LeftBehind result.state candidates away files
  offers : result.offers = c.tracker.offers.reverse
  pending : result.report.pending = (c.outOfBudget && result.state.hasPending)
  readErrors : result.report.readErrors = c.readErrors
  /-- If it went through, nothing is left to read. -/
  rest : c.Clean → away = [] ∧
    ∀ (i : Nat) (f : LogFile), files[i]? = some f → f.AtRest (i < files.length - 1)

theorem exists_round {d : Disk} (hchunk : 0 < watch.config.chunkSize) (hid : state.useIdentity = true)
    (hcoherent : Coherent state.files) (hd : d.Proper) (hw : w.Still d)
    (hprocess : watch.process sink time state w = .ok result) :
    ∃ candidates away files c, watch.Round d time state candidates away files c result := by
  obtain ⟨scan, w', c, hscan, hran⟩ := of_process hprocess
  obtain ⟨hfound, hw'⟩ := found_of_scan hw hscan
  have hnames := Matcher.nodup_names (hw.proper hd) hscan
  have hresolved := Resolution.resolve_coherent watch.config.rotation watch.config.encoding hid hnames hcoherent
  have hsized : ∀ f ∈ (watch.resolution state scan.candidates).files, f.size = d.sizeAt f.path := fun f hf =>
    sizeAt_of_mem_files hfound hf
  obtain ⟨drained, away, goOn, hdrains, hvisits⟩ := Cycle.run_deals sink state.useIdentity hchunk
    (c := { tracker := watch.opening time, world := w' }) hw' (r := watch.resolution state scan.candidates)
    (fun f hf => (hresolved.progress f hf).1)
    (fun f hf => ⟨(hresolved.progress f (List.mem_append_right _ hf)).2, hsized f hf⟩)
  rw [← hran.run] at hvisits
  obtain ⟨files, hkept, hlength, hsame, hrest⟩ := hvisits.scan hsized
  have hall : c.kept = away.flatten ++ files := by
    rw [hkept, hdrains.kept]
    rfl
  have hkeeps := hran.coherent hchunk hid hnames hcoherent
  obtain ⟨-, herrors, hpending⟩ := hran.reports hscan hprocess
  refine ⟨scan.candidates, away.flatten, files, c, hfound, ⟨w', _, hw', hdrains.append hvisits⟩, hall,
    hran.state ▸ hkeeps.renumber, ?_, hran.offers, hpending, herrors, fun hclean => ?_⟩
  · refine ⟨by rw [hran.state]; exact hid, by rw [hran.state]; exact congrArg (Resolution.renumber 0) hall,
      hall ▸ hkeeps.apart, hnames, hlength.trans (Resolution.length_files ..), ?_, ?_⟩
    · intro i f b hf hb
      obtain ⟨b', hb', hdescribes⟩ := Resolution.describes_of_same hlength hsame hf
      rwa [Option.some.inj (hb.symm.trans hb')]
    · exact fun f hf => (hkeeps.progress f (by rw [hall]; simp [hf])).2
  · obtain ⟨hdrained, hfiles⟩ := hrest hclean
    rw [hlength]
    exact ⟨hdrains.through hdrained, hfiles⟩

end reached

/-! ## Identities that are tracked -/

/-- **No two tracked files have the same name and the same identity**, in any state that is reached from a fresh
one, whatever others do to the disk and whatever the receivers answer. -/
theorem apart_of_reached {state : WatchState} (h : state.Reached) :
    state.files.Pairwise fun f g => ¬ (f.path.fileName? = g.path.fileName? ∧ f.id = g.id) := by
  have hapart : (state.files.map LogFile.key).Nodup := (coherent_of_reached h).2.apart
  refine (List.pairwise_map.1 hapart).imp fun {f g} hne => ?_
  rintro ⟨hname, hid⟩
  exact hne (Prod.ext hname hid)

/-- The state after a cycle over a disk that stays as it is, with a receiver that accepts everything. -/
def next (watch : Watcher) (d : Disk) (state : WatchState) : WatchState :=
  match watch.process .acceptAll {} state (.quiet d) with
  | .ok result => result.state
  | .error _ => state

theorem reached_next {config : WatchConfig} {watch : Watcher} {d : Disk} {state : WatchState}
    (hconfig : Watcher.ofConfig config = .ok watch) (hd : d.Proper) (h : state.Reached) :
    (watch.next d state).Reached := by
  unfold next
  rcases hprocess : watch.process .acceptAll {} state (.quiet d) with e | result
  · exact h
  · exact .cycle h hconfig ((World.still_quiet d).proper hd) hprocess

end Watcher

/-- The sort by numbers, in a form that computes. -/
theorem Resolution.bySeq_eq_insertionSort (files : List LogFile) :
    bySeq files = files.insertionSort fun a b => a.seq ≤ b.seq := by
  rw [bySeq, mergeSort_eq_insertionSort (number_trans LogFile.seq) (number_total LogFile.seq)]
  simp only [decide_eq_true_eq]

namespace Watcher

/-- A file gets another name and a new one takes its place. The budget is spent before the old one has its turn, so
both are tracked under one name, and told apart by their identities. -/
theorem apart_of_reached_replaced :
    let first := logDisk [([0x78], [0x70, 0x0a]), ([0x79], [])]
    let second := logDisk [([0x78], [0x70, 0x0a, 0x71, 0x0a]), ([0x79], [])]
    let third := logDisk [([0x78], [0x70, 0x0a, 0x71, 0x0a, 0x72, 0x0a]), ([0x62], [0x73]), ([0x79], [])]
    let state := (logWatch "y" 1 0 rfl).next third ((logWatch "y" 1 0 rfl).next second
      ((logWatch "x" 1 0 rfl).next first (.fresh false)))
    state.Reached ∧ state.files.map LogFile.key =
        [(some [0x78], .ofNumber 2), (some [0x79], .ofNumber 3), (some [0x79], .ofNumber 4)] ∧
      state.files.Pairwise fun f g => ¬ (f.path.fileName? = g.path.fileName? ∧ f.id = g.id) := by
  intro first second third state
  have hproper {files : List (Bytes × Bytes)} (hnodup : (files.map (·.1)).Nodup)
      (hnames : ∀ f ∈ files, f.1 = [0x62] ∨ f.1 = [0x78] ∨ f.1 = [0x79]) : (logDisk files).Proper := by
    refine logDisk_proper hnodup fun f hf => ?_
    rcases hnames f hf with h | h | h <;> rw [h] <;> exact ⟨by decide, by decide, by decide, by decide⟩
  have hx : Watcher.ofConfig (logConfig "x" 1 0) = .ok (logWatch "x" 1 0 rfl) := rfl
  have hy : Watcher.ofConfig (logConfig "y" 1 0) = .ok (logWatch "y" 1 0 rfl) := rfl
  have hreached : state.Reached := by
    refine reached_next hy (hproper ?_ ?_) (reached_next hy (hproper ?_ ?_)
      (reached_next hx (hproper ?_ ?_) (.fresh false))) <;> simp
  have hsort : @Resolution.bySeq = fun files => files.insertionSort fun a b => a.seq ≤ b.seq :=
    funext Resolution.bySeq_eq_insertionSort
  have hkeys : state.files.map LogFile.key =
      [(some [0x78], .ofNumber 2), (some [0x79], .ofNumber 3), (some [0x79], .ofNumber 4)] := by
    unfold state Watcher.next Watcher.process Resolution.resolve
    rw [hsort]
    decide +kernel
  exact ⟨hreached, hkeys, apart_of_reached hreached⟩

end Watcher

end LogTail
