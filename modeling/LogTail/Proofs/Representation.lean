import LogTail.Proofs.Continuation
import LogTail.Proofs.LossyCycles

/-!
# How tracked files are represented

After any number of cycles, whatever others do to the disk at any moment and whatever the receiver refuses,
every tracked file is one that reading leaves (`LogFile.Valid`, `Watcher.valid_of_cycled`): its tail is the
beginning of a record, ends where reading ended, and is shorter than the longest record, or than a unit while
the rest of a record is skipped. And no reading takes an offset back (`Watcher.processed_le_readFile`).

* A unit may be longer than the longest record, and then the tail may be too while the rest of a record is
  skipped (`Watcher.not_tail_lt_of_cycled`).
-/

namespace LogTail

/-- What holds of a tracked file in its place. -/
structure LogFile.Valid (config : WatchConfig) (place : Nat) (f : LogFile) : Prop where
  within : f.processed ≤ f.size
  inside : f.tail.length ≤ f.processed
  marked : f.incomplete = true ↔ f.tail ≠ []
  /-- No unit of the tail is a line feed. -/
  unterminated : ∀ k, config.encoding.unitAt f.tail k ≠ config.encoding.lineFeed
  short : f.tail.length < config.maxRecordSize ∨
    f.skipping = true ∧ config.maxRecordSize < config.encoding.unit
  skipped : f.skipping = true → f.tail.length < config.encoding.unit
  numbered : f.seq = place
  original : f.copyOf = none

namespace Watcher

/-! ## Offsets -/

section offsets
variable {watch : Watcher} {s : Reading}

theorem processed_le_consume (watch : Watcher) (sink : Sink) (s : Reading) (bytes : Bytes) (stop : Nat) :
    s.file.processed ≤ (watch.consume sink s bytes stop).2.file.processed := by
  rcases watch.consume_file sink s bytes stop with ⟨retry, h⟩ | ⟨_, retry, h⟩
  · rw [h]
    exact Nat.le_max_left ..
  · exact Nat.le_of_eq (by rw [h])

theorem processed_le_flush (watch : Watcher) (sink : Sink) (s : Reading) (r : Reader) :
    s.file.processed ≤ (watch.flush sink s r).2.file.processed := by
  unfold flush
  rcases r.takeRemainder with ⟨_ | ⟨start, stop, bytes, truncated⟩ | ⟨stop, ended⟩, r'⟩
  · exact Nat.le_refl _
  · by_cases hspent : s.tracker.budget.exhausted = true
    · simp only [hspent, if_true]
      exact Nat.le_refl _
    · have hle := watch.processed_le_consume sink s.tested bytes stop
      simp only [hspent]
      rcases hconsume : watch.consume sink s.tested bytes stop with ⟨_ | _, s'⟩ <;> rw [hconsume] at hle <;>
        exact hle
  · exact Nat.le_refl _

theorem processed_le_readEvents (watch : Watcher) (sink : Sink) (finished : Bool) (fuel : Nat) (s : Reading)
    (r : Reader) : s.file.processed ≤ (watch.readEvents sink finished fuel s r).2.file.processed := by
  induction fuel generalizing s r with
  | zero => exact Nat.le_refl _
  | succ fuel ih =>
    rw [readEvents]
    by_cases hspent : s.tracker.budget.exhausted = true
    · exact Nat.le_of_eq (by rw [if_pos hspent])
    rw [if_neg hspent]
    rcases r.next s.world with ⟨c | _ | ⟨start, stop, bytes, truncated⟩ | ⟨stop, ended⟩, r', w⟩
    · exact Nat.le_refl _
    · have hkept : s.file.processed ≤ (keepTail { s.tested with world := w } r').file.processed :=
        Nat.le_max_left ..
      cases finished with
      | false => exact hkept
      | true => exact Nat.le_trans hkept (watch.processed_le_flush sink _ r')
    · have hle := watch.processed_le_consume sink { s.tested with world := w } bytes stop
      simp only
      rcases hconsume : watch.consume sink { s.tested with world := w } bytes stop with ⟨_ | _, s'⟩
      · rw [hconsume] at hle
        refine Nat.le_trans hle (Nat.le_trans ?_ (ih _ r'))
        cases truncated <;> exact Nat.le_refl _
      · rw [hconsume] at hle
        exact hle
    · exact Nat.le_trans (Nat.le_max_left ..) (ih (skipTo { s.tested with world := w } stop ended) r')

/-- **No reading takes an offset back**, whatever the file and the world. -/
theorem processed_le_readFile (watch : Watcher) (sink : Sink) (useIdentity finished : Bool) (s : Reading) :
    s.file.processed ≤ (watch.readFile sink useIdentity finished s).2.file.processed := by
  unfold readFile
  by_cases hidle : (s.file.unread = 0 && !(finished && s.file.hasFinalTail)) = true
  · exact Nat.le_of_eq (by rw [if_pos hidle])
  rw [if_neg hidle]
  by_cases hspent : s.tracker.budget.exhausted = true
  · exact Nat.le_of_eq (by rw [if_pos hspent])
  rw [if_neg hspent]
  rcases Reader.openFile (readerOptions watch.config useIdentity) s.file s.world with ⟨c | r, w⟩
  · exact Nat.le_refl _
  · exact watch.processed_le_readEvents sink finished _ { s.tested with world := w } r

end offsets

/-! ## Cycles -/

/-- The states that a watch can get into from one that has never run, with any receivers and in any worlds:
before and during each cycle others may do anything to the disk, and any call may fail. A cycle that fails
leaves the state as it is. -/
inductive Cycled (watch : Watcher) : WatchState → Prop
  | fresh (skipOldData useIdentity : Bool) :
    Cycled watch { WatchState.fresh skipOldData with useIdentity := useIdentity }
  | cycle {state : WatchState} {w : World} {result : CycleResult} (before : Cycled watch state) (sink : Sink)
    (time : CycleTime) (ran : watch.process sink time state w = .ok result) : Cycled watch result.state

section cycled
variable {config : WatchConfig} {watch : Watcher} {state : WatchState}

theorem tidy_of_resolution (hchunk : 0 < watch.config.chunkSize)
    (hmax : watch.config.chunkSize ≤ watch.config.maxRecordSize)
    (hfiles : ∀ f ∈ state.files, f.Tidy watch.splitter ∧ f.processed ≤ f.size) (candidates : List Candidate) :
    ∀ f ∈ (watch.resolution state candidates).rotatedAway ++ (watch.resolution state candidates).files,
      f.Tidy watch.splitter ∧ f.processed ≤ f.size :=
  fun f hf => ⟨Resolution.resolve_tidy (Nat.lt_of_lt_of_le hchunk hmax) (fun f hf => (hfiles f hf).1) f hf,
    Resolution.resolve_within (fun f hf => (hfiles f hf).2) f hf⟩

theorem tidy_of_process (hchunk : 0 < watch.config.chunkSize)
    (hmax : watch.config.chunkSize ≤ watch.config.maxRecordSize) {sink : Sink} {time : CycleTime} {w : World}
    {result : CycleResult} (hfiles : ∀ f ∈ state.files, f.Tidy watch.splitter ∧ f.processed ≤ f.size)
    (hprocess : watch.process sink time state w = .ok result) :
    ∀ f ∈ result.state.files, f.Tidy watch.splitter ∧ f.processed ≤ f.size := by
  intro f hf
  obtain ⟨scan, w', c, _, hran⟩ := of_process hprocess
  rw [hran.state, Cycle.nextState, hran.run] at hf
  obtain ⟨g, hg, _, rfl⟩ := Resolution.exists_of_mem_renumber hf
  rcases Cycle.mem_kept_run sink state.useIdentity _ hg with hnone | ⟨f₀, hf₀, hg⟩
  · cases hnone
  obtain ⟨htidy, hwithin⟩ := tidy_of_resolution hchunk hmax hfiles scan.candidates f₀ hf₀
  exact ⟨(hg.tidy hchunk hmax htidy).2.congr rfl rfl rfl rfl, hg.within hchunk hmax htidy hwithin⟩

theorem Cycled.tidy (hchunk : 0 < watch.config.chunkSize)
    (hmax : watch.config.chunkSize ≤ watch.config.maxRecordSize) (h : watch.Cycled state) :
    ∀ f ∈ state.files, f.Tidy watch.splitter ∧ f.processed ≤ f.size := by
  induction h with
  | fresh => exact fun f hf => absurd hf List.not_mem_nil
  | cycle _ _ _ hprocess ih => exact tidy_of_process hchunk hmax ih hprocess

theorem Cycled.numbered (h : watch.Cycled state) {i : Nat} {f : LogFile} (hf : state.files[i]? = some f) :
    f.seq = i ∧ f.copyOf = none := by
  cases h with
  | fresh => cases hf
  | cycle _ sink time hprocess =>
    obtain ⟨_, _, c, _, hran⟩ := of_process hprocess
    rw [hran.state] at hf
    obtain ⟨g, _, rfl⟩ := Resolution.exists_of_getElem?_renumber hf
    exact ⟨rfl, rfl⟩

theorem unitAt_ne_of_tidy {s : Splitter} {f : LogFile} (h : f.Tidy s) (k : Nat) :
    s.encoding.unitAt f.tail k ≠ s.encoding.lineFeed := by
  by_cases hin : (k + 1) * s.encoding.unit ≤ f.tail.length
  · exact Encoding.unitAt_ne_lineFeed h.free hin
  · -- what is left there is shorter than a unit
    intro hfeed
    have hlength := congrArg List.length hfeed
    have hpos := s.encoding.unit_pos
    rw [Nat.succ_mul] at hin
    rw [Encoding.unitAt, List.length_take, List.length_drop, Encoding.lineFeed_length] at hlength
    omega

/-- **Every tracked file is represented well after any cycles, and no reading takes an offset back.** -/
theorem valid_of_cycled (hconfig : Watcher.ofConfig config = .ok watch) (h : watch.Cycled state) :
    (∀ (i : Nat) (f : LogFile), state.files[i]? = some f → f.Valid config i) ∧
      ∀ (sink : Sink) (useIdentity finished : Bool) (s : Reading),
        s.file.processed ≤ (watch.readFile sink useIdentity finished s).2.file.processed := by
  obtain ⟨rfl, hbounded, _⟩ := ofConfig_ok hconfig
  refine ⟨fun i f hf => ?_, watch.processed_le_readFile⟩
  obtain ⟨htidy, hwithin⟩ := h.tidy hbounded.chunk_pos hbounded.chunk_le f (List.mem_of_getElem? hf)
  obtain ⟨hseq, hcopy⟩ := h.numbered hf
  have hshort := htidy.short
  have hmarked : f.incomplete = !f.tail.isEmpty := htidy.marked
  simp only [splitter] at hshort
  exact {
    within := hwithin
    inside := htidy.inside
    marked := by rw [hmarked, Bool.not_eq_true', List.isEmpty_eq_false_iff]
    unterminated := unitAt_ne_of_tidy htidy
    short := by
      by_cases hskip : f.skipping = true
      · rw [if_pos hskip] at hshort
        by_cases hunit : watch.config.maxRecordSize < watch.config.encoding.unit
        · exact .inr ⟨hskip, hunit⟩
        · exact .inl (by omega)
      · rw [if_neg hskip] at hshort
        exact .inl hshort
    skipped := by
      intro hskip
      rwa [if_pos hskip] at hshort
    numbered := hseq
    original := hcopy }

end cycled

/-! A file on a disk that stays as it is, after two cycles. -/

theorem exists_cycled_twice (watch : Watcher) (d : Disk) (tail : Bytes)
    (h : watch.afterCycle .acceptAll d (.fresh false) (fun first =>
      watch.afterCycle .acceptAll d first.state fun second =>
        decide (second.state.files.map (·.tail) = [tail])) = true) :
    ∃ state f, watch.Cycled state ∧ state.files = [f] ∧ f.tail = tail := by
  obtain ⟨first, hfirst, hrest⟩ := exists_of_afterCycle h
  obtain ⟨second, hsecond, htails⟩ := exists_of_afterCycle hrest
  obtain ⟨f, hfiles, htail⟩ := List.map_eq_singleton_iff.1 (of_decide_eq_true htails)
  exact ⟨_, f, ((Cycled.fresh false true).cycle _ _ hfirst).cycle _ _ hsecond, hfiles, htail⟩

/-- Two records are read, of which the second may go on. -/
theorem valid_of_cycled_begun : ∃ state f, (rotatedWatch .utf8 4 8).Cycled state ∧ state.files = [f] ∧
    f.tail = [0x71] ∧ f.Valid (rotatedConfig .utf8 4 8) 0 := by
  obtain ⟨state, f, hcycled, hfiles, htail⟩ := exists_cycled_twice (rotatedWatch .utf8 4 8)
    (rotatedDisk [0x61] [0x70, 0x0a, 0x71]) [0x71] (by decide +kernel)
  have hf : state.files[0]? = some f := by rw [hfiles]; rfl
  have hconfig := ofConfig_rotated .utf8 (show 0 < 4 by decide) (show 4 ≤ 8 by decide)
  exact ⟨state, f, hcycled, hfiles, htail, (valid_of_cycled hconfig hcycled).1 0 f hf⟩

/-- **A tail can be as long as the longest record**, where that is shorter than a unit: of the record that was
cut the rest is skipped, and three bytes are no unit. -/
theorem not_tail_lt_of_cycled : ¬ ∀ (config : WatchConfig) (watch : Watcher) (state : WatchState),
    Watcher.ofConfig config = .ok watch → watch.Cycled state →
      ∀ f ∈ state.files, f.tail.length < config.maxRecordSize := by
  intro hall
  obtain ⟨state, f, hcycled, hfiles, htail⟩ := exists_cycled_twice (rotatedWatch .utf32le 2 2)
    (rotatedDisk [0x61] [0, 0, 0]) [0, 0, 0] (by decide +kernel)
  have hlt := hall _ _ state (ofConfig_rotated .utf32le (show 0 < 2 by decide) (Nat.le_refl 2)) hcycled f
    (by simp [hfiles])
  rw [htail] at hlt
  exact absurd hlt (by decide)

end Watcher

end LogTail
