import LogTail.Cycle.Basic
import LogTail.Proofs.Progress
import LogTail.Proofs.Resolving
import LogTail.Proofs.Scanning

/-!
# Cycles as runs

A cycle of a valid watch is a scan, a resolution of what was found, and one run over the files
(`Watcher.of_process`). On a still disk the scan finds what is there, and every file can be read
(`Watcher.process_still`, `Watcher.opens_of_mem_files`).
-/

namespace LogTail

/-! ## Valid configurations -/

section config
variable {config : WatchConfig} {watch : Watcher}

theorem bind_ok {ε α β : Type} {x : Except ε α} {f : α → Except ε β} {b : β} (h : (x >>= f) = .ok b) :
    ∃ a, x = .ok a ∧ f a = .ok b := by
  cases x with
  | error e => cases h
  | ok a => exact ⟨a, rfl, h⟩

theorem require_ok {ok : Bool} {e : ConfigError} {u : Unit} (h : require ok e = .ok u) : ok = true := by
  cases ok with
  | true => rfl
  | false => cases h

/-- What a valid configuration promises of its limits. -/
structure WatchConfig.Bounded (c : WatchConfig) : Prop where
  chunk_pos : 0 < c.chunkSize
  chunk_le : c.chunkSize ≤ c.maxRecordSize

theorem WatchConfig.bounded_of_checkLimits {u : Unit} (h : config.checkLimits = .ok u) :
    config.Bounded := by
  obtain ⟨_, _, h⟩ := bind_ok h
  obtain ⟨_, _, h⟩ := bind_ok h
  obtain ⟨_, hzero, h⟩ := bind_ok h
  obtain ⟨_, hchunk, _⟩ := bind_ok h
  have hzero := require_ok hzero
  have hchunk := require_ok hchunk
  simp only [ne_eq, decide_not, Bool.not_eq_true', decide_eq_false_iff_not, decide_eq_true_eq]
    at hzero hchunk
  exact ⟨Nat.pos_of_ne_zero hzero, hchunk⟩

theorem Matcher.window_eq {m : Matcher} (h : Matcher.ofConfig config = .ok m) :
    m.window = config.digestWindow := by
  unfold Matcher.ofConfig at h
  rcases hkind : config.kind with _ | _
  · simp only [hkind, Except.ok.injEq] at h
    rw [← h]
  · simp only [hkind] at h
    obtain ⟨⟨directory, name⟩, _, h⟩ := bind_ok h
    rcases hname : Pattern.compile? name with _ | p
    · simp [hname] at h
    · simp only [hname, Except.ok.injEq] at h
      rw [← h]

theorem Watcher.ofConfig_ok (h : Watcher.ofConfig config = .ok watch) :
    watch.config = config ∧ config.Bounded ∧ watch.matcher.window = config.digestWindow := by
  obtain ⟨_, hvalid, h⟩ := bind_ok h
  obtain ⟨matcher, hmatcher, h⟩ := bind_ok h
  obtain ⟨filter, _, h⟩ := bind_ok h
  obtain ⟨_, _, hvalid⟩ := bind_ok hvalid
  obtain ⟨_, _, hlimits⟩ := bind_ok hvalid
  cases h
  exact ⟨rfl, WatchConfig.bounded_of_checkLimits hlimits, Matcher.window_eq hmatcher⟩

end config

/-! ## The parts of a cycle -/

namespace Watcher

/-- A watch with other limits on its cycles. -/
def limited (watch : Watcher) (maxSent maxProcessed : Nat) (maxDelay : Option Nat) : Watcher :=
  { watch with config := { watch.config with
      maxSent := maxSent, maxProcessed := maxProcessed, maxDelay := maxDelay } }

def opening (watch : Watcher) (time : CycleTime) : Tracker :=
  { destination := watch.config.destination, now := time.now,
    budget := Budget.ofConfig watch.config time.elapsed }

def resolution (watch : Watcher) (state : WatchState) (candidates : List Candidate) : Resolution :=
  Resolution.resolve watch.config.rotation watch.config.encoding state candidates

section process
variable {watch : Watcher} {sink : Sink} {time : CycleTime} {d : Disk} {w : World} {state : WatchState}
  {candidates : List Candidate}

/-- The result of a cycle over what a scan found, in a world. -/
structure Ran (watch : Watcher) (sink : Sink) (time : CycleTime) (state : WatchState)
    (candidates : List Candidate) (w : World) (c : Cycle) (result : CycleResult) : Prop where
  run : c = Cycle.run watch sink state.useIdentity (watch.resolution state candidates)
    { tracker := watch.opening time, world := w }
  state : result.state = c.nextState state
  offers : result.offers = c.tracker.offers.reverse
  sent : result.report.sent = c.tracker.budget.sent
  processed : result.report.processed = c.tracker.budget.processed

def closing (watch : Watcher) (sink : Sink) (time : CycleTime) (state : WatchState) (w : World) : Budget :=
  match watch.matcher.scan w with
  | (.error _, _) => (watch.opening time).budget
  | (.ok scan, w) =>
    (Cycle.run watch sink state.useIdentity (watch.resolution state scan.candidates)
      { tracker := watch.opening time, world := w }).tracker.budget

theorem closing_eq {scan : Scan} {w' : World} {c : Cycle} {result : CycleResult}
    (hscan : watch.matcher.scan w = (.ok scan, w')) (h : watch.Ran sink time state scan.candidates w' c result) :
    watch.closing sink time state w = c.tracker.budget := by
  rw [closing, hscan, h.run]

theorem of_process {result : CycleResult} (h : watch.process sink time state w = .ok result) :
    ∃ scan w' c, watch.matcher.scan w = (.ok scan, w') ∧
      watch.Ran sink time state scan.candidates w' c result := by
  rw [process] at h
  rcases hscan : watch.matcher.scan w with ⟨e | scan, w'⟩
  · rw [hscan] at h
    cases h
  · rw [hscan] at h
    cases h
    exact ⟨scan, w', _, rfl, rfl, rfl, rfl, rfl, rfl⟩

theorem process_still (sink : Sink) (time : CycleTime) (state : WatchState) (hw : w.Still d)
    (hfound : watch.matcher.found d = .ok candidates) :
    ∃ result c w', w'.Still d ∧ watch.process sink time state w = .ok result ∧
      watch.Ran sink time state candidates w' c result := by
  obtain ⟨scan, w', hscan, rfl, hw'⟩ := Matcher.scan_of_found hfound hw
  rcases hprocess : watch.process sink time state w with e | result
  · rw [process, hscan] at hprocess
    cases hprocess
  · rw [process, hscan] at hprocess
    cases hprocess
    exact ⟨_, _, w', hw', rfl, rfl, rfl, rfl, rfl, rfl⟩

/-- What a cycle reports of its files is what its run came to. -/
theorem Ran.reports {scan : Scan} {w' : World} {c : Cycle} {result : CycleResult}
    (h : watch.Ran sink time state scan.candidates w' c result) (hscan : watch.matcher.scan w = (.ok scan, w'))
    (hprocess : watch.process sink time state w = .ok result) :
    result.report.stalled = c.stalled ∧ result.report.readErrors = c.readErrors ∧
      result.report.pending = (c.outOfBudget && result.state.hasPending) := by
  rw [process, hscan] at hprocess
  cases hprocess
  rw [h.run]
  exact ⟨rfl, rfl, rfl⟩

theorem found_of_scan {scan : Scan} {w' : World} (hw : w.Still d)
    (hscan : watch.matcher.scan w = (.ok scan, w')) :
    watch.matcher.found d = .ok scan.candidates ∧ w'.Still d := by
  obtain ⟨answer, hsteady, hanswer⟩ := watch.matcher.scan_still d
  obtain ⟨w'', hw'', heq⟩ := hsteady w hw
  rw [hscan, Prod.mk.injEq] at heq
  obtain ⟨rfl, rfl⟩ := heq
  exact ⟨hanswer.symm, hw''⟩

theorem opens_of_describes (hfound : watch.matcher.found d = .ok candidates) {c : Candidate} (hc : c ∈ candidates)
    {f : LogFile} (h : f.Describes c) (useIdentity : Bool) : f.Opens d useIdentity (d.bytesAt f.path) := by
  obtain ⟨n, hn, hfile, _, hnumber, _⟩ := Disk.candidate?_eq_some (Matcher.candidate?_of_found hfound hc)
  rw [← h.path] at hn
  exact ⟨n, hn, hfile.bytesAt hn ▸ hfile, fun _ => (h.id.trans hnumber).symm⟩

theorem opens_of_mem_files (hfound : watch.matcher.found d = .ok candidates) {f : LogFile}
    (hf : f ∈ (watch.resolution state candidates).files) (useIdentity : Bool) :
    f.Opens d useIdentity (d.bytesAt f.path) := by
  obtain ⟨c, hc, hdescribes⟩ := Resolution.exists_describes hf
  exact opens_of_describes hfound hc hdescribes useIdentity

end process

/-- Whether a cycle over a disk that stays as it is has a result with a property. -/
def afterCycle (watch : Watcher) (sink : Sink) (d : Disk) (state : WatchState) (p : CycleResult → Bool) :
    Bool :=
  match watch.process sink {} state (.quiet d) with
  | .ok result => p result
  | .error _ => false

theorem exists_of_afterCycle {watch : Watcher} {sink : Sink} {d : Disk} {state : WatchState}
    {p : CycleResult → Bool} (h : watch.afterCycle sink d state p = true) :
    ∃ result, watch.process sink {} state (.quiet d) = .ok result ∧ p result = true := by
  unfold afterCycle at h
  rcases hprocess : watch.process sink {} state (.quiet d) with e | result
  · simp [hprocess] at h
  · exact ⟨result, rfl, by simpa [hprocess] using h⟩

end Watcher

end LogTail
