import LogTail.Proofs.Refusals

/-!
# How long refused files delay the others

Cycles over a disk that stays as it is, from a fresh state and with limits that are not reached, with a receiver
that refuses the records of some files and accepts those of all others. A refused file holds the files behind it up
for as many cycles as it may be tried again, and no longer (`Lineup.run_delivers`): what comes behind `k` refused
files is delivered in the first `k * maxRetries + 1` cycles, each record once. A refused file stays where it is,
is offered once in a cycle, and is reported as stalled in every cycle after its last retry.

* `Lineup.Standing`: where the file in a place stands after a number of cycles; which of the files before it block
  it says all of it.
* `Lineup.visits_pass` carries it over a pass, and `Lineup.Resolved.cycle` over a cycle.
-/

namespace LogTail

/-- What a watch finds on a disk, in the order of reading, and the files that its receiver refuses. -/
structure Lineup where
  watch : Watcher
  disk : Disk
  candidates : List Candidate
  skipOldData : Bool
  refused : Path → Bool

namespace Lineup

section defs
variable (q : Lineup)

def maxRetries : Nat := q.watch.config.maxRetries

/-- All files but the last get no more bytes. -/
def newest : Nat := q.candidates.length - 1

def origin (c : Candidate) : Cursor :=
  if q.skipOldData then ⟨c.size, false, []⟩ else .start (q.disk.bytesAt c.path)

def recordsAt (i : Nat) : List Record :=
  match q.candidates[i]? with
  | none => []
  | some c => q.watch.splitter.records (i < q.newest) (q.origin c)

def count (first length : Nat) : Nat := ((List.range' first length).map fun i => (q.recordsAt i).length).sum

/-- The records of the file in a place that are to be delivered, with their values. -/
def due (i : Nat) : List (Record × String) := q.watch.retained (q.recordsAt i)

def isRefused (i : Nat) : Bool := q.candidates[i]?.any fun c => q.refused c.path

/-- A file holds the others up if it has records that are refused. -/
def blocks (i : Nat) : Bool := q.isRefused i && !(q.due i).isEmpty

def blocksBefore (i : Nat) : Nat := (List.range i).countP q.blocks

def refusedBefore (i : Nat) : Nat := (q.candidates.take i).countP fun c => q.refused c.path

/-- The records that are still due in a place after a number of cycles. -/
def pending (n i : Nat) : List (Record × String) :=
  if q.isRefused i = false ∧ q.blocksBefore i * q.maxRetries < n then [] else q.due i

/-- What is offered of the file in a place in the cycle after a number of cycles. -/
def said (n i : Nat) : List (Path × Nat × String × Bool) :=
  match q.candidates[i]? with
  | none => []
  | some c =>
    if q.blocksBefore i * q.maxRetries < n + 1 then asked (q.refused c.path) c.path (q.pending n i) else []

/-- Where the file in a place stands after a number of cycles. -/
structure Standing (n i : Nat) (f : LogFile) : Prop where
  found : ∃ c, q.candidates[i]? = some c ∧ f.Describes c
  ready : q.watch.Ready q.disk f
  due : q.watch.due (i < q.newest) (f.ahead q.disk) = q.pending n i
  records_le : (q.watch.splitter.records (i < q.newest) (f.ahead q.disk)).length ≤ (q.recordsAt i).length
  retry : q.blocks i = true → f.retry = n - q.blocksBefore i * q.maxRetries

end defs

variable {q : Lineup} {n i k : Nat} {c : Candidate} {f g : LogFile}

theorem isRefused_eq (hc : q.candidates[i]? = some c) : q.isRefused i = q.refused c.path := by
  rw [isRefused, hc, Option.any_some]

theorem blocksBefore_succ (q : Lineup) (i : Nat) :
    q.blocksBefore (i + 1) = q.blocksBefore i + if q.blocks i then 1 else 0 := by
  rw [blocksBefore, List.range_succ, List.countP_append, List.countP_singleton]
  rfl

theorem blocksBefore_le (q : Lineup) (i : Nat) : q.blocksBefore i ≤ q.refusedBefore i := by
  induction i with
  | zero => exact Nat.le_refl 0
  | succ i ih =>
    rw [blocksBefore_succ, refusedBefore, List.take_add_one, List.countP_append]
    refine Nat.add_le_add ih ?_
    by_cases hblocks : q.blocks i = true
    · have hrefused : q.isRefused i = true := (Bool.and_eq_true_iff.1 hblocks).1
      rw [isRefused, Option.any_eq_true] at hrefused
      obtain ⟨c, hc, hrefused⟩ := hrefused
      simp [hblocks, hc, hrefused]
    · simp [hblocks]

theorem pending_of_refused (h : q.isRefused i = true) : q.pending n i = q.due i := by simp [pending, h]

theorem pending_of_le (h : n ≤ q.blocksBefore i * q.maxRetries) : q.pending n i = q.due i := by
  rw [pending, if_neg]
  omega

/-! ## A pass -/

/-- What the cycle after a number of cycles does with the file in a place. -/
structure Served (q : Lineup) (n i : Nat) (f : LogFile) (c : Cycle) (g : LogFile) (c' : Cycle) : Prop where
  still : c'.world.Still q.disk
  kept : c'.kept = c.kept ++ [g]
  same : f.SameAs g
  standing : q.Standing (n + 1) i g
  log : c'.tracker.log = c.tracker.log ++ q.said n i
  room : ∀ k, c.tracker.budget.Room ((q.recordsAt i).length + k) → c'.tracker.budget.Room k
  halted : c'.halted = decide (n + 1 ≤ q.blocksBefore (i + 1) * q.maxRetries)
  stalled : q.blocks i = true → (q.blocksBefore i + 1) * q.maxRetries < n + 1 → g.path ∈ c'.stalled
  stalls_on : ∀ p ∈ c.stalled, p ∈ c'.stalled

section pass
variable {cycle cycle' : Cycle} {useIdentity : Bool}

theorem Standing.waits (h : q.Standing n i f) (hw : cycle.world.Still q.disk)
    (hhalt : cycle.halted = true) (hheld : n + 1 ≤ q.blocksBefore i * q.maxRetries) :
    q.Served n i f cycle f (cycle.keep f) where
  still := hw
  kept := rfl
  same := .refl f
  standing := by
    refine ⟨h.found, h.ready, ?_, h.records_le, fun hblocks => ?_⟩
    · rw [h.due, pending_of_le (Nat.le_of_succ_le hheld), pending_of_le hheld]
    · rw [h.retry hblocks]
      omega
  log := by
    obtain ⟨c, hc, _⟩ := h.found
    rw [said, hc]
    simp only [Nat.not_lt.2 hheld, if_false, List.append_nil]
    rfl
  room k hroom := hroom.mono (Nat.le_add_left ..)
  halted := by
    refine hhalt.trans (decide_eq_true ?_).symm
    rw [blocksBefore_succ, Nat.add_mul]
    exact Nat.le_trans hheld (Nat.le_add_right ..)
  stalled _ hpast := by
    rw [Nat.add_mul] at hpast
    omega
  stalls_on _ := id

/-- A file that nothing holds up is read, and holds the others up itself if it is refused. -/
theorem Standing.asked (h : q.Standing n i f) (hfree : q.blocksBefore i * q.maxRetries < n + 1)
    (hasks : cycle.Asks q.watch q.disk (i < q.newest) (q.refused f.path) f g cycle') :
    q.Served n i f cycle g cycle' := by
  obtain ⟨c, hc, hdescribes⟩ := h.found
  have hrefused : q.refused f.path = q.isRefused i := by rw [isRefused_eq hc, hdescribes.path]
  have hsaid : q.said n i = LogTail.asked (q.isRefused i) f.path (q.pending n i) := by
    rw [said, hc]
    simp only [if_pos hfree, isRefused_eq hc, hdescribes.path]
  have hdue := hasks.due
  have hlog := hasks.log
  have hpassed := hasks.passed
  have hblocked := hasks.blocked
  rw [h.due, hrefused] at hdue hlog hpassed hblocked
  have hstanding (hretry : q.blocks i = true → g.retry = n + 1 - q.blocksBefore i * q.maxRetries) :
      q.Standing (n + 1) i g := by
    refine ⟨⟨c, hc, hasks.same.describes hdescribes⟩, hasks.ready, ?_, Nat.le_trans hasks.records_le h.records_le,
      hretry⟩
    rw [hdue]
    cases hside : q.isRefused i with
    | true => rw [if_pos rfl, pending_of_refused hside, pending_of_refused hside]
    | false => rw [if_neg Bool.false_ne_true, pending, if_pos ⟨hside, hfree⟩]
  have hroom (k : Nat) (hleft : cycle.tracker.budget.Room ((q.recordsAt i).length + k)) :
      cycle'.tracker.budget.Room k :=
    hasks.room k (hleft.mono (Nat.add_le_add_right h.records_le k))
  by_cases hblocks : q.blocks i = true
  · obtain ⟨hside, hsome⟩ := Bool.and_eq_true_iff.1 hblocks
    rw [Bool.not_eq_true', List.isEmpty_eq_false_iff] at hsome
    obtain ⟨hretry, hhalted, hstalled⟩ := hblocked hside (by rwa [pending_of_refused hside])
    rw [h.retry hblocks] at hretry hhalted hstalled
    refine ⟨hasks.still, hasks.kept, hasks.same, hstanding fun _ => by omega, hlog.trans (by rw [hsaid]), hroom, ?_,
      fun _ hpast => ?_, fun p hp => ?_⟩
    · rw [hhalted, blocksBefore_succ, if_pos hblocks, Nat.add_mul, Nat.one_mul]
      refine decide_eq_decide.2 ?_
      show _ ≤ q.maxRetries ↔ _
      omega
    · rw [Nat.add_mul, Nat.one_mul] at hpast
      have hover : q.watch.config.maxRetries < n - q.blocksBefore i * q.maxRetries + 1 := by
        show q.maxRetries < _
        omega
      rw [hstalled, if_pos hover, hasks.same.path]
      simp
    · rw [hstalled]
      exact List.mem_append_left _ hp
  · obtain ⟨hhalted, hstalled⟩ := hpassed fun hside => by
      rw [pending_of_refused hside]
      simpa [blocks, hside] using hblocks
    refine ⟨hasks.still, hasks.kept, hasks.same, hstanding fun hyes => absurd hyes hblocks,
      hlog.trans (by rw [hsaid]), hroom, ?_, fun hyes => absurd hyes hblocks, fun p hp => hstalled ▸ hp⟩
    rw [hhalted, blocksBefore_succ, if_neg hblocks, Nat.add_zero]
    exact (decide_eq_false (Nat.not_le.2 hfree)).symm

variable (hchunk : 0 < q.watch.config.chunkSize) (hmax : q.watch.config.chunkSize ≤ q.watch.config.maxRecordSize)
  (hfound : q.watch.matcher.found q.disk = .ok q.candidates)
include hchunk hmax hfound

theorem visit_served (useIdentity : Bool) (h : q.Standing n i f) (hw : cycle.world.Still q.disk)
    (hhalt : cycle.halted = decide (n + 1 ≤ q.blocksBefore i * q.maxRetries))
    (hroom : cycle.tracker.budget.Room (q.recordsAt i).length) :
    ∃ g, q.Served n i f cycle g
      (cycle.visit q.watch (.refusing q.refused) useIdentity q.newest (f, i)) := by
  by_cases hheld : n + 1 ≤ q.blocksBefore i * q.maxRetries
  · have hhalted : cycle.halted = true := hhalt.trans (decide_eq_true hheld)
    rw [Cycle.visit_waits hhalted]
    exact ⟨f, h.waits hw hhalted hheld⟩
  · obtain ⟨c, hc, hdescribes⟩ := h.found
    have hopens := Watcher.opens_of_describes hfound (List.mem_of_getElem? hc) hdescribes useIdentity
    obtain ⟨g, hasks⟩ := Cycle.visit_asks q.refused hchunk hmax hw (hhalt.trans (decide_eq_false hheld)) hopens
      h.ready (hroom.mono h.records_le)
    exact ⟨g, h.asked (Nat.not_le.1 hheld) hasks⟩

/-- What a pass from a place on comes to. -/
structure Passed (q : Lineup) (n first : Nat) (files : List LogFile) (c : Cycle) (files' : List LogFile)
    (c' : Cycle) : Prop where
  kept : c'.kept = c.kept ++ files'
  length : files'.length = files.length
  standing : ∀ k g, files'[k]? = some g → q.Standing (n + 1) (first + k) g
  log : c'.tracker.log = c.tracker.log ++ (List.range' first files.length).flatMap (q.said n)
  stalled : ∀ k g, files'[k]? = some g → q.blocks (first + k) = true →
    (q.blocksBefore (first + k) + 1) * q.maxRetries < n + 1 → g.path ∈ c'.stalled
  stalls_on : ∀ p ∈ c.stalled, p ∈ c'.stalled

/-- **A pass serves the files in their places**, while the budget has room for all of their records. -/
theorem visits_pass (useIdentity : Bool) (files : List LogFile) (first : Nat) (cycle : Cycle)
    (hfiles : ∀ k f, files[k]? = some f → q.Standing n (first + k) f) (hw : cycle.world.Still q.disk)
    (hhalt : cycle.halted = decide (n + 1 ≤ q.blocksBefore first * q.maxRetries))
    (hroom : cycle.tracker.budget.Room (q.count first files.length)) :
    ∃ files', q.Passed n first files cycle files' ((files.zipIdx first).foldl
      (Cycle.visit q.watch (.refusing q.refused) useIdentity q.newest) cycle) := by
  induction files generalizing first cycle with
  | nil => exact ⟨[], by simp, rfl, by simp, by simp, by simp, fun _ => id⟩
  | cons f files ih =>
    have hcount : q.count first (f :: files).length =
        (q.recordsAt first).length + q.count (first + 1) files.length := by
      rw [count, List.length_cons, List.range'_succ, List.map_cons, List.sum_cons]
      rfl
    rw [hcount] at hroom
    have hfirst : q.Standing n first f := hfiles 0 f rfl
    obtain ⟨g, hserved⟩ := visit_served hchunk hmax hfound useIdentity hfirst hw hhalt
      (hroom.mono (Nat.le_add_right ..))
    obtain ⟨files', hrest⟩ := ih (first + 1) _
      (fun k f hf => by
        have hplace := hfiles (k + 1) f hf
        rwa [Nat.add_comm k 1, ← Nat.add_assoc] at hplace)
      hserved.still hserved.halted (hserved.room _ hroom)
    refine ⟨g :: files', ?_⟩
    rw [List.zipIdx_cons, List.foldl_cons]
    refine ⟨?_, ?_, ?_, ?_, ?_, ?_⟩
    · rw [hrest.kept, hserved.kept]
      simp
    · rw [List.length_cons, hrest.length, List.length_cons]
    · intro k g' hg'
      cases k with
      | zero => exact Option.some.inj hg' ▸ hserved.standing
      | succ k =>
        have hplace := hrest.standing k g' hg'
        rwa [Nat.add_assoc, Nat.add_comm 1 k] at hplace
    · rw [hrest.log, hserved.log, List.length_cons, List.range'_succ, List.flatMap_cons, List.append_assoc]
    · intro k g' hg'
      cases k with
      | zero =>
        intro hblocks hpast
        exact hrest.stalls_on _ (Option.some.inj hg' ▸ hserved.stalled hblocks hpast)
      | succ k =>
        have hplace := hrest.stalled k g' hg'
        rwa [Nat.add_assoc, Nat.add_comm 1 k] at hplace
    · exact fun p hp => hrest.stalls_on p (hserved.stalls_on p hp)

end pass

/-! ## Cycles -/

/-- The files of a state, resolved with what the watch finds, as they stand after a number of cycles. -/
structure Resolved (q : Lineup) (n : Nat) (state : WatchState) : Prop where
  rotatedAway : (q.watch.resolution state q.candidates).rotatedAway = []
  standing : ∀ i f, (q.watch.resolution state q.candidates).files[i]? = some f → q.Standing n i f

/-- What a watch needs so that nothing but refusals stops its cycles. -/
structure Unlimited (q : Lineup) : Prop where
  chunk_pos : 0 < q.watch.config.chunkSize
  chunk_le : q.watch.config.chunkSize ≤ q.watch.config.maxRecordSize
  noDelay : q.watch.config.maxDelay = none
  proper : q.disk.Proper
  found : q.watch.matcher.found q.disk = .ok q.candidates
  sent : q.count 0 q.candidates.length < q.watch.config.maxSent
  processed : q.count 0 q.candidates.length < q.watch.config.maxProcessed

section cycles
variable {state : WatchState} {time : CycleTime} {w : World} {result : CycleResult}

theorem standing_track (h : q.Unlimited) (hc : q.candidates[i]? = some c) (seq : Nat) :
    q.Standing 0 i { Resolution.track c seq with processed := if q.skipOldData then c.size else 0 } := by
  obtain ⟨m, hm, hfile, _, _, hsize, _⟩ := Disk.candidate?_eq_some
    (Matcher.candidate?_of_found h.found (List.mem_of_getElem? hc))
  have hlength : (q.disk.bytesAt c.path).length = c.size := by rw [hfile.bytesAt hm, hsize]
  have hpos : 0 < q.watch.splitter.longest := Nat.lt_of_lt_of_le h.chunk_pos h.chunk_le
  have hahead : LogFile.ahead q.disk
      { Resolution.track c seq with processed := if q.skipOldData then c.size else 0 } = q.origin c := by
    rw [LogFile.ahead, LogFile.cursor, origin]
    cases q.skipOldData with
    | true => simp [LogFile.tailStart, Resolution.track]
    | false =>
      simp only [LogFile.tailStart, Resolution.track, Cursor.start, Bool.false_eq_true, if_false, List.length_nil,
        Nat.sub_self, List.nil_append, List.drop_zero, Nat.sub_zero]
      rw [← hlength, List.take_length]
  have hrecords : q.watch.splitter.records (i < q.newest) (q.origin c) = q.recordsAt i := by rw [recordsAt, hc]
  refine ⟨⟨c, hc, rfl, rfl, rfl, rfl, rfl⟩, ⟨⟨Nat.zero_le _, Encoding.terminator?_nil _, hpos⟩,
    fun _ => .inr (Nat.zero_le _), ?_⟩, ?_, ?_, fun _ => ?_⟩
  · show (if q.skipOldData then c.size else 0) ≤ c.size
    split <;> omega
  · rw [hahead, Watcher.due, hrecords, pending_of_le (Nat.zero_le _)]
    rfl
  · rw [hahead, hrecords]
  · exact (Nat.zero_sub _).symm

theorem resolved_fresh (h : q.Unlimited) : q.Resolved 0 (.fresh q.skipOldData) where
  rotatedAway := by
    refine List.eq_nil_iff_forall_not_mem.2 fun f hf => ?_
    obtain ⟨i, old, _, hold, _⟩ := Resolution.gone_of_mem_rotatedAway hf
    simp [WatchState.fresh] at hold
  standing i f hf := by
    obtain ⟨c, t, hc, _, hentry⟩ := Resolution.exists_entry_of_files hf
    cases hentry with
    | continued _ htracked => simp [WatchState.fresh] at htracked
    | copied _ _ htracked => simp [WatchState.fresh] at htracked
    | new =>
      have hstart : Resolution.startOf (.fresh q.skipOldData)
          (Resolution.resumedAt? (.fresh q.skipOldData) q.candidates) c i =
          if q.skipOldData then c.size else 0 := by
        simp [Resolution.startOf, Resolution.resumedAt?, Resolution.isResuming, WatchState.fresh]
      rw [hstart]
      exact standing_track h hc _

/-- What a cycle comes to, after a number of cycles. -/
structure Cycled (q : Lineup) (n : Nat) (state : WatchState) (result : CycleResult) : Prop where
  resolved : q.Resolved (n + 1) result.state
  length : result.state.files.length = q.candidates.length
  standing : ∀ i f, result.state.files[i]? = some f → q.Standing (n + 1) i f
  log : result.log = (List.range' 0 q.candidates.length).flatMap (q.said n)
  stalled : ∀ i f, result.state.files[i]? = some f → q.blocks i = true →
    (q.blocksBefore i + 1) * q.maxRetries < n + 1 → f.path ∈ result.report.stalled

theorem Standing.renumber {f : LogFile} (h : q.Standing n i f) (seq : Nat) :
    q.Standing n i { f with seq := seq, copyOf := none } := by
  obtain ⟨⟨c, hc, hdescribes⟩, hready, hdue, hrecords, hretry⟩ := h
  exact ⟨⟨c, hc, hdescribes.renumber seq⟩,
    ⟨hready.sound.congr rfl rfl rfl, hready.behind, hready.within⟩, hdue, hrecords, hretry⟩

/-- Files that stand in the places of the candidates are given back by the next resolution. -/
theorem resolved_of_standing {files : List LogFile} (hlength : files.length = q.candidates.length)
    (hstanding : ∀ i f, files[i]? = some f → q.Standing n i f)
    (hstate : state.files = Resolution.renumber 0 files)
    (hnames : (q.candidates.map fun c => c.path.fileName?).Nodup) :
    q.Resolved n state ∧ ∀ i f, state.files[i]? = some f → q.Standing n i f := by
  have hplaces : ∀ i f, state.files[i]? = some f → q.Standing n i f := by
    intro i f hf
    obtain ⟨g, hg, rfl⟩ := Resolution.exists_of_getElem?_renumber (hstate ▸ hf)
    exact (hstanding i g hg).renumber i
  have hmirrors : Resolution.Mirrors state q.candidates := by
    refine Resolution.mirrors_renumber hstate hlength hnames (fun i f c hf hc => ?_) fun f hf => ?_
    · obtain ⟨c', hc', hdescribes⟩ := (hstanding i f hf).found
      rwa [Option.some.inj (hc.symm.trans hc')]
    · obtain ⟨i, hi⟩ := List.getElem?_of_mem hf
      exact (hstanding i f hi).ready.within
  have hresolve : q.watch.resolution state q.candidates = _ :=
    hmirrors.resolve q.watch.config.rotation q.watch.config.encoding
  refine ⟨⟨by rw [hresolve], fun i f hf => ?_⟩, hplaces⟩
  rw [hresolve] at hf
  exact hplaces i f hf

theorem room_opening (h : q.Unlimited) (time : CycleTime) :
    (q.watch.opening time).budget.Room (q.count 0 q.candidates.length) := by
  refine ⟨?_, ?_, h.noDelay⟩
  · show 0 + _ < _
    rw [Nat.zero_add]
    exact h.sent
  · show 0 + _ < _
    rw [Nat.zero_add]
    exact h.processed

/-- **A cycle serves every file in its place.** -/
theorem Resolved.cycle (h : q.Unlimited) (hresolved : q.Resolved n state) (hw : w.Still q.disk)
    (hprocess : q.watch.process (.refusing q.refused) time state w = .ok result) : q.Cycled n state result := by
  obtain ⟨scan, w', hscan, hreported⟩ := Watcher.reported_of_process hprocess
  obtain ⟨hfound, hw'⟩ := Watcher.found_of_scan hw hscan
  have hcandidates : scan.candidates = q.candidates := Except.ok.inj (hfound.symm.trans h.found)
  rw [hcandidates] at hreported
  have hlength : (q.watch.resolution state q.candidates).files.length = q.candidates.length :=
    Resolution.length_files ..
  obtain ⟨files, hpassed⟩ := visits_pass (n := n) h.chunk_pos h.chunk_le h.found state.useIdentity
    (q.watch.resolution state q.candidates).files 0 { tracker := q.watch.opening time, world := w' }
    (fun i f hf => by rw [Nat.zero_add]; exact hresolved.standing i f hf) hw'
    (by simp [blocksBefore]) (by rw [hlength]; exact room_opening h time)
  have hrun : (q.watch.resolution state q.candidates).files.zipIdx.foldl
      (Cycle.visit q.watch (.refusing q.refused) state.useIdentity q.newest)
      { tracker := q.watch.opening time, world := w' } =
      Cycle.run q.watch (.refusing q.refused) state.useIdentity (q.watch.resolution state q.candidates)
        { tracker := q.watch.opening time, world := w' } := by
    rw [Cycle.run, hresolved.rotatedAway, List.foldl_nil, hlength]
    rfl
  rw [hrun] at hpassed
  generalize Cycle.run q.watch (.refusing q.refused) state.useIdentity (q.watch.resolution state q.candidates)
    { tracker := q.watch.opening time, world := w' } = c at hpassed hreported
  have hkept : c.kept = files := hpassed.kept
  have hfiles : result.state.files = Resolution.renumber 0 files := by
    rw [hreported.state, Cycle.nextState, hkept]
  have hcount : files.length = q.candidates.length := hpassed.length.trans hlength
  obtain ⟨hnext, hstanding⟩ := resolved_of_standing hcount
    (fun i f hf => by
      have hplace := hpassed.standing i f hf
      rwa [Nat.zero_add] at hplace)
    hfiles (hcandidates ▸ Matcher.nodup_names (hw.proper h.proper) hscan)
  refine ⟨hnext, by rw [hfiles, Resolution.length_renumber, hcount], hstanding, ?_, ?_⟩
  · have hlog : result.log = c.tracker.log := by rw [CycleResult.log, hreported.offers, Tracker.log]
    rw [hlog, hpassed.log, hlength]
    rfl
  · intro i f hf hblocks hpast
    obtain ⟨g, hg, rfl⟩ := Resolution.exists_of_getElem?_renumber (hfiles ▸ hf)
    rw [hreported.stalled]
    have hplace := hpassed.stalled i g hg
    rw [Nat.zero_add] at hplace
    exact hplace hblocks hpast

end cycles

/-! ## What is offered of one file -/

theorem filter_flatMap_eq {β : Type} {places : List Nat} {g : Nat → List β} {p : β → Bool} (hnodup : places.Nodup)
    (hi : i ∈ places) (hown : ∀ y ∈ g i, p y = true) (hothers : ∀ j, j ≠ i → ∀ y ∈ g j, p y = false) :
    (places.flatMap g).filter p = g i := by
  induction places with
  | nil => cases hi
  | cons j places ih =>
    rw [List.nodup_cons] at hnodup
    rw [List.flatMap_cons, List.filter_append]
    by_cases hji : j = i
    · subst hji
      have hrest : (places.flatMap g).filter p = [] := by
        refine List.filter_eq_nil_iff.2 fun y hy => ?_
        obtain ⟨k, hk, hy⟩ := List.mem_flatMap.1 hy
        rw [hothers k (fun heq => hnodup.1 (heq ▸ hk)) y hy]
        exact Bool.false_ne_true
      rw [List.filter_eq_self.2 hown, hrest, List.append_nil]
    · have hnone : (g j).filter p = [] := by
        refine List.filter_eq_nil_iff.2 fun y hy => ?_
        rw [hothers j hji y hy]
        exact Bool.false_ne_true
      rw [hnone, List.nil_append]
      exact ih hnodup.2 ((List.mem_cons.1 hi).resolve_left (Ne.symm hji))

section offers
variable {state : WatchState} {result : CycleResult} {results : List CycleResult}

theorem path_of_mem_said {e : Path × Nat × String × Bool} (h : e ∈ q.said n i) :
    ∃ c, q.candidates[i]? = some c ∧ e.1 = c.path := by
  rw [said] at h
  rcases hc : q.candidates[i]? with _ | c
  · simp [hc] at h
  · refine ⟨c, rfl, ?_⟩
    simp only [hc] at h
    split at h
    · obtain ⟨_, _, rfl⟩ := List.mem_map.1 h
      rfl
    · cases h

theorem Cycled.log_at (h : q.Cycled n state result) (hpaths : (q.candidates.map (·.path)).Nodup)
    (hc : q.candidates[i]? = some c) : (result.log.filter fun e => decide (e.1 = c.path)) = q.said n i := by
  rw [h.log]
  refine filter_flatMap_eq List.nodup_range' ?_ (fun e he => ?_) fun j hj e he => ?_
  · have hlt := (List.getElem?_eq_some_iff.1 hc).1
    simp [hlt]
  · obtain ⟨c', hc', hpath⟩ := path_of_mem_said he
    obtain rfl : c = c' := Option.some.inj (hc.symm.trans hc')
    exact decide_eq_true hpath
  · obtain ⟨c', hc', hpath⟩ := path_of_mem_said he
    refine decide_eq_false fun heq => hj ?_
    exact index_eq hpaths hc' hc (hpath.symm.trans heq)

theorem nodup_paths (h : q.Unlimited) : (q.candidates.map (·.path)).Nodup := by
  have hnames := Matcher.nodup_names_of_found h.proper h.found
  exact List.Nodup.of_map Path.fileName? (by rwa [List.map_map])

def accepted (path : Path) (results : List CycleResult) : List (Nat × String) :=
  ((results.flatMap CycleResult.log).filter fun e => e.1 = path && e.2.2.2).map fun e => (e.2.1, e.2.2.1)

theorem accepted_append (path : Path) (results : List CycleResult) (result : CycleResult) :
    accepted path (results ++ [result]) = accepted path results ++ accepted path [result] := by
  simp [accepted]

theorem Cycled.accepted (h : q.Cycled n state result) (hpaths : (q.candidates.map (·.path)).Nodup)
    (hc : q.candidates[i]? = some c) (hside : q.refused c.path = false) :
    Lineup.accepted c.path [result] =
      if q.blocksBefore i * q.maxRetries = n then (q.due i).map fun x => (x.1.stop, x.2) else [] := by
  have hlog : (result.log.filter fun e => e.1 = c.path && e.2.2.2) = (q.said n i).filter (·.2.2.2) := by
    rw [← h.log_at hpaths hc, List.filter_filter]
    simp only [Bool.and_comm]
  rw [Lineup.accepted, List.flatMap_singleton, hlog, said, hc]
  rcases Nat.lt_trichotomy (q.blocksBefore i * q.maxRetries) n with hless | heq | hmore
  · have hnone : q.pending n i = [] := by rw [pending, if_pos ⟨(isRefused_eq hc).trans hside, hless⟩]
    simp [hnone, hside, asked, Nat.ne_of_lt hless]
  · have hdue : q.pending n i = q.due i := pending_of_le (Nat.le_of_eq heq.symm)
    simp [heq, hdue, hside, asked, Function.comp_def, List.filter_map]
  · have hheld : ¬ q.blocksBefore i * q.maxRetries < n + 1 := by omega
    simp [hheld, Nat.ne_of_gt hmore]

/-- Of a file that is refused at most one record is offered, the first that is due. -/
theorem Cycled.refused (h : q.Cycled n state result) (hpaths : (q.candidates.map (·.path)).Nodup)
    (hc : q.candidates[i]? = some c) (hside : q.refused c.path = true) :
    result.offers.countP (fun o => o.delivery.path = c.path) ≤ 1 ∧
      ∀ o ∈ result.offers, o.delivery.path = c.path → o.accepted = false ∧
        ∃ x ∈ (q.due i).head?, o.delivery.stop = x.1.stop ∧ o.delivery.value = x.2 := by
  have hprefix : (result.log.filter fun e => decide (e.1 = c.path)) <+:
      ((q.due i).take 1).map fun x => (c.path, x.1.stop, x.2, false) := by
    rw [h.log_at hpaths hc, said, hc]
    simp only
    split
    · rw [hside, pending_of_refused ((isRefused_eq hc).trans hside)]
      exact List.prefix_refl _
    · exact List.nil_prefix
  constructor
  · have hlength := hprefix.length_le
    rw [CycleResult.log, List.filter_map, List.length_map, ← List.countP_eq_length_filter, List.length_map] at hlength
    exact Nat.le_trans hlength (List.length_take_le 1 _)
  · intro o ho hpath
    have hmem := hprefix.subset
      (List.mem_filter.2 ⟨List.mem_map.2 ⟨o, ho, rfl⟩, decide_eq_true hpath⟩)
    obtain ⟨x, hx, heq⟩ := List.mem_map.1 hmem
    obtain ⟨_, hstop, hvalue, haccepted⟩ := by simpa only [Prod.mk.injEq] using heq
    rw [List.take_one] at hx
    exact ⟨haccepted.symm, x, Option.mem_toList.1 hx, hstop.symm, hvalue.symm⟩

theorem Standing.tailStart_le (h : q.Standing n i f) (hside : q.isRefused i = true) {x : Record × String}
    (hx : x ∈ (q.due i).head?) : f.tailStart ≤ x.1.start := by
  have hmem : x ∈ q.watch.due (i < q.newest) (f.ahead q.disk) := by
    rw [h.due, pending_of_refused hside]
    exact List.mem_of_mem_head? hx
  obtain ⟨r, hr, hvalue⟩ := List.mem_filterMap.1 hmem
  obtain ⟨_, _, rfl⟩ := Option.map_eq_some_iff.1 hvalue
  obtain ⟨hstart, _⟩ := (Splitter.leads_last q.watch.splitter (i < q.newest) (f.ahead q.disk)).1.bounds hr
  have hoffset : (f.ahead q.disk).offset = f.tailStart := rfl
  rw [Splitter.rank] at hstart
  show f.tailStart ≤ r.start
  omega

end offers

/-! ## Runs -/

/-- The runs of a watch over the disk, from a fresh state on, with the results of their cycles. -/
inductive Run (q : Lineup) : List CycleResult → WatchState → Prop
  | fresh : Run q [] (.fresh q.skipOldData)
  | cycle {results : List CycleResult} {state : WatchState} {w : World} {result : CycleResult} (time : CycleTime)
    (run : Run q results state) (still : w.Still q.disk)
    (ran : q.watch.process (.refusing q.refused) time state w = .ok result) :
    Run q (results ++ [result]) result.state

/-- What is delivered of the files in cycles, and what becomes of those that are refused. -/
structure Delivers (q : Lineup) (results : List CycleResult) (state : WatchState) : Prop where
  /-- The next cycle does not fail. -/
  goes_on : ∀ (time : CycleTime) (w : World), w.Still q.disk →
    ∃ result, q.watch.process (.refusing q.refused) time state w = .ok result
  /-- Behind `k` refused files all is delivered in `k * maxRetries + 1` cycles, in order and each record once. -/
  delivered : ∀ i c, q.candidates[i]? = some c → q.refused c.path = false →
    q.refusedBefore i * q.maxRetries < results.length →
    accepted c.path results = (q.due i).map fun x => (x.1.stop, x.2)
  /-- A refused file stays tracked, and does not go past the record that is refused. -/
  tracked : ∀ i c, q.candidates[i]? = some c → q.refused c.path = true → results ≠ [] →
    ∃ f ∈ state.files, f.path = c.path ∧ ∀ x ∈ (q.due i).head?, f.tailStart ≤ x.1.start
  /-- It is offered at most once in a cycle, and always the same record. -/
  offered : ∀ i c, q.candidates[i]? = some c → q.refused c.path = true → ∀ result ∈ results,
    result.offers.countP (fun o => o.delivery.path = c.path) ≤ 1 ∧
      ∀ o ∈ result.offers, o.delivery.path = c.path → o.accepted = false ∧
        ∃ x ∈ (q.due i).head?, o.delivery.stop = x.1.stop ∧ o.delivery.value = x.2
  /-- It is reported in every cycle after which it was refused too often. -/
  stalled : ∀ i c, q.candidates[i]? = some c → q.refused c.path = true → q.due i ≠ [] → ∀ result ∈ results,
    ∀ f ∈ result.state.files, f.path = c.path → q.maxRetries < f.retry → c.path ∈ result.report.stalled

section runs
variable {results : List CycleResult} {state : WatchState}

theorem Run.cycled (h : q.Unlimited) (hrun : q.Run results state) :
    q.Resolved results.length state ∧
      (∀ k result, results[k]? = some result → ∃ before, q.Cycled k before result) ∧
      (results ≠ [] → ∃ result ∈ results, result.state = state) := by
  induction hrun with
  | fresh => exact ⟨resolved_fresh h, by simp, fun hno => absurd rfl hno⟩
  | @cycle results state w result time run hw hprocess ih =>
    have hcycled := ih.1.cycle h hw hprocess
    refine ⟨?_, fun k result' hk => ?_, fun _ => ⟨result, by simp, rfl⟩⟩
    · rw [List.length_append, List.length_singleton]
      exact hcycled.resolved
    · rcases Nat.lt_or_ge k results.length with hlt | hge
      · rw [List.getElem?_append_left hlt] at hk
        exact ih.2.1 k result' hk
      · rw [List.getElem?_append_right hge] at hk
        obtain ⟨hk', rfl⟩ : k - results.length = 0 ∧ result = result' := by
          simpa [List.getElem?_singleton] using hk
        obtain rfl : k = results.length := by omega
        exact ⟨state, hcycled⟩

theorem Run.accepted (h : q.Unlimited) (hrun : q.Run results state) (hc : q.candidates[i]? = some c)
    (hside : q.refused c.path = false) : Lineup.accepted c.path results =
      if q.blocksBefore i * q.maxRetries < results.length then (q.due i).map fun x => (x.1.stop, x.2) else [] := by
  induction hrun with
  | fresh => rfl
  | @cycle results state w result time run hw hprocess ih =>
    have hcycled := (run.cycled h).1.cycle h hw hprocess
    rw [accepted_append, ih, hcycled.accepted (nodup_paths h) hc hside, List.length_append, List.length_singleton]
    rcases Nat.lt_trichotomy (q.blocksBefore i * q.maxRetries) results.length with hless | heq | hmore
    · simp [hless, Nat.ne_of_lt hless, Nat.lt_succ_of_lt hless]
    · simp [heq]
    · have hheld : ¬ q.blocksBefore i * q.maxRetries < results.length + 1 := by omega
      simp [hheld, Nat.ne_of_gt hmore, Nat.not_lt.2 (Nat.le_of_lt hmore)]

/-- **A refused file delays the others by as many cycles as it may be tried again.** -/
theorem run_delivers {config : WatchConfig} (hconfig : Watcher.ofConfig config = .ok q.watch)
    (hdelay : config.maxDelay = none) (hproper : q.disk.Proper)
    (hfound : q.watch.matcher.found q.disk = .ok q.candidates)
    (hsent : q.count 0 q.candidates.length < config.maxSent)
    (hprocessed : q.count 0 q.candidates.length < config.maxProcessed) (hrun : q.Run results state) :
    q.Delivers results state := by
  obtain ⟨rfl, hbounded, _⟩ := Watcher.ofConfig_ok hconfig
  have hfree : q.Unlimited :=
    ⟨hbounded.chunk_pos, hbounded.chunk_le, hdelay, hproper, hfound, hsent, hprocessed⟩
  have hpaths := nodup_paths hfree
  obtain ⟨hresolved, hcycles, hlast⟩ := hrun.cycled hfree
  refine ⟨fun time w hw => ?_, fun i c hc hside hlate => ?_, fun i c hc hside hsome => ?_,
    fun i c hc hside result hresult => ?_, fun i c hc hside hdue result hresult f hf hpath hover => ?_⟩
  · obtain ⟨result, _, _, _, hprocess, _⟩ := Watcher.process_still (.refusing q.refused) time state hw hfound
    exact ⟨result, hprocess⟩
  · rw [hrun.accepted hfree hc hside, if_pos]
    exact Nat.lt_of_le_of_lt (Nat.mul_le_mul_right _ (q.blocksBefore_le i)) hlate
  · obtain ⟨result, hresult, rfl⟩ := hlast hsome
    obtain ⟨k, hk⟩ := List.getElem?_of_mem hresult
    obtain ⟨_, hcycled⟩ := hcycles k result hk
    have hlt : i < result.state.files.length := by
      rw [hcycled.length]
      exact (List.getElem?_eq_some_iff.1 hc).1
    have hf := List.getElem?_eq_getElem hlt
    obtain ⟨c', hc', hdescribes⟩ := (hcycled.standing i _ hf).found
    obtain rfl : c = c' := Option.some.inj (hc.symm.trans hc')
    exact ⟨_, List.getElem_mem hlt, hdescribes.path,
      fun x hx => (hcycled.standing i _ hf).tailStart_le ((isRefused_eq hc).trans hside) hx⟩
  · obtain ⟨k, hk⟩ := List.getElem?_of_mem hresult
    obtain ⟨_, hcycled⟩ := hcycles k result hk
    exact hcycled.refused hpaths hc hside
  · obtain ⟨k, hk⟩ := List.getElem?_of_mem hresult
    obtain ⟨_, hcycled⟩ := hcycles k result hk
    obtain ⟨j, hj⟩ := List.getElem?_of_mem hf
    have hstanding := hcycled.standing j f hj
    obtain ⟨c', hc', hdescribes⟩ := hstanding.found
    obtain rfl : j = i := index_eq hpaths hc' hc (hdescribes.path.symm.trans hpath)
    have hblocks : q.blocks j = true := by simp [blocks, isRefused_eq hc, hside, hdue]
    rw [hstanding.retry hblocks] at hover
    rw [← hpath]
    refine hcycled.stalled j f hj hblocks ?_
    rw [Nat.add_mul, Nat.one_mul]
    omega

end runs

/-- A file whose record is refused holds the one behind it up for one cycle. -/
theorem run_delivers_late :
    let disk := logDisk [([0x61], [0x70, 0x0a]), ([0x62], [0x71, 0x0a])]
    let a : Candidate := ⟨.ofText "/log/a", 2, 0, .ofNumber 2, [0x70, 0x0a]⟩
    let b : Candidate := ⟨.ofText "/log/b", 2, 1, .ofNumber 3, [0x71, 0x0a]⟩
    let q : Lineup := ⟨logWatch "a|b" 3 1 (by decide +kernel), disk, [a, b], false, fun path => path = a.path⟩
    ∃ first second, q.watch.process (.refusing q.refused) {} (.fresh false) (.quiet disk) = .ok first ∧
      q.watch.process (.refusing q.refused) {} first.state (.quiet disk) = .ok second ∧
      accepted b.path [first, second] = [(2, "q")] ∧
      (∃ f ∈ second.state.files, f.path = a.path ∧ f.tailStart = 0) ∧ q.Delivers [first, second] second.state := by
  intro disk a b q
  have hfound : q.watch.matcher.found disk = .ok [a, b] := by
    have hnames : [[0x61], [0x62]].filterMap (q.watch.matcher.candidateNamed? disk (.ofText "/log")
        ((Pattern.compile? "a|b").get (by decide +kernel))) = [a, b] := by decide +kernel
    have hlist : disk.list (.ofText "/log") = .ok [[0x61], [0x62]] := by decide +kernel
    have hsorted : [a, b].mergeSort Matcher.precedes = [a, b] := List.mergeSort_of_pairwise (by decide +kernel)
    simp only [Matcher.found, q, logWatch, hlist]
    exact congrArg Except.ok ((congrArg (List.mergeSort · Matcher.precedes) hnames).trans hsorted)
  obtain ⟨first, _, _, _, hfirst, _⟩ :=
    q.watch.process_still (.refusing q.refused) {} (.fresh false) (World.still_quiet disk) hfound
  obtain ⟨second, _, _, _, hsecond, _⟩ :=
    q.watch.process_still (.refusing q.refused) {} first.state (World.still_quiet disk) hfound
  have hproper : disk.Proper := logDisk_proper (by decide) fun f hf => by
    simp only [List.mem_cons, List.not_mem_nil, or_false] at hf
    rcases hf with rfl | rfl <;> exact ⟨by decide, by decide, by decide, by decide⟩
  have hrun : q.Run [first, second] second.state :=
    .cycle {} (.cycle {} .fresh (World.still_quiet disk) hfirst) (World.still_quiet disk) hsecond
  have hconfig : Watcher.ofConfig (logConfig "a|b" 3 1) = .ok q.watch := rfl
  have hdelivers := run_delivers hconfig rfl hproper hfound (by decide +kernel) (by decide +kernel) hrun
  have hdue : (q.due 1).map (fun x => (x.1.stop, x.2)) = [(2, "q")] := by decide +kernel
  obtain ⟨f, hf, hpath, hbehind⟩ := hdelivers.tracked 0 a rfl (by decide) (by simp)
  refine ⟨first, second, hfirst, hsecond, ?_, ⟨f, hf, hpath, ?_⟩, hdelivers⟩
  · have hlate : q.refusedBefore 1 * q.maxRetries < 2 := by decide
    rw [hdelivers.delivered 1 b rfl (by decide) hlate, hdue]
  · have hstart : ((q.due 0).head?.map (·.1.start)) = some 0 := by decide +kernel
    obtain ⟨x, hx, hzero⟩ := Option.map_eq_some_iff.1 hstart
    have := hbehind x hx
    omega

end Lineup

end LogTail
