import LogTail.Proofs.Continuation
import LogTail.Proofs.LossyCycles

/-!
# Limits and what is delivered

The limits of a cycle do not change what is delivered, only when: on a disk that stays as it is, cycles with
any limits deliver together what one cycle without does, and leave the same files.

* `Watcher.Reaches`: the states that a watch can get into, whatever happens to the disk.
* `Watcher.Slice`: what one of the cycles comes to; the records that it takes are the first of all that are
  pending, and the rest is pending in the state that it leaves (`Watcher.Slice.pendingAt`).
* `Watcher.Sliced.delivers`: the slices together. It needs that a cut ends behind every tail.
-/

namespace LogTail

def CycleResult.delivered (r : CycleResult) : List (Path × Nat × String) :=
  (r.offers.filter (·.accepted)).map fun o => (o.delivery.path, o.delivery.stop, o.delivery.value)

theorem Orderly.renumber {s : Splitter} {files : List LogFile} (h : Orderly s files) :
    Orderly s (Resolution.renumber 0 files) where
  tidy f hf := by
    obtain ⟨g, hg, _, rfl⟩ := Resolution.exists_of_mem_renumber hf
    exact (h.tidy g hg).congr rfl rfl rfl rfl
  apart := by
    rw [Resolution.map_renumber (fun _ _ => rfl)]
    exact h.apart

namespace Watcher

/-! ## States that are reached -/

/-- The states that are reached from one that has never run by cycles with any limits and any receiver,
whatever others do to the disk before and during them. -/
inductive Reaches (watch : Watcher) : WatchState → Prop
  | fresh (skipOldData : Bool) : Reaches watch (.fresh skipOldData)
  | cycle {state : WatchState} {w : World} {result : CycleResult} (before : Reaches watch state)
    (maxSent maxProcessed : Nat) (maxDelay : Option Nat) (sink : Sink) (time : CycleTime)
    (proper : w.Proper)
    (ran : (watch.limited maxSent maxProcessed maxDelay).process sink time state w = .ok result) :
    Reaches watch result.state

section reaches
variable {config : WatchConfig} {watch : Watcher} {state : WatchState}

theorem orderly_of_ran (watch : Watcher) {sink : Sink} {time : CycleTime} {candidates : List Candidate}
    {w : World} {c : Cycle} {result : CycleResult} (hchunk : 0 < watch.config.chunkSize)
    (hmax : watch.config.chunkSize ≤ watch.config.maxRecordSize) (hid : state.useIdentity = true)
    (hnames : (candidates.map fun c => c.path.fileName?).Nodup) (h : Orderly watch.splitter state.files)
    (hran : watch.Ran sink time state candidates w c result) : Orderly watch.splitter c.kept := by
  rw [hran.run]
  exact Cycle.run_orderly sink state.useIdentity hchunk hmax _
    (Resolution.resolve_orderly (Nat.lt_of_lt_of_le hchunk hmax) hid hnames h)

/-- **The files of a state that is reached are orderly**, and told by their identity. -/
theorem Reaches.orderly (hchunk : 0 < watch.config.chunkSize)
    (hmax : watch.config.chunkSize ≤ watch.config.maxRecordSize) (h : watch.Reaches state) :
    state.useIdentity = true ∧ Orderly watch.splitter state.files := by
  induction h with
  | fresh => exact ⟨rfl, by simp [WatchState.fresh], List.nodup_nil⟩
  | cycle _ maxSent maxProcessed maxDelay sink time hproper hprocess ih =>
    obtain ⟨hid, horderly⟩ := ih
    obtain ⟨scan, w', c, hscan, hran⟩ := of_process hprocess
    have hkept := orderly_of_ran (watch.limited maxSent maxProcessed maxDelay) hchunk hmax hid
      (Matcher.nodup_names hproper hscan) horderly hran
    rw [hran.state]
    exact ⟨hid, hkept.renumber⟩

end reaches

/-! ## Progress of all files -/

/-- Files after some of their records were taken, whatever their places among the tracked files. -/
structure Proceeds (watch : Watcher) (d : Disk) (files files' : List LogFile) : Prop where
  length : files'.length = files.length
  advanced : ∀ (i : Nat) (f f' : LogFile), files[i]? = some f → files'[i]? = some f' →
    ∃ rs, watch.Advanced d (i < files.length - 1) (Resolution.plain f) rs (Resolution.plain f')

def AllSettled (watch : Watcher) (d : Disk) (files : List LogFile) : Prop :=
  ∀ (i : Nat) (f : LogFile), files[i]? = some f → watch.Settled d (i < files.length - 1) f

section progress
variable {watch : Watcher} {d : Disk} {finished : Bool} {f f' f'' : LogFile} {rs rs' : List Record}
  {a a' b b' : List LogFile}

theorem Advanced.trans (h : watch.Advanced d finished f rs f') (h' : watch.Advanced d finished f' rs' f'') :
    watch.Advanced d finished f (rs ++ rs') f'' where
  same := h.same.trans h'.same
  leads := h.leads.trans h'.leads
  within hle := h'.within (h.within hle)
  retry := by
    rw [h'.retry, h.retry, List.filterMap_append]
    by_cases hrs : rs.filterMap watch.value? = [] <;>
      by_cases hrs' : rs'.filterMap watch.value? = [] <;> simp [hrs, hrs']

theorem Advanced.plain (h : watch.Advanced d finished f rs f') :
    watch.Advanced d finished (Resolution.plain f) rs (Resolution.plain f') where
  same := by
    have hsame := h.same
    rw [LogFile.SameAs] at hsame ⊢
    rw [hsame]
    rfl
  leads := h.leads
  within := h.within
  retry := h.retry

theorem getElem?_plain (h : a.map Resolution.plain = b.map Resolution.plain) {i : Nat}
    (hf : a[i]? = some f) : ∃ f', b[i]? = some f' ∧ Resolution.plain f' = Resolution.plain f := by
  have := congrArg (·[i]?) h
  simp only [List.getElem?_map, hf, Option.map_some] at this
  obtain ⟨f', hf', heq⟩ := Option.map_eq_some_iff.1 this.symm
  exact ⟨f', hf', heq⟩

theorem Proceeds.trans (h : watch.Proceeds d a b) (hplain : b'.map Resolution.plain = b.map Resolution.plain)
    (h' : watch.Proceeds d b' a') : watch.Proceeds d a a' := by
  have hlength : b'.length = b.length := by
    rw [← List.length_map (f := Resolution.plain), hplain, List.length_map]
  refine ⟨h'.length.trans (hlength.trans h.length), ?_⟩
  intro i f f'' hf hf''
  have hlt : i < b.length := by
    rw [h.length]
    exact (List.getElem?_eq_some_iff.1 hf).1
  have hmid := List.getElem?_eq_getElem hlt
  generalize b[i] = g at hmid
  obtain ⟨g', hg', heq⟩ := getElem?_plain hplain.symm hmid
  obtain ⟨rs, hadv⟩ := h.advanced i f g hf hmid
  obtain ⟨rs', hadv'⟩ := h'.advanced i g' f'' hg' hf''
  rw [heq, hlength, h.length] at hadv'
  exact ⟨rs ++ rs', hadv.trans hadv'⟩

/-- Of a file all of whose records were taken it does not matter how. -/
theorem Advanced.settled_unique (h : watch.Advanced d finished f rs f')
    (h' : watch.Advanced d finished f rs' f'') (hsettled : watch.Settled d finished f')
    (hsettled' : watch.Settled d finished f'') (hsound : f'.Tidy watch.splitter)
    (hsound' : f''.Tidy watch.splitter) : f' = f'' := by
  obtain ⟨hrs, hlast⟩ := h.leads.eq_of_next?_none hsettled.last
  obtain ⟨hrs', hlast'⟩ := h'.leads.eq_of_next?_none hsettled'.last
  have hahead : f'.ahead d = f''.ahead d := by rw [← hlast, ← hlast']
  have htail : f'.tail = f''.tail := by rw [hsettled.tail, hsettled'.tail, hahead]
  have hskip : f'.skipping = f''.skipping := congrArg Cursor.skipping hahead
  have hprocessed : f'.processed = f''.processed := by
    have hstart := hsound.tailStart_add
    have hstart' := hsound'.tailStart_add
    have hoffset : f'.tailStart = f''.tailStart := congrArg Cursor.offset hahead
    rw [htail] at hstart
    omega
  have hmark : f'.incomplete = f''.incomplete := by
    rw [show f'.incomplete = _ from hsound.marked, show f''.incomplete = _ from hsound'.marked, htail]
  have hretry : f'.retry = f''.retry := by rw [h.retry, h'.retry, ← hrs, ← hrs']
  rw [show f' = _ from h.same, show f'' = _ from h'.same, htail, hskip, hprocessed, hmark, hretry]

/-- **Where reading ends does not depend on where it was interrupted.** -/
theorem Proceeds.settled_unique (h : watch.Proceeds d a b) (h' : watch.Proceeds d a b')
    (hsettled : watch.AllSettled d b) (hsettled' : watch.AllSettled d b')
    (htidy : ∀ f ∈ b, f.Tidy watch.splitter) (htidy' : ∀ f ∈ b', f.Tidy watch.splitter) :
    b.map Resolution.plain = b'.map Resolution.plain := by
  apply List.ext_getElem (by simp [h.length, h'.length])
  intro i hi hi'
  rw [List.length_map] at hi hi'
  have hf := List.getElem?_eq_getElem (h.length ▸ hi)
  have hg := List.getElem?_eq_getElem hi
  have hg' := List.getElem?_eq_getElem hi'
  rw [List.getElem_map, List.getElem_map]
  obtain ⟨rs, hadv⟩ := h.advanced i _ _ hf hg
  obtain ⟨rs', hadv'⟩ := h'.advanced i _ _ hf hg'
  have hlast := hsettled i _ hg
  have hlast' := hsettled' i _ hg'
  rw [h.length] at hlast
  rw [h'.length] at hlast'
  exact hadv.settled_unique hadv' ⟨hlast.last, hlast.tail⟩ ⟨hlast'.last, hlast'.tail⟩
    ((htidy _ (List.getElem_mem hi)).congr rfl rfl rfl rfl)
    ((htidy' _ (List.getElem_mem hi')).congr rfl rfl rfl rfl)

end progress

/-! ## What is pending -/

def pendingAt (watch : Watcher) (d : Disk) (candidates : List Candidate) (state : WatchState) :
    List (Path × Record) :=
  let r := watch.resolution state candidates
  watch.pending true d (r.files.length - 1) r.rotatedAway r.files.zipIdx

section pending
variable {watch : Watcher} {useIdentity : Bool} {d : Disk} {newest : Nat} {a a' b b' : List LogFile}

theorem pendingOf_plain (f : LogFile) :
    watch.pendingOf useIdentity d (Resolution.plain f) = watch.pendingOf useIdentity d f := by
  unfold pendingOf drainable?
  rw [show (Resolution.plain f).path = f.path from rfl]
  rcases d.numberOf f.path with c | n
  · rfl
  · simp only [show watch.recognizes useIdentity d (Resolution.plain f) n =
      watch.recognizes useIdentity d f n from rfl, show (Resolution.plain f).processed = f.processed from rfl]
    by_cases hcan : (watch.recognizes useIdentity d f n && decide (f.processed ≤ d.size n) &&
        (!(d.node n).isDirectory || decide (d.size n ≤ f.processed))) = true
    · rw [if_pos hcan, if_pos hcan]
      rfl
    · rw [if_neg hcan, if_neg hcan]

theorem pending_congr (ha : a.map Resolution.plain = a'.map Resolution.plain)
    (hb : b.map Resolution.plain = b'.map Resolution.plain) :
    watch.pending useIdentity d newest a b.zipIdx = watch.pending useIdentity d newest a' b'.zipIdx := by
  have hof (fs : List LogFile) : fs.flatMap (watch.pendingOf useIdentity d) =
      (fs.map Resolution.plain).flatMap (watch.pendingOf useIdentity d) := by
    rw [List.flatMap_map]
    exact List.flatMap_congr fun f _ => (pendingOf_plain f).symm
  have hin (fs : List LogFile) : watch.pendingInAll d newest fs.zipIdx =
      watch.pendingInAll d newest (fs.map Resolution.plain).zipIdx := by
    rw [List.zipIdx_map, pendingInAll, pendingInAll, List.flatMap_map]
    rfl
  rw [pending, pending, hof a, hof a', ha, hin b, hin b', hb]

end pending

/-! ## One slice -/

/-- What one cycle on a disk that stays as it is comes to: the records that it takes, and the files that it
leaves. -/
structure Slice (watch : Watcher) (d : Disk) (candidates : List Candidate) (state : WatchState)
    (maxSent maxProcessed : Nat) (rs : List (Path × Record)) (away files : List LogFile)
    (result : CycleResult) : Prop where
  delivered : result.delivered = (watch.deliveries rs).map fun x => (x.1, x.2.1, x.2.2.1)
  sent : result.report.sent = (watch.deliveries rs).length
  processed : result.report.processed = rs.length
  left : Resolution.LeftBehind result.state candidates away files
  orderly : Orderly watch.splitter result.state.files
  tidy : ∀ f ∈ files, f.Tidy watch.splitter
  rest : rs ++ watch.pending true d (files.length - 1) away files.zipIdx = watch.pendingAt d candidates state
  proceeds : watch.Proceeds d (watch.resolution state candidates).files files
  through : result.report.sent < maxSent → result.report.processed < maxProcessed →
    away = [] ∧ rs = watch.pendingAt d candidates state ∧ watch.AllSettled d files

section slice
variable {watch : Watcher} {d : Disk} {candidates : List Candidate} {state : WatchState} {w : World}
  {maxSent maxProcessed : Nat} {rs : List (Path × Record)} {away files : List LogFile}
  {result : CycleResult}

theorem delivered_of_log (watch : Watcher) (h : (result.offers.map fun o =>
    (o.delivery.path, o.delivery.stop, o.delivery.value, o.accepted)) = watch.deliveries rs) :
    result.delivered = (watch.deliveries rs).map fun x => (x.1, x.2.1, x.2.2.1) := by
  rw [CycleResult.delivered, List.filter_eq_self.2 (watch.accepted_of_log h), ← h, List.map_map]
  rfl

theorem leftBehind_of_kept {c : Cycle} (hid : state.useIdentity = true)
    (hnames : (candidates.map fun c => c.path.fileName?).Nodup) (horderly : Orderly watch.splitter c.kept)
    (hkept : c.kept = away ++ files)
    (hlength : files.length = (watch.resolution state candidates).files.length)
    (hadvanced : ∀ (i : Nat) (f f' : LogFile), (watch.resolution state candidates).files[i]? = some f →
      files[i]? = some f' → ∃ finished rs, watch.Advanced d finished f rs f') :
    Resolution.LeftBehind (c.nextState state) candidates away files := by
  have horigin {i : Nat} {f : LogFile} (hf : files[i]? = some f) :
      ∃ c, candidates[i]? = some c ∧ f.Describes c ∧ f.processed ≤ f.size := by
    have hlt := (List.getElem?_eq_some_iff.1 hf).1
    rw [hlength] at hlt
    have hg := List.getElem?_eq_getElem hlt
    obtain ⟨_, _, hadv⟩ := hadvanced i _ f hg hf
    obtain ⟨c, hc, horigin⟩ := Resolution.origin_of_files hg
    exact ⟨c, hc, hadv.same.describes horigin.describes, hadv.within (horigin.within hc)⟩
  refine ⟨hid, congrArg (Resolution.renumber 0) hkept, hkept ▸ horderly.apart, hnames,
    hlength.trans (Resolution.length_files ..), ?_, ?_⟩
  · intro i f c hf hc
    obtain ⟨c', hc', hdescribes, _⟩ := horigin hf
    rwa [Option.some.inj (hc.symm.trans hc')]
  · intro f hf
    obtain ⟨i, hi⟩ := List.getElem?_of_mem hf
    obtain ⟨_, _, _, hwithin⟩ := horigin hi
    exact hwithin

theorem not_halted_of_below {c : Cycle} {time : CycleTime} {r : Resolution}
    (hruns : Cycle.Runs (watch.limited maxSent maxProcessed none) true d r
      { tracker := (watch.limited maxSent maxProcessed none).opening time, world := w } rs away files c)
    (hsent : c.tracker.budget.sent < maxSent) (hprocessed : c.tracker.budget.processed < maxProcessed) :
    c.halted = false := by
  have hbudget := hruns.emits.budget
  refine hruns.not_halted (Budget.not_exhausted ?_ ?_ ?_)
  · rwa [show c.tracker.budget.maxSent = maxSent by rw [hbudget]; rfl]
  · rwa [show c.tracker.budget.maxProcessed = maxProcessed by rw [hbudget]; rfl]
  · rw [hbudget]
    rfl

theorem exists_slice (hchunk : 0 < watch.config.chunkSize)
    (hmax : watch.config.chunkSize ≤ watch.config.maxRecordSize) (hs : watch.splitter.CutsBehindTails)
    (hd : d.Proper) (hfound : watch.matcher.found d = .ok candidates) (hid : state.useIdentity = true)
    (horderly : Orderly watch.splitter state.files) (hw : w.Still d) (time : CycleTime)
    (hprocess : (watch.limited maxSent maxProcessed none).process .acceptAll time state w = .ok result) :
    ∃ rs away files, watch.Slice d candidates state maxSent maxProcessed rs away files result := by
  obtain ⟨scan, w', c, hscan, hran⟩ := of_process hprocess
  obtain ⟨hfound', hw'⟩ := found_of_scan hw hscan
  obtain rfl : scan.candidates = candidates := Except.ok.inj (hfound'.symm.trans hfound)
  have hnames := Matcher.nodup_names (hw.proper hd) hscan
  have hkept := orderly_of_ran (watch.limited maxSent maxProcessed none) hchunk hmax hid hnames
    horderly hran
  have hresolved : Orderly watch.splitter ((watch.resolution state scan.candidates).rotatedAway ++
      (watch.resolution state scan.candidates).files) :=
    Resolution.resolve_orderly (Nat.lt_of_lt_of_le hchunk hmax) hid hnames horderly
  obtain ⟨rs, away, files, hruns⟩ := hran.runs hchunk hmax hw' hfound fun f hf => (hresolved.tidy f hf).toSound
  rw [hid] at hruns
  obtain ⟨hrest, hlength, hadvanced⟩ := hruns.rest hs
  have hfiles : c.kept = away ++ files := hruns.kept
  have hbudget := hruns.emits.budget
  have hleft : Resolution.LeftBehind (c.nextState state) scan.candidates away files := by
    apply leftBehind_of_kept hid hnames hkept hfiles hlength
    intro i f f' hf hf'
    obtain ⟨⟨rs, hadv⟩, _⟩ := hadvanced i f f' hf hf'
    exact ⟨_, rs, hadv⟩
  rw [← hran.state] at hleft
  refine ⟨rs, away, files, ?_, ?_, ?_, hleft, ?_, ?_, ?_, ⟨hlength, ?_⟩, ?_⟩
  · exact delivered_of_log watch (hran.log hruns)
  · rw [hran.sent, hbudget]
    exact Nat.zero_add _
  · rw [hran.processed, hbudget]
    exact Nat.zero_add _
  · rw [hran.state]
    exact hkept.renumber
  · intro f hf
    exact hkept.tidy f (hfiles ▸ List.mem_append_right _ hf)
  · rw [hlength]
    exact hrest
  · intro i f f' hf hf'
    obtain ⟨⟨rs, hadv⟩, _⟩ := hadvanced i f f' hf hf'
    exact ⟨rs, Advanced.plain ⟨hadv.same, hadv.leads, hadv.within, hadv.retry⟩⟩
  · intro hsent hprocessed
    rw [hran.sent] at hsent
    rw [hran.processed] at hprocessed
    have hgoes := not_halted_of_below hruns hsent hprocessed
    obtain ⟨hnone, hall⟩ := hruns.through hgoes
    refine ⟨hnone, hall, ?_⟩
    intro i f hf
    have hlt := (List.getElem?_eq_some_iff.1 hf).1
    rw [hlength] at hlt ⊢
    have hsettled := (hadvanced i _ f (List.getElem?_eq_getElem hlt) hf).2 hgoes
    exact ⟨hsettled.last, hsettled.tail⟩

/-- **What a slice did not take is pending in the state that it leaves.** -/
theorem Slice.pendingAt (h : watch.Slice d candidates state maxSent maxProcessed rs away files result) :
    rs ++ watch.pendingAt d candidates result.state = watch.pendingAt d candidates state := by
  obtain ⟨haway, hfiles⟩ := h.left.resolve_again watch.config.rotation watch.config.encoding
  rw [← h.rest]
  congr 1
  have hlength : (watch.resolution result.state candidates).files.length = files.length :=
    (Resolution.length_files ..).trans h.left.length.symm
  rw [Watcher.pendingAt, hlength]
  refine pending_congr ?_ hfiles
  rw [show (watch.resolution result.state candidates).rotatedAway = _ from haway]
  exact Resolution.map_renumber (fun _ _ => rfl) ..

end slice

/-! ## All slices -/

/-- Limits of cycles, one after the other, as a valid configuration may have them. -/
def Limits (limits : Nat → Nat × Nat) : Prop := ∀ n, 1 ≤ (limits n).1 ∧ (limits n).1 ≤ (limits n).2

/-- Cycles on a disk that stays as it is, with limits, for a receiver that accepts everything, until one
stays below both of its limits: where they begin, what they deliver together, and where they end. -/
inductive Sliced (watch : Watcher) (d : Disk) :
    (Nat → Nat × Nat) → WatchState → List (Path × Nat × String) → WatchState → Prop
  | last {limits : Nat → Nat × Nat} {state : WatchState} {w : World} {result : CycleResult}
    (time : CycleTime) (still : w.Still d)
    (ran : (watch.limited (limits 0).1 (limits 0).2 none).process .acceptAll time state w = .ok result)
    (sent : result.report.sent < (limits 0).1) (processed : result.report.processed < (limits 0).2) :
    Sliced watch d limits state result.delivered result.state
  | more {limits : Nat → Nat × Nat} {state final : WatchState} {w : World} {result : CycleResult}
    {log : List (Path × Nat × String)} (time : CycleTime) (still : w.Still d)
    (ran : (watch.limited (limits 0).1 (limits 0).2 none).process .acceptAll time state w = .ok result)
    (reached : ¬ (result.report.sent < (limits 0).1 ∧ result.report.processed < (limits 0).2))
    (rest : Sliced watch d (fun n => limits (n + 1)) result.state log final) :
    Sliced watch d limits state (result.delivered ++ log) final

/-- All that is pending was delivered, and the files that are left are at their ends. -/
structure Delivers (watch : Watcher) (d : Disk) (candidates : List Candidate) (state : WatchState)
    (log : List (Path × Nat × String)) (files final : List LogFile) : Prop where
  log : log = (watch.deliveries (watch.pendingAt d candidates state)).map fun x => (x.1, x.2.1, x.2.2.1)
  numbered : final = Resolution.renumber 0 files
  proceeds : watch.Proceeds d (watch.resolution state candidates).files files
  settled : watch.AllSettled d files
  tidy : ∀ f ∈ files, f.Tidy watch.splitter

section sliced
variable {config : WatchConfig} {watch : Watcher} {d : Disk} {candidates : List Candidate}
  {state final : WatchState} {w : World} {maxSent maxProcessed : Nat} {rs : List (Path × Record)}
  {away files : List LogFile} {result : CycleResult} {log : List (Path × Nat × String)}

theorem deliveries_append (rs rs' : List (Path × Record)) :
    watch.deliveries (rs ++ rs') = watch.deliveries rs ++ watch.deliveries rs' :=
  List.filterMap_append

theorem renumber_congr {a b : List LogFile} (h : a.map Resolution.plain = b.map Resolution.plain) :
    Resolution.renumber 0 a = Resolution.renumber 0 b := by
  have hof (fs : List LogFile) :
      Resolution.renumber 0 fs = Resolution.renumber 0 (fs.map Resolution.plain) := by
    rw [Resolution.renumber, Resolution.renumber, List.zipIdx_map, List.map_map]
    rfl
  rw [hof a, hof b, h]

theorem Slice.delivers (h : watch.Slice d candidates state maxSent maxProcessed rs away files result)
    (hsent : result.report.sent < maxSent) (hprocessed : result.report.processed < maxProcessed) :
    watch.Delivers d candidates state result.delivered files result.state.files := by
  obtain ⟨rfl, hall, hsettled⟩ := h.through hsent hprocessed
  exact ⟨hall ▸ h.delivered, h.left.numbered, h.proceeds, hsettled, h.tidy⟩

theorem Slice.delivers_more {files' final' : List LogFile}
    (h : watch.Slice d candidates state maxSent maxProcessed rs away files result)
    (h' : watch.Delivers d candidates result.state log files' final') :
    watch.Delivers d candidates state (result.delivered ++ log) files' final' where
  log := by rw [h.delivered, h'.log, ← h.pendingAt, deliveries_append, List.map_append]
  numbered := h'.numbered
  proceeds := h.proceeds.trans (h.left.resolve_again watch.config.rotation watch.config.encoding).2
    h'.proceeds
  settled := h'.settled
  tidy := h'.tidy

theorem Delivers.unique {log' : List (Path × Nat × String)} {files' final final' : List LogFile}
    (h : watch.Delivers d candidates state log files final)
    (h' : watch.Delivers d candidates state log' files' final') : log = log' ∧ final = final' := by
  refine ⟨h.log.trans h'.log.symm, ?_⟩
  rw [h.numbered, h'.numbered]
  exact renumber_congr (h.proceeds.settled_unique h'.proceeds h.settled h'.settled h.tidy h'.tidy)

theorem Sliced.delivers (hchunk : 0 < watch.config.chunkSize)
    (hmax : watch.config.chunkSize ≤ watch.config.maxRecordSize) (hs : watch.splitter.CutsBehindTails)
    (hd : d.Proper) (hfound : watch.matcher.found d = .ok candidates) (hid : state.useIdentity = true)
    (horderly : Orderly watch.splitter state.files) {limits : Nat → Nat × Nat}
    (h : watch.Sliced d limits state log final) :
    ∃ files, watch.Delivers d candidates state log files final.files := by
  induction h with
  | last time hstill hran hsent hprocessed =>
    obtain ⟨rs, away, files, hslice⟩ := exists_slice hchunk hmax hs hd hfound hid horderly hstill time hran
    exact ⟨files, hslice.delivers hsent hprocessed⟩
  | more time hstill hran _ _ ih =>
    obtain ⟨rs, away, files, hslice⟩ := exists_slice hchunk hmax hs hd hfound hid horderly hstill time hran
    obtain ⟨files', hmore⟩ := ih hslice.left.identity hslice.orderly
    exact ⟨files', hslice.delivers_more hmore⟩

/-- **Slices come to an end**, as each that reaches a limit takes a record. -/
theorem exists_sliced (hchunk : 0 < watch.config.chunkSize)
    (hmax : watch.config.chunkSize ≤ watch.config.maxRecordSize) (hs : watch.splitter.CutsBehindTails)
    (hd : d.Proper) (hfound : watch.matcher.found d = .ok candidates) {limits : Nat → Nat × Nat}
    (hlimits : Limits limits) (hid : state.useIdentity = true)
    (horderly : Orderly watch.splitter state.files) : ∃ log final, watch.Sliced d limits state log final := by
  induction hn : (watch.pendingAt d candidates state).length using Nat.strongRecOn
    generalizing state limits with
  | ind n ih =>
  obtain ⟨hpositive, hordered⟩ := hlimits 0
  obtain ⟨result, c, w', _, hran, _⟩ := (watch.limited (limits 0).1 (limits 0).2 none).process_still
    .acceptAll {} state (World.still_quiet d) hfound
  obtain ⟨rs, away, files, hslice⟩ :=
    exists_slice hchunk hmax hs hd hfound hid horderly (World.still_quiet d) {} hran
  by_cases hbelow : result.report.sent < (limits 0).1 ∧ result.report.processed < (limits 0).2
  · exact ⟨_, _, .last {} (World.still_quiet d) hran hbelow.1 hbelow.2⟩
  · have hsome : 0 < rs.length := by
      have hsent := hslice.sent
      have hprocessed := hslice.processed
      have hle : (watch.deliveries rs).length ≤ rs.length := List.length_filterMap_le ..
      omega
    have hless := congrArg List.length hslice.pendingAt
    rw [List.length_append, hn] at hless
    obtain ⟨log, final, hrest⟩ := ih _ (by omega) (fun n => hlimits (n + 1)) hslice.left.identity
      hslice.orderly rfl
    exact ⟨_, _, .more {} (World.still_quiet d) hran hbelow hrest⟩

/-- **Limits do not change what is delivered**: from every state that is reached, on a disk that stays as it
is, the slices come to an end, deliver together what one cycle does that stays below its limits, and leave
the same files. -/
def LimitsImmaterial (watch : Watcher) : Prop :=
  ∀ state d w time maxSent maxProcessed whole, watch.Reaches state → d.Proper → w.Still d →
    (watch.limited maxSent maxProcessed none).process .acceptAll time state w = .ok whole →
    whole.report.sent < maxSent → whole.report.processed < maxProcessed →
    ∀ limits, Limits limits → (∃ log final, watch.Sliced d limits state log final) ∧
      ∀ log final, watch.Sliced d limits state log final →
        log = whole.delivered ∧ final.files = whole.state.files

theorem limitsImmaterial_of_cutsBehindTails (hconfig : Watcher.ofConfig config = .ok watch)
    (hunit : config.maxRecordSize % config.encoding.unit ≤ 1) : watch.LimitsImmaterial := by
  intro state d w time maxSent maxProcessed whole hreach hd hw hwhole hsent hprocessed limits hlimits
  obtain ⟨hwatch, hbounded, _⟩ := ofConfig_ok hconfig
  rw [← hwatch] at hbounded hunit
  obtain ⟨hchunk, hmax⟩ := hbounded
  obtain ⟨hid, horderly⟩ := hreach.orderly hchunk hmax
  obtain ⟨scan, w', c, hscan, _⟩ := of_process hwhole
  have hfound : watch.matcher.found d = .ok scan.candidates := (found_of_scan hw hscan).1
  refine ⟨exists_sliced hchunk hmax hunit hd hfound hlimits hid horderly, ?_⟩
  intro log final hsliced
  obtain ⟨rs, away, files, hslice⟩ := exists_slice hchunk hmax hunit hd hfound hid horderly hw time hwhole
  obtain ⟨files', hdelivers⟩ := hsliced.delivers hchunk hmax hunit hd hfound hid horderly
  exact hdelivers.unique (hslice.delivers hsent hprocessed)

end sliced

/-! ## Where a cut may end inside a tail -/

section lossy
variable {e : Encoding} {chunk longest : Nat}

theorem not_limitsImmaterial_rotated (hchunk : 0 < chunk) (hmax : chunk ≤ longest)
    (h : ¬ (rotatedWatch e chunk longest).splitter.CutsBehindTails) :
    ¬ (rotatedWatch e chunk longest).LimitsImmaterial := by
  intro hall
  obtain ⟨first, f, hfirst, _, htracked, halmost⟩ := exists_first_cycle hchunk hmax (e := e)
  obtain ⟨second, delivery, g, hsecond, hone, hsent, htracked', hinside⟩ :=
    exists_second_cycle hchunk hmax h htracked halmost
  obtain ⟨third, k, hthird, hnone, hsent', hprocessed', _⟩ :=
    exists_third_cycle hchunk hmax h htracked' hinside
  obtain ⟨limit, whole, hwhole, hbelow, hbelow', hmany, haccepted⟩ :=
    exists_whole_cycle hchunk hmax h htracked halmost
  have hreach : (rotatedWatch e chunk longest).Reaches first.state :=
    .cycle (.fresh false) 1 1 none .acceptAll {} ((World.still_quiet _).proper (rotatedDisk_proper _)) hfirst
  have hsliced : (rotatedWatch e chunk longest).Sliced (longDisk e longest) (fun _ => (1, 1)) first.state
      (second.delivered ++ third.delivered) third.state := by
    refine .more {} (World.still_quiet _) hsecond ?_
      (.last {} (World.still_quiet _) hthird ?_ ?_)
    · intro hlt
      rw [hsent] at hlt
      exact absurd hlt.1 (by decide)
    · rw [hsent']
      exact Nat.one_pos
    · rw [hprocessed']
      exact Nat.one_pos
  obtain ⟨_, hequal⟩ := hall _ _ _ _ _ _ _ hreach (rotatedDisk_proper _) (World.still_quiet _) hwhole hbelow
    hbelow' (fun _ => (1, 1)) fun _ => ⟨Nat.le_refl 1, Nat.le_refl 1⟩
  have hlog := congrArg List.length (hequal _ _ hsliced).1
  have hfew : (second.delivered ++ third.delivered).length = 1 := by
    simp [CycleResult.delivered, hone, hnone]
  have hwhole' : whole.delivered.length = whole.offers.length := by
    rw [CycleResult.delivered, List.filter_eq_self.2 haccepted, List.length_map]
  omega

end lossy

/-- **Limits do not change what is delivered, if and only if a cut ends behind every tail.** -/
theorem limitsImmaterial_iff (e : Encoding) {chunk longest : Nat} (hchunk : 0 < chunk)
    (hmax : chunk ≤ longest) :
    (∀ config watch, config.CutsBy e chunk longest → Watcher.ofConfig config = .ok watch →
      watch.LimitsImmaterial) ↔ longest % e.unit ≤ 1 := by
  constructor
  · intro hall
    apply Decidable.byContradiction
    intro h
    exact not_limitsImmaterial_rotated hchunk hmax h (hall _ _ ⟨rfl, rfl, rfl⟩
      (ofConfig_rotated e hchunk hmax))
  · intro h config watch hcuts hconfig
    apply limitsImmaterial_of_cutsBehindTails hconfig
    rwa [hcuts.maxRecordSize, hcuts.encoding]

theorem limitsImmaterial_sample :
    (∃ log final whole, (rotatedWatch .utf8 4 8).Sliced (rotatedDisk [0x61] [0x70, 0x0a, 0x71, 0x0a, 0x72])
      (fun _ => (1, 1)) (.fresh false) log final ∧
      ((rotatedWatch .utf8 4 8).limited 100 100 none).process .acceptAll {} (.fresh false)
        (.quiet (rotatedDisk [0x61] [0x70, 0x0a, 0x71, 0x0a, 0x72])) = .ok whole ∧
      log = whole.delivered ∧ final.files = whole.state.files ∧
      log = [(rotatedPath, 2, "p"), (rotatedPath, 4, "q")]) ∧
    ¬ ∀ config watch, config.CutsBy .utf32le 7 7 → Watcher.ofConfig config = .ok watch →
      watch.LimitsImmaterial := by
  have himmaterial : (rotatedWatch .utf8 4 8).LimitsImmaterial :=
    (limitsImmaterial_iff .utf8 (show 0 < 4 by decide) (show 4 ≤ 8 by decide)).2 (by decide)
      (rotatedConfig .utf8 4 8) _ ⟨rfl, rfl, rfl⟩ rfl
  obtain ⟨whole, hwhole, hresult⟩ := exists_of_afterCycle
    (p := fun r => r.report.sent < 100 && r.report.processed < 100 &&
      decide (r.delivered = [(rotatedPath, 2, "p"), (rotatedPath, 4, "q")]))
    (show ((rotatedWatch .utf8 4 8).limited 100 100 none).afterCycle .acceptAll
      (rotatedDisk [0x61] [0x70, 0x0a, 0x71, 0x0a, 0x72]) (.fresh false) _ = true by decide +kernel)
  simp only [Bool.and_eq_true, decide_eq_true_eq] at hresult
  obtain ⟨⟨hsent, hprocessed⟩, hdelivered⟩ := hresult
  obtain ⟨⟨log, final, hsliced⟩, hequal⟩ := himmaterial _ _ _ _ _ _ _ (.fresh false) (rotatedDisk_proper _)
    (World.still_quiet _) hwhole hsent hprocessed (fun _ => (1, 1)) fun _ => ⟨Nat.le_refl 1, Nat.le_refl 1⟩
  obtain ⟨hlog, hfiles⟩ := hequal log final hsliced
  refine ⟨⟨log, final, whole, hsliced, hwhole, hlog, hfiles, hlog.trans hdelivered⟩, ?_⟩
  intro hall
  exact absurd ((limitsImmaterial_iff .utf32le (show 0 < 7 by decide) (Nat.le_refl 7)).1 hall) (by decide)

end Watcher

end LogTail
