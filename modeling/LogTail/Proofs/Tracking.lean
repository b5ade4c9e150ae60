import LogTail.Proofs.Fixpoint
import LogTail.Proofs.Pending
import LogTail.Proofs.Steadiness
import LogTail.Proofs.Termination

/-!
# Following a disk that stays as it is

A watch that begins with nothing tracks, after its first cycle over a disk that stays as it is, the files that it
finds there, one by one (`Watcher.Following`). From then on each cycle that leaves work lessens what the files owe, and
one that leaves none, with a receiver that accepts all, leaves nothing to do (`Watcher.Following.cycle`).

* `Cycle.visits_accepted`: with a receiver that accepts what is offered of some files, reading them goes through.
* `Watcher.Following.toDo_lt`: an agent makes cycles enough.
-/

namespace LogTail

/-- A receiver accepts all records of a file. -/
def Sink.Accepts (sink : Sink) (path : Path) : Prop := ∀ n d, d.path = path → sink n d = true

/-! ## Reading with a receiver that accepts -/

namespace Cycle

section accepted
variable {watch : Watcher} {sink : Sink} {useIdentity : Bool} {newest : Nat} {d : Disk} {c c' : Cycle}

/-- What a pass leaves that met no error and no refusal. -/
structure Accepted (d : Disk) (c c' : Cycle) : Prop where
  still : c'.world.Still d
  readErrors : c'.readErrors = c.readErrors
  offers : ∀ o ∈ c'.tracker.offers, o ∈ c.tracker.offers ∨ o.accepted = true

theorem Accepted.trans {c'' : Cycle} (h : Accepted d c c') (h' : Accepted d c' c'') : Accepted d c c'' where
  still := h'.still
  readErrors := h'.readErrors.trans h.readErrors
  offers o ho := (h'.offers o ho).elim (h.offers o) .inr

theorem visit_accepted (hchunk : 0 < watch.config.chunkSize)
    (hmax : watch.config.chunkSize ≤ watch.config.maxRecordSize) (hw : c.world.Still d) {x : LogFile × Nat}
    (hopens : x.1.Readable d useIdentity (d.bytesAt x.1.path)) (hsound : x.1.Sound watch.splitter)
    (haccepts : sink.Accepts x.1.path) : Accepted d c (visit watch sink useIdentity newest c x) := by
  by_cases hhalt : c.halted = true
  · rw [visit_waits hhalt]
    exact ⟨hw, rfl, fun o ho => .inl ho⟩
  rw [Bool.not_eq_true] at hhalt
  have hreads := watch.readFile_spec (s := ⟨x.1, c.tracker, c.world⟩) sink useIdentity (x.2 < newest) hchunk hmax hw
    hopens hsound
  obtain ⟨offers, hattempt⟩ := watch.readFile_attempt (s := ⟨x.1, c.tracker, c.world⟩) sink useIdentity
    (x.2 < newest) hchunk hsound.inside
  rcases hread : watch.readFile sink useIdentity (x.2 < newest) ⟨x.1, c.tracker, c.world⟩ with ⟨outcome, s⟩
  have hafter := visit_reads hhalt hread
  rw [hread] at hreads hattempt
  have hends := hattempt.ends
  have haccepted : (∀ o ∈ offers, o.accepted = true) ∧ outcome.isFailed = false := by
    cases hreads with
    | ended hway =>
      rcases hway with rfl | rfl
      · exact ⟨hends.1, rfl⟩
      · rw [hends.2.1]
        exact ⟨List.forall_mem_nil _, rfl⟩
    | budget => exact ⟨hends.1, rfl⟩
    | rejected htook _ _ hrefused =>
      rw [haccepts _ _ htook.same.path] at hrefused
      cases hrefused
  refine ⟨hafter.world ▸ hattempt.later.still hw, ?_, fun o ho => ?_⟩
  · rw [hafter.readErrors, haccepted.2]
    exact List.append_nil _
  · rw [hafter.tracker, hattempt.offered, List.mem_append, List.mem_reverse] at ho
    exact ho.symm.imp_right (haccepted.1 o)

/-- **A pass over files whose records are accepted goes through** without errors and refusals. -/
theorem visits_accepted (hchunk : 0 < watch.config.chunkSize)
    (hmax : watch.config.chunkSize ≤ watch.config.maxRecordSize) (hw : c.world.Still d) (xs : List (LogFile × Nat))
    (hxs : ∀ x ∈ xs, x.1.Readable d useIdentity (d.bytesAt x.1.path) ∧ x.1.Sound watch.splitter ∧
      sink.Accepts x.1.path) : Accepted d c (xs.foldl (visit watch sink useIdentity newest) c) := by
  induction xs generalizing c with
  | nil => exact ⟨hw, rfl, fun o ho => .inl ho⟩
  | cons x xs ih =>
    obtain ⟨hopens, hsound, haccepts⟩ := hxs x (by simp)
    have hvisit : Accepted d c (visit watch sink useIdentity newest c x) :=
      visit_accepted hchunk hmax hw hopens hsound haccepts
    exact hvisit.trans (ih hvisit.still fun y hy => hxs y (by simp [hy]))

end accepted

end Cycle

/-! ## States that follow a disk -/

namespace Resolution

variable {state : WatchState} {candidates : List Candidate}

theorem Mirrors.exists_candidate (h : Mirrors state candidates) {f : LogFile} (hf : f ∈ state.files) :
    ∃ c ∈ candidates, f.Describes c := by
  obtain ⟨i, hi⟩ := List.getElem?_of_mem hf
  have hlt : i < candidates.length := h.length ▸ (List.getElem?_eq_some_iff.1 hi).1
  exact ⟨candidates[i], List.getElem_mem hlt, h.describes i f _ hi (List.getElem?_eq_getElem hlt)⟩

theorem Mirrors.exists_file (h : Mirrors state candidates) {c : Candidate} (hc : c ∈ candidates) :
    ∃ f ∈ state.files, f.Describes c := by
  obtain ⟨i, hi⟩ := List.getElem?_of_mem hc
  have hlt : i < state.files.length := h.length ▸ (List.getElem?_eq_some_iff.1 hi).1
  exact ⟨state.files[i], List.getElem_mem hlt, h.describes i _ c (List.getElem?_eq_getElem hlt) hi⟩

end Resolution

namespace Watcher

/-- A state in which a watch tracks nothing, or what it finds. -/
structure Following (watch : Watcher) (candidates : List Candidate) (state : WatchState) : Prop where
  reaches : watch.Reaches state
  reached : state.Reached
  tracked : state.files = [] ∨ Resolution.Mirrors state candidates

section following
variable {config : WatchConfig} {watch : Watcher} {d : Disk} {candidates : List Candidate} {state : WatchState}

theorem following_fresh (watch : Watcher) (candidates : List Candidate) (skipOldData : Bool) :
    watch.Following candidates (.fresh skipOldData) :=
  ⟨.fresh skipOldData, .fresh skipOldData, .inl rfl⟩

theorem Following.rotatedAway (h : watch.Following candidates state) :
    (watch.resolution state candidates).rotatedAway = [] := by
  rcases h.tracked with hnone | hmirrors
  · have hleft : Resolution.left watch.config.rotation state candidates = [] := by
      rw [← List.sublist_nil, ← hnone]
      exact Resolution.left_sublist
    simp [resolution, Resolution.rotatedAway_eq, hleft, Resolution.bySeq, Resolution.renumber]
  · exact hmirrors.rotatedAway watch.config.rotation watch.config.encoding

theorem Round.files_eq {time : CycleTime} {away files : List LogFile} {c : Cycle} {result : CycleResult}
    (h : watch.Round d time state candidates away files c result)
    (haway : (watch.resolution state candidates).rotatedAway = []) :
    result.state.files = Resolution.renumber 0 files := by
  obtain ⟨w, goOn, _, hdeals⟩ := h.deals
  rw [Cycle.parts, haway, List.map_nil, List.nil_append] at hdeals
  obtain ⟨files', hkept, hlength, -⟩ := hdeals.scan fun f hf => sizeAt_of_mem_files h.found hf
  have hnone : away = [] := by
    have hcount := congrArg List.length (h.kept.symm.trans hkept)
    rw [List.nil_append, List.length_append, hlength, h.left.length] at hcount
    rw [resolution, Resolution.length_files] at hcount
    exact List.length_eq_zero_iff.1 (by omega)
  rw [h.left.numbered, hnone, List.nil_append]

theorem Round.mirrors {time : CycleTime} {away files : List LogFile} {c : Cycle} {result : CycleResult}
    (h : watch.Round d time state candidates away files c result)
    (haway : (watch.resolution state candidates).rotatedAway = []) : Resolution.Mirrors result.state candidates :=
  Resolution.mirrors_renumber (h.files_eq haway) h.left.length h.left.names h.left.describes h.left.within

/-- With a receiver that accepts all that is found, a cycle in which nothing rotated away meets no error and no
refusal. -/
theorem Following.accepted (hconfig : Watcher.ofConfig config = .ok watch) (h : watch.Following candidates state)
    {sink : Sink} {time : CycleTime} {w : World} (hw : w.Still d)
    (hfound : watch.matcher.found d = .ok candidates) (haccepts : ∀ c ∈ candidates, sink.Accepts c.path)
    {result : CycleResult} (hprocess : watch.process sink time state w = .ok result) :
    result.report.readErrors = [] ∧ ∀ o ∈ result.offers, o.accepted = true := by
  obtain ⟨rfl, hbounded, _⟩ := ofConfig_ok hconfig
  obtain ⟨scan, w', c, hscan, hran⟩ := of_process hprocess
  obtain ⟨hfound', hw'⟩ := found_of_scan hw hscan
  obtain rfl : scan.candidates = candidates := Except.ok.inj (hfound'.symm.trans hfound)
  obtain ⟨hid, horderly⟩ := h.reaches.orderly hbounded.chunk_pos hbounded.chunk_le
  have htidy : ∀ f ∈ (watch.resolution state scan.candidates).rotatedAway ++
      (watch.resolution state scan.candidates).files, f.Tidy watch.splitter :=
    Resolution.resolve_tidy (Nat.lt_of_lt_of_le hbounded.chunk_pos hbounded.chunk_le) horderly.tidy
  have hrun : c = (watch.resolution state scan.candidates).files.zipIdx.foldl
      (Cycle.visit watch sink state.useIdentity ((watch.resolution state scan.candidates).files.length - 1))
      { tracker := watch.opening time, world := w' } := by
    rw [hran.run, Cycle.run, h.rotatedAway]
    rfl
  have haccepted : Cycle.Accepted d { tracker := watch.opening time, world := w' } c := by
    rw [hrun]
    refine Cycle.visits_accepted hbounded.chunk_pos hbounded.chunk_le hw' _ fun x hx => ?_
    have hx : x.1 ∈ (watch.resolution state scan.candidates).files :=
      List.mem_of_getElem? (List.mem_zipIdx_iff_getElem?.1 hx)
    obtain ⟨b, hb, hdescribes⟩ := Resolution.exists_describes hx
    refine ⟨(opens_of_mem_files hfound hx state.useIdentity).readable,
      (htidy _ (List.mem_append_right _ hx)).toSound, ?_⟩
    rw [hdescribes.path]
    exact haccepts b hb
  obtain ⟨-, herrors, -⟩ := hran.reports hscan hprocess
  refine ⟨herrors.trans haccepted.readErrors, fun o ho => ?_⟩
  rw [hran.offers, List.mem_reverse] at ho
  exact (haccepted.offers o ho).resolve_left List.not_mem_nil

def toDo (watch : Watcher) (state : WatchState) (candidates : List Candidate) : Nat :=
  ((watch.resolution state candidates).files.map LogFile.work).sum

theorem Following.owed_eq (h : watch.Following candidates state) (hfound : watch.matcher.found d = .ok candidates) :
    watch.owed d state = watch.toDo state candidates := by
  rw [owed, hfound, toDo]
  dsimp only
  rw [h.rotatedAway, List.nil_append]
  refine congrArg List.sum (List.map_congr_left fun f hf => ?_)
  rw [LogFile.owed, LogFile.sized_of_size (sizeAt_of_mem_files hfound hf)]

/-- **A cycle of a watch that follows a disk.** It tracks what is found from then on. If it leaves work there is less
to do than before, and if it leaves none, with a receiver that accepts all, there is nothing to do. -/
theorem Following.cycle (hconfig : Watcher.ofConfig config = .ok watch) (h : watch.Following candidates state)
    (hd : d.Proper) (sink : Sink) (time : CycleTime) {w : World} (hw : w.Still d)
    (hfound : watch.matcher.found d = .ok candidates) :
    ∃ result, watch.process sink time state w = .ok result ∧ result.world.Still d ∧
      watch.Following candidates result.state ∧ Resolution.Mirrors result.state candidates ∧
      (config.maxDelay = none → result.report.pending = true →
        watch.toDo result.state candidates < watch.toDo state candidates) ∧
      ((∀ c ∈ candidates, sink.Accepts c.path) → result.report.pending = false →
        result.state.Quiescent candidates ∧ ∀ o ∈ result.offers, o.accepted = true) := by
  obtain ⟨hsame, hbounded, _⟩ := ofConfig_ok hconfig
  obtain ⟨result, c, _, _, hprocess, hran⟩ := process_still sink time state hw hfound
  obtain ⟨hid, hcoherent⟩ := coherent_of_reached h.reached
  rw [← hsame] at hbounded
  obtain ⟨candidates', away, files, c', hround⟩ := exists_round hbounded.chunk_pos hid hcoherent hd hw hprocess
  obtain rfl : candidates' = candidates := Except.ok.inj (hround.found.symm.trans hfound)
  have hmirrors := hround.mirrors h.rotatedAway
  have hfollowing : watch.Following candidates' result.state :=
    ⟨.cycle h.reaches watch.config.maxSent watch.config.maxProcessed watch.config.maxDelay sink time
      (hw.proper hd) hprocess, .cycle h.reached hconfig (hw.proper hd) hprocess, .inr hmirrors⟩
  refine ⟨result, hprocess, ?_, hfollowing, hmirrors, fun hdelay hpending => ?_, fun haccepts hpending => ?_⟩
  · rcases watch.exists_process sink time state d with ⟨e, herror⟩ | ⟨result', hsteady⟩
    · obtain ⟨w', _, hno⟩ := herror w hw
      rw [hprocess] at hno
      cases hno
    · obtain ⟨w', hw', heq⟩ := hsteady w hw
      rw [hprocess] at heq
      rw [Except.ok.inj heq]
      exact hw'
  · obtain ⟨hsent, hprocessed⟩ := limits_pos hconfig
    rw [← hfollowing.owed_eq hfound, ← h.owed_eq hfound, hround.owed_next]
    exact hround.owed_lt (hsame ▸ hsent) (hsame ▸ hprocessed) (hsame ▸ hdelay) hpending
  · obtain ⟨herrors, haccepted⟩ := h.accepted hconfig hw hfound haccepts hprocess
    have hrest := (hround.rest_of_not_pending haccepted herrors hpending).1
    exact ⟨hmirrors.quiescent (hround.files_eq h.rotatedAway) hrest (by rw [hran.state]; rfl)
      (by rw [hran.state]; exact addWord_le ..), haccepted⟩

end following

end Watcher

/-- **An agent makes cycles enough** for all that it has to do. -/
theorem Watcher.Following.toDo_lt {watch : Watcher} {d : Disk} {candidates : List Candidate} {state : WatchState}
    (h : watch.Following candidates state) (hfound : watch.matcher.found d = .ok candidates) :
    watch.toDo state candidates < state.bound d :=
  h.owed_eq hfound ▸ watch.owed_lt d state

end LogTail
