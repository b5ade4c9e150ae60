import LogTail.Proofs.Processing

/-!
# Cycles do not depend on when they are made

On a disk that stays as it is, a cycle comes to the same whenever it is made: its offers, its report and the state it
leaves depend on the disk alone, and not on how many calls were made before (`Watcher.exists_process`). This goes for
each of its parts, down to single reads, and for whatever receiver.
-/

namespace LogTail

/-! ## Readers -/

namespace Reader

theorem exists_readFull (d : Disk) (number fuel offset count : Nat) :
    ∃ answer, World.Steady d (fun w => readFull number fuel w offset count) answer := by
  induction fuel generalizing offset count with
  | zero => exact ⟨.ok [], fun w hw => ⟨w, hw, rfl⟩⟩
  | succ fuel ih =>
    by_cases hcount : count = 0
    · exact ⟨.ok [], fun w hw => ⟨w, hw, by simp only [readFull, if_pos hcount]⟩⟩
    rcases hread : d.readAt number offset count with c | bytes
    · refine ⟨.error c, fun w hw => ?_⟩
      obtain ⟨w₁, hw₁, hlook⟩ := hw.look fun d => d.readAt number offset count
      exact ⟨w₁, hw₁, by simp only [readFull, if_neg hcount, hlook, hread]⟩
    by_cases hempty : bytes.isEmpty = true
    · refine ⟨.ok [], fun w hw => ?_⟩
      obtain ⟨w₁, hw₁, hlook⟩ := hw.look fun d => d.readAt number offset count
      exact ⟨w₁, hw₁, by simp only [readFull, if_neg hcount, hlook, hread, if_pos hempty]⟩
    obtain ⟨answer, hmore⟩ := ih (offset + bytes.length) (count - bytes.length)
    refine ⟨answer.map (bytes ++ ·), fun w hw => ?_⟩
    obtain ⟨w₁, hw₁, hlook⟩ := hw.look fun d => d.readAt number offset count
    obtain ⟨w₂, hw₂, hrest⟩ := hmore w₁ hw₁
    refine ⟨w₂, hw₂, ?_⟩
    dsimp only at hrest
    simp only [readFull, if_neg hcount, hlook, hread, hrest]
    rw [if_neg hempty]
    cases answer <;> rfl

theorem exists_fill (d : Disk) (r : Reader) : ∃ answer, World.Steady d r.fill answer := by
  by_cases hlimit : r.limit ≤ r.position
  · exact ⟨.ok (r, false), fun w hw => ⟨w, hw, by rw [fill, if_pos hlimit]⟩⟩
  obtain ⟨answer, hread⟩ := exists_readFull d r.number r.wanted r.position r.wanted
  refine ⟨answer.map fun bytes => (r.extend r.wanted bytes, !bytes.isEmpty), fun w hw => ?_⟩
  obtain ⟨w', hw', hbytes⟩ := hread w hw
  dsimp only at hbytes
  refine ⟨w', hw', ?_⟩
  rw [fill, if_neg hlimit, hbytes]
  cases answer <;> rfl

theorem exists_nextFrom (d : Disk) (fuel : Nat) (r : Reader) :
    ∃ answer r', ∀ w : World, w.Still d → ∃ w', w'.Still d ∧ nextFrom fuel r w = (answer, r', w') := by
  induction fuel generalizing r with
  | zero => exact ⟨.ok none, r, fun w hw => ⟨w, hw, rfl⟩⟩
  | succ fuel ih =>
    rcases htake : r.take? with _ | ⟨event, r'⟩
    · obtain ⟨answer, hfill⟩ := exists_fill d r
      rcases answer with c | ⟨r', _ | _⟩
      · refine ⟨.error c, r, fun w hw => ?_⟩
        obtain ⟨w', hw', hfilled⟩ := hfill w hw
        exact ⟨w', hw', by rw [nextFrom, htake]; dsimp only; rw [hfilled]⟩
      · refine ⟨.ok none, r', fun w hw => ?_⟩
        obtain ⟨w', hw', hfilled⟩ := hfill w hw
        exact ⟨w', hw', by rw [nextFrom, htake]; dsimp only; rw [hfilled]⟩
      · obtain ⟨answer, r'', hnext⟩ := ih r'
        refine ⟨answer, r'', fun w hw => ?_⟩
        obtain ⟨w₁, hw₁, hfilled⟩ := hfill w hw
        obtain ⟨w₂, hw₂, hmore⟩ := hnext w₁ hw₁
        exact ⟨w₂, hw₂, by rw [nextFrom, htake]; dsimp only; rw [hfilled]; exact hmore⟩
    · exact ⟨.ok (some event), r', fun w hw => ⟨w, hw, by rw [nextFrom, htake]⟩⟩

theorem exists_openFile (d : Disk) (o : ReaderOptions) (f : LogFile) :
    ∃ answer, World.Steady d (openFile o f) answer := by
  rcases hnumber : d.numberOf f.path with c | number
  · refine ⟨.error c, fun w hw => ?_⟩
    obtain ⟨w', hw', hlook⟩ := hw.look fun d => d.numberOf f.path
    exact ⟨w', hw', by rw [openFile, hlook, hnumber]⟩
  · refine ⟨if o.verifyIdentity && FileId.ofNumber number ≠ f.id then .error .otherFile
      else .ok (ofFile o f number), fun w hw => ?_⟩
    obtain ⟨w', hw', hlook⟩ := hw.look fun d => d.numberOf f.path
    refine ⟨w', hw', ?_⟩
    rw [openFile, hlook, hnumber]
    dsimp only
    split <;> rfl

end Reader

/-! ## Files -/

namespace Watcher

/-- Where a reading of a file comes to, on a disk that stays as it is. -/
def Settles (d : Disk) (read : Reading → FileOutcome × Reading) (f : LogFile) (t : Tracker) : Prop :=
  ∃ outcome f' t', ∀ w : World, w.Still d → ∃ w', w'.Still d ∧ read ⟨f, t, w⟩ = (outcome, ⟨f', t', w'⟩)

theorem exists_consume (watch : Watcher) (sink : Sink) (d : Disk) (f : LogFile) (t : Tracker) (bytes : Bytes)
    (stop : Nat) : ∃ outcome f' t', ∀ w : World, w.Still d → ∃ w', w'.Still d ∧
      watch.consume sink ⟨f, t, w⟩ bytes stop = (outcome, ⟨f', t', w'⟩) := by
  rcases hvalue : watch.filter.apply (watch.config.encoding.decode bytes) with _ | value
  · exact ⟨.consumed, (t.discard f stop).2, (t.discard f stop).1, fun w hw =>
      ⟨w, hw, by simp only [consume, hvalue]⟩⟩
  · exact ⟨(t.deliver sink f value stop).1, (t.deliver sink f value stop).2.2, (t.deliver sink f value stop).2.1,
      fun w hw => ⟨w.atOffer t.offers.length, hw.atOffer _, by simp only [consume, hvalue]⟩⟩

theorem settles_flush (watch : Watcher) (sink : Sink) (d : Disk) (r : Reader) (f : LogFile) (t : Tracker) :
    Settles d (fun s => watch.flush sink s r) f t := by
  unfold Settles flush
  rcases htake : r.takeRemainder with ⟨_ | ⟨start, stop, bytes, truncated⟩ | _, r'⟩
  · exact ⟨_, _, _, fun w hw => ⟨w, hw, rfl⟩⟩
  · dsimp only
    by_cases hspent : t.budget.exhausted = true
    · exact ⟨_, _, _, fun w hw => ⟨w, hw, if_pos hspent⟩⟩
    simp only [if_neg hspent]
    obtain ⟨outcome, f', t', hconsume⟩ := watch.exists_consume sink d f t.tested bytes stop
    refine ⟨if outcome = .rejected then .rejected else .done, f', t', fun w hw => ?_⟩
    obtain ⟨w', hw', heq⟩ := hconsume w hw
    exact ⟨w', hw', by rw [Reading.tested, heq]; cases outcome <;> rfl⟩
  · exact ⟨_, _, _, fun w hw => ⟨w, hw, rfl⟩⟩

theorem settles_readEvents (watch : Watcher) (sink : Sink) (finished : Bool) (d : Disk) (fuel : Nat) (r : Reader)
    (f : LogFile) (t : Tracker) : Settles d (fun s => watch.readEvents sink finished fuel s r) f t := by
  induction fuel generalizing r f t with
  | zero => exact ⟨_, _, _, fun w hw => ⟨w, hw, rfl⟩⟩
  | succ fuel ih =>
    unfold Settles readEvents
    dsimp only
    by_cases hspent : t.budget.exhausted = true
    · exact ⟨_, _, _, fun w hw => ⟨w, hw, if_pos hspent⟩⟩
    simp only [if_neg hspent]
    obtain ⟨answer, r', hnext⟩ := Reader.exists_nextFrom d (r.limit - r.position + 1) r
    rcases answer with c | _ | ⟨start, stop, bytes, truncated⟩ | ⟨stop, ended⟩
    · refine ⟨.failed c, f, t.tested, fun w hw => ?_⟩
      obtain ⟨w', hw', heq⟩ := hnext w hw
      exact ⟨w', hw', by rw [Reader.next, heq]; rfl⟩
    · -- no event is left, and what is in the window becomes the tail
      cases finished with
      | false =>
        refine ⟨.done, { (t.tested.bufferTail f r'.position r'.window).2 with skipping := r'.skipping },
          (t.tested.bufferTail f r'.position r'.window).1, fun w hw => ?_⟩
        obtain ⟨w', hw', heq⟩ := hnext w hw
        exact ⟨w', hw', by rw [Reader.next, heq]; rfl⟩
      | true =>
        obtain ⟨outcome, f', t', hflush⟩ := settles_flush watch sink d r'
          { (t.tested.bufferTail f r'.position r'.window).2 with skipping := r'.skipping }
          (t.tested.bufferTail f r'.position r'.window).1
        refine ⟨outcome, f', t', fun w hw => ?_⟩
        obtain ⟨w₁, hw₁, heq⟩ := hnext w hw
        obtain ⟨w₂, hw₂, hmore⟩ := hflush w₁ hw₁
        exact ⟨w₂, hw₂, by rw [Reader.next, heq]; exact hmore⟩
    · obtain ⟨outcome, f', t', hconsume⟩ := watch.exists_consume sink d f t.tested bytes stop
      cases outcome with
      | rejected =>
        refine ⟨.rejected, f', t', fun w hw => ?_⟩
        obtain ⟨w₁, hw₁, heq⟩ := hnext w hw
        obtain ⟨w₂, hw₂, hrejected⟩ := hconsume w₁ hw₁
        exact ⟨w₂, hw₂, by rw [Reader.next, heq]; dsimp only [Reading.tested]; rw [hrejected]⟩
      | consumed =>
        obtain ⟨outcome, f'', t'', hrest⟩ := ih r' (if truncated then { f' with skipping := true } else f') t'
        refine ⟨outcome, f'', t'', fun w hw => ?_⟩
        obtain ⟨w₁, hw₁, heq⟩ := hnext w hw
        obtain ⟨w₂, hw₂, hconsumed⟩ := hconsume w₁ hw₁
        obtain ⟨w₃, hw₃, hmore⟩ := hrest w₂ hw₂
        refine ⟨w₃, hw₃, ?_⟩
        rw [Reader.next, heq]
        dsimp only [Reading.tested]
        rw [hconsumed, ← hmore]
        cases truncated <;> rfl
    · obtain ⟨outcome, f', t', hrest⟩ := ih r' { (t.tested.advance f stop).2 with skipping := !ended } (t.tested.advance f stop).1
      refine ⟨outcome, f', t', fun w hw => ?_⟩
      obtain ⟨w₁, hw₁, heq⟩ := hnext w hw
      obtain ⟨w₂, hw₂, hmore⟩ := hrest w₁ hw₁
      exact ⟨w₂, hw₂, by rw [Reader.next, heq]; exact hmore⟩

theorem settles_readFile (watch : Watcher) (sink : Sink) (useIdentity finished : Bool) (d : Disk) (f : LogFile)
    (t : Tracker) : Settles d (watch.readFile sink useIdentity finished) f t := by
  unfold Settles readFile
  dsimp only
  by_cases hidle : (f.unread = 0 && !(finished && f.hasFinalTail)) = true
  · exact ⟨_, _, _, fun w hw => ⟨w, hw, if_pos hidle⟩⟩
  simp only [if_neg hidle]
  by_cases hspent : t.budget.exhausted = true
  · exact ⟨_, _, _, fun w hw => ⟨w, hw, if_pos hspent⟩⟩
  simp only [if_neg hspent]
  obtain ⟨answer, hopen⟩ := Reader.exists_openFile d (readerOptions watch.config useIdentity) f
  rcases answer with c | r
  · refine ⟨.failed c, f, t.tested, fun w hw => ?_⟩
    obtain ⟨w', hw', heq⟩ := hopen w hw
    exact ⟨w', hw', by rw [heq]; rfl⟩
  · obtain ⟨outcome, f', t', hread⟩ := settles_readEvents watch sink finished d (r.eventBound + 1) r f t.tested
    refine ⟨outcome, f', t', fun w hw => ?_⟩
    obtain ⟨w₁, hw₁, heq⟩ := hopen w hw
    obtain ⟨w₂, hw₂, hmore⟩ := hread w₁ hw₁
    exact ⟨w₂, hw₂, by rw [heq]; exact hmore⟩

theorem exists_isSame (watch : Watcher) (useIdentity : Bool) (d : Disk) (f : LogFile) (number : Nat) :
    ∃ answer, World.Steady d (watch.isSame useIdentity f number) answer := by
  unfold isSame
  cases useIdentity with
  | true => exact ⟨_, fun w hw => ⟨w, hw, rfl⟩⟩
  | false =>
    refine ⟨(d.readAt number 0 watch.config.digestWindow).map f.digest.matchesHead, fun w hw => ?_⟩
    obtain ⟨w', hw', hlook⟩ := hw.look fun d => d.readAt number 0 watch.config.digestWindow
    refine ⟨w', hw', ?_⟩
    simp only [Bool.false_eq_true, if_false, Matcher.readHead, hlook]
    cases d.readAt number 0 watch.config.digestWindow <;> rfl

theorem exists_prepareDrain (watch : Watcher) (useIdentity : Bool) (d : Disk) (f : LogFile) :
    ∃ answer, World.Steady d (watch.prepareDrain useIdentity f) answer := by
  rcases hnumber : d.numberOf f.path with c | number
  · refine ⟨if c = .notFound then .ok none else .error c, fun w hw => ?_⟩
    obtain ⟨w', hw', hlook⟩ := hw.look fun d => d.numberOf f.path
    exact ⟨w', hw', by rw [prepareDrain, hlook, hnumber]⟩
  obtain ⟨answer, hsame⟩ := watch.exists_isSame useIdentity d f number
  rcases answer with c | _ | _
  · refine ⟨.error c, fun w hw => ?_⟩
    obtain ⟨w₁, hw₁, hlook⟩ := hw.look fun d => d.numberOf f.path
    obtain ⟨w₂, hw₂, heq⟩ := hsame w₁ hw₁
    exact ⟨w₂, hw₂, by rw [prepareDrain, hlook, hnumber]; dsimp only; rw [heq]⟩
  · refine ⟨.ok none, fun w hw => ?_⟩
    obtain ⟨w₁, hw₁, hlook⟩ := hw.look fun d => d.numberOf f.path
    obtain ⟨w₂, hw₂, heq⟩ := hsame w₁ hw₁
    exact ⟨w₂, hw₂, by rw [prepareDrain, hlook, hnumber]; dsimp only; rw [heq]⟩
  · refine ⟨.ok (if d.size number < f.processed then none else some { f with size := d.size number }),
      fun w hw => ?_⟩
    obtain ⟨w₁, hw₁, hlook⟩ := hw.look fun d => d.numberOf f.path
    obtain ⟨w₂, hw₂, heq⟩ := hsame w₁ hw₁
    obtain ⟨w₃, hw₃, hsize⟩ := hw₂.look fun d => .ok (d.size number)
    exact ⟨w₃, hw₃, by rw [prepareDrain, hlook, hnumber]; dsimp only; rw [heq]; dsimp only; rw [hsize]⟩

end Watcher

/-! ## Cycles -/

namespace Cycle

/-- A step of a cycle comes to the same on a disk that stays as it is. -/
def Settles (d : Disk) (step : Cycle → Cycle) (c : Cycle) : Prop :=
  ∃ c' : Cycle, ∀ w : World, w.Still d → ∃ w', w'.Still d ∧ step { c with world := w } = { c' with world := w' }

theorem settles_visit (watch : Watcher) (sink : Sink) (useIdentity : Bool) (newest : Nat) (d : Disk) (c : Cycle)
    (x : LogFile × Nat) : Settles d (fun c => visit watch sink useIdentity newest c x) c := by
  by_cases hhalt : c.halted = true
  · exact ⟨c.keep x.1, fun w hw => ⟨w, hw, if_pos hhalt⟩⟩
  obtain ⟨outcome, f, t, hread⟩ := watch.settles_readFile sink useIdentity (x.2 < newest) d x.1 c.tracker
  obtain ⟨w₀, -, heq₀⟩ := hread _ (World.still_quiet d)
  refine ⟨visit watch sink useIdentity newest { c with world := .quiet d } x, fun w hw => ?_⟩
  obtain ⟨w', hw', heq⟩ := hread w hw
  refine ⟨w', hw', ?_⟩
  simp only [visit, if_neg hhalt, heq, heq₀]
  cases outcome with
  | rejected => dsimp only; split <;> rfl
  | done | idle | budget | failed => rfl

theorem settles_drain (watch : Watcher) (sink : Sink) (useIdentity : Bool) (d : Disk) (c : Cycle) (f : LogFile) :
    Settles d (fun c => drain watch sink useIdentity c f) c := by
  by_cases hhalt : c.halted = true
  · exact ⟨c.keep f, fun w hw => ⟨w, hw, if_pos hhalt⟩⟩
  obtain ⟨answer, hprepare⟩ := watch.exists_prepareDrain useIdentity d f
  obtain ⟨w₀, hw₀, hprepare₀⟩ := hprepare _ (World.still_quiet d)
  refine ⟨drain watch sink useIdentity { c with world := .quiet d } f, fun w hw => ?_⟩
  obtain ⟨w₁, hw₁, hprepared⟩ := hprepare w hw
  rcases answer with c | _ | g
  · exact ⟨w₁, hw₁, by simp only [drain, if_neg hhalt, hprepared, hprepare₀]⟩
  · exact ⟨w₁, hw₁, by simp only [drain, if_neg hhalt, hprepared, hprepare₀]⟩
  obtain ⟨outcome, f, t, hread⟩ := watch.settles_readFile sink useIdentity true d g c.tracker
  obtain ⟨w', -, heq₀⟩ := hread w₀ hw₀
  obtain ⟨w₂, hw₂, heq⟩ := hread w₁ hw₁
  refine ⟨w₂, hw₂, ?_⟩
  simp only [drain, if_neg hhalt, hprepared, hprepare₀, heq, heq₀]
  cases outcome with
  | rejected => dsimp only; split <;> rfl
  | done | idle | budget | failed => rfl

theorem settles_foldl {α : Type} {d : Disk} {step : Cycle → α → Cycle} (hstep : ∀ c x, Settles d (step · x) c)
    (xs : List α) (c : Cycle) : Settles d (fun c => xs.foldl step c) c := by
  induction xs generalizing c with
  | nil => exact ⟨c, fun w hw => ⟨w, hw, rfl⟩⟩
  | cons x xs ih =>
    obtain ⟨c₁, hfirst⟩ := hstep c x
    obtain ⟨c₂, hrest⟩ := ih c₁
    refine ⟨c₂, fun w hw => ?_⟩
    obtain ⟨w₁, hw₁, heq⟩ := hfirst w hw
    obtain ⟨w₂, hw₂, hmore⟩ := hrest w₁ hw₁
    exact ⟨w₂, hw₂, (congrArg (xs.foldl step) heq).trans hmore⟩

theorem settles_run (watch : Watcher) (sink : Sink) (useIdentity : Bool) (r : Resolution) (d : Disk) (c : Cycle) :
    Settles d (run watch sink useIdentity r) c := by
  obtain ⟨c₁, hdrains⟩ := settles_foldl (settles_drain watch sink useIdentity d) r.rotatedAway c
  obtain ⟨c₂, hvisits⟩ := settles_foldl (settles_visit watch sink useIdentity (r.files.length - 1) d)
    r.files.zipIdx c₁
  refine ⟨c₂, fun w hw => ?_⟩
  obtain ⟨w₁, hw₁, heq⟩ := hdrains w hw
  obtain ⟨w₂, hw₂, hmore⟩ := hvisits w₁ hw₁
  exact ⟨w₂, hw₂, (congrArg (r.files.zipIdx.foldl _) heq).trans hmore⟩

end Cycle

/-- **A cycle over a disk that stays as it is does not depend on when it is made.** -/
theorem Watcher.exists_process (watch : Watcher) (sink : Sink) (time : CycleTime) (state : WatchState) (d : Disk) :
    (∃ e, ∀ w : World, w.Still d → ∃ w', w'.Still d ∧ watch.process sink time state w = .error (e, w')) ∨
      ∃ result : CycleResult, ∀ w : World, w.Still d → ∃ w', w'.Still d ∧
        watch.process sink time state w = .ok { result with world := w' } := by
  obtain ⟨answer, hscan, -⟩ := watch.matcher.scan_still d
  rcases answer with e | scan
  · refine .inl ⟨e, fun w hw => ?_⟩
    obtain ⟨w', hw', heq⟩ := hscan w hw
    exact ⟨w', hw', by rw [process, heq]⟩
  · right
    obtain ⟨c, hrun⟩ := Cycle.settles_run watch sink state.useIdentity (watch.resolution state scan.candidates) d
      { tracker := watch.opening time, world := .quiet d }
    obtain ⟨w₀, hw₀, heq₀⟩ := hscan _ (World.still_quiet d)
    obtain ⟨w₁, -, hc₀⟩ := hrun w₀ hw₀
    rcases hprocess : watch.process sink time state (.quiet d) with e | result
    · rw [process, heq₀] at hprocess
      cases hprocess
    refine ⟨result, fun w hw => ?_⟩
    obtain ⟨w₂, hw₂, heq⟩ := hscan w hw
    obtain ⟨w₃, hw₃, hc⟩ := hrun w₂ hw₂
    refine ⟨w₃, hw₃, ?_⟩
    rw [process, heq₀] at hprocess
    rw [process, heq]
    simp only [resolution, opening] at hc hc₀
    simp only [hc₀, Except.ok.injEq] at hprocess
    simp only [hc, ← hprocess]
    rfl

end LogTail
