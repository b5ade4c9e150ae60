import LogTail.Agent
import LogTail.Proofs.Reached
import LogTail.Proofs.Turns
import Mathlib.Algebra.GroupWithZero.Nat

/-!
# The end of a tick

A tick repeats cycles as long as they leave work. On a disk that stays as it is it comes to an end, whatever the
receivers accept and refuse (`Watcher.tick_terminates`), and an agent gets to that end within the bound on its
cycles (`Agent.tick_ends`).

The measure is what the tracked files owe (`LogFile.owed`), counted up to the size that is found at their paths:
for a file that rotated away the recorded size may be an old one. Bytes count twice, and one counts the record
that is not skipped, since a cut may take a record without any byte.

* `Cycle.Deals.paid`: each record that a cycle looks at is paid for by its file.
* `Watcher.Round.owed_lt`: a cycle that leaves work has spent its budget, so it has looked at a record.
* `Watcher.Round.owed_next`: the next resolution changes nothing of what is owed.
-/

namespace LogTail

/-- What is left to do of a tracked file up to its present size. -/
def LogFile.owed (d : Disk) (f : LogFile) : Nat := (f.sized d).work

namespace Cycle

section paid
variable {watch : Watcher} {d : Disk} {p : Part} {ps : List Part} {c c' : Cycle} {files : List LogFile}
  {goOn : List (List LogFile)}

/-- A step takes off a file as much as it counts. -/
theorem Dealt.paid (h : Dealt watch d p c files c') : ∃ sent counted, sent ≤ counted ∧
    (files.map (LogFile.owed d)).sum + counted ≤ p.file.owed d ∧
    c'.tracker.budget = { c.tracker.budget with
      tests := c'.tracker.budget.tests
      sent := c.tracker.budget.sent + sent
      processed := c.tracker.budget.processed + counted } := by
  cases h with
  | waits => exact ⟨0, 0, Nat.le_refl 0, by simp, rfl⟩
  | gone _ _ _ htracker => exact ⟨0, 0, Nat.le_refl 0, Nat.zero_le _, by rw [htracker]; rfl⟩
  | @read s s' _ _ c' _ hfile _ _ hbefore hattempt _ hafter =>
    obtain ⟨sent, counted, hle, hwork, hbudget⟩ := hattempt.counts
    have howed : s'.file.owed d = s'.file.work := by
      rw [LogFile.owed, LogFile.sized_of_size]
      rw [hattempt.same.size, hattempt.same.path, hfile]
      rfl
    refine ⟨sent, counted, hle, ?_, by rw [hafter.tracker, hbudget, hbefore]⟩
    rw [LogFile.owed, ← hfile]
    split
    · rw [List.map_singleton, List.sum_singleton, howed]
      exact hwork
    · exact Nat.le_trans (by simp) hwork

/-- **What is counted is paid for.** -/
theorem Deals.paid (h : Deals watch d ps c goOn c') : ∃ sent counted, sent ≤ counted ∧
    (goOn.flatten.map (LogFile.owed d)).sum + counted ≤ (ps.map fun p => p.file.owed d).sum ∧
    c'.tracker.budget = { c.tracker.budget with
      tests := c'.tracker.budget.tests
      sent := c.tracker.budget.sent + sent
      processed := c.tracker.budget.processed + counted } := by
  induction h with
  | nil => exact ⟨0, 0, Nat.le_refl 0, by simp, rfl⟩
  | cons hdealt _ ih =>
    obtain ⟨sent, counted, hle, howed, hbudget⟩ := hdealt.paid
    obtain ⟨sent', counted', hle', howed', hbudget'⟩ := ih
    refine ⟨sent + sent', counted + counted', by omega, ?_, ?_⟩
    · rw [List.flatten_cons, List.map_append, List.sum_append, List.map_cons, List.sum_cons]
      omega
    · rw [hbudget', hbudget]
      simp [Nat.add_assoc]

theorem Dealt.path_eq (h : Dealt watch d p c files c') {f : LogFile} (hf : f ∈ files) : f.path = p.file.path := by
  cases h with
  | waits => rw [List.mem_singleton.1 hf]
  | gone => cases hf
  | read _ hfile _ _ _ hattempt =>
    split at hf
    · rw [List.mem_singleton.1 hf, hattempt.same.path, hfile]
      rfl
    · cases hf

theorem Deals.exists_part (h : Deals watch d ps c goOn c') {f : LogFile} (hf : f ∈ goOn.flatten) :
    ∃ p ∈ ps, f.path = p.file.path := by
  induction h with
  | nil => cases hf
  | @cons p _ _ _ _ _ _ hdealt _ ih =>
    rw [List.flatten_cons, List.mem_append] at hf
    rcases hf with hf | hf
    · exact ⟨p, by simp, hdealt.path_eq hf⟩
    · obtain ⟨q, hq, hpath⟩ := ih hf
      exact ⟨q, by simp [hq], hpath⟩

def Spent (c : Cycle) : Prop :=
  c.outOfBudget = true → c.halted = true ∧ c.tracker.budget.exhausted = true

theorem Dealt.spent (h : Dealt watch d p c files c') (hspent : c.Spent) : c'.Spent := by
  have hbefore (hgoes : c.halted = false) (hout : c.outOfBudget = true) : False := by
    have hhalted := (hspent hout).1
    rw [hgoes] at hhalted
    cases hhalted
  intro hout
  cases h with
  | waits => exact hspent hout
  | gone _ hgoes _ _ _ _ hsame => exact (hbefore hgoes (hsame ▸ hout)).elim
  | @read _ _ _ outcome _ hgoes _ _ _ _ hattempt _ hafter =>
    have hends := hattempt.ends
    rw [hafter.outOfBudget, Bool.or_eq_true] at hout
    rcases hout with hout | hbudget
    · exact (hbefore hgoes hout).elim
    · obtain rfl : outcome = .budget := of_decide_eq_true hbudget
      exact ⟨hafter.halted, hafter.tracker ▸ hends.2⟩

theorem Deals.spent (h : Deals watch d ps c goOn c') (hspent : c.Spent) : c'.Spent := by
  induction h with
  | nil => exact hspent
  | cons hdealt _ ih => exact ih (hdealt.spent hspent)

end paid

end Cycle

namespace Watcher

/-- What is left to do of the files that a cycle over a disk has to deal with. -/
def owed (watch : Watcher) (d : Disk) (state : WatchState) : Nat :=
  match watch.matcher.found d with
  | .error _ => 0
  | .ok candidates =>
    (((watch.resolution state candidates).rotatedAway ++ (watch.resolution state candidates).files).map
      (LogFile.owed d)).sum

section round
variable {config : WatchConfig} {watch : Watcher} {d : Disk} {time : CycleTime} {state : WatchState}
  {candidates : List Candidate} {away files : List LogFile} {c : Cycle} {result : CycleResult}

theorem processed_pos {b : Budget} (hsent : 0 < b.maxSent) (hprocessed : 0 < b.maxProcessed)
    (hdelay : b.maxDelay = none) (hle : b.sent ≤ b.processed) (h : b.exhausted = true) : 0 < b.processed := by
  simp only [Budget.exhausted, Budget.outOfTime, hdelay, Option.any_none, Bool.or_false, Bool.or_eq_true,
    decide_eq_true_eq] at h
  omega

/-- **A cycle that leaves work has done some.** -/
theorem Round.owed_lt (h : watch.Round d time state candidates away files c result)
    (hsent : 0 < watch.config.maxSent) (hprocessed : 0 < watch.config.maxProcessed)
    (hdelay : watch.config.maxDelay = none) (hpending : result.report.pending = true) :
    (result.state.files.map (LogFile.owed d)).sum < watch.owed d state := by
  obtain ⟨w, goOn, _, hdeals⟩ := h.deals
  have hkept := hdeals.kept
  rw [h.kept, List.nil_append] at hkept
  obtain ⟨sent, counted, hle, howed, hbudget⟩ := hdeals.paid
  have hout : c.outOfBudget = true := by
    rw [h.pending, Bool.and_eq_true] at hpending
    exact hpending.1
  have hspent := (hdeals.spent (fun hno => by cases hno) hout).2
  rw [hbudget] at hspent
  have hpos : 0 < 0 + counted := processed_pos hsent hprocessed hdelay (Nat.add_le_add_left hle 0) hspent
  have hparts : (Cycle.parts (watch.resolution state candidates)).map (fun p => p.file.owed d) =
      ((watch.resolution state candidates).rotatedAway ++
        (watch.resolution state candidates).files).map (LogFile.owed d) := by
    rw [← Cycle.map_file_parts, List.map_map]
    rfl
  rw [hparts] at howed
  rw [owed, h.found, h.left.numbered, Resolution.map_renumber (fun _ _ => rfl), hkept]
  dsimp only
  omega

/-- **What a cycle left is what the next one has to deal with.** -/
theorem Round.owed_next (h : watch.Round d time state candidates away files c result) :
    watch.owed d result.state = (result.state.files.map (LogFile.owed d)).sum := by
  obtain ⟨haway, hfiles⟩ := h.left.resolve_again watch.config.rotation watch.config.encoding
  have hplain (fs : List LogFile) : fs.map (LogFile.owed d) =
      (fs.map Resolution.plain).map (LogFile.owed d) := by
    rw [List.map_map]
    rfl
  rw [owed, h.found]
  dsimp only
  rw [resolution, List.map_append, haway, Resolution.map_renumber (fun _ _ => rfl), hplain (Resolution.files _),
    hfiles, ← hplain, ← List.map_append, h.left.numbered, Resolution.map_renumber (fun _ _ => rfl)]

end round

end Watcher

/-! ## How much can be owed -/

namespace Disk

def volume (d : Disk) : Nat := d.nodes.foldl (fun sum n => sum + n.2.content.length) 0

theorem volume_eq (d : Disk) : d.volume = (d.nodes.map fun n => n.2.content.length).sum := by
  rw [volume, List.sum_eq_foldl, List.foldl_map]

theorem length_content_le (d : Disk) (number : Nat) : (d.node number).content.length ≤ d.volume := by
  rw [volume_eq, node]
  rcases hfind : d.nodes.find? fun n => n.1 == number with _ | n
  · rw [hfind, Option.map_none, Option.getD_none]
    exact Nat.zero_le _
  · rw [hfind, Option.map_some, Option.getD_some]
    exact List.le_sum_of_mem (List.mem_map.2 ⟨n, List.mem_of_find?_eq_some hfind, rfl⟩)

end Disk

theorem Matcher.length_found {m : Matcher} {d : Disk} {candidates : List Candidate}
    (h : m.found d = .ok candidates) : candidates.length ≤ d.entries.length + 1 := by
  rcases of_found h with ⟨path, rfl⟩ | ⟨directory, name, names, hlist, rfl⟩
  · rcases d.candidate? m.window path with _ | c
    · exact Nat.zero_le _
    · exact Nat.le_add_left 1 _
  · have hnames : names.length ≤ d.entries.length := by
      unfold Disk.list at hlist
      split at hlist <;> cases hlist
      exact List.length_filterMap_le _ _
    rw [List.length_mergeSort]
    exact Nat.le_succ_of_le ((List.length_filterMap_le _ _).trans hnames)

theorem Disk.sizeAt_le (d : Disk) (path : Path) : d.sizeAt path ≤ blockSize + d.volume := by
  rcases hnumber : d.numberOf path with c | number
  · rw [sizeAt, hnumber]
    exact Nat.zero_le _
  · have hcontent := d.length_content_le number
    rw [sizeAt_of_numberOf hnumber, size]
    split <;> omega

theorem LogFile.owed_le (d : Disk) (f : LogFile) :
    f.owed d ≤ 2 * (Disk.blockSize + d.volume + f.tail.length) + 1 := by
  have hsize := d.sizeAt_le f.path
  have hwork : f.owed d ≤ 2 * (max f.processed (d.sizeAt f.path) - (f.processed - f.tail.length)) + 1 :=
    Nat.add_le_add_left (by split <;> omega) _
  omega

namespace WatchState

def tails (state : WatchState) : Nat := state.files.foldl (fun sum f => sum + f.tail.length) 0

theorem length_tail_le {state : WatchState} {f : LogFile} (hf : f ∈ state.files) : f.tail.length ≤ state.tails := by
  have htails : state.tails = (state.files.map (·.tail.length)).sum := by
    rw [tails, List.sum_eq_foldl, List.foldl_map]
  rw [htails]
  exact List.le_sum_of_mem (List.mem_map_of_mem hf)

/-- Cycles enough for a state over a disk. -/
def bound (d : Disk) (state : WatchState) : Nat :=
  (d.entries.length + state.files.length + 1) * (2 * (Disk.blockSize + d.volume + state.tails) + 3)

end WatchState

/-- **No more is owed than an agent makes cycles for.** -/
theorem Watcher.owed_lt (watch : Watcher) (d : Disk) (state : WatchState) : watch.owed d state < state.bound d := by
  rw [owed]
  rcases hfound : watch.matcher.found d with e | candidates
  · exact Nat.mul_pos (Nat.succ_pos _) (Nat.succ_pos _)
  dsimp only
  generalize hfiles : (watch.resolution state candidates).rotatedAway ++ (watch.resolution state candidates).files = fs
  have hcount : fs.length ≤ d.entries.length + state.files.length + 1 := by
    have haway : (Resolution.left watch.config.rotation state candidates).length ≤ state.files.length :=
      Resolution.left_sublist.length_le
    have hfew := Matcher.length_found hfound
    have hgone : (watch.resolution state candidates).rotatedAway.length =
        (Resolution.left watch.config.rotation state candidates).length := by
      rw [resolution, Resolution.rotatedAway_eq, Resolution.length_renumber, Resolution.bySeq, List.length_mergeSort]
    rw [← hfiles, List.length_append, hgone, resolution, Resolution.length_files]
    omega
  have htail : ∀ f ∈ fs, f.tail.length ≤ state.tails := fun f hf => by
    rcases Resolution.tail_cases_of_resolve (hfiles ▸ hf) with hnone | ⟨old, hold, hsame⟩
    · rw [hnone]
      exact Nat.zero_le _
    · rw [hsame]
      exact WatchState.length_tail_le hold
  have hsum := List.sum_le_card_nsmul (fs.map (LogFile.owed d)) (2 * (Disk.blockSize + d.volume + state.tails) + 1)
    fun n hn => by
      obtain ⟨f, hf, rfl⟩ := List.mem_map.1 hn
      have howed := f.owed_le d
      have hshort := htail f hf
      omega
  rw [List.length_map] at hsum
  rw [WatchState.bound]
  calc (fs.map (LogFile.owed d)).sum ≤ fs.length * (2 * (Disk.blockSize + d.volume + state.tails) + 1) := hsum
    _ ≤ (d.entries.length + state.files.length + 1) * (2 * (Disk.blockSize + d.volume + state.tails) + 1) :=
      Nat.mul_le_mul_right _ hcount
    _ < _ := Nat.mul_lt_mul_of_pos_left (by omega) (by omega)

/-! ## Cycles until no work is left -/

namespace Watcher

/-- What a cycle of a tick meets: a receiver, a time, and a world. -/
structure Occasion where
  sink : Sink
  time : CycleTime
  world : World

/-- Repeats cycles until one fails or leaves no work, and gives the state then; none if the occasions are too
few. -/
def tick (watch : Watcher) : List Occasion → WatchState → Option WatchState
  | [], _ => none
  | o :: occasions, state =>
    match watch.process o.sink o.time state o.world with
    | .error _ => some state
    | .ok result => if result.report.pending then watch.tick occasions result.state else some result.state

/-- Two disks between which a watch sees no difference: it finds the same on both, and what it tracks has the same
size there. -/
structure Alike (watch : Watcher) (state : WatchState) (d d' : Disk) : Prop where
  found : watch.matcher.found d' = watch.matcher.found d
  sizes : ∀ f ∈ state.files, d'.sizeAt f.path = d.sizeAt f.path

section alike
variable {watch : Watcher} {state : WatchState} {d d₁ d₂ : Disk} {candidates : List Candidate}

theorem Alike.refl (watch : Watcher) (state : WatchState) (d : Disk) : watch.Alike state d d := ⟨rfl, fun _ _ => rfl⟩

theorem Alike.sizes_of_resolution (h : watch.Alike state d d₁) (hfound : watch.matcher.found d = .ok candidates)
    {f : LogFile} (hf : f ∈ (watch.resolution state candidates).rotatedAway ++
      (watch.resolution state candidates).files) : d₁.sizeAt f.path = d.sizeAt f.path := by
  rcases List.mem_append.1 hf with haway | hscanned
  · obtain ⟨i, old, seq, hold, -, rfl⟩ := Resolution.gone_of_mem_rotatedAway haway
    exact h.sizes old (List.mem_of_getElem? hold)
  · rw [← sizeAt_of_mem_files hfound hscanned, ← sizeAt_of_mem_files (h.found.trans hfound) hscanned]

theorem Alike.owed_eq (h : watch.Alike state d d₁) : watch.owed d₁ state = watch.owed d state := by
  rw [owed, owed, h.found]
  rcases hfound : watch.matcher.found d with e | candidates
  · rfl
  refine congrArg List.sum (List.map_congr_left fun f hf => ?_)
  rw [LogFile.owed, LogFile.owed, LogFile.sized, LogFile.sized, h.sizes_of_resolution hfound hf]

theorem Alike.next (h : watch.Alike state d d₁) (h₂ : watch.Alike state d d₂) {time : CycleTime}
    {away files : List LogFile} {c : Cycle} {result : CycleResult}
    (hround : watch.Round d₁ time state candidates away files c result) : watch.Alike result.state d d₂ := by
  refine ⟨h₂.found, fun f hf => ?_⟩
  obtain ⟨w, goOn, -, hdeals⟩ := hround.deals
  rw [hround.left.numbered] at hf
  obtain ⟨g, hg, seq, rfl⟩ := Resolution.exists_of_mem_renumber hf
  rw [← hround.kept, hdeals.kept, List.nil_append] at hg
  obtain ⟨p, hp, hpart⟩ := hdeals.exists_part hg
  rw [hpart]
  refine h₂.sizes_of_resolution (h.found ▸ hround.found) ?_
  rw [← Cycle.map_file_parts]
  exact List.mem_map_of_mem hp

end alike

section tick
variable {config : WatchConfig} {watch : Watcher} {d : Disk} {state : WatchState}

theorem limits_pos (h : Watcher.ofConfig config = .ok watch) : 0 < config.maxSent ∧ 0 < config.maxProcessed := by
  obtain ⟨_, hvalid, _⟩ := bind_ok h
  obtain ⟨_, _, hvalid⟩ := bind_ok hvalid
  obtain ⟨_, _, hlimits⟩ := bind_ok hvalid
  obtain ⟨_, hlines, _⟩ := bind_ok hlimits
  have hlines := require_ok hlines
  simp only [ne_eq, decide_not, Bool.and_eq_true, Bool.not_eq_true', decide_eq_false_iff_not] at hlines
  exact ⟨Nat.pos_of_ne_zero hlines.1, Nat.pos_of_ne_zero hlines.2⟩

/-- A tick with more occasions than are owed for comes to an end, also on disks between which the watch sees no
difference. -/
theorem exists_tick (hconfig : Watcher.ofConfig config = .ok watch) (hdelay : config.maxDelay = none)
    (occasions : List Occasion)
    (hstill : ∀ o ∈ occasions, ∃ d', d'.Proper ∧ watch.Alike state d d' ∧ o.world.Still d')
    (hid : state.useIdentity = true) (hcoherent : Coherent state.files)
    (hmany : watch.owed d state < occasions.length) : ∃ final, watch.tick occasions state = some final := by
  obtain ⟨hsame, hbounded, _⟩ := ofConfig_ok hconfig
  obtain ⟨hsent, hprocessed⟩ := limits_pos hconfig
  induction occasions generalizing state with
  | nil => exact absurd hmany (Nat.not_lt_zero _)
  | cons o occasions ih =>
    rw [tick]
    rcases hprocess : watch.process o.sink o.time state o.world with e | result
    · exact ⟨state, rfl⟩
    dsimp only
    by_cases hpending : result.report.pending = true
    · rw [if_pos hpending]
      obtain ⟨d', hd', halike, hw⟩ := hstill o (by simp)
      obtain ⟨_, _, _, _, hround⟩ := exists_round (hsame ▸ hbounded.chunk_pos) hid hcoherent hd' hw hprocess
      have hless := hround.owed_lt (hsame ▸ hsent) (hsame ▸ hprocessed) (hsame ▸ hdelay) hpending
      rw [← hround.owed_next, (halike.next halike hround).owed_eq, halike.owed_eq] at hless
      rw [List.length_cons] at hmany
      refine ih (fun o' ho' => ?_) hround.left.identity hround.coherent (by omega)
      obtain ⟨d₂, hd₂, halike₂, hw₂⟩ := hstill o' (by simp [ho'])
      exact ⟨d₂, hd₂, halike.next halike₂ hround, hw₂⟩
    · rw [if_neg hpending]
      exact ⟨result.state, rfl⟩

/-- **A tick terminates.** On a disk that stays as it is cycles leave work only finitely often: no more often
than is owed for, whatever each receiver accepts and refuses. -/
theorem tick_terminates (hconfig : Watcher.ofConfig config = .ok watch) (hdelay : config.maxDelay = none)
    (hstate : state.Reached) (hd : d.Proper) {occasions : List Occasion}
    (hstill : ∀ o ∈ occasions, o.world.Still d) (hmany : watch.owed d state < occasions.length) :
    ∃ final, watch.tick occasions state = some final := by
  obtain ⟨hid, hcoherent⟩ := coherent_of_reached hstate
  exact exists_tick hconfig hdelay occasions (fun o ho => ⟨d, hd, .refl watch state d, hstill o ho⟩) hid hcoherent hmany

end tick

/-- A file of two records, with one record a cycle: the first cycle leaves work, and the second does not. -/
theorem tick_terminates_twice :
    let watch := logWatch "a" 1 0 rfl
    let disk := logDisk [([0x61], [0x70, 0x0a, 0x71, 0x0a])]
    let occasions := List.replicate 10 ⟨.acceptAll, {}, .quiet disk⟩
    watch.owed disk (.fresh false) = 9 ∧ watch.tick (occasions.take 1) (.fresh false) = none ∧
      ∃ final, watch.tick occasions (.fresh false) = some final ∧ final.files.map (·.processed) = [4] := by
  intro watch disk occasions
  have howed : watch.owed disk (.fresh false) = 9 := by decide +kernel
  have hconfig : Watcher.ofConfig (logConfig "a" 1 0) = .ok watch := rfl
  have hproper : disk.Proper := logDisk_proper (by decide) fun f hf => by
    rw [List.mem_singleton.1 hf]
    exact ⟨by decide, by decide, by decide, by decide⟩
  have hstill : ∀ o ∈ occasions, o.world.Still disk := fun o ho =>
    List.eq_of_mem_replicate ho ▸ World.still_quiet disk
  obtain ⟨final, hfinal⟩ := tick_terminates hconfig rfl (.fresh false) hproper hstill (by rw [howed]; decide)
  have hprocessed : (watch.tick occasions (.fresh false)).map (fun s => s.files.map (·.processed)) = some [4] := by
    decide +kernel
  rw [hfinal] at hprocessed
  exact ⟨howed, by decide +kernel, final, hfinal, Option.some.inj hprocessed⟩

end Watcher

/-! ## The tick of an agent -/

namespace Agent

/-- What the cycles of an agent meet, each in the world that the one before it and its save left. -/
def occasions (sink : Sink) : TickTime → Nat → Agent → List Watcher.Occasion
  | _, 0, _ => []
  | time, n + 1, a => ⟨sink, time.cycle 0, a.world⟩ :: occasions sink time.next n (a.cycle sink (time.cycle 0)).1

@[simp] theorem length_occasions (sink : Sink) (time : TickTime) (n : Nat) (a : Agent) :
    (a.occasions sink time n).length = n := by
  induction n generalizing time a with
  | zero => rfl
  | succ n ih => rw [occasions, List.length_cons, ih]

/-- The cycles of an agent are those of a tick: where that comes to an end, so does the agent, in the same state,
and is given more cycles to no effect. -/
theorem tickFrom_of_tick (sink : Sink) (time : TickTime) (fuel : Nat) {a : Agent} {final : WatchState}
    (h : a.watch.tick (a.occasions sink time fuel) a.state = some final) :
    (tickFrom sink time fuel a).state = final ∧
      ∀ more, tickFrom sink time (fuel + more) a = tickFrom sink time fuel a := by
  induction fuel generalizing time a with
  | zero => cases h
  | succ fuel ih =>
    rw [occasions, Watcher.tick] at h
    simp only [Nat.add_right_comm fuel 1, tickFrom]
    rcases hprocess : a.watch.process sink (time.cycle 0) a.state a.world with ⟨e, w⟩ | result
    · simp only [hprocess, Option.some.injEq] at h
      simpa [cycle, hprocess] using h
    · simp only [hprocess] at h
      by_cases hpending : result.report.pending = true
      · rw [if_pos hpending] at h
        simp only [cycle, hprocess, hpending, if_true]
        refine ih _ ?_
        simp only [cycle, hprocess] at h
        exact h
      · rw [if_neg hpending, Option.some.injEq] at h
        simp only [cycle, hprocess, hpending, if_false, Bool.false_eq_true]
        exact ⟨h, fun _ => trivial⟩

theorem cycleBound_eq {a : Agent} {d : Disk} (hw : a.world.Still d) : a.cycleBound = a.state.bound d := by
  rw [cycleBound, hw.disk]
  rfl

/-- **The tick of an agent ends by itself.** If the watch sees no change between the cycles of a tick but what the
agent saves elsewhere, the bound of the tick is never what ends it: with more cycles it comes to the same, whatever the
receiver accepts and refuses. -/
theorem tick_ends {config : WatchConfig} {a : Agent} (hconfig : Watcher.ofConfig config = .ok a.watch)
    (hdelay : config.maxDelay = none) (hstate : a.state.Reached) {d : Disk} (hw : a.world.Still d) (sink : Sink)
    (time : TickTime)
    (hstill : ∀ o ∈ a.occasions sink time a.cycleBound, ∃ d', d'.Proper ∧ a.watch.Alike a.state d d' ∧
      o.world.Still d') (more : Nat) :
    tickFrom sink time (a.cycleBound + more) a = a.tick sink time := by
  have hmany : a.watch.owed d a.state < (a.occasions sink time a.cycleBound).length := by
    rw [length_occasions, cycleBound_eq hw]
    exact a.watch.owed_lt d a.state
  obtain ⟨hid, hcoherent⟩ := Watcher.coherent_of_reached hstate
  obtain ⟨final, hfinal⟩ := Watcher.exists_tick hconfig hdelay _ hstill hid hcoherent hmany
  exact (tickFrom_of_tick sink time _ hfinal).2 more

end Agent

end LogTail
