import LogTail.Proofs.Reached
import LogTail.Proofs.Slicing

/-!
# Work that a cycle does not report

A cycle that accepted everything, met no error and reports no work left has left none in the files of the scan.
Of those that rotated away and wait it goes by what it recorded of them, and not by what is there: it halted
before it looked at them. So the next cycle offers records of such a file only if the file has grown since, or
if it is the last of all tracked files, of which no last record is expected (`Watcher.offers_of_not_pending`).

* `Cycle.Deals.reasoned`: a cycle halts only for a reason.
* `WatchState.rest_of_not_pending`: what a state says of its files that has no work.
-/

namespace LogTail

namespace Cycle

section reasons
variable {watch : Watcher} {d : Disk} {p : Part} {ps : List Part} {c c' : Cycle} {files : List LogFile}
  {goOn : List (List LogFile)}

/-- A cycle that halted did so on its budget, or because a record was refused. -/
def Reasoned (c : Cycle) : Prop :=
  c.halted = true → c.outOfBudget = true ∨ ∃ o ∈ c.tracker.offers, o.accepted = false

theorem Dealt.reasoned (h : Dealt watch d p c files c') (hreason : c.Reasoned) : c'.Reasoned := by
  cases h with
  | waits => exact hreason
  | gone _ _ _ _ _ hgoes =>
    intro hhalted
    rw [hgoes] at hhalted
    cases hhalted
  | @read _ _ _ outcome _ _ _ _ _ _ hattempt _ hafter =>
    intro hhalted
    rw [hafter.halted] at hhalted
    have hends := hattempt.ends
    cases outcome with
    | budget => exact .inl (hafter.outOfBudget.trans (Bool.or_true _))
    | rejected =>
      obtain ⟨front, o, hoffers, _, hrefused⟩ := hends
      exact .inr ⟨o, by rw [hafter.tracker, hattempt.offered, hoffers]; simp, hrefused⟩
    | done | idle | failed => cases hhalted

theorem Deals.reasoned (h : Deals watch d ps c goOn c') (hreason : c.Reasoned) : c'.Reasoned := by
  induction h with
  | nil => exact hreason
  | cons hdealt _ ih => exact ih (hdealt.reasoned hreason)

end reasons

end Cycle

/-- Of a state without work all files are at rest, as far as the state says; the last of them counts as the
newest. -/
theorem WatchState.rest_of_not_pending {state : WatchState} (h : state.hasPending = false) {i : Nat}
    {f : LogFile} (hf : state.files[i]? = some f) : f.AtRest (i < state.files.length - 1) := by
  rw [hasPending, Bool.or_eq_false_iff] at h
  obtain ⟨hunread, hlast⟩ := h
  rw [List.any_eq_false] at hunread hlast
  refine ⟨?_, fun hplace => ?_⟩
  · simpa using hunread f (List.mem_of_getElem? hf)
  · have hmem : f ∈ state.files.dropLast := by
      refine List.mem_of_getElem? (i := i) ?_
      rw [List.getElem?_dropLast, if_pos (of_decide_eq_true hplace), hf]
    simpa using hlast f hmem

namespace LogFile.AtRest

variable {finished finished' : Bool} {f : LogFile}

theorem mono (h : f.AtRest finished) (hle : finished' = true → finished = true) : f.AtRest finished' :=
  ⟨h.unread, fun hfinished => h.last (hle hfinished)⟩

theorem of_plain {g : LogFile} (h : f.AtRest finished) (hplain : Resolution.plain g = Resolution.plain f) :
    g.AtRest finished := by
  have hunread : (Resolution.plain g).unread = (Resolution.plain f).unread := by rw [hplain]
  have hlast : (Resolution.plain g).hasFinalTail = (Resolution.plain f).hasFinalTail := by rw [hplain]
  exact ⟨hunread.trans h.unread, fun hfinished => hlast.trans (h.last hfinished)⟩

end LogFile.AtRest

namespace Watcher

section pending
variable {config : WatchConfig} {watch : Watcher} {d : Disk} {time : CycleTime} {state : WatchState}
  {candidates : List Candidate} {away files : List LogFile} {c : Cycle} {result : CycleResult}

theorem Round.rest_of_not_pending (h : watch.Round d time state candidates away files c result)
    (haccepted : ∀ o ∈ result.offers, o.accepted = true) (herrors : result.report.readErrors = [])
    (hpending : result.report.pending = false) :
    (∀ (i : Nat) (f : LogFile), files[i]? = some f → f.AtRest (i < files.length - 1)) ∧
      ∀ (k : Nat) (f : LogFile), k < away.length → result.state.files[k]? = some f →
        f.AtRest (k < result.state.files.length - 1) := by
  obtain ⟨w, goOn, _, hdeals⟩ := h.deals
  have haccepts : ∀ o ∈ c.tracker.offers, o.accepted = true := fun o ho =>
    haccepted o (by rw [h.offers]; simp [ho])
  rw [h.pending, Bool.and_eq_false_iff] at hpending
  rcases hpending with hbudget | hnone
  · -- the cycle went through
    have hgoes : c.halted = false := by
      rw [← Bool.not_eq_true]
      intro hhalted
      rcases hdeals.reasoned (fun hno => by cases hno) hhalted with hout | ⟨o, ho, hrefused⟩
      · rw [hbudget] at hout
        cases hout
      · rw [haccepts o ho] at hrefused
        cases hrefused
    obtain ⟨rfl, hrest⟩ := h.rest ⟨hgoes, h.readErrors ▸ herrors, haccepts⟩
    exact ⟨hrest, fun k f hk => absurd hk (Nat.not_lt_zero k)⟩
  · refine ⟨fun i f hf => ?_, fun k f _ hf => WatchState.rest_of_not_pending hnone hf⟩
    have hrest := WatchState.rest_of_not_pending hnone (h.left.getElem?_state hf)
    rw [h.left.numbered, Resolution.length_renumber, List.length_append] at hrest
    refine LogFile.AtRest.of_plain (hrest.mono fun hplace => ?_) rfl
    simp only [decide_eq_true_eq] at hplace ⊢
    omega

/-- What the next cycle offers is of a file that rotated away and waited, or of a file of the scan, and in either
case of one that has something to read. -/
theorem Round.offers_next (h : watch.Round d time state candidates away files c result) {time' : CycleTime}
    {away' files' : List LogFile} {c' : Cycle} {second : CycleResult}
    (h' : watch.Round d time' result.state candidates away' files' c' second) {o : Offer} (ho : o ∈ second.offers) :
    (∃ (k : Nat) (f : LogFile), k < away.length ∧ result.state.files[k]? = some f ∧ o.delivery.path = f.path ∧
        f.processed ≤ d.sizeAt f.path ∧ ¬ (f.sized d).AtRest true) ∨
      ∃ (i : Nat) (f : LogFile), files[i]? = some f ∧ ¬ f.AtRest (i < files.length - 1) := by
  obtain ⟨haway, hfiles⟩ := h.left.resolve_again watch.config.rotation watch.config.encoding
  obtain ⟨w, goOn, _, hdeals⟩ := h'.deals
  rw [h'.offers, List.mem_reverse] at ho
  rcases hdeals.offers ho with hno | ⟨p, hp, hpath, hwithin, hrest⟩
  · cases hno
  rw [Cycle.parts, resolution, haway, List.mem_append, List.mem_map, List.mem_map] at hp
  rcases hp with ⟨f, hf, rfl⟩ | ⟨x, hx, rfl⟩
  · obtain ⟨k, hk⟩ := List.getElem?_of_mem hf
    have hlt := (List.getElem?_eq_some_iff.1 hk).1
    refine .inl ⟨k, f, by simpa [Resolution.renumber] using hlt, ?_, hpath, hwithin, hrest⟩
    rw [h.left.numbered, Resolution.renumber_append, List.getElem?_append_left hlt]
    exact hk
  · -- the resolution gives the files of the scan as they were left, and with their present sizes
    have hx := List.mem_zipIdx_iff_getElem?.1 hx
    obtain ⟨g, hg, hplain⟩ := getElem?_plain hfiles hx
    have hsize : x.1.size = d.sizeAt x.1.path := sizeAt_of_mem_files h.found (List.mem_of_getElem? hx)
    have hlength : (Resolution.resolve watch.config.rotation watch.config.encoding result.state
        candidates).files.length = files.length := by
      rw [Resolution.length_files, h.left.length]
    rw [Cycle.Part.ofScan, LogFile.sized_of_size hsize, hlength] at hrest
    exact .inr ⟨x.2, g, hg, fun hidle => hrest (hidle.of_plain hplain.symm)⟩

theorem grown_or_last {finished : Bool} {f : LogFile} (h : f.AtRest finished)
    (hwithin : f.processed ≤ d.sizeAt f.path) (hrest : ¬ (f.sized d).AtRest true) :
    f.size < d.sizeAt f.path ∨ finished = false ∧ f.hasFinalTail = true := by
  by_cases hsame : f.size = d.sizeAt f.path
  · right
    rw [LogFile.sized_of_size hsame] at hrest
    have htail : f.hasFinalTail = true := by
      rw [← Bool.not_eq_false]
      exact fun hnone => hrest ⟨h.unread, fun _ => hnone⟩
    refine ⟨?_, htail⟩
    rw [← Bool.not_eq_true]
    intro hfinished
    rw [h.last hfinished] at htail
    cases htail
  · left
    have hunread := h.unread
    rw [LogFile.unread] at hunread
    omega

/-- **What a cycle without work left unreported.** After a cycle that accepted everything, met no error and
reports no work left, the next one over the same disk offers records only of files that rotated away and waited:
of one that has grown since it was recorded, or, where the scan found nothing, of the last one. -/
theorem offers_of_not_pending (hconfig : Watcher.ofConfig config = .ok watch) (hstate : state.Reached)
    (hd : d.Proper) {sink : Sink} {w : World} (hw : w.Still d) {first : CycleResult}
    (hfirst : watch.process sink time state w = .ok first)
    (haccepted : ∀ o ∈ first.offers, o.accepted = true) (herrors : first.report.readErrors = [])
    (hpending : first.report.pending = false) (sink' : Sink) (time' : CycleTime) {w' : World} (hw' : w'.Still d) :
    ∃ candidates second, watch.matcher.found d = .ok candidates ∧
      watch.process sink' time' first.state w' = .ok second ∧
      ∀ o ∈ second.offers, ∃ (k : Nat) (f : LogFile), first.state.files[k]? = some f ∧
        k + candidates.length < first.state.files.length ∧ o.delivery.path = f.path ∧
        (f.size < d.sizeAt f.path ∨
          candidates = [] ∧ k + 1 = first.state.files.length ∧ f.hasFinalTail = true) := by
  obtain ⟨rfl, hbounded, _⟩ := ofConfig_ok hconfig
  obtain ⟨hid, hcoherent⟩ := coherent_of_reached hstate
  obtain ⟨candidates, away, files, c, hround⟩ := exists_round hbounded.chunk_pos hid hcoherent hd hw hfirst
  obtain ⟨second, _, _, _, hsecond, _⟩ := process_still sink' time' first.state hw' hround.found
  obtain ⟨candidates', away', files', c', hround'⟩ :=
    exists_round hbounded.chunk_pos hround.left.identity hround.coherent hd hw' hsecond
  obtain rfl : candidates = candidates' := Except.ok.inj (hround.found.symm.trans hround'.found)
  refine ⟨candidates, second, hround.found, hsecond, fun o ho => ?_⟩
  obtain ⟨hfiles, haway⟩ := hround.rest_of_not_pending haccepted herrors hpending
  have hcount : first.state.files.length = away.length + candidates.length := by
    rw [hround.left.numbered, Resolution.length_renumber, List.length_append,
      hround.left.length]
  rcases hround.offers_next hround' ho with ⟨k, f, hk, hf, hpath, hwithin, hrest⟩ | ⟨i, f, hf, hrest⟩
  · refine ⟨k, f, hf, by omega, hpath, (grown_or_last (haway k f hk hf) hwithin hrest).imp_right ?_⟩
    rintro ⟨hlast, htail⟩
    rw [decide_eq_false_iff_not] at hlast
    exact ⟨List.length_eq_zero_iff.1 (by omega), by omega, htail⟩
  · exact absurd (hfiles i f hf) hrest

end pending

end Watcher

/-! ## A file that is overlooked -/

/-- Two files rotated away and have grown since. The budget is spent on the first, and of the second its old size
is recorded: no work is reported, and the next cycle offers its record. -/
theorem Watcher.offers_of_not_pending_overlooked :
    let disk (x y : Bytes) := logDisk [([0x62], []), ([0x78], x), ([0x79], y)]
    let tracked := (logWatch "y" 1 0 rfl).next (disk [0x70, 0x0a, 0x71, 0x0a] [])
      ((logWatch "x" 1 0 rfl).next (disk [0x70, 0x0a] []) (.fresh false))
    let watch := logWatch "b" 1 0 rfl
    let grown := disk [0x70, 0x0a, 0x71, 0x0a, 0x72, 0x0a] [0x73, 0x0a]
    ∃ first second, watch.process .acceptAll {} tracked (.quiet grown) = .ok first ∧
      first.offers.map (·.delivery.value) = ["r"] ∧ first.report.pending = false ∧
      watch.process .acceptAll {} first.state (.quiet grown) = .ok second ∧
      second.offers.map (·.delivery.value) = ["s"] ∧
      ∀ o ∈ second.offers, ∃ f ∈ first.state.files, o.delivery.path = f.path ∧ f.size < grown.sizeAt f.path := by
  intro disk tracked watch grown
  have hsort : @Resolution.bySeq = fun files => files.insertionSort fun a b => a.seq ≤ b.seq :=
    funext Resolution.bySeq_eq_insertionSort
  obtain ⟨first, hfirst, hresult⟩ := ok_of_any (x := watch.process .acceptAll {} tracked (.quiet grown))
    (p := fun first => decide (first.offers.map (·.delivery.value) = ["r"] ∧ first.report.pending = false ∧
      first.report.readErrors = [] ∧ (∀ o ∈ first.offers, o.accepted = true) ∧
      ∀ f ∈ first.state.files, f.hasFinalTail = false))
    (by unfold Watcher.process Resolution.resolve; rw [hsort]; decide +kernel)
  obtain ⟨hvalues, hpending, herrors, haccepted, htails⟩ := of_decide_eq_true hresult
  have hproper (x y : Bytes) : (disk x y).Proper := by
    refine logDisk_proper (by simp) fun f hf => ?_
    have hname : f.1 = [0x62] ∨ f.1 = [0x78] ∨ f.1 = [0x79] := by
      simp only [List.mem_cons, List.not_mem_nil, or_false] at hf
      rcases hf with rfl | rfl | rfl <;> simp
    rcases hname with h | h | h <;> rw [h] <;> exact ⟨by decide, by decide, by decide, by decide⟩
  have hfirst₀ : Watcher.ofConfig (logConfig "x" 1 0) = .ok (logWatch "x" 1 0 rfl) := rfl
  have hsecond₀ : Watcher.ofConfig (logConfig "y" 1 0) = .ok (logWatch "y" 1 0 rfl) := rfl
  have hreached : tracked.Reached :=
    reached_next hsecond₀ (hproper _ _) (reached_next hfirst₀ (hproper _ _) (.fresh false))
  have hconfig : Watcher.ofConfig (logConfig "b" 1 0) = .ok watch := rfl
  obtain ⟨_, second, _, hsecond, hoffers⟩ := offers_of_not_pending hconfig hreached (hproper _ _)
    (World.still_quiet grown) hfirst haccepted herrors hpending .acceptAll {} (World.still_quiet grown)
  obtain ⟨second', hsecond', hlate⟩ := ok_of_any
    (x := watch.process .acceptAll {} (watch.next grown tracked) (.quiet grown))
    (p := fun second => decide (second.offers.map (·.delivery.value) = ["s"]))
    (by unfold Watcher.next Watcher.process Resolution.resolve; rw [hsort]; decide +kernel)
  rw [show watch.next grown tracked = first.state by rw [next, hfirst], hsecond] at hsecond'
  cases hsecond'
  refine ⟨first, second, hfirst, hvalues, hpending, hsecond, of_decide_eq_true hlate, fun o ho => ?_⟩
  obtain ⟨k, f, hf, _, hpath, hgrown | ⟨_, _, htail⟩⟩ := hoffers o ho
  · exact ⟨f, List.mem_of_getElem? hf, hpath, hgrown⟩
  · rw [htails f (List.mem_of_getElem? hf)] at htail
    cases htail

end LogTail
