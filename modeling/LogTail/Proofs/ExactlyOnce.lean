import LogTail.Proofs.LossyCycles

/-!
# Every record exactly once

A watch on files that only grow delivers each record of a file once and in order, whatever the receiver
refuses and wherever cycles end.

* `Cycle.visits_taken`: what a pass takes of files, and that it is what the receiver accepts.
* `Watcher.Tailed`: the runs of a watch with what was accepted, and `Watcher.Tailing`, what every run keeps
  true (`Watcher.Tailed.tailing`).
* `Watcher.accepted_exactly_once`: what was accepted from a file is what the filter leaves of the records
  behind its tail. It needs that a cut ends behind every tail.
-/

namespace LogTail

def Tracker.accepted (t : Tracker) : List (Path × String) :=
  (t.offers.reverse.filter (·.accepted)).map fun o => (o.delivery.path, o.delivery.value)

/-- The number of the file that each accepted value comes from, and the value. -/
def CycleResult.accepted (d : Disk) (r : CycleResult) : List (Option Nat × String) :=
  (r.offers.filter (·.accepted)).map fun o => ((d.numberOf o.delivery.path).toOption, o.delivery.value)

def valuesFrom (n : Nat) (log : List (Option Nat × String)) : List String :=
  (log.filter (·.1 = some n)).map (·.2)

theorem valuesFrom_append (n : Nat) (a b : List (Option Nat × String)) :
    valuesFrom n (a ++ b) = valuesFrom n a ++ valuesFrom n b := by
  simp [valuesFrom]

namespace Watcher

/-! ## Passes for any receiver -/

/-- A file of which records were taken, and nothing else has changed but its refusals. -/
structure Visited (watch : Watcher) (d : Disk) (finished : Bool) (f : LogFile) (rs : List Record)
    (g : LogFile) : Prop where
  same : f.SameAs g
  leads : watch.splitter.Leads finished (f.ahead d) rs (g.ahead d)
  sound : g.Sound watch.splitter
  within : f.processed ≤ f.size → g.processed ≤ g.size

def acceptedOf (watch : Watcher) (readings : List (List Record × LogFile)) : List (Path × String) :=
  readings.flatMap fun r => (r.1.filterMap watch.value?).map (r.2.path, ·)

section visited
variable {watch : Watcher} {d : Disk} {finished : Bool} {f : LogFile} {rs : List Record}

theorem Visited.refl (hsound : f.Sound watch.splitter) : watch.Visited d finished f [] f :=
  ⟨rfl, .refl _, hsound, id⟩

theorem Took.visited {c' : Cursor} {s s' : Reading} (hs : watch.splitter.CutsBehindTails)
    (hsound : s.file.Sound watch.splitter)
    (h : watch.Took d (d.bytesAt s.file.path) finished (s.file.ahead d) s rs c' s') :
    watch.Visited d finished s.file rs s'.file := by
  have hbehind := hs.behind (c := s.file.ahead d) hsound.short
  obtain ⟨hadvanced, _⟩ := Took.advanced hbehind hsound h
  exact ⟨hadvanced.same, hadvanced.leads, (h.follows hbehind hsound rfl).1, hadvanced.within⟩

theorem Accounts.accepted {t t' : Tracker} (h : watch.Accounts f t rs t') :
    t'.accepted = t.accepted ++ (rs.filterMap watch.value?).map (f.path, ·) := by
  have hoffers : ((watch.offersOf t f rs).filter (·.accepted)).map
      (fun o => (o.delivery.path, o.delivery.value)) = (rs.filterMap watch.value?).map (f.path, ·) := by
    rw [List.filter_eq_self.2 fun o ho => accepted_of_mem_offersOf ho,
      map_offersOf (fun left => (f.path, left.1)) t f (fun _ _ => rfl), leftOf, List.map_filterMap, List.map_filterMap]
    simp [Function.comp_def]
  rw [Tracker.accepted, h.offers, List.reverse_append, List.reverse_reverse, List.filter_append,
    List.map_append, hoffers, Tracker.accepted]

end visited

end Watcher

namespace Cycle

section passes
variable {watch : Watcher} {d : Disk} {useIdentity : Bool} {c : Cycle}

theorem visit_taken (sink : Sink) (newest : Nat) (hs : watch.splitter.CutsBehindTails)
    (hchunk : 0 < watch.config.chunkSize) (hmax : watch.config.chunkSize ≤ watch.config.maxRecordSize)
    (hw : c.world.Still d) {f : LogFile} (place : Nat)
    (hread : f.Readable d useIdentity (d.bytesAt f.path)) (hsound : f.Sound watch.splitter) :
    ∃ rs g c', visit watch sink useIdentity newest c (f, place) = c' ∧
      watch.Visited d (place < newest) f rs g ∧ c'.world.Still d ∧ c'.kept = c.kept ++ [g] ∧
      c'.tracker.accepted = c.tracker.accepted ++ (rs.filterMap watch.value?).map (g.path, ·) := by
  rcases hhalt : c.halted with _ | _
  rotate_left
  · exact ⟨[], f, c.keep f, visit_waits hhalt _, .refl hsound, hw, rfl, by simp [keep]⟩
  have hreads := Watcher.readFile_spec (s := ⟨f, c.tracker, c.world⟩) watch sink useIdentity
    (place < newest) hchunk hmax hw hread hsound
  rcases hresult : watch.readFile sink useIdentity (place < newest) ⟨f, c.tracker, c.world⟩ with ⟨outcome, s⟩
  have hafter := visit_reads (x := (f, place)) hhalt hresult
  rw [hresult] at hreads
  -- of the file as it is left before a refusal
  have hmet {rs : List Record} {cursor : Cursor} {s : Reading}
      (htook : watch.Took d (d.bytesAt f.path) (place < newest) (f.ahead d) ⟨f, c.tracker, c.world⟩ rs cursor s) :
      watch.Visited d (place < newest) f rs s.file ∧
        s.tracker.accepted = c.tracker.accepted ++ (rs.filterMap watch.value?).map (s.file.path, ·) := by
    have hvisited := Watcher.Took.visited (s := ⟨f, c.tracker, c.world⟩) hs hsound htook
    exact ⟨hvisited, by rw [htook.accounts.accepted, hvisited.same.path]⟩
  cases hreads with
  | @ended _ rs _ _ _ htook =>
    obtain ⟨hvisited, haccepted⟩ := hmet htook
    exact ⟨rs, s.file, _, rfl, hvisited, hafter.world ▸ htook.still, hafter.kept_of_scan,
      hafter.tracker ▸ haccepted⟩
  | @budget rs _ _ htook =>
    obtain ⟨hvisited, haccepted⟩ := hmet htook
    exact ⟨rs, s.file, _, rfl, hvisited, hafter.world ▸ htook.still, hafter.kept_of_scan,
      hafter.tracker ▸ haccepted⟩
  | @rejected rs _ _ s r value w htook _ _ _ hstill =>
    obtain ⟨hvisited, haccepted⟩ := hmet htook
    refine ⟨rs, _, _, rfl, ?_, hafter.world ▸ hstill, hafter.kept_of_scan, ?_⟩
    · refine ⟨?_, hvisited.leads, hvisited.sound.congr rfl rfl rfl,
        hvisited.within⟩
      have hsame := hvisited.same
      rw [LogFile.SameAs] at hsame ⊢
      exact congrArg (fun g : LogFile => { g with retry := g.retry + 1 }) hsame
    · have hskipped : (Watcher.refuse s value r.stop w).tracker.accepted = s.tracker.accepted := by
        simp [Watcher.refuse, Tracker.accepted]
      rw [hafter.tracker, hskipped]
      exact haccepted

/-- **A pass takes records of each file**, and they are what the receiver accepts. -/
theorem visits_taken (sink : Sink) (useIdentity : Bool) (newest : Nat) (hs : watch.splitter.CutsBehindTails)
    (hchunk : 0 < watch.config.chunkSize) (hmax : watch.config.chunkSize ≤ watch.config.maxRecordSize)
    (hw : c.world.Still d) (files : List (LogFile × Nat))
    (hfiles : ∀ f ∈ files, f.1.Readable d useIdentity (d.bytesAt f.1.path) ∧ f.1.Sound watch.splitter) :
    ∃ readings c', files.foldl (visit watch sink useIdentity newest) c = c' ∧
      List.Forall₂ (fun f r => watch.Visited d (f.2 < newest) f.1 r.1 r.2) files readings ∧
      c'.kept = c.kept ++ readings.map (·.2) ∧
      c'.tracker.accepted = c.tracker.accepted ++ watch.acceptedOf readings := by
  induction files generalizing c with
  | nil => exact ⟨[], c, rfl, .nil, by simp, by simp [Watcher.acceptedOf]⟩
  | cons f files ih =>
    obtain ⟨hread, hsound⟩ := hfiles f (by simp)
    obtain ⟨rs, g, c₁, hvisit, hvisited, hw₁, hkept₁, haccepted₁⟩ :=
      visit_taken sink newest hs hchunk hmax hw f.2 hread hsound
    obtain ⟨readings, c', hfold, hpairs, hkept, haccepted⟩ := ih hw₁ fun f hf => hfiles f (by simp [hf])
    refine ⟨(rs, g) :: readings, c', ?_, .cons hvisited hpairs, ?_, ?_⟩
    · rw [List.foldl_cons, hvisit, hfold]
    · rw [hkept, hkept₁]
      simp
    · rw [haccepted, haccepted₁]
      simp [Watcher.acceptedOf]

end passes

end Cycle

/-! ## Runs -/

/-- The records of a byte string leave nothing over but bytes that are skipped. -/
def Splitter.Complete (s : Splitter) (bs : Bytes) : Prop :=
  (s.last false (.start bs)).skipping = true ∨ (s.last false (.start bs)).rest = []

namespace Watcher

/-- A disk as a cycle needs it: no two files that a watch finds are the same, and all but the one that is
read last end with a whole record. -/
structure Tame (watch : Watcher) (d : Disk) : Prop where
  apart : ((watch.matcher.files d).map (·.id)).Nodup
  complete : ∀ c ∈ (watch.matcher.files d).dropLast, watch.splitter.Complete (d.bytesAt c.path)

/-- The runs of a watch on files that only grow: the disk, what was accepted so far, and the state. A cycle
that fails leaves the state as it was. -/
inductive Tailed (watch : Watcher) : Disk → List (Option Nat × String) → WatchState → Prop
  | start (d : Disk) : Tailed watch d [] (.fresh false)
  | change {d d' : Disk} {log : List (Option Nat × String)} {state : WatchState}
    (run : Tailed watch d log state) (grows : watch.matcher.Grows d d') : Tailed watch d' log state
  | cycle {d : Disk} {log : List (Option Nat × String)} {state : WatchState} {w : World}
    {result : CycleResult} (sink : Sink) (time : CycleTime) (run : Tailed watch d log state)
    (tame : watch.Tame d) (still : w.Still d) (ran : watch.process sink time state w = .ok result) :
    Tailed watch d (log ++ result.accepted d) result.state
  | failed {d : Disk} {log : List (Option Nat × String)} {state : WatchState} {w : World}
    {e : Error × World} (sink : Sink) (time : CycleTime) (run : Tailed watch d log state)
    (still : w.Still d) (fails : watch.process sink time state w = .error e) : Tailed watch d log state

/-- A file of which records were taken in a cycle, beside those that were accepted before. -/
structure Continued (watch : Watcher) (d : Disk) (log : List (Option Nat × String)) (c : Candidate)
    (rs : List Record) (f : LogFile) : Prop where
  describes : f.Describes c
  stands : ∃ before, f.Stands watch.splitter watch.matcher.window (d.bytesAt c.path) (before ++ rs) ∧
    ∀ n, c.id = .ofNumber n → valuesFrom n log = before.filterMap watch.value?

/-- What every run keeps true: each tracked file is found, stands behind records of its content, and what
was accepted from it is what the filter leaves of them. -/
structure Tailing (watch : Watcher) (d : Disk) (log : List (Option Nat × String)) (state : WatchState) :
    Prop where
  plain : Resolution.Plain state
  apart : (state.files.map (·.id)).Nodup
  tracked : ∀ f ∈ state.files, ∃ c ∈ watch.matcher.files d, c.id = f.id ∧
    ∃ rs, f.Stands watch.splitter watch.matcher.window (d.bytesAt c.path) rs ∧
      ∀ n, c.id = .ofNumber n → valuesFrom n log = rs.filterMap watch.value?
  untracked : ∀ n, (∀ f ∈ state.files, f.id ≠ .ofNumber n) → valuesFrom n log = []

section values
variable {α : Type} {xs : List α} {key : α → Option Nat} {values : α → List String} {n : Nat}

theorem valuesFrom_flatMap_of_forall_ne (h : ∀ x ∈ xs, key x ≠ some n) :
    valuesFrom n (xs.flatMap fun x => (values x).map (key x, ·)) = [] := by
  simp only [valuesFrom, List.map_eq_nil_iff, List.filter_eq_nil_iff, List.mem_flatMap, List.mem_map]
  rintro _ ⟨x, hx, _, _, rfl⟩
  simpa using h x hx

theorem valuesFrom_flatMap_of_mem (hnodup : (xs.map key).Nodup) {x : α} (hx : x ∈ xs)
    (hkey : key x = some n) : valuesFrom n (xs.flatMap fun x => (values x).map (key x, ·)) = values x := by
  induction xs with
  | nil => simp at hx
  | cons y xs ih =>
    rw [List.map_cons, List.nodup_cons] at hnodup
    rw [List.flatMap_cons, valuesFrom_append]
    rcases List.mem_cons.1 hx with rfl | hx
    · rw [valuesFrom_flatMap_of_forall_ne, List.append_nil]
      · simp [valuesFrom, hkey, List.filter_map, Function.comp_def]
      · intro z hz heq
        exact hnodup.1 (List.mem_map.2 ⟨z, hz, heq.trans hkey.symm⟩)
    · have hne : key y ≠ some n := by
        intro heq
        exact hnodup.1 (List.mem_map.2 ⟨x, hx, hkey.trans heq.symm⟩)
      have hnone : valuesFrom n ((values y).map (key y, ·)) = [] := by
        simp [valuesFrom, hne]
      rw [hnone, List.nil_append, ih hnodup.2 hx]

end values

section runs
variable {config : WatchConfig} {watch : Watcher} {d d' : Disk} {log : List (Option Nat × String)}
  {state : WatchState} {candidates : List Candidate} {w : World} {sink : Sink} {time : CycleTime}
  {result : CycleResult}

theorem Tailing.change (h : watch.Tailing d log state) (hgrows : watch.matcher.Grows d d') :
    watch.Tailing d' log state where
  plain := h.plain
  apart := h.apart
  tracked f hf := by
    obtain ⟨c, hc, hid, rs, hstands, hvalues⟩ := h.tracked f hf
    obtain ⟨c', hc', hid', hbegins⟩ := hgrows c hc
    refine ⟨c', hc', hid'.trans hid, rs, hstands.grow hbegins, ?_⟩
    intro n hn
    exact hvalues n (hid'.symm.trans hn)
  untracked := h.untracked

theorem Tailing.growing (h : watch.Tailing d log state) (htame : watch.Tame d) :
    Resolution.Growing watch.config.rotation state (watch.matcher.files d) where
  plain := h.plain
  apart := h.apart
  distinct := htame.apart
  found f hf := by
    obtain ⟨c, hc, hid, _⟩ := h.tracked f hf
    exact ⟨c, hc, hid.symm⟩
  whole f hf c hc hsame := by
    obtain ⟨c', hc', hid, rs, hstands, _⟩ := h.tracked f hf
    have hcc : c' = c := List.inj_on_of_nodup_map htame.apart hc' hc (hid.trans hsame)
    obtain ⟨_, _, _, _, hsize, hhead⟩ := Matcher.regular_of_mem_files hc'
    rw [← hcc]
    exact hstands.not_truncated _ hsize hhead

theorem Tailing.continued (h : watch.Tailing d log state) (htame : watch.Tame d)
    (hcopies : watch.config.rotation.detectsCopies = false) (hpos : 0 < watch.splitter.longest) {i : Nat}
    {f : LogFile} {c : Candidate}
    (hf : (watch.resolution state (watch.matcher.files d)).files[i]? = some f)
    (hc : (watch.matcher.files d)[i]? = some c) : watch.Continued d log c [] f := by
  have hmem := List.mem_of_getElem? hc
  obtain ⟨_, _, _, _, hsize, hhead⟩ := Matcher.regular_of_mem_files hmem
  refine ⟨(Resolution.origin_of_getElem? hf hc).describes, ?_⟩
  rcases Resolution.resolve_growing (h.growing htame) hcopies hf hc with
    ⟨old, hold, hsame, seq, rfl⟩ | ⟨hnew, seq, rfl⟩
  · obtain ⟨c', hc', hid, rs, hstands, hvalues⟩ := h.tracked old hold
    obtain rfl : c' = c := List.inj_on_of_nodup_map htame.apart hc' hmem (hid.trans hsame)
    refine ⟨rs, ?_, hvalues⟩
    rw [List.append_nil]
    exact hstands.continueFile hsize hhead seq
  · refine ⟨[], LogFile.stands_track hpos hsize hhead seq, ?_⟩
    intro n hn
    refine h.untracked n fun old hold hid => hnew old hold ?_
    rw [hid, hn]

theorem Continued.visited {c : Candidate} {f g : LogFile} {rs : List Record} {finished : Bool}
    (h : watch.Continued d log c [] f) (hc : c ∈ watch.matcher.files d)
    (hfinished : finished = true → watch.splitter.Complete (d.bytesAt c.path))
    (hvisited : watch.Visited d finished f rs g) : watch.Continued d log c rs g := by
  obtain ⟨before, hstands, hvalues⟩ := h.stands
  obtain ⟨_, _, _, _, hlength, hhead⟩ := Matcher.regular_of_mem_files hc
  have hdescribes := hvisited.same.describes h.describes
  have hahead {f : LogFile} (hf : f.Describes c) :
      f.ahead d = f.cursor (d.bytesAt c.path) (d.bytesAt c.path).length := by
    rw [LogFile.ahead, hf.path, hf.size, hlength]
  have hleads := hvisited.leads
  rw [hahead h.describes, hahead hdescribes] at hleads
  rw [List.append_nil] at hstands
  have hleads' : watch.splitter.Leads false (f.cursor (d.bytesAt c.path) (d.bytesAt c.path).length) rs
      (g.cursor (d.bytesAt c.path) (d.bytesAt c.path).length) := by
    cases finished with
    | false => exact hleads
    | true =>
      apply hleads.of_finished
      rw [← hstands.leads.last_eq]
      exact hfinished rfl
  refine ⟨hdescribes, before, ⟨⟨?_, ?_⟩, hvisited.sound, ?_⟩, hvalues⟩
  · exact hvisited.within hstands.within
  · exact ⟨_, List.prefix_refl _, hdescribes.size.trans hlength,
      hdescribes.digest.trans (congrArg Digest.of hhead)⟩
  · exact hstands.leads.trans hleads'

theorem Tailing.run_eq (h : watch.Tailing d log state) (htame : watch.Tame d)
    (hfound : watch.matcher.found d = .ok candidates) (c : Cycle) :
    Cycle.run watch sink state.useIdentity (watch.resolution state candidates) c =
      (watch.resolution state candidates).files.zipIdx.foldl
        (Cycle.visit watch sink true ((watch.resolution state candidates).files.length - 1)) c := by
  have hfiles : watch.matcher.files d = candidates := by rw [Matcher.files, hfound]
  have haway : (watch.resolution state candidates).rotatedAway = [] := (hfiles ▸ h.growing htame).rotatedAway _
  rw [h.plain.identity, Cycle.run, haway]
  rfl

theorem Tailing.exists_taken (h : watch.Tailing d log state) (htame : watch.Tame d)
    (hcopies : watch.config.rotation.detectsCopies = false) (hs : watch.splitter.CutsBehindTails)
    (hchunk : 0 < watch.config.chunkSize) (hmax : watch.config.chunkSize ≤ watch.config.maxRecordSize)
    (hfound : watch.matcher.found d = .ok candidates) (sink : Sink) {c : Cycle} (hw : c.world.Still d) :
    ∃ readings : List (List Record × LogFile),
      List.Forall₂ (fun a r => watch.Continued d log a r.1 r.2) candidates readings ∧
      (Cycle.run watch sink state.useIdentity (watch.resolution state candidates) c).kept =
        c.kept ++ readings.map (·.2) ∧
      (Cycle.run watch sink state.useIdentity (watch.resolution state candidates) c).tracker.accepted =
        c.tracker.accepted ++ watch.acceptedOf readings := by
  have hfiles : watch.matcher.files d = candidates := by rw [Matcher.files, hfound]
  have hlength : (watch.resolution state candidates).files.length = candidates.length := Resolution.length_files ..
  have hcontinued {i : Nat} {f : LogFile} {a : Candidate}
      (hf : (watch.resolution state candidates).files[i]? = some f) (ha : candidates[i]? = some a) :
      watch.Continued d log a [] f := by
    rw [← hfiles] at hf ha
    exact h.continued htame hcopies (Nat.lt_of_lt_of_le hchunk hmax) hf ha
  obtain ⟨readings, c', hfold, hpairs, hkept, haccepted⟩ :=
    Cycle.visits_taken (c := c) sink true ((watch.resolution state candidates).files.length - 1) hs hchunk hmax hw
      (watch.resolution state candidates).files.zipIdx fun f hf => by
        have hi := List.mem_zipIdx_iff_getElem?.1 hf
        obtain ⟨a, ha, -⟩ := Resolution.origin_of_files hi
        obtain ⟨_, hstands, _⟩ := (hcontinued hi ha).stands
        exact ⟨(opens_of_mem_files hfound (List.mem_of_getElem? hi) true).readable, hstands.sound⟩
  rw [h.run_eq htame hfound, hfold]
  refine ⟨readings, List.forall₂_iff_get.2 ⟨?_, fun i hi hi' => ?_⟩, hkept, haccepted⟩
  · rw [← hpairs.length_eq, List.length_zipIdx, hlength]
  · have hvisited := (List.forall₂_iff_get.1 hpairs).2 i (by simpa [hlength] using hi) hi'
    simp only [List.get_eq_getElem, List.getElem_zipIdx, Nat.zero_add] at hvisited ⊢
    have ha := List.getElem?_eq_getElem hi
    refine (hcontinued (List.getElem?_eq_getElem (hlength ▸ hi)) ha).visited
      (by rw [hfiles]; exact List.mem_of_getElem? ha) (fun hfinished => ?_) hvisited
    -- a file that is read to its end is not the newest
    have hnewest : i < candidates.dropLast.length := by
      rw [List.length_dropLast, ← hlength]
      exact of_decide_eq_true hfinished
    apply htame.complete _
    rw [hfiles, ← List.getElem_dropLast hnewest]
    exact List.getElem_mem hnewest

/-- **One cycle**: each file that is found goes on with the records that were taken of it, and those are what
is accepted. -/
theorem Tailing.exists_readings (h : watch.Tailing d log state) (htame : watch.Tame d)
    (hcopies : watch.config.rotation.detectsCopies = false) (hs : watch.splitter.CutsBehindTails)
    (hchunk : 0 < watch.config.chunkSize) (hmax : watch.config.chunkSize ≤ watch.config.maxRecordSize)
    (hw : w.Still d) (hprocess : watch.process sink time state w = .ok result) :
    ∃ readings : List (List Record × LogFile),
      List.Forall₂ (fun c r => watch.Continued d log c r.1 r.2) (watch.matcher.files d) readings ∧
      result.state.files = Resolution.renumber 0 (readings.map (·.2)) ∧
      (result.accepted d = readings.flatMap fun r =>
        (r.1.filterMap watch.value?).map ((d.numberOf r.2.path).toOption, ·)) ∧
      Resolution.Plain result.state := by
  obtain ⟨scan, w', c, hscan, hran⟩ := of_process hprocess
  obtain ⟨hfound, hw'⟩ := found_of_scan hw hscan
  have hfiles : watch.matcher.files d = scan.candidates := by
    rw [Matcher.files, hfound]
  obtain ⟨readings, hcontinued, hkept, haccepted⟩ := h.exists_taken htame hcopies hs hchunk hmax hfound sink
    (c := { tracker := watch.opening time, world := w' }) hw'
  rw [← hran.run] at hkept haccepted
  refine ⟨readings, hfiles ▸ hcontinued, ?_, ?_, ?_⟩
  · rw [hran.state]
    simp [Cycle.nextState, hkept]
  · rw [CycleResult.accepted, hran.offers]
    have := congrArg (List.map fun a : Path × String => ((d.numberOf a.1).toOption, a.2)) haccepted
    simpa [Tracker.accepted, acceptedOf, opening, List.map_flatMap, Function.comp_def] using this
  · rw [hran.state]
    apply h.plain.nextState
    intro hnone
    -- nothing is found, so nothing was tracked, and the cycle does nothing
    have hempty : readings = [] := by simpa [hkept] using hnone
    have hfew : scan.candidates = [] := List.length_eq_zero_iff.1 (by rw [hcontinued.length_eq, hempty]; rfl)
    constructor
    · apply List.eq_nil_iff_forall_not_mem.2
      intro f hf
      obtain ⟨c, hc, _⟩ := h.tracked f hf
      rw [hfiles, hfew] at hc
      cases hc
    · have hidle : (watch.resolution state scan.candidates).files = [] :=
        List.length_eq_zero_iff.1 (by rw [resolution, Resolution.length_files, hfew]; rfl)
      rw [hran.run, h.run_eq htame hfound, hidle]
      rfl

theorem Continued.number {c : Candidate} {rs : List Record} {f : LogFile}
    (h : watch.Continued d log c rs f) (hc : c ∈ watch.matcher.files d) :
    ∃ n, c.id = .ofNumber n ∧ f.id = .ofNumber n ∧ (d.numberOf f.path).toOption = some n := by
  obtain ⟨n, hn, hid, _⟩ := Matcher.regular_of_mem_files hc
  refine ⟨n, hid, h.describes.id.trans hid, ?_⟩
  rw [h.describes.path, hn]
  rfl

section readings
variable {readings : List (List Record × LogFile)}
  (hpairs : List.Forall₂ (fun c r => watch.Continued d log c r.1 r.2) (watch.matcher.files d) readings)
include hpairs

theorem ids_of_continued : readings.map (·.2.id) = (watch.matcher.files d).map (·.id) := by
  refine (List.ext_getElem (by simpa using hpairs.length_eq.symm) ?_)
  intro i hi hi'
  rw [List.length_map] at hi hi'
  rw [List.getElem_map, List.getElem_map]
  exact ((List.forall₂_iff_get.1 hpairs).2 i hi' hi).describes.id

theorem exists_continued {r : List Record × LogFile} (hr : r ∈ readings) :
    ∃ c ∈ watch.matcher.files d, watch.Continued d log c r.1 r.2 := by
  obtain ⟨i, hi, rfl⟩ := List.getElem_of_mem hr
  have hi' : i < (watch.matcher.files d).length := hpairs.length_eq ▸ hi
  exact ⟨_, List.getElem_mem hi', (List.forall₂_iff_get.1 hpairs).2 i hi' hi⟩

theorem keys_of_continued (htame : watch.Tame d) :
    (readings.map fun r => (d.numberOf r.2.path).toOption).Nodup := by
  apply List.Nodup.of_map (Option.map FileId.ofNumber)
  have hsome : (readings.map fun r => (d.numberOf r.2.path).toOption).map (Option.map FileId.ofNumber) =
      (readings.map (·.2.id)).map some := by
    rw [List.map_map, List.map_map]
    apply List.map_congr_left
    intro r hr
    obtain ⟨c, hc, hcontinued⟩ := exists_continued hpairs hr
    obtain ⟨n, _, hid, hkey⟩ := hcontinued.number hc
    simp [hid, hkey]
  rw [hsome, ids_of_continued hpairs]
  exact htame.apart.map fun _ _ => Option.some.inj

end readings

theorem Tailing.cycle (h : watch.Tailing d log state) (htame : watch.Tame d)
    (hcopies : watch.config.rotation.detectsCopies = false) (hs : watch.splitter.CutsBehindTails)
    (hchunk : 0 < watch.config.chunkSize) (hmax : watch.config.chunkSize ≤ watch.config.maxRecordSize)
    (hw : w.Still d) (hprocess : watch.process sink time state w = .ok result) :
    watch.Tailing d (log ++ result.accepted d) result.state := by
  obtain ⟨readings, hpairs, hfiles, haccepted, hplain⟩ :=
    h.exists_readings htame hcopies hs hchunk hmax hw hprocess
  have hids := ids_of_continued hpairs
  refine ⟨hplain, ?_, ?_, ?_⟩
  · rw [hfiles, Resolution.map_renumber (fun _ _ => rfl), List.map_map]
    exact hids ▸ htame.apart
  · intro f hf
    rw [hfiles] at hf
    obtain ⟨g, hg, _, rfl⟩ := Resolution.exists_of_mem_renumber hf
    obtain ⟨r, hr, rfl⟩ := List.mem_map.1 hg
    obtain ⟨c, hc, hcontinued⟩ := exists_continued hpairs hr
    obtain ⟨before, hstands, hvalues⟩ := hcontinued.stands
    obtain ⟨n, hid, _, hkey⟩ := hcontinued.number hc
    refine ⟨c, hc, hcontinued.describes.id.symm, before ++ r.1,
      ⟨⟨hstands.within, hstands.seen⟩, hstands.sound.congr rfl rfl rfl,
        hstands.leads⟩, ?_⟩
    intro m hm
    obtain rfl : n = m := by simpa [FileId.ofNumber] using hid.symm.trans hm
    rw [valuesFrom_append, hvalues n hid, haccepted, valuesFrom_flatMap_of_mem (keys_of_continued hpairs htame) hr hkey,
      List.filterMap_append]
  · intro n hn
    have hno : ∀ r ∈ readings, r.2.id ≠ .ofNumber n := by
      intro r hr hid
      obtain ⟨i, hi⟩ := List.getElem?_of_mem (List.mem_map_of_mem (f := (·.2)) hr)
      refine hn { r.2 with seq := 0 + i, copyOf := none } ?_ hid
      rw [hfiles, Resolution.renumber, List.mem_map]
      exact ⟨(r.2, i), List.mem_zipIdx_iff_getElem?.2 hi, rfl⟩
    rw [valuesFrom_append, haccepted, valuesFrom_flatMap_of_forall_ne, List.append_nil]
    · apply h.untracked n
      intro f hf hid
      obtain ⟨c, hc, hsame, _⟩ := h.tracked f hf
      have hmem : c.id ∈ readings.map (·.2.id) := hids ▸ List.mem_map_of_mem hc
      obtain ⟨r, hr, heq⟩ := List.mem_map.1 hmem
      exact hno r hr (heq.trans (hsame.trans hid))
    · intro r hr hkey
      obtain ⟨c, hc, hcontinued⟩ := exists_continued hpairs hr
      obtain ⟨m, _, hid, hkey'⟩ := hcontinued.number hc
      obtain rfl : m = n := Option.some.inj (hkey'.symm.trans hkey)
      exact hno r hr hid

theorem tailing_start (watch : Watcher) (d : Disk) : watch.Tailing d [] (.fresh false) where
  plain := ⟨rfl, rfl, rfl⟩
  apart := List.nodup_nil
  tracked := by simp [WatchState.fresh]
  untracked _ _ := rfl

/-- **What every run keeps true.** -/
theorem Tailed.tailing (hcopies : watch.config.rotation.detectsCopies = false)
    (hs : watch.splitter.CutsBehindTails) (hchunk : 0 < watch.config.chunkSize)
    (hmax : watch.config.chunkSize ≤ watch.config.maxRecordSize) (h : watch.Tailed d log state) :
    watch.Tailing d log state := by
  induction h with
  | start d => exact watch.tailing_start d
  | change _ hgrows ih => exact ih.change hgrows
  | cycle _ _ _ htame hw hprocess ih => exact ih.cycle htame hcopies hs hchunk hmax hw hprocess
  | failed _ _ _ _ _ ih => exact ih

/-- The records of a file that a state says were read, as they are delivered. -/
def readOf (watch : Watcher) (d : Disk) (state : WatchState) (n : Nat) : List String :=
  match state.files.find? (·.id = .ofNumber n) with
  | none => []
  | some f =>
    ((watch.splitter.records false (.start (d.node n).content)).filter fun r =>
      r.endsBy f.tailStart f.skipping).filterMap watch.value?

/-- **Every record exactly once**: after every cycle and every change, what was accepted from a file is, in
order, what the filter leaves of the records of its content up to where its tail begins. -/
def ExactlyOnce (watch : Watcher) : Prop :=
  ∀ d log state, watch.Tailed d log state → ∀ n, valuesFrom n log = watch.readOf d state n

theorem exactlyOnce_of_cutsBehindTails (hconfig : Watcher.ofConfig config = .ok watch)
    (hcopies : config.rotation.detectsCopies = false)
    (hunit : config.maxRecordSize % config.encoding.unit ≤ 1) : watch.ExactlyOnce := by
  intro d log state h n
  obtain ⟨hwatch, hbounded, _⟩ := ofConfig_ok hconfig
  rw [← hwatch] at hcopies hbounded hunit
  have htailing := h.tailing hcopies hunit hbounded.chunk_pos hbounded.chunk_le
  rcases hfind : state.files.find? (·.id = .ofNumber n) with _ | f
  · simp only [readOf, hfind]
    apply htailing.untracked n
    intro f hf hid
    exact List.find?_eq_none.1 hfind f hf (decide_eq_true hid)
  · have hid : f.id = .ofNumber n := by simpa using List.find?_some hfind
    obtain ⟨c, hc, hsame, rs, hstands, hvalues⟩ := htailing.tracked f (List.mem_of_find?_eq_some hfind)
    obtain ⟨m, _, hm, hcontent, _⟩ := Matcher.regular_of_mem_files hc
    obtain rfl : m = n := by simpa [FileId.ofNumber] using hm.symm.trans (hsame.trans hid)
    simp only [readOf, hfind]
    rw [hvalues m hm, ← hcontent]
    exact congrArg _ hstands.leads.filter_endsBy.symm

end runs

/-! ## Where a cut may end inside a tail -/

instance {s : Splitter} {bs : Bytes} : Decidable (s.Complete bs) := inferInstanceAs (Decidable (_ ∨ _))

section lossy
variable {e : Encoding} {chunk longest : Nat}

theorem tame_rotated (content : Bytes) :
    (rotatedWatch e chunk longest).Tame (rotatedDisk [0x61] content) := by
  constructor
  · rw [files_rotated]
    exact List.nodup_singleton _
  · rw [files_rotated]
    simp

theorem grows_rotated {content content' : Bytes} (h : content <+: content') :
    (rotatedWatch e chunk longest).matcher.Grows (rotatedDisk [0x61] content)
      (rotatedDisk [0x61] content') := by
  intro c hc
  rw [files_rotated, List.mem_singleton] at hc
  refine ⟨rotatedCandidate content', by rw [files_rotated]; simp, ?_, ?_⟩
  · rw [hc]
    rfl
  · rw [hc]
    exact h

theorem not_exactlyOnce_rotated (hchunk : 0 < chunk) (hmax : chunk ≤ longest)
    (h : ¬ (rotatedWatch e chunk longest).splitter.CutsBehindTails) :
    ¬ (rotatedWatch e chunk longest).ExactlyOnce := by
  intro honce
  obtain ⟨first, f, hfirst, hnone, htracked, halmost⟩ := exists_first_cycle hchunk hmax (e := e)
  obtain ⟨second, delivery, g, hsecond, hone, _, htracked', hinside⟩ :=
    exists_second_cycle hchunk hmax h htracked halmost
  obtain ⟨third, k, hthird, hnone', _, _, hfiles, hid, hskip, hend⟩ :=
    exists_third_cycle hchunk hmax h htracked' hinside
  have hrun := ((((Tailed.start (shortDisk longest)).cycle _ {} (tame_rotated _) (World.still_quiet _)
    hfirst).change (grows_rotated (Splitter.zeros_prefix h))).cycle _ {} (tame_rotated _)
      (World.still_quiet _) hsecond).cycle _ {} (tame_rotated _) (World.still_quiet _) hthird
  have hlog := congrArg List.length (honce _ _ _ hrun 2)
  have haccepted : (valuesFrom 2 ((([] ++ first.accepted (shortDisk longest)) ++
      second.accepted (longDisk e longest)) ++ third.accepted (longDisk e longest))).length ≤ 1 := by
    rw [valuesFrom, List.length_map]
    apply Nat.le_trans (List.length_filter_le ..)
    simp [CycleResult.accepted, hnone, hone, hnone']
  have hread : 2 ≤ ((rotatedWatch e chunk longest).readOf (longDisk e longest) third.state 2).length := by
    obtain ⟨r₁, r₂, c, hleads, hc⟩ := Splitter.lost_leads h
    have hbehind : ∀ r ∈ [r₁, r₂], r.endsBy k.tailStart k.skipping = true := by
      intro r hr
      obtain ⟨_, _, _, hstop⟩ := hleads.bounds hr
      have hle : r.stop ≤ k.tailStart := Nat.le_trans (Nat.le_trans hstop hc) hend
      simp [Record.endsBy, hskip, hle]
    have hfind : third.state.files.find? (·.id = .ofNumber 2) = some k := by
      rw [hfiles]
      simp [hid]
    have hcontent : ((longDisk e longest).node 2).content =
      (rotatedWatch e chunk longest).splitter.lostContent := rfl
    rw [readOf, hfind]
    dsimp only
    rw [hcontent, hleads.records_eq, List.filter_append, List.filter_eq_self.2 hbehind,
      length_values_rotated, List.length_append]
    exact Nat.le_add_right 2 _
  have hboth := Nat.le_trans (Nat.le_trans hread (Nat.le_of_eq hlog.symm)) haccepted
  exact absurd hboth (by decide)

end lossy

/-- **Every record is accepted exactly once, if and only if a cut ends behind every tail.** -/
theorem exactlyOnce_iff (e : Encoding) {chunk longest : Nat} (hchunk : 0 < chunk) (hmax : chunk ≤ longest) :
    (∀ config watch, config.CutsBy e chunk longest → config.kind = .rotated →
      config.rotation.detectsCopies = false → config.maxDelay = none →
      Watcher.ofConfig config = .ok watch → watch.ExactlyOnce) ↔ longest % e.unit ≤ 1 := by
  constructor
  · intro hall
    apply Decidable.byContradiction
    intro h
    exact not_exactlyOnce_rotated hchunk hmax h (hall _ _ ⟨rfl, rfl, rfl⟩ rfl rfl rfl
      (ofConfig_rotated e hchunk hmax))
  · intro h config watch hcuts _ hcopies _ hconfig
    apply exactlyOnce_of_cutsBehindTails hconfig hcopies
    rwa [hcuts.maxRecordSize, hcuts.encoding]

theorem exactlyOnce_sample :
    (∃ log state, (rotatedWatch .utf8 4 8).Tailed (rotatedDisk [0x61, 0x31] [0x70, 0x0a, 0x71, 0x0a]) log
      state ∧ valuesFrom 2 log = (rotatedWatch .utf8 4 8).readOf
        (rotatedDisk [0x61, 0x31] [0x70, 0x0a, 0x71, 0x0a]) state 2 ∧ valuesFrom 2 log = ["p", "q"]) ∧
      ¬ ∀ config watch, config.CutsBy .utf32le 7 7 → config.kind = .rotated →
        config.rotation.detectsCopies = false → config.maxDelay = none →
        Watcher.ofConfig config = .ok watch → watch.ExactlyOnce := by
  let watch := rotatedWatch .utf8 4 8
  let before := rotatedDisk [0x61] [0x70, 0x0a, 0x71]
  let after := rotatedDisk [0x61, 0x31] [0x70, 0x0a, 0x71, 0x0a]
  -- the first record is refused, the file is renamed and appended to, and two cycles take a record each
  obtain ⟨first, hfirst, hrest⟩ := exists_of_afterCycle
    (p := fun first => watch.afterCycle .acceptAll after first.state fun second =>
      watch.afterCycle .acceptAll after second.state fun third =>
        decide (valuesFrom 2 (((([] ++ first.accepted before) ++ second.accepted after)) ++
          third.accepted after) = ["p", "q"]))
    (show watch.afterCycle (fun _ _ => false) before (.fresh false) _ = true by decide +kernel)
  obtain ⟨second, hsecond, hrest⟩ := exists_of_afterCycle hrest
  obtain ⟨third, hthird, hvalues⟩ := exists_of_afterCycle hrest
  have htame : watch.Tame before := tame_rotated _
  have htame' : watch.Tame after := ⟨by decide +kernel, by decide +kernel⟩
  have hgrows : watch.matcher.Grows before after := by
    unfold Matcher.Grows
    decide +kernel
  have hrun := (((Tailed.start before).cycle _ {} htame (World.still_quiet before) hfirst).change
    hgrows).cycle _ {} htame' (World.still_quiet after) hsecond
  have hrun' := hrun.cycle _ {} htame' (World.still_quiet after) hthird
  have honce : watch.ExactlyOnce :=
    (exactlyOnce_iff .utf8 (show 0 < 4 by decide) (show 4 ≤ 8 by decide)).2 (by decide)
      (rotatedConfig .utf8 4 8) watch ⟨rfl, rfl, rfl⟩ rfl rfl rfl rfl
  refine ⟨⟨_, _, hrun', honce _ _ _ hrun' 2, of_decide_eq_true hvalues⟩, ?_⟩
  intro hall
  exact absurd ((exactlyOnce_iff .utf32le (show 0 < 7 by decide) (Nat.le_refl 7)).1 hall) (by decide)

end Watcher

end LogTail
