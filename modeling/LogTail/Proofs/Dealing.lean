import LogTail.Proofs.CycleRun
import LogTail.Proofs.Offering
import LogTail.Proofs.Processing

/-!
# A cycle over a disk that stays as it is

`Cycle.Dealt` says all that a step of a pass can do with a file, whatever limits and encoding the file was read
with before and whatever the receiver answers, and `Cycle.run_deals` that a cycle is a chain of such steps
(`Cycle.Deals`). What holds of cycles over a still disk follows by induction on the chain.

* `Cycle.Deals.exists_files`: of the files of the scan each goes on to the next cycle.
* `Cycle.Deals.rest`: a cycle that halted nowhere and met no error leaves files with nothing to read.
* `Cycle.Deals.offers`: only files with something to read are offered from.
-/

namespace LogTail

/-! ## The size of a file -/

def Disk.sizeAt (d : Disk) (path : Path) : Nat := ((d.numberOf path).toOption.map d.size).getD 0

theorem Disk.sizeAt_of_numberOf {d : Disk} {path : Path} {n : Nat} (h : d.numberOf path = .ok n) :
    d.sizeAt path = d.size n := by
  rw [sizeAt, h]
  rfl

def LogFile.sized (d : Disk) (f : LogFile) : LogFile := { f with size := d.sizeAt f.path }

theorem LogFile.sized_of_size {d : Disk} {f : LogFile} (h : f.size = d.sizeAt f.path) : f.sized d = f := by
  rw [sized, ← h]

/-- A file has nothing to read; if nothing will be added to it, no last record is left of it either. -/
structure LogFile.AtRest (finished : Bool) (f : LogFile) : Prop where
  unread : f.unread = 0
  last : finished = true → f.hasFinalTail = false

theorem Reading.Through.size_le {d : Disk} {s s' : Reading} (h : s.Through s') (hw : s.world.Still d)
    (hsize : s.file.size = d.sizeAt s.file.path) : s.file.size ≤ s'.file.processed := by
  rcases h with hle | ⟨number, w, hlater, hnumber, w₁, hto, _, hfile, hend⟩
  · exact hle
  · have hw₁ := hlater.still hw
    rw [hw₁.disk] at hnumber
    rw [(World.Later.still hto hw₁).disk] at hfile hend
    rw [hsize, Disk.sizeAt_of_numberOf hnumber, Disk.size, hfile]
    exact hend

namespace Watcher

section files
variable {watch : Watcher} {useIdentity : Bool} {d : Disk}

theorem sizeAt_of_found {candidates : List Candidate} (hfound : watch.matcher.found d = .ok candidates) {c : Candidate}
    (hc : c ∈ candidates) : d.sizeAt c.path = c.size := by
  obtain ⟨n, hn, hfile, _, _, hsize, _⟩ := Disk.candidate?_eq_some (Matcher.candidate?_of_found hfound hc)
  rw [hsize, Disk.sizeAt_of_numberOf hn, hfile.size]

theorem sizeAt_of_mem_files {state : WatchState} {candidates : List Candidate}
    (hfound : watch.matcher.found d = .ok candidates) {f : LogFile}
    (hf : f ∈ (watch.resolution state candidates).files) : f.size = d.sizeAt f.path := by
  obtain ⟨c, hc, hdescribes⟩ := Resolution.exists_describes hf
  rw [hdescribes.path, hdescribes.size, sizeAt_of_found hfound hc]

theorem prepareDrain_still {w w' : World} {f : LogFile} {answer : Except Cause (Option LogFile)}
    (hw : w.Still d) (h : watch.prepareDrain useIdentity f w = (answer, w')) :
    w'.Still d ∧ ∀ g, answer = .ok (some g) → g = f.sized d ∧ f.processed ≤ d.sizeAt f.path := by
  obtain ⟨answer', w₁, hprepare, hw₁, hcases⟩ := watch.prepareDrain_spec useIdentity f hw
  obtain ⟨rfl, rfl⟩ := Prod.mk.inj (h.symm.trans hprepare)
  refine ⟨hw₁, fun g hg => ?_⟩
  rcases hcases with hdrains | ⟨_, e, herror⟩ | ⟨_, f', hsome, ⟨n, hn, _, hless, hsize, _⟩, hf'⟩
  · obtain ⟨n, hn, rfl, hle, _⟩ := drainable?_some (Except.ok.inj (hdrains.symm.trans hg))
    rw [LogFile.sized, Disk.sizeAt_of_numberOf hn]
    exact ⟨rfl, hle⟩
  · rw [herror] at hg
    cases hg
  · obtain rfl : f' = g := by
      rw [hsome] at hg
      exact Option.some.inj (Except.ok.inj hg)
    rw [hf'] at hn hless
    rw [LogFile.sized, Disk.sizeAt_of_numberOf hn, ← hsize]
    exact ⟨hf', by rw [hsize]; exact Nat.le_of_lt hless⟩

theorem readFile_idle (watch : Watcher) (sink : Sink) (useIdentity : Bool) {finished : Bool} {s : Reading}
    (h : s.file.AtRest finished) :
    watch.readFile sink useIdentity finished s = (.idle, s) := by
  have hidle : (decide (s.file.unread = 0) && !(finished && s.file.hasFinalTail)) = true := by
    rw [h.unread]
    cases finished with
    | false => rfl
    | true => simp [h.last rfl]
  rw [readFile]
  exact if_pos hidle

end files

end Watcher

namespace Cycle

/-! ## One step -/

/-- A file of a cycle: whether it is one of the scan, and whether nothing will be added to it. -/
structure Part where
  file : LogFile
  scanned : Bool
  finished : Bool

/-- What a step of a cycle does with a file: the files that go on to the next cycle, and the cycle after it. A
file of the scan goes on in any case, and one that rotated away only if the cycle halts at it. -/
inductive Dealt (watch : Watcher) (d : Disk) (p : Part) (c : Cycle) : List LogFile → Cycle → Prop
  | waits (halted : c.halted = true) : Dealt watch d p c [p.file] (c.keep p.file)
  | gone {c' : Cycle} (away : p.scanned = false) (goes : c.halted = false) (still : c'.world.Still d)
    (tracker : c'.tracker = c.tracker) (kept : c'.kept = c.kept) (halted : c'.halted = false)
    (outOfBudget : c'.outOfBudget = c.outOfBudget) (readErrors : c.readErrors <+: c'.readErrors) :
    Dealt watch d p c [] c'
  | read {s s' : Reading} {offers : List Offer} {outcome : FileOutcome} {c' : Cycle}
    (goes : c.halted = false) (file : s.file = p.file.sized d) (within : s.file.processed ≤ s.file.size)
    (still : s.world.Still d) (before : s.tracker = c.tracker)
    (attempt : watch.Attempt p.finished s offers outcome s')
    (idle : s.file.AtRest p.finished → outcome = .idle)
    (after : AfterReading watch.config.maxRetries p.scanned c outcome s' c') :
    Dealt watch d p c (if p.scanned || c'.halted then [s'.file] else []) c'

section steps
variable {watch : Watcher} {sink : Sink} {useIdentity : Bool} {d : Disk} {newest : Nat} {c c' : Cycle} {p : Part}
  {files : List LogFile}

theorem dealt_visit (sink : Sink) (useIdentity : Bool) (newest : Nat) (hchunk : 0 < watch.config.chunkSize)
    (hw : c.world.Still d) {x : LogFile × Nat} (hinside : x.1.tail.length ≤ x.1.processed)
    (hwithin : x.1.processed ≤ x.1.size) (hsize : x.1.size = d.sizeAt x.1.path) :
    ∃ files, Dealt watch d ⟨x.1, true, x.2 < newest⟩ c files (visit watch sink useIdentity newest c x) := by
  by_cases hhalt : c.halted = true
  · rw [visit_waits hhalt]
    exact ⟨_, .waits hhalt⟩
  rw [Bool.not_eq_true] at hhalt
  obtain ⟨offers, hattempt⟩ := watch.readFile_attempt (s := ⟨x.1, c.tracker, c.world⟩) sink useIdentity
    (x.2 < newest) hchunk hinside
  exact ⟨_, .read hhalt (LogFile.sized_of_size hsize).symm hwithin hw rfl hattempt
    (fun h => congrArg Prod.fst (watch.readFile_idle sink useIdentity h)) (visit_reads hhalt rfl)⟩

theorem dealt_drain (sink : Sink) (useIdentity : Bool) (hchunk : 0 < watch.config.chunkSize)
    (hw : c.world.Still d) {f : LogFile} (hinside : f.tail.length ≤ f.processed) :
    ∃ files, Dealt watch d ⟨f, false, true⟩ c files (drain watch sink useIdentity c f) := by
  by_cases hhalt : c.halted = true
  · rw [drain_waits hhalt]
    exact ⟨_, .waits hhalt⟩
  rw [Bool.not_eq_true] at hhalt
  rcases hprepare : watch.prepareDrain useIdentity f c.world with ⟨cause | _ | g, w⟩
  · rw [drain_unreachable hhalt hprepare]
    exact ⟨_, .gone rfl hhalt (watch.prepareDrain_still hw hprepare).1 rfl rfl hhalt rfl
      (List.prefix_append ..)⟩
  · rw [drain_gone hhalt hprepare]
    exact ⟨_, .gone rfl hhalt (watch.prepareDrain_still hw hprepare).1 rfl rfl hhalt rfl List.prefix_rfl⟩
  have hafter : AfterReading _ false c _ _ (drain watch sink useIdentity c f) := drain_reads hhalt hprepare rfl
  obtain ⟨hw', hsome⟩ := watch.prepareDrain_still hw hprepare
  obtain ⟨rfl, hwithin⟩ := hsome g rfl
  obtain ⟨offers, hattempt⟩ := watch.readFile_attempt (s := ⟨f.sized d, c.tracker, w⟩) sink useIdentity true
    hchunk hinside
  exact ⟨_, .read hhalt rfl hwithin hw' rfl hattempt
    (fun h => congrArg Prod.fst (watch.readFile_idle sink useIdentity h)) hafter⟩

theorem Dealt.kept (h : Dealt watch d p c files c') : c'.kept = c.kept ++ files := by
  cases h with
  | waits => rfl
  | gone _ _ _ _ hkept => rw [hkept, List.append_nil]
  | read _ _ _ _ _ _ _ hafter => exact hafter.kept

theorem Dealt.still (h : Dealt watch d p c files c') (hw : c.world.Still d) : c'.world.Still d := by
  cases h with
  | waits => exact hw
  | gone _ _ hstill => exact hstill
  | read _ _ _ hstill _ hattempt _ hafter => exact hafter.world ▸ hattempt.later.still hstill

theorem Dealt.exists_file (h : Dealt watch d p c files c') (hscanned : p.scanned = true)
    (hsize : p.file.size = d.sizeAt p.file.path) : ∃ f, files = [f] ∧ p.file.SameAs f := by
  cases h with
  | waits => exact ⟨_, rfl, rfl⟩
  | gone haway =>
    rw [haway] at hscanned
    cases hscanned
  | read _ hfile _ _ _ hattempt =>
    rw [hscanned, Bool.true_or, if_pos rfl]
    rw [LogFile.sized_of_size hsize] at hfile
    exact ⟨_, rfl, hfile ▸ hattempt.same⟩

/-- The cycle goes on, all calls were answered, and all that was offered was accepted. -/
structure Clean (c : Cycle) : Prop where
  goes : c.halted = false
  readErrors : c.readErrors = []
  accepted : ∀ o ∈ c.tracker.offers, o.accepted = true

theorem Dealt.rest (h : Dealt watch d p c files c') (hclean : c'.Clean) :
    c.Clean ∧ (p.scanned = false → files = []) ∧ ∀ f ∈ files, f.AtRest p.finished := by
  cases h with
  | waits hhalted =>
    have hgoes := hclean.goes
    rw [keep, hhalted] at hgoes
    cases hgoes
  | gone _ hgoes _ htracker _ _ _ herrors =>
    refine ⟨⟨hgoes, ?_, htracker ▸ hclean.accepted⟩, fun _ => rfl, fun f hf => absurd hf List.not_mem_nil⟩
    rw [hclean.readErrors] at herrors
    exact List.prefix_nil.1 herrors
  | @read s s' offers outcome c' hgoes hfile _ hstill hbefore hattempt _ hafter =>
    have hoffers : c'.tracker.offers = offers.reverse ++ c.tracker.offers := by
      rw [hafter.tracker, hattempt.offered, hbefore]
    have haccepted : ∀ o ∈ offers, o.accepted = true := fun o ho =>
      hclean.accepted o (by rw [hoffers]; simp [ho])
    have hends := hattempt.ends
    obtain ⟨herrors, hread⟩ := List.append_eq_nil_iff.1 (hafter.readErrors.symm.trans hclean.readErrors)
    have hrest : s'.file.AtRest p.finished := by
      cases outcome with
      | done =>
        have hle := hends.2.1.size_le hstill (by rw [hfile]; rfl)
        rw [← hattempt.same.size] at hle
        exact ⟨Nat.sub_eq_zero_of_le hle, hends.2.2⟩
      | idle =>
        rw [show s' = s from hends.1]
        exact ⟨hends.2.2.1, hends.2.2.2⟩
      | budget =>
        have hhalted := hafter.halted
        rw [hclean.goes] at hhalted
        cases hhalted
      | rejected =>
        obtain ⟨front, o, hfront, _, hrefused⟩ := hends
        rw [haccepted o (by simp [hfront])] at hrefused
        cases hrefused
      | failed => cases hread
    refine ⟨⟨hgoes, herrors, fun o ho => hclean.accepted o (by rw [hoffers]; simp [ho])⟩, fun haway => ?_,
      fun f hf => ?_⟩
    · rw [haway, hclean.goes]
      rfl
    · split at hf
      · rw [List.mem_singleton.1 hf]
        exact hrest
      · cases hf

theorem Dealt.offers (h : Dealt watch d p c files c') {o : Offer} (ho : o ∈ c'.tracker.offers) :
    o ∈ c.tracker.offers ∨ o.delivery.path = p.file.path ∧ p.file.processed ≤ d.sizeAt p.file.path ∧
      ¬ (p.file.sized d).AtRest p.finished := by
  cases h with
  | waits => exact .inl ho
  | gone _ _ _ htracker => exact .inl (htracker ▸ ho)
  | read _ hfile hwithin _ hbefore hattempt hidle hafter =>
    rw [hafter.tracker, hattempt.offered, hbefore, List.mem_append, List.mem_reverse] at ho
    rcases ho with ho | ho
    · rw [hfile] at hwithin
      refine .inr ⟨(hattempt.own o ho).2.trans (hfile ▸ rfl), hwithin, fun hrest => ?_⟩
      have hends := hattempt.ends
      rw [hidle (hfile ▸ hrest)] at hends
      rw [hends.2.1] at ho
      cases ho
    · exact .inl ho

end steps

/-! ## All steps -/

/-- Steps with files, one after the other, and the files that go on of each. -/
inductive Deals (watch : Watcher) (d : Disk) : List Part → Cycle → List (List LogFile) → Cycle → Prop
  | nil (c : Cycle) : Deals watch d [] c [] c
  | cons {p : Part} {ps : List Part} {c c₁ c' : Cycle} {files : List LogFile} {rest : List (List LogFile)}
    (dealt : Dealt watch d p c files c₁) (deals : Deals watch d ps c₁ rest c') :
    Deals watch d (p :: ps) c (files :: rest) c'

def Part.away (f : LogFile) : Part := ⟨f, false, true⟩

def Part.ofScan (newest : Nat) (x : LogFile × Nat) : Part := ⟨x.1, true, x.2 < newest⟩

/-- The files of a resolution, as a cycle deals with them. -/
def parts (r : Resolution) : List Part :=
  r.rotatedAway.map .away ++ r.files.zipIdx.map (.ofScan (r.files.length - 1))

theorem map_file_parts (r : Resolution) : (parts r).map Part.file = r.rotatedAway ++ r.files := by
  have haway : Part.file ∘ Part.away = id := rfl
  have hscan : Part.file ∘ Part.ofScan (r.files.length - 1) = Prod.fst := rfl
  rw [parts, List.map_append, List.map_map, List.map_map, haway, hscan, List.map_id, List.zipIdx_map_fst]

section deals
variable {watch : Watcher} {d : Disk} {c c' : Cycle} {ps qs : List Part} {goOn : List (List LogFile)}

theorem Deals.still (h : Deals watch d ps c goOn c') (hw : c.world.Still d) : c'.world.Still d := by
  induction h with
  | nil => exact hw
  | cons hdealt _ ih => exact ih (hdealt.still hw)

theorem Deals.append (h : Deals watch d ps c goOn c') {c'' : Cycle} {goOn' : List (List LogFile)}
    (h' : Deals watch d qs c' goOn' c'') : Deals watch d (ps ++ qs) c (goOn ++ goOn') c'' := by
  induction h with
  | nil => exact h'
  | cons hdealt _ ih => exact .cons hdealt (ih h')

theorem Deals.kept (h : Deals watch d ps c goOn c') : c'.kept = c.kept ++ goOn.flatten := by
  induction h with
  | nil => simp
  | cons hdealt _ ih => rw [ih, hdealt.kept, List.flatten_cons, List.append_assoc]

/-- **Of the files of the scan each goes on**, as the same file. -/
theorem Deals.exists_files (h : Deals watch d ps c goOn c')
    (hps : ∀ p ∈ ps, p.scanned = true ∧ p.file.size = d.sizeAt p.file.path) :
    ∃ files : List LogFile, goOn = files.map ([·]) ∧ List.Forall₂ (fun p f => p.file.SameAs f) ps files := by
  induction h with
  | nil => exact ⟨[], rfl, .nil⟩
  | @cons p ps _ _ _ _ _ hdealt _ ih =>
    obtain ⟨f, rfl, hsame⟩ := hdealt.exists_file (hps p (by simp)).1 (hps p (by simp)).2
    obtain ⟨files, rfl, hall⟩ := ih fun q hq => hps q (by simp [hq])
    exact ⟨f :: files, rfl, .cons hsame hall⟩

/-- **Steps that leave the cycle clean leave files at rest**, and of what rotated away nothing. -/
theorem Deals.rest (h : Deals watch d ps c goOn c') (hclean : c'.Clean) : c.Clean ∧
    List.Forall₂ (fun p files => (p.scanned = false → files = []) ∧ ∀ f ∈ files, f.AtRest p.finished) ps goOn := by
  induction h with
  | nil => exact ⟨hclean, .nil⟩
  | cons hdealt _ ih =>
    obtain ⟨hclean₁, hrest⟩ := ih hclean
    obtain ⟨hclean₀, hfiles⟩ := hdealt.rest hclean₁
    exact ⟨hclean₀, .cons hfiles hrest⟩

/-- The files of the scan go on in their places, and are at rest if the steps leave the cycle clean. -/
theorem Deals.scan {fs : List LogFile} {newest : Nat}
    (h : Deals watch d (fs.zipIdx.map (.ofScan newest)) c goOn c')
    (hsize : ∀ f ∈ fs, f.size = d.sizeAt f.path) :
    ∃ files, c'.kept = c.kept ++ files ∧ files.length = fs.length ∧
      (∀ (i : Nat) (f f' : LogFile), fs[i]? = some f → files[i]? = some f' → f.SameAs f') ∧
      (c'.Clean → c.Clean ∧ ∀ (i : Nat) (f' : LogFile), files[i]? = some f' → f'.AtRest (i < newest)) := by
  obtain ⟨files, hfiles, hsame⟩ := h.exists_files fun p hp => by
    obtain ⟨x, hx, rfl⟩ := List.mem_map.1 hp
    exact ⟨rfl, hsize x.1 (List.mem_of_getElem? (List.mem_zipIdx_iff_getElem?.1 hx))⟩
  have hkept := h.kept
  rw [hfiles, List.flatten_eq_flatMap, List.flatMap_map] at hkept
  rw [List.forall₂_map_left_iff, List.forall₂_iff_get] at hsame
  obtain ⟨hlength, hsame⟩ := hsame
  rw [List.length_zipIdx] at hlength
  refine ⟨files, by simpa using hkept, hlength.symm, fun i f f' hf hf' => ?_, fun hclean => ?_⟩
  · obtain ⟨hi, rfl⟩ := List.getElem?_eq_some_iff.1 hf
    obtain ⟨hi', rfl⟩ := List.getElem?_eq_some_iff.1 hf'
    simpa [Part.ofScan] using hsame i (by simpa using hi) hi'
  · obtain ⟨hclean₀, hrest⟩ := h.rest hclean
    rw [hfiles, List.forall₂_map_left_iff, List.forall₂_map_right_iff, List.forall₂_iff_get] at hrest
    refine ⟨hclean₀, fun i f' hf' => ?_⟩
    obtain ⟨hi', rfl⟩ := List.getElem?_eq_some_iff.1 hf'
    have hi : i < fs.zipIdx.length := by rw [List.length_zipIdx, hlength]; exact hi'
    simpa [Part.ofScan] using (hrest.2 i hi hi').2

/-- Of files that rotated away nothing goes on if the steps leave the cycle clean. -/
theorem Deals.through {fs : List LogFile} (h : Deals watch d (fs.map .away) c goOn c') (hclean : c'.Clean) :
    goOn.flatten = [] := by
  obtain ⟨_, hrest⟩ := h.rest hclean
  rw [List.flatten_eq_nil_iff]
  intro files hfiles
  rw [List.forall₂_map_left_iff, List.forall₂_iff_get] at hrest
  obtain ⟨i, hi, rfl⟩ := List.getElem_of_mem hfiles
  exact (hrest.2 i (hrest.1 ▸ hi) hi).1 rfl

/-- **What is offered is of a file that has something to read.** -/
theorem Deals.offers (h : Deals watch d ps c goOn c') {o : Offer} (ho : o ∈ c'.tracker.offers) :
    o ∈ c.tracker.offers ∨
      ∃ p ∈ ps, o.delivery.path = p.file.path ∧ p.file.processed ≤ d.sizeAt p.file.path ∧
        ¬ (p.file.sized d).AtRest p.finished := by
  induction h with
  | nil => exact .inl ho
  | @cons p _ _ _ _ _ _ hdealt _ ih =>
    rcases ih ho with ho | ⟨q, hq, hoffer⟩
    · exact (hdealt.offers ho).imp_right fun hoffer => ⟨p, by simp, hoffer⟩
    · exact .inr ⟨q, by simp [hq], hoffer⟩

theorem exists_deals_foldl {α : Type} {step : Cycle → α → Cycle} (part : α → Part) (xs : List α)
    (hstep : ∀ c, ∀ x ∈ xs, c.world.Still d → ∃ files, Dealt watch d (part x) c files (step c x))
    (hw : c.world.Still d) : ∃ kept, Deals watch d (xs.map part) c kept (xs.foldl step c) := by
  induction xs generalizing c with
  | nil => exact ⟨[], .nil c⟩
  | cons x xs ih =>
    obtain ⟨files, hdealt⟩ := hstep c x (by simp) hw
    obtain ⟨rest, hdeals⟩ := ih (fun c y hy => hstep c y (by simp [hy])) (hdealt.still hw)
    exact ⟨files :: rest, .cons hdealt hdeals⟩

/-- **A cycle over a disk that stays as it is deals with one file after the other**: first with those that
rotated away, and then with those of the scan. -/
theorem run_deals (sink : Sink) (useIdentity : Bool) (hchunk : 0 < watch.config.chunkSize)
    (hw : c.world.Still d) {r : Resolution} (hinside : ∀ f ∈ r.rotatedAway ++ r.files, f.tail.length ≤ f.processed)
    (hfiles : ∀ f ∈ r.files, f.processed ≤ f.size ∧ f.size = d.sizeAt f.path) :
    ∃ drained away kept, Deals watch d (r.rotatedAway.map .away) c away drained ∧
      Deals watch d (r.files.zipIdx.map (.ofScan (r.files.length - 1))) drained kept
        (run watch sink useIdentity r c) := by
  obtain ⟨away, hdrains⟩ := exists_deals_foldl Part.away r.rotatedAway (fun c f hf hw =>
    dealt_drain sink useIdentity hchunk hw (hinside f (List.mem_append_left _ hf))) hw
  obtain ⟨kept, hvisits⟩ := exists_deals_foldl (Part.ofScan (r.files.length - 1)) r.files.zipIdx
    (fun c x hx hw => by
      have hx : x.1 ∈ r.files := List.mem_of_getElem? (List.mem_zipIdx_iff_getElem?.1 hx)
      exact dealt_visit sink useIdentity _ hchunk hw (hinside x.1 (List.mem_append_right _ hx)) (hfiles x.1 hx).1
        (hfiles x.1 hx).2) (hdrains.still hw)
  exact ⟨_, away, kept, hdrains, hvisits⟩

end deals

end Cycle

end LogTail
