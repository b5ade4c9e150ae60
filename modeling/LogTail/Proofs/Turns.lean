import LogTail.Proofs.Accounting
import LogTail.Proofs.Justification
import LogTail.Proofs.LossyCycles
import LogTail.Proofs.Offering
import LogTail.Proofs.Trees

/-!
# The order of deliveries in a cycle

A cycle gives each of its files a turn, first those that rotated away and then those of the scan. Whatever
others do to the disk in the middle of it and whatever the receiver answers, the offers of a cycle go up, by
file and then by the end of the record; after a turn that halts the cycle there is none; and an offer says
that all files before its own are done with (`Turn.InOrder`, `Watcher.offers_in_order`).

* `Turn.Took`: what one step of a pass does, as the turn of its file.
* `Turn.Taken`: a run over files, and by induction on it what its turns have in common.
-/

namespace LogTail

/-- What a cycle does with one of its files. -/
inductive Turn where
  /-- The cycle has halted, and the file waits for the next one. -/
  | waits
  /-- The file rotated away and is no longer there. -/
  | gone
  /-- It cannot be found out whether a file that rotated away is still there. -/
  | unreachable (cause : Cause)
  /-- The file is read; `finished` if nothing will be added to it. -/
  | read (finished : Bool) (outcome : FileOutcome) (before after : Reading)

namespace Turn

def offers : Turn → List Offer
  | read _ _ before after =>
    (after.tracker.offers.take (after.tracker.offers.length - before.tracker.offers.length)).reverse
  | _ => []

/-- The reading of a turn, if there is one: whether nothing will be added to the file, how it ended, and what was
there before and after it. -/
def read? : Turn → Option (Bool × FileOutcome × Reading × Reading)
  | read finished outcome before after => some (finished, outcome, before, after)
  | _ => none

theorem eq_of_read? {t : Turn} {finished : Bool} {outcome : FileOutcome} {before after : Reading}
    (h : t.read? = some (finished, outcome, before, after)) : t = read finished outcome before after := by
  cases t with
  | read => cases h; rfl
  | waits | gone | unreachable => cases h

def ofDrain (watch : Watcher) (sink : Sink) (useIdentity : Bool) (c : Cycle) (file : LogFile) : Turn :=
  if c.halted then waits
  else
    match watch.prepareDrain useIdentity file c.world with
    | (.error cause, _) => unreachable cause
    | (.ok none, _) => gone
    | (.ok (some file), w) =>
      let result := watch.readFile sink useIdentity true ⟨file, c.tracker, w⟩
      read true result.1 ⟨file, c.tracker, w⟩ result.2

def ofVisit (watch : Watcher) (sink : Sink) (useIdentity : Bool) (newest : Nat) (c : Cycle)
    (file : LogFile × Nat) : Turn :=
  if c.halted then waits
  else
    let result := watch.readFile sink useIdentity (file.2 < newest) ⟨file.1, c.tracker, c.world⟩
    read (file.2 < newest) result.1 ⟨file.1, c.tracker, c.world⟩ result.2

/-- The turns of files, each in the cycle that the steps before it lead to. -/
def ofSteps {α : Type} (turn : Cycle → α → Turn) (step : Cycle → α → Cycle) : Cycle → List α → List Turn
  | _, [] => []
  | c, x :: xs => turn c x :: ofSteps turn step (step c x) xs

theorem length_ofSteps {α : Type} (turn : Cycle → α → Turn) (step : Cycle → α → Cycle) (c : Cycle) (xs : List α) :
    (ofSteps turn step c xs).length = xs.length := by
  induction xs generalizing c with
  | nil => rfl
  | cons x xs ih => exact congrArg Nat.succ (ih (step c x))

def ofRun (watch : Watcher) (sink : Sink) (useIdentity : Bool) (resolution : Resolution) (start : Cycle) :
    List Turn :=
  let newest := resolution.files.length - 1
  ofSteps (ofDrain watch sink useIdentity) (Cycle.drain watch sink useIdentity) start
      resolution.rotatedAway ++
    ofSteps (ofVisit watch sink useIdentity newest) (Cycle.visit watch sink useIdentity newest)
      (resolution.rotatedAway.foldl (Cycle.drain watch sink useIdentity) start) resolution.files.zipIdx

/-- The turn halts the cycle: the budget is spent, or a record was refused that is to be tried again. -/
def Halts (maxRetries : Nat) : Turn → Prop
  | read _ .budget _ _ => True
  | read _ .rejected _ after => after.file.retry ≤ maxRetries
  | _ => False

/-- The cycle is done with the file: it was read to its end, and if nothing will be added to it no last record
is left; or it had nothing to read, is gone, could not be read, or was refused too often. -/
def Over (maxRetries : Nat) : Turn → Prop
  | read finished .done before after =>
    before.Through after ∧ (finished = true → after.file.hasFinalTail = false)
  | read finished .idle before _ =>
    before.file.unread = 0 ∧ (finished = true → before.file.hasFinalTail = false)
  | read _ .rejected _ after => maxRetries < after.file.retry
  | read _ (.failed _) _ _ | gone | unreachable _ => True
  | read _ .budget _ _ | waits => False

end Turn

/-- The turns of a cycle; none if the scan fails. -/
def Watcher.turns (watch : Watcher) (sink : Sink) (time : CycleTime) (state : WatchState) (w : World) :
    List Turn :=
  match watch.matcher.scan w with
  | (.error _, _) => []
  | (.ok scan, w) =>
    Turn.ofRun watch sink state.useIdentity (watch.resolution state scan.candidates)
      { tracker := watch.opening time, world := w }

/-- An offer comes before another: of a file before, or of the same file with an end before. -/
def Offer.Precedes (o o' : Offer) : Prop :=
  o.delivery.seq < o'.delivery.seq ∨
    o.delivery.seq = o'.delivery.seq ∧ o.delivery.stop < o'.delivery.stop

/-- What the turns of a cycle have in common, from the place of the first of its files on. -/
structure Turn.InOrder (maxRetries first : Nat) (turns : List Turn) : Prop where
  /-- The offers of a turn are those of its file. -/
  own : ∀ k t, turns[k]? = some t → ∀ o ∈ t.offers, o.delivery.seq = first + k
  ordered : (turns.flatMap Turn.offers).Pairwise Offer.Precedes
  /-- A refusal ends a turn. -/
  refused : ∀ t ∈ turns, ∀ front o back, t.offers = front ++ o :: back → o.accepted = false →
    back = [] ∧ ∃ finished before after, t = .read finished .rejected before after
  /-- After a turn that halts there are no offers. -/
  halted : ∀ earlier t later, turns = earlier ++ t :: later → t.Halts maxRetries →
    later.flatMap Turn.offers = []
  /-- Before an offer all is done with. -/
  passed : ∀ earlier t later, turns = earlier ++ t :: later → later.flatMap Turn.offers ≠ [] →
    t.Over maxRetries

namespace Turn

/-! ## One turn -/

/-- What a step of a pass does, as the turn of its file. -/
structure Took (watch : Watcher) (file : LogFile) (c : Cycle) (t : Turn) (c' : Cycle) : Prop where
  offered : c'.tracker.offers = t.offers.reverse ++ c.tracker.offers
  own : ∀ o ∈ t.offers, o.delivery.seq = file.seq
  ordered : watch.config.encoding.unit ≤ watch.config.maxRecordSize →
    t.offers.Pairwise fun o o' => o.delivery.stop < o'.delivery.stop
  refused : ∀ front o back, t.offers = front ++ o :: back → o.accepted = false →
    back = [] ∧ ∃ finished before after, t = .read finished .rejected before after
  waits : c.halted = true → t.offers = [] ∧ c'.halted = true
  halts : t.Halts watch.config.maxRetries → c'.halted = true
  passed : c'.halted = false → t.Over watch.config.maxRetries

section took
variable {watch : Watcher} {sink : Sink} {useIdentity : Bool} {c c' : Cycle} {file : LogFile} {t : Turn}

theorem took_silent (hoffered : c'.tracker.offers = c.tracker.offers) (hoffers : t.offers = [])
    (hhalted : c.halted = true → c'.halted = true) (hhalts : ¬ t.Halts watch.config.maxRetries)
    (hover : c'.halted = false → t.Over watch.config.maxRetries) : Took watch file c t c' where
  offered := by rw [hoffers, hoffered]; rfl
  own := by simp [hoffers]
  ordered _ := by rw [hoffers]; exact .nil
  refused front o back h _ := by simp [hoffers] at h
  waits h := ⟨hoffers, hhalted h⟩
  halts h := absurd h hhalts
  passed := hover

theorem offers_of_offered {finished : Bool} {outcome : FileOutcome} {before after : Reading} {offers : List Offer}
    (h : after.tracker.offers = offers.reverse ++ before.tracker.offers) :
    (read finished outcome before after).offers = offers := by
  rw [Turn.offers, h, List.length_append, Nat.add_sub_cancel, List.take_left, List.reverse_reverse]

theorem offers_read {finished : Bool} {outcome : FileOutcome} {before after : Reading} {offers : List Offer}
    (h : watch.Attempt finished before offers outcome after) :
    (read finished outcome before after).offers = offers :=
  offers_of_offered h.offered

theorem halts_read {finished : Bool} {outcome : FileOutcome} {before after : Reading} {maxRetries : Nat} :
    (read finished outcome before after).Halts maxRetries ↔ outcome.halts maxRetries after.file = true := by
  cases outcome <;> simp [Halts]

theorem over_read {finished : Bool} {outcome : FileOutcome} {before after : Reading} {offers : List Offer}
    {maxRetries : Nat} (h : watch.Attempt finished before offers outcome after)
    (hgoes : outcome.halts maxRetries after.file = false) :
    (read finished outcome before after).Over maxRetries := by
  have hends := h.ends
  cases outcome with
  | done => exact hends.2
  | idle => exact hends.2.2
  | budget => cases hgoes
  | rejected => exact Nat.not_le.1 (of_decide_eq_false hgoes)
  | failed => trivial

theorem refused_read {finished : Bool} {outcome : FileOutcome} {before after : Reading} {front back : List Offer}
    {o : Offer} (h : watch.Attempt finished before (front ++ o :: back) outcome after)
    (hrefused : o.accepted = false) : back = [] ∧ outcome = .rejected := by
  have hends := h.ends
  have ho : o ∈ front ++ o :: back := by simp
  cases outcome with
  | rejected =>
    obtain ⟨front', o', hoffers, haccepted, _⟩ := hends
    refine ⟨?_, rfl⟩
    rcases List.eq_nil_or_concat back with hnil | ⟨back', last, rfl⟩
    · exact hnil
    · -- the refused offer would stand before the last one
      have hfront : front' = front ++ o :: back' := by
        rw [List.concat_eq_append, ← List.cons_append, ← List.append_assoc] at hoffers
        exact (List.append_inj' hoffers rfl).1.symm
      rw [haccepted o (by simp [hfront])] at hrefused
      cases hrefused
  | idle =>
    rw [hends.2.1] at ho
    cases ho
  | done | budget =>
    rw [hends.1 o ho] at hrefused
    cases hrefused
  | failed =>
    rw [hends o ho] at hrefused
    cases hrefused

theorem took_read {finished scanned : Bool} {outcome : FileOutcome} {before after : Reading} {offers : List Offer}
    (h : watch.Attempt finished before offers outcome after) (hseq : before.file.seq = file.seq)
    (hbefore : before.tracker = c.tracker) (hgoes : c.halted = false)
    (hafter : Cycle.AfterReading watch.config.maxRetries scanned c outcome after c') :
    Took watch file c (read finished outcome before after) c' where
  offered := by rw [offers_read h, hafter.tracker, h.offered, hbefore]
  own o ho := by
    rw [offers_read h] at ho
    rw [(h.own o ho).1, hseq]
  ordered hunit := by
    rw [offers_read h]
    exact h.ascends hunit
  refused front o back hoffers hrefused := by
    rw [offers_read h] at hoffers
    obtain ⟨hlast, rfl⟩ := refused_read (hoffers ▸ h) hrefused
    exact ⟨hlast, _, _, _, rfl⟩
  waits hhalted := by
    rw [hgoes] at hhalted
    cases hhalted
  halts hhalts := hafter.halted.trans (halts_read.1 hhalts)
  passed hgoes' := over_read h (hafter.halted.symm.trans hgoes')

theorem took_visit (watch : Watcher) (sink : Sink) (useIdentity : Bool) (newest : Nat)
    (hchunk : 0 < watch.config.chunkSize) (c : Cycle) {x : LogFile × Nat}
    (hinside : x.1.tail.length ≤ x.1.processed) :
    Took watch x.1 c (ofVisit watch sink useIdentity newest c x)
      (Cycle.visit watch sink useIdentity newest c x) := by
  rw [ofVisit]
  by_cases hhalt : c.halted = true
  · rw [if_pos hhalt, Cycle.visit_waits hhalt]
    exact took_silent rfl rfl id id fun hgoes => by rw [Cycle.keep, hhalt] at hgoes; cases hgoes
  rw [if_neg hhalt]
  rw [Bool.not_eq_true] at hhalt
  obtain ⟨offers, hattempt⟩ := watch.readFile_attempt (s := ⟨x.1, c.tracker, c.world⟩) sink useIdentity
    (x.2 < newest) hchunk hinside
  exact took_read hattempt rfl rfl hhalt (Cycle.visit_reads hhalt rfl)

theorem took_drain (watch : Watcher) (sink : Sink) (useIdentity : Bool)
    (hchunk : 0 < watch.config.chunkSize) (c : Cycle) {file : LogFile}
    (hinside : file.tail.length ≤ file.processed) :
    Took watch file c (ofDrain watch sink useIdentity c file) (Cycle.drain watch sink useIdentity c file) := by
  rw [ofDrain]
  by_cases hhalt : c.halted = true
  · rw [if_pos hhalt, Cycle.drain_waits hhalt]
    exact took_silent rfl rfl id id fun hgoes => by rw [Cycle.keep, hhalt] at hgoes; cases hgoes
  rw [if_neg hhalt]
  rw [Bool.not_eq_true] at hhalt
  rcases hprepare : watch.prepareDrain useIdentity file c.world with ⟨cause | _ | g, w⟩
  · rw [Cycle.drain_unreachable hhalt hprepare]
    exact took_silent rfl rfl id id fun _ => trivial
  · rw [Cycle.drain_gone hhalt hprepare]
    exact took_silent rfl rfl id id fun _ => trivial
  have hafter : Cycle.AfterReading _ false c _ _ (Cycle.drain watch sink useIdentity c file) :=
    Cycle.drain_reads hhalt hprepare rfl
  obtain ⟨size, _, rfl⟩ := Watcher.prepareDrain_some hprepare
  obtain ⟨offers, hattempt⟩ := watch.readFile_attempt (s := ⟨{ file with size := size }, c.tracker, w⟩) sink
    useIdentity true hchunk hinside
  exact took_read hattempt rfl rfl hhalt hafter

end took

/-! ## All turns -/

/-- Steps over files, with their turns, from one cycle to another. -/
inductive Taken (watch : Watcher) : List LogFile → Cycle → List Turn → Cycle → Prop
  | nil (c : Cycle) : Taken watch [] c [] c
  | cons {file : LogFile} {files : List LogFile} {c c₁ c' : Cycle} {t : Turn} {turns : List Turn}
    (took : Took watch file c t c₁) (rest : Taken watch files c₁ turns c') :
    Taken watch (file :: files) c (t :: turns) c'

section taken
variable {watch : Watcher} {files files' : List LogFile} {c c' c'' : Cycle} {turns turns' : List Turn}

theorem Taken.append (h : Taken watch files c turns c') (h' : Taken watch files' c' turns' c'') :
    Taken watch (files ++ files') c (turns ++ turns') c'' := by
  induction h with
  | nil => exact h'
  | cons htook _ ih => exact .cons htook (ih h')

theorem taken_ofSteps {α : Type} {turn : Cycle → α → Turn} {step : Cycle → α → Cycle} (file : α → LogFile)
    (xs : List α) (hstep : ∀ c, ∀ x ∈ xs, Took watch (file x) c (turn c x) (step c x)) (c : Cycle) :
    Taken watch (xs.map file) c (ofSteps turn step c xs) (xs.foldl step c) := by
  induction xs generalizing c with
  | nil => exact .nil c
  | cons x xs ih =>
    exact .cons (hstep c x (by simp)) (ih (fun c y hy => hstep c y (by simp [hy])) (step c x))

theorem Taken.offers (h : Taken watch files c turns c') :
    c'.tracker.offers = (turns.flatMap Turn.offers).reverse ++ c.tracker.offers := by
  induction h with
  | nil => rfl
  | cons htook _ ih => rw [ih, htook.offered, List.flatMap_cons, List.reverse_append, List.append_assoc]

theorem Taken.silent (h : Taken watch files c turns c') (hhalted : c.halted = true) :
    turns.flatMap Turn.offers = [] := by
  induction h with
  | nil => rfl
  | cons htook _ ih =>
    obtain ⟨hnone, hhalted⟩ := htook.waits hhalted
    rw [List.flatMap_cons, hnone, ih hhalted]
    rfl

/-- **The turns of numbered files are in order.** -/
theorem Taken.inOrder (hunit : watch.config.encoding.unit ≤ watch.config.maxRecordSize)
    (h : Taken watch files c turns c') {first : Nat}
    (hseq : ∀ (k : Nat) (f : LogFile), files[k]? = some f → f.seq = first + k) :
    InOrder watch.config.maxRetries first turns := by
  induction h generalizing first with
  | nil => exact ⟨by simp, .nil, by simp, by simp, by simp⟩
  | @cons file files c c₁ c' t turns htook hrest ih =>
    have hfile : file.seq = first := hseq 0 file rfl
    have hin : InOrder watch.config.maxRetries (first + 1) turns :=
      ih fun k f hf => by rw [hseq (k + 1) f hf]; omega
    refine ⟨?_, ?_, ?_, ?_, ?_⟩
    · intro k u hu o ho
      cases k with
      | zero =>
        obtain rfl : t = u := Option.some.inj hu
        rw [htook.own o ho, hfile]
        rfl
      | succ k => rw [hin.own k u hu o ho, Nat.add_assoc, Nat.add_comm 1 k]
    · rw [List.flatMap_cons, List.pairwise_append]
      refine ⟨?_, hin.ordered, ?_⟩
      · refine (htook.ordered hunit).imp_of_mem fun ho ho' hlt => .inr ⟨?_, hlt⟩
        rw [htook.own _ ho, htook.own _ ho']
      · intro o ho o' ho'
        obtain ⟨u, hu, ho'⟩ := List.mem_flatMap.1 ho'
        obtain ⟨k, hk⟩ := List.getElem?_of_mem hu
        left
        rw [htook.own o ho, hin.own k u hk o' ho', hfile]
        omega
    · intro u hu
      rcases List.mem_cons.1 hu with rfl | hu
      · exact htook.refused
      · exact hin.refused u hu
    · intro earlier u later hsplit hhalts
      rcases List.cons_eq_append_iff.1 hsplit with ⟨rfl, hcons⟩ | ⟨earlier', rfl, rfl⟩
      · obtain ⟨rfl, rfl⟩ := List.cons.inj hcons
        exact hrest.silent (htook.halts hhalts)
      · exact hin.halted earlier' u later rfl hhalts
    · intro earlier u later hsplit hoffers
      rcases List.cons_eq_append_iff.1 hsplit with ⟨rfl, hcons⟩ | ⟨earlier', rfl, rfl⟩
      · obtain ⟨rfl, rfl⟩ := List.cons.inj hcons
        refine htook.passed ?_
        rw [← Bool.not_eq_true]
        exact fun hhalted => hoffers (hrest.silent hhalted)
      · exact hin.passed earlier' u later rfl hoffers

end taken

theorem taken_ofRun (watch : Watcher) (sink : Sink) (useIdentity : Bool) (hchunk : 0 < watch.config.chunkSize)
    (r : Resolution) (hinside : ∀ f ∈ r.rotatedAway ++ r.files, f.tail.length ≤ f.processed) (c : Cycle) :
    Taken watch (r.rotatedAway ++ r.files) c (ofRun watch sink useIdentity r c)
      (Cycle.run watch sink useIdentity r c) := by
  have hdrains := taken_ofSteps id r.rotatedAway (fun c f hf => took_drain watch sink useIdentity hchunk c
    (hinside f (List.mem_append_left _ hf))) c
  have hvisits := taken_ofSteps (·.1) r.files.zipIdx (fun c x hx => took_visit watch sink useIdentity
    (r.files.length - 1) hchunk c (hinside x.1 (List.mem_append_right _
      (List.mem_of_getElem? (List.mem_zipIdx_iff_getElem?.1 hx)))))
    (r.rotatedAway.foldl (Cycle.drain watch sink useIdentity) c)
  rw [List.map_id] at hdrains
  rw [List.zipIdx_map_fst] at hvisits
  exact hdrains.append hvisits

end Turn

/-- **The offers of a cycle are in order**, whatever others do to the disk in the middle of it and whatever the
receiver answers. Of the tracked files only that their tails lie before their offsets is needed. -/
theorem Watcher.offers_in_order {config : WatchConfig} {watch : Watcher} {sink : Sink} {time : CycleTime}
    {state : WatchState} {w : World} {result : CycleResult} (hconfig : Watcher.ofConfig config = .ok watch)
    (hunit : config.encoding.unit ≤ config.maxRecordSize)
    (hinside : ∀ f ∈ state.files, f.tail.length ≤ f.processed)
    (hprocess : watch.process sink time state w = .ok result) :
    result.offers = (watch.turns sink time state w).flatMap Turn.offers ∧
      Turn.InOrder config.maxRetries 0 (watch.turns sink time state w) := by
  obtain ⟨rfl, hbounded, _⟩ := ofConfig_ok hconfig
  obtain ⟨scan, w', c, hscan, hran⟩ := of_process hprocess
  have hturns : watch.turns sink time state w = Turn.ofRun watch sink state.useIdentity
      (watch.resolution state scan.candidates) { tracker := watch.opening time, world := w' } := by
    rw [turns, hscan]
  have htaken := Turn.taken_ofRun watch sink state.useIdentity hbounded.chunk_pos
    (watch.resolution state scan.candidates)
    (Resolution.resolve_inside watch.config.rotation watch.config.encoding scan.candidates hinside)
    { tracker := watch.opening time, world := w' }
  rw [← hturns, ← hran.run] at htaken
  refine ⟨?_, htaken.inOrder hunit fun k f hf => ?_⟩
  · rw [hran.offers, htaken.offers, List.reverse_append, List.reverse_reverse]
    rfl
  · rw [Nat.zero_add]
    exact Resolution.seq_eq k f hf

/-! ## Two files, of which the second changes when the first is refused -/

/-- A disk with files in the directory `log`, each changed a second after the one before it. -/
def logDisk (files : List (Bytes × Bytes)) : Disk :=
  { nodes := (0, ⟨[], ⟨0, 0⟩, true⟩) :: (1, ⟨[], ⟨0, 0⟩, true⟩) ::
      files.zipIdx.map fun f => (f.2 + 2, ⟨f.1.2, ⟨f.2, 0⟩, false⟩)
    entries := ([[0x6c, 0x6f, 0x67]], .directory 1) ::
      files.zipIdx.map fun f => ([[0x6c, 0x6f, 0x67], f.1.1], .file (f.2 + 2))
    nextNumber := files.length + 2
    here := [] }

theorem logDisk_proper {files : List (Bytes × Bytes)} (hnodup : (files.map (·.1)).Nodup)
    (hnames : ∀ f ∈ files, Path.ProperName f.1) : (logDisk files).Proper where
  places := by
    have hplaces : (logDisk files).entries.map (·.1) =
        [[0x6c, 0x6f, 0x67]] :: (files.map (·.1)).map fun name => [[0x6c, 0x6f, 0x67], name] := by
      rw [logDisk, List.map_cons, List.map_map, List.map_map]
      conv_rhs => rw [← List.zipIdx_map_fst 0 files, List.map_map]
      rfl
    rw [hplaces, List.nodup_cons]
    refine ⟨by simp, hnodup.map fun name name' h => ?_⟩
    simpa using h
  names := by
    intro e he name hname
    rw [logDisk, List.mem_cons, List.mem_map] at he
    rcases he with rfl | ⟨⟨f, i⟩, hf, rfl⟩
    · obtain rfl : [0x6c, 0x6f, 0x67] = name := by simpa using hname
      exact ⟨by decide, by decide, by decide, by decide⟩
    · obtain rfl : f.1 = name := by simpa using hname
      exact hnames f (List.mem_of_getElem? (List.mem_zipIdx_iff_getElem?.1 hf))

theorem exists_of_mem_logDisk {files : List (Bytes × Bytes)} {e : Disk.Place × Disk.Entry}
    (he : e ∈ (logDisk files).entries) :
    e = ([[0x6c, 0x6f, 0x67]], .directory 1) ∨
      ∃ f ∈ files, ∃ number < files.length + 2, e = ([[0x6c, 0x6f, 0x67], f.1], .file number) := by
  rw [logDisk, List.mem_cons, List.mem_map] at he
  refine he.imp_right ?_
  rintro ⟨⟨f, i⟩, hf, rfl⟩
  have hi := List.mem_zipIdx_iff_getElem?.1 hf
  have hlt := (List.getElem?_eq_some_iff.1 hi).1
  exact ⟨f, List.mem_of_getElem? hi, i + 2, by dsimp only at hlt; omega, rfl⟩

theorem logDisk_tree (files : List (Bytes × Bytes)) : (logDisk files).Tree where
  parents e he := by
    rcases exists_of_mem_logDisk he with rfl | ⟨f, -, number, -, rfl⟩
    · exact ⟨by simp, ⟨0, rfl⟩⟩
    · exact ⟨by simp, ⟨1, rfl⟩⟩
  numbers e he number hnumber := by
    rcases exists_of_mem_logDisk he with rfl | ⟨f, -, n, hn, rfl⟩
    · rcases hnumber with hnumber | hnumber <;> cases hnumber
      exact Nat.lt_add_left _ Nat.one_lt_two
    · rcases hnumber with hnumber | hnumber <;> cases hnumber
      exact hn
  root := Nat.lt_add_left _ Nat.zero_lt_two
  here := ⟨0, rfl⟩

/-- A watch on the files of the directory `log` whose names match an expression. -/
def logConfig (name : String) (maxSent maxRetries : Nat) : WatchConfig :=
  { pattern := "/log/" ++ name, maxSent := maxSent, maxProcessed := maxSent, maxRetries := maxRetries }

def logWatch (name : String) (maxSent maxRetries : Nat) (h : (Pattern.compile? name).isSome = true) : Watcher :=
  ⟨logConfig name maxSent maxRetries, ⟨.rotated (.ofText "/log") ((Pattern.compile? name).get h), 512⟩,
    ⟨[], [], none⟩⟩

theorem ok_of_any {ε α : Type} {x : Except ε α} {p : α → Bool} (h : x.toOption.any p = true) :
    ∃ a, x = .ok a ∧ p a = true := by
  cases x with
  | error e => cases h
  | ok a => exact ⟨a, rfl, h⟩

/-- A file that rotated away is refused too often at its second record; what the file of the scan holds by then
is offered. -/
theorem Watcher.offers_in_order_refused :
    let watch := logWatch "a" 100 0 rfl
    let sink : Sink := fun _ delivery => delivery.value ≠ "q"
    let before := logDisk [([0x62], [0x70, 0x0a, 0x71, 0x0a]), ([0x61], [0x72, 0x0a])]
    let after := logDisk [([0x62], [0x70, 0x0a, 0x71, 0x0a]), ([0x61], [0x73, 0x0a])]
    let w : World := ⟨before, 0, fun m d => if m = .offer 1 then after else d, fun _ => none⟩
    let state : WatchState := { useIdentity := true, files :=
      [⟨.ofText "/log/b", 0, .ofNumber 2, 0, 0, .of [], 0, 0, false, [], false, none⟩] }
    ∃ result, watch.process sink {} state w = .ok result ∧
      result.offers.map (fun o => (o.delivery.seq, o.delivery.stop, o.delivery.value, o.accepted)) =
        [(0, 2, "p", true), (0, 4, "q", false), (1, 2, "s", true)] ∧
      result.offers = (watch.turns sink {} state w).flatMap Turn.offers ∧
      Turn.InOrder 0 0 (watch.turns sink {} state w) := by
  intro watch sink before after w state
  obtain ⟨result, hprocess, hoffers⟩ := ok_of_any (x := watch.process sink {} state w)
    (p := fun result => decide (result.offers.map (fun o =>
      (o.delivery.seq, o.delivery.stop, o.delivery.value, o.accepted)) =
        [(0, 2, "p", true), (0, 4, "q", false), (1, 2, "s", true)])) (by decide +kernel)
  have hconfig : Watcher.ofConfig (logConfig "a" 100 0) = .ok watch := rfl
  exact ⟨result, hprocess, of_decide_eq_true hoffers,
    offers_in_order hconfig (by decide) (by simp [state]) hprocess⟩

end LogTail
