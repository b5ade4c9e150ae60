import LogTail.Proofs.Dealing
import LogTail.Proofs.Events
import LogTail.Proofs.Fixpoint
import LogTail.Proofs.Ledger

/-!
# Records that are refused

A record that is refused is offered again first (`Watcher.refused_again`). A file at which a cycle was refused a
record that has an end, or was cut, goes on to the next cycle in front of that record: with the tail that it was
resolved with if the record begins in that tail, else with none. If the next cycle finds it grown at most, and gets
to it, its first offer of the file is the same record.

* `Watcher.RefusedIn`: the record of a reading that was refused; all refusals but those of last records are of that
  kind (`Watcher.refusedIn_or_flushed`).
* `Watcher.Reads.first_offer`: the first offer of a file is what the filter leaves of the record that comes next.
-/

namespace LogTail

/-- A file that is found under a path grows into a content from then on. -/
def World.GrowsAt (w : World) (path : Path) (content : Bytes) : Prop :=
  ∀ w₁ n, w.Later w₁ → w₁.disk.numberOf path = .ok n → w₁.GrowsInto n content

theorem World.Still.growsAt {d : Disk} {w : World} {path : Path} {content : Bytes} (hw : w.Still d)
    (hcontent : d.bytesAt path <+: content) : w.GrowsAt path content := by
  intro w₁ n hlater hn w₂ hlater₂ hfile
  have hw₁ := hlater.still hw
  rw [hw₁.disk] at hn
  rw [(hlater₂.still hw₁).disk] at hfile ⊢
  simpa [Disk.bytesAt, hn, hfile] using hcontent

namespace Watcher

section reading
variable {watch : Watcher} {sink : Sink} {useIdentity finished : Bool} {before after : Reading} {record : Record}

/-! ## One reading -/

/-- A reading came to a record that has an end or was cut, and the receiver refused it. -/
def RefusedIn (watch : Watcher) (sink : Sink) (useIdentity : Bool) (before : Reading) (record : Record)
    (after : Reading) : Prop :=
  ∃ number w s r, before.world.look (fun d => d.numberOf before.file.path) = (.ok number, w) ∧
    Relation.ReflTransGen (watch.Takes sink)
      ({ before.tested with world := w }, .ofFile (readerOptions watch.config useIdentity) before.file number) (s, r) ∧
    watch.Refuses sink s r record after

/-- A refusal that is not of such a record is of the last one of a file to which nothing will be added. -/
theorem refusedIn_or_flushed (hchunk : 0 < watch.config.chunkSize)
    (hinside : before.file.tail.length ≤ before.file.processed)
    (hread : watch.readFile sink useIdentity finished before = (.rejected, after)) :
    (∃ record, watch.RefusedIn sink useIdentity before record after) ∨
      finished = true ∧ ∃ s r, watch.flush sink s r = (.rejected, after) := by
  have hcourse := watch.readFile_course sink useIdentity finished hchunk hinside
  rw [hread] at hcourse
  generalize hresult : ((.rejected, after) : FileOutcome × Reading) = result at hcourse
  cases hcourse with
  | idle | spent | unopened => cases hresult
  | @opened number w s r _ hfound htrace hstops =>
    cases hstops with
    | spent | failed | ended => cases hresult
    | @flushed r' w' hfinishes => exact .inr ⟨hfinishes, _, r', rfl⟩
    | @refused record s' hrefuses =>
      cases hresult
      exact .inl ⟨record, number, w, s, r, hfound, htrace, hrefuses⟩

/-- How a file goes on after a refusal behind other offers of it: it stands in front of the record. The refusal is the
first one after an offer that was accepted, and else one more, as long as the counter has room for it. -/
structure Withheld (f : LogFile) (record : Record) (front : List Offer) (saved : LogFile) : Prop where
  start : saved.tailStart = record.start
  skipping : saved.skipping = false
  tail : saved.tail = if record.start < f.processed then f.tail else []
  first : front ≠ [] → saved.retry = 1
  next : front = [] → f.retry < LogFile.retryMax → saved.retry = f.retry + 1

section sound
variable (h : watch.RefusedIn sink useIdentity before record after) (hchunk : 0 < watch.config.chunkSize)
  (hmax : watch.config.chunkSize ≤ watch.config.maxRecordSize) (hsound : before.file.Sound watch.splitter)
include h hchunk hmax hsound

theorem RefusedIn.withheld :
    ∃ front o, after.tracker.offers = (front ++ [o]).reverse ++ before.tracker.offers ∧
      (∀ o ∈ front, o.accepted = true) ∧ o.accepted = false ∧ o.delivery.stop = record.stop ∧
      watch.value? record = some o.delivery.value ∧ Withheld before.file record front after.file := by
  obtain ⟨number, w, s, r, -, htrace, hrefuses⟩ := h
  have halong := (along_ofFile useIdentity hchunk hmax hsound number w).traced hsound htrace
  obtain ⟨r', w', value, w₁, hnext, hvalue, rfl⟩ := hrefuses.after_eq
  obtain ⟨_, -, -, -, -, hstep⟩ := Reader.next_step halong.within hnext
  obtain ⟨hstart, -, -, hreads⟩ := hstep.record
  obtain ⟨front, hfront, haccepted, hretry⟩ := halong.accepted
  refine ⟨front, ⟨s.tracker.delivery s.file value record.stop, false⟩, ?_, haccepted, rfl, rfl, hvalue, ?_, ?_, ?_,
    fun hsome => ?_, fun hnone _ => ?_⟩
  · show _ :: s.tracker.offers = _
    rw [hfront, List.reverse_append]
    rfl
  · exact (halong.poised.tailStart (.inl hreads)).trans hstart.symm
  · exact halong.poised.skips.trans hreads
  · rw [show record.start = r.start from hstart]
    exact halong.poised.tail hsound.inside hreads
  · show s.file.retry + 1 = _
    rw [hretry, if_neg hsome]
  · show s.file.retry + 1 = _
    rw [hretry, if_pos hnone]
    rfl

/-- From there the same record comes next in what the file grows into. -/
theorem RefusedIn.step {content : Bytes} (hgrows : before.world.GrowsAt before.file.path content) :
    ∃ c, watch.splitter.Step false (after.file.cursor content content.length) (some record) c := by
  obtain ⟨number, w, s, r, hfound, htrace, hrefuses⟩ := h
  have halong := (along_ofFile useIdentity hchunk hmax hsound number w).traced hsound htrace
  obtain ⟨r', w', value, w₁, hnext, -, rfl⟩ := hrefuses.after_eq
  have hdisk : before.world.others (.call before.world.calls) before.world.disk = w.disk :=
    congrArg (fun answer => answer.2.disk) hfound
  have hinto : w.GrowsInto number content :=
    hgrows w number (World.later_look hfound) (hdisk ▸ World.look_ok hfound)
  have hstep := Reader.next_ahead halong.within hnext (halong.opened ▸ hinto.later halong.later)
  rw [halong.splits] at hstep
  have hreads : r.skipping = false := hstep.record.2.2.2
  refine ⟨r'.ahead content, ?_⟩
  show watch.splitter.Step false (s.file.cursor content content.length) _ _
  rw [halong.cursor hsound hreads hinto]
  exact hstep

end sound

/-! ## The next reading -/

theorem Reads.exists_offers {d : Disk} {content : Bytes} {c : Cursor} {s s' : Reading} {outcome : FileOutcome}
    (h : watch.Reads sink d content finished c s (outcome, s')) :
    ∃ more, s'.tracker.offers = more ++ s.tracker.offers := by
  cases h with
  | ended _ htook => exact ⟨_, htook.accounts.offers⟩
  | budget htook => exact ⟨_, htook.accounts.offers⟩
  | rejected htook => exact ⟨_ :: _, congrArg (_ :: ·) htook.accounts.offers⟩

section first
variable {d : Disk} {content : Bytes} {s : Reading} {r : Reader} {c : Cursor} {value : String}
  (hvalue : watch.value? record = some value)
include hvalue

theorem readEvents_first_offer (fuel : Nat) (ho : r.options.splitter = watch.splitter)
    (hfile : r.Covered d content) (hr : r.Fits) (hw : s.world.Still d) (hskip : s.file.skipping = r.skipping)
    (hfuel : (r.cursor content).weight < fuel) (hroom : ¬ s.tracker.budget.exhausted = true)
    (hstep : watch.splitter.Step false (r.cursor content) (some record) c) :
    ∃ o rest, (watch.readEvents sink finished fuel s r).2.tracker.offers = (o :: rest).reverse ++ s.tracker.offers ∧
      o.delivery.value = value ∧ o.delivery.stop = record.stop := by
  obtain ⟨fuel, rfl⟩ := Nat.exists_eq_succ_of_ne_zero (Nat.ne_of_gt (Nat.zero_lt_of_lt hfuel))
  obtain ⟨event?, r', w', hnext, hw', hr', hsame, hanswer⟩ := Reader.next_spec hfile hw hr
  have hrecords := (Splitter.Leads.single hstep).records_eq
  cases hanswer with
  | ended _ _ hlast =>
    rw [ho] at hlast
    have hnone : watch.splitter.records false (r.cursor content) = [] := congrArg Prod.fst (Splitter.split_none hlast)
    rw [hnone] at hrecords
    cases hrecords
  | @event event _ hevent _ hskips =>
  rw [ho] at hevent
  have hlt := hevent.weight_lt
  rcases event with ⟨start, stop, bytes, truncated⟩ | ⟨stop, ended⟩
  swap
  · -- nothing is skipped where a record comes next
    cases hevent.skipping_of_none.symm.trans hstep.record.2.2.2
  have hsame' := hrecords.symm.trans (Splitter.Leads.single hevent).records_eq
  obtain rfl : record = ⟨start, stop, bytes, truncated⟩ := (List.cons.inj hsame').1
  rw [readEvents, if_neg hroom, hnext]
  rcases consume_spec (s := { s.tested with world := w' }) watch sink hw' ⟨start, stop, bytes, truncated⟩ with
    ⟨s₁, hconsume, hw₁, haccounts, hfile₁⟩ | ⟨value', w₁, hconsume, -, hvalue', -⟩
  · simp only [hconsume]
    rw [mark_truncated (s := { s.tested with world := w' }) truncated (hskip.trans hevent.record.2.2.2) hfile₁]
    obtain ⟨more, hmore⟩ := (readEvents_spec watch sink finished fuel (hsame.options ▸ ho) (hfile.same hsame) hr'
      (s := { s₁ with file := { s.file.passed stop truncated with
        retry := if [(⟨start, stop, bytes, truncated⟩ : Record)].filterMap watch.value? = []
          then s.file.retry else 0 } }) hw₁ hskips (by omega)).exists_offers
    rw [haccounts.offers, offersOf_singleton, hvalue] at hmore
    exact ⟨⟨s.tested.tracker.delivery s.file value stop, true⟩, more.reverse, by simpa using hmore, rfl, rfl⟩
  · simp only [hconsume]
    obtain rfl : value' = value := Option.some.inj (hvalue'.symm.trans hvalue)
    exact ⟨⟨s.tested.tracker.delivery s.file value' stop, false⟩, [], rfl, rfl, rfl⟩

/-- **The first offer of a file is what the filter leaves of the record that comes next**, if the budget is not spent
at the tests before it. -/
theorem readFile_first_offer (sink : Sink) (finished : Bool) (hchunk : 0 < watch.config.chunkSize)
    (hmax : watch.config.chunkSize ≤ watch.config.maxRecordSize) (hw : s.world.Still d)
    (hopens : s.file.Readable d useIdentity content) (hsound : s.file.Sound watch.splitter)
    (hroom : ¬ s.tracker.budget.exhausted = true) (hroom' : ¬ s.tested.tracker.budget.exhausted = true)
    (hstep : watch.splitter.Step false (s.file.cursor content s.file.size) (some record) c) :
    ∃ o rest, (watch.readFile sink useIdentity finished s).2.tracker.offers =
        (o :: rest).reverse ++ s.tracker.offers ∧
      o.delivery.value = value ∧ o.delivery.stop = record.stop := by
  have hbusy : ¬ (s.file.unread = 0 && !(finished && s.file.hasFinalTail)) = true := by
    intro hidle
    have hread : s.file.unread = 0 := of_decide_eq_true (Bool.and_eq_true_iff.1 hidle).1
    have hrecords := (Splitter.Leads.single hstep).records_eq
    rw [Splitter.records, Splitter.split_none (next?_of_unread content hsound hread).2] at hrecords
    cases hrecords
  obtain ⟨number, w', hopen, hw', hfile⟩ := hopens.openFile (o := readerOptions watch.config useIdentity) hw
  have hfits := hsound.fits (o := readerOptions watch.config useIdentity) hchunk hmax number
  have hweight := Reader.weight_lt_eventBound content hfits
  rw [readFile, if_neg hbusy, if_neg hroom, hopen]
  exact readEvents_first_offer (s := { s.tested with world := w' }) hvalue _ rfl hfile hfits hw' rfl (by omega)
    hroom' hstep

end first

end reading

/-! ## Cycles -/

theorem getElem?_countP_filter {α : Type} {p : α → Bool} {l : List α} {k : Nat} {a : α} (ha : l[k]? = some a)
    (hp : p a = true) : (l.filter p)[(l.take k).countP p]? = some a := by
  obtain ⟨hlt, rfl⟩ := List.getElem?_eq_some_iff.1 ha
  have hfilter : l.filter p = (l.take k).filter p ++ l[k] :: (l.drop (k + 1)).filter p := by
    rw [← List.filter_cons_of_pos hp, ← List.filter_append, List.cons_getElem_drop_succ, List.take_append_drop]
  rw [hfilter, List.countP_eq_length_filter, List.getElem?_append_right (Nat.le_refl _), Nat.sub_self,
    List.getElem?_cons_zero]

section cycles
variable {watch : Watcher} {sink : Sink} {time : CycleTime} {state : WatchState} {w : World} {result : CycleResult}
  {e : Entry}

/-- A cycle over a disk that stays as it is finds the tracked file of a place unchanged, and gets to it before its
budget is spent: it is not at the test before the file is opened, nor at the one before its first event. -/
structure Revisits (watch : Watcher) (sink : Sink) (time : CycleTime) (state : WatchState) (d : Disk) (w : World)
    (i : Nat) (e : Entry) : Prop where
  still : w.Still d
  mem : e ∈ watch.entries sink time state w
  scanned : e.scanned = true
  unchanged : ∃ candidates j, watch.matcher.found d = .ok candidates ∧
    Resolution.Continues watch.config.rotation state candidates i j ∧
    (watch.resolution state candidates).files[j]? = some e.resolved ∧
    (watch.resolution state candidates).transitions[j]? = some .unchanged
  reached : ∃ finished outcome before after, e.turn = .read finished outcome before after ∧
    before.tracker.budget.exhausted = false ∧ before.tested.tracker.budget.exhausted = false

theorem exists_turn {d : Disk} (hchunk : 0 < watch.config.chunkSize)
    (hmax : watch.config.chunkSize ≤ watch.config.maxRecordSize)
    (hfiles : ∀ f ∈ state.files, f.Tidy watch.splitter ∧ f.processed ≤ f.size) (hw : w.Still d)
    (he : e ∈ watch.entries sink time state w) :
    ∃ candidates c, watch.matcher.found d = .ok candidates ∧ c.world.Still d ∧
      ((e.scanned = false ∧ e.resolved ∈ (watch.resolution state candidates).rotatedAway ∧
          e.turn = Turn.ofDrain watch sink state.useIdentity c e.resolved) ∨
        ∃ j, e.scanned = true ∧ (watch.resolution state candidates).files[j]? = some e.resolved ∧
          e.turn = Turn.ofVisit watch sink state.useIdentity
            ((watch.resolution state candidates).files.length - 1) c (e.resolved, j)) := by
  rcases hscan : watch.matcher.scan w with ⟨_ | scan, w₁⟩
  · rw [entries, hscan] at he
    cases he
  rw [entries, hscan] at he
  obtain ⟨hfound, hw₁⟩ := found_of_scan hw hscan
  have htidy := tidy_of_resolution hchunk hmax hfiles scan.candidates
  obtain ⟨c, hc, hturn⟩ := Entry.exists_of_mem_ofRun (P := fun c => c.world.Still d)
    (fun c f hf hc => by
      obtain ⟨_, hdealt⟩ := Cycle.dealt_drain sink state.useIdentity hchunk hc
        (htidy f (List.mem_append_left _ hf)).1.inside
      exact hdealt.still hc)
    (fun c x hx hc => by
      have hx : x.1 ∈ (watch.resolution state scan.candidates).files :=
        List.mem_of_getElem? (List.mem_zipIdx_iff_getElem?.1 hx)
      obtain ⟨htidy, hwithin⟩ := htidy x.1 (List.mem_append_right _ hx)
      obtain ⟨_, hdealt⟩ := Cycle.dealt_visit sink state.useIdentity
        ((watch.resolution state scan.candidates).files.length - 1) hchunk hc htidy.inside hwithin
        (sizeAt_of_mem_files hfound hx)
      exact hdealt.still hc)
    hw₁ he
  exact ⟨scan.candidates, c, hfound, hc, hturn⟩

section entries
variable {finished : Bool} {outcome : FileOutcome} {before after : Reading} (hchunk : 0 < watch.config.chunkSize)
  (hmax : watch.config.chunkSize ≤ watch.config.maxRecordSize)
  (hfiles : ∀ f ∈ state.files, f.Tidy watch.splitter ∧ f.processed ≤ f.size)
  (he : e ∈ watch.entries sink time state w) (hturn : e.turn = .read finished outcome before after)
include hchunk hmax hfiles he hturn

theorem tidy_of_read : watch.readFile sink state.useIdentity finished before = (outcome, after) ∧
    before.file.Tidy watch.splitter ∧ ∃ size, before.file = { e.resolved with size := size } := by
  rcases hscan : watch.matcher.scan w with ⟨_ | scan, w₁⟩
  · rw [entries, hscan] at he
    cases he
  rw [entries, hscan] at he
  obtain ⟨hread, size, hbefore, -⟩ := Entry.exists_of_read he hturn
  have hfile := List.mem_map_of_mem (f := Entry.resolved) he
  rw [Entry.resolved_ofRun] at hfile
  exact ⟨hread, hbefore ▸ (tidy_of_resolution hchunk hmax hfiles _ _ hfile).1.congr rfl rfl rfl rfl, size, hbefore⟩

theorem still_of_read {d : Disk} (hw : w.Still d) (hscanned : e.scanned = true) :
    before.world.Still d ∧ before.file = e.resolved ∧ ∃ candidates, watch.matcher.found d = .ok candidates ∧
      e.resolved ∈ (watch.resolution state candidates).files := by
  obtain ⟨candidates, c, hfound, hc, ⟨haway, -⟩ | ⟨j, -, hj, hvisit⟩⟩ := exists_turn hchunk hmax hfiles hw he
  · rw [haway] at hscanned
    cases hscanned
  · obtain ⟨rfl, -, -⟩ := Turn.read_ofVisit (hvisit.symm.trans hturn)
    exact ⟨hc, rfl, candidates, hfound, List.mem_of_getElem? hj⟩

end entries

/-- A file that is reached is read from where it stood, and what comes next there is offered first. -/
theorem Revisits.first_offer {d : Disk} {i : Nat} {saved : LogFile} (h : watch.Revisits sink time state d w i e)
    (hchunk : 0 < watch.config.chunkSize) (hmax : watch.config.chunkSize ≤ watch.config.maxRecordSize)
    (hfiles : ∀ f ∈ state.files, f.Tidy watch.splitter ∧ f.processed ≤ f.size)
    (hsaved : state.files[i]? = some saved) {record : Record} {c : Cursor}
    (hstep : watch.splitter.Step false
      (saved.cursor (d.bytesAt e.resolved.path) (d.bytesAt e.resolved.path).length) (some record) c)
    {value : String} (hvalue : watch.value? record = some value) :
    ∃ o rest, e.turn.offers = o :: rest ∧ o.delivery.value = value ∧ o.delivery.stop = record.stop := by
  obtain ⟨finished, outcome, before, after, hturn, hroom, hroom'⟩ := h.reached
  obtain ⟨candidates, j, hfound, ⟨l, hl, rfl, rfl⟩, hfile, htransition⟩ := h.unchanged
  have hresolved := List.mem_of_getElem? hfile
  have hopens := opens_of_mem_files hfound hresolved state.useIdentity
  have hsize : e.resolved.size = (d.bytesAt e.resolved.path).length := by
    obtain ⟨n, hn, hcontent, -⟩ := hopens
    rw [sizeAt_of_mem_files hfound hresolved, Disk.sizeAt_of_numberOf hn, hcontent.size]
  -- the file goes on where it stood
  have hcursor : e.resolved.cursor (d.bytesAt e.resolved.path) e.resolved.size =
      saved.cursor (d.bytesAt e.resolved.path) (d.bytesAt e.resolved.path).length := by
    obtain ⟨old, c, hold, -, hcontinued, ht⟩ :=
      Resolution.exists_of_mem_chosen watch.config.encoding hl
    obtain rfl : old = saved := Option.some.inj (hold.symm.trans hsaved)
    have huncut : l.truncated = false := by
      rcases hcut : l.truncated with _ | _
      · rfl
      · rw [hcut] at ht
        cases ht.symm.trans htransition
    have heq := Option.some.inj (hfile.symm.trans hcontinued)
    rw [huncut] at heq
    rw [hsize, LogFile.cursor_length, LogFile.cursor_length]
    generalize d.bytesAt e.resolved.path = content
    rw [heq]
    rfl
  obtain ⟨hread, htidy, -⟩ := tidy_of_read hchunk hmax hfiles h.mem hturn
  obtain ⟨hstill, hbefore, -⟩ := still_of_read hchunk hmax hfiles h.mem hturn h.still h.scanned
  obtain ⟨o, rest, hoffers, hofValue, hstop⟩ := readFile_first_offer hvalue sink finished hchunk hmax hstill
    (hbefore ▸ hopens.readable) htidy.toSound (by simp [hroom]) (by simp [hroom']) (by rw [hbefore, hcursor]; exact hstep)
  rw [hread] at hoffers
  refine ⟨o, rest, ?_, hofValue, hstop⟩
  rw [hturn]
  exact Turn.offers_of_offered hoffers

/-- **A refused record is offered again first.** A file at which a cycle was refused a record that has an end, or
was cut, stands in front of it in the next state, if it goes on. When the next cycle finds the file unchanged, grown
at most, and gets to it, its first offer of the file is that record. -/
theorem refused_again {config : WatchConfig} (hconfig : Watcher.ofConfig config = .ok watch)
    (hvalid : ∀ (i : Nat) (f : LogFile), state.files[i]? = some f → f.Valid config i)
    (hprocess : watch.process sink time state w = .ok result) {k : Nat}
    (hentry : (watch.entries sink time state w)[k]? = some e) {finished : Bool} {before after : Reading}
    (hturn : e.turn = .read finished .rejected before after) {record : Record}
    (hrefused : watch.RefusedIn sink state.useIdentity before record after)
    (hstays : e.goesOn config.maxRetries = true) :
    ∃ i saved front o, i = ((watch.entries sink time state w).take k).countP (·.goesOn config.maxRetries) ∧
      result.state.files[i]? = some saved ∧ saved.path = e.resolved.path ∧
      e.turn.offers = front ++ [o] ∧ (∀ o ∈ front, o.accepted = true) ∧ o.accepted = false ∧
      o.delivery.stop = record.stop ∧ Withheld e.resolved record front saved ∧
      ∀ (sink' : Sink) (time' : CycleTime) (d' : Disk) (w' : World) (e' : Entry),
        watch.Revisits sink' time' result.state d' w' i e' →
        before.world.GrowsAt e.resolved.path (d'.bytesAt e'.resolved.path) →
        ∃ o' rest, e'.turn.offers = o' :: rest ∧ o'.delivery.value = o.delivery.value ∧
          o'.delivery.stop = o.delivery.stop := by
  obtain ⟨rfl, hbounded, -⟩ := ofConfig_ok hconfig
  have hchunk := hbounded.chunk_pos
  have hmax := hbounded.chunk_le
  have hfiles : ∀ f ∈ state.files, f.Tidy watch.splitter ∧ f.processed ≤ f.size := LogFile.tidy_of_valid hvalid
  -- the file as it was resolved, and as it was read
  have hkept := files_of_process hprocess
  obtain ⟨hread, htidy, size, hbefore⟩ := tidy_of_read hchunk hmax hfiles (List.mem_of_getElem? hentry) hturn
  have hsame := (watch.readFile_onward hchunk hmax sink state.useIdentity finished htidy).1
  rw [hread] at hsame
  obtain ⟨front, o, hoffers, haccepted, hlast, hstop, hvalue, hwithheld⟩ :=
    hrefused.withheld hchunk hmax htidy.toSound
  -- and as it goes on
  have hfinal : e.final = after.file := by rw [Entry.final, hturn]
  have hsaved : result.state.files[((watch.entries sink time state w).take k).countP
      (·.goesOn watch.config.maxRetries)]? = some { after.file with
        seq := ((watch.entries sink time state w).take k).countP (·.goesOn watch.config.maxRetries)
        copyOf := none } := by
    rw [hkept, Resolution.getElem?_renumber, List.getElem?_map, getElem?_countP_filter hentry hstays]
    simp [hfinal]
  refine ⟨_, _, front, o, rfl, hsaved, ?_, ?_, haccepted, hlast, hstop, ?_, ?_⟩
  · exact hsame.path.trans (by rw [hbefore])
  · rw [hturn]
    exact Turn.offers_of_offered hoffers
  · rw [hbefore] at hwithheld
    exact ⟨hwithheld.start, hwithheld.skipping, hwithheld.tail, hwithheld.first, hwithheld.next⟩
  · intro sink' time' d' w' e' hrevisits hgrows
    obtain ⟨c, hstep⟩ := hrefused.step hchunk hmax htidy.toSound
      (show before.world.GrowsAt before.file.path _ by rw [hbefore]; exact hgrows)
    obtain ⟨o', rest, hoffers, hvalue', hstop'⟩ :=
      hrevisits.first_offer hchunk hmax (tidy_of_process hchunk hmax hfiles hprocess) hsaved hstep hvalue
    exact ⟨o', rest, hoffers, hvalue', hstop'.trans hstop.symm⟩

end cycles

/-- The record that is refused begins in the saved tail; the next cycle finds the file with one record more. -/
theorem refused_again_joined :
    let watch := logWatch "a" 100 5 rfl
    let sink : Sink := fun _ delivery => delivery.value ≠ "pq"
    let d := logDisk [([0x61], [0x70, 0x71, 0x0a, 0x72, 0x0a])]
    let d' := logDisk [([0x61], [0x70, 0x71, 0x0a, 0x72, 0x0a, 0x73, 0x0a])]
    let state : WatchState := { useIdentity := true, files :=
      [⟨.ofText "/log/a", 0, .ofNumber 2, 1, 1, .of [0x70], 0, 2, true, [0x70], false, none⟩] }
    ∃ result saved e', watch.process sink {} state (.quiet d) = .ok result ∧ result.state.files[0]? = some saved ∧
      saved.tailStart = 0 ∧ saved.skipping = false ∧ saved.tail = [0x70] ∧ saved.retry = 3 ∧
      watch.Revisits .acceptAll {} result.state d' (.quiet d') 0 e' ∧
      ∃ o rest, e'.turn.offers = o :: rest ∧ o.delivery.value = "pq" ∧ o.delivery.stop = 3 := by
  intro watch sink d d' state
  let candidates : List Candidate :=
    [⟨.ofText "/log/a", 7, 0, .ofNumber 2, [0x70, 0x71, 0x0a, 0x72, 0x0a, 0x73, 0x0a]⟩]
  have hconfig : Watcher.ofConfig (logConfig "a" 100 5) = .ok watch := rfl
  have hvalid (i : Nat) (f : LogFile) (hf : state.files[i]? = some f) : f.Valid (logConfig "a" 100 5) i := by
    obtain ⟨rfl, rfl⟩ : i = 0 ∧ _ = f := by simpa [state, List.getElem?_singleton] using hf
    refine ⟨by decide, by decide, by decide, fun k => ?_, .inl (by decide), by decide, rfl, rfl⟩
    rcases k with _ | k
    · decide
    · show ([0x70].drop ((k + 1) * 1)).take 1 ≠ [0x0a]
      simp
  -- the first cycle is refused the record that begins in the tail
  obtain ⟨result, hprocess, hresult⟩ : ∃ result, watch.process sink {} state (.quiet d) = .ok result ∧
      (decide (result.state.files.map (fun f => (f.tailStart, f.skipping, f.tail, f.retry)) =
        [(0, false, [0x70], 3)]) &&
      (watch.entries .acceptAll {} result.state (.quiet d'))[0]?.any fun e' : Entry =>
        decide (e'.scanned = true ∧ e'.resolved.path = .ofText "/log/a" ∧
          (watch.resolution result.state candidates).files[0]? = some e'.resolved ∧
          (watch.resolution result.state candidates).transitions[0]? = some Transition.unchanged ∧
          ∃ l ∈ (Resolution.matching .rename result.state candidates).chosen, l.old = 0 ∧ l.cand = 0) &&
        e'.turn.read?.any fun r => !r.2.2.1.tracker.budget.exhausted && !r.2.2.1.tested.tracker.budget.exhausted) =
        true := ok_of_any (by decide +kernel)
  obtain ⟨e, hentry, hentered⟩ : ∃ e : Entry, (watch.entries sink {} state (.quiet d))[0]? = some e ∧
      (decide (e.scanned = true ∧ e.goesOn 5 = true ∧ e.resolved.path = .ofText "/log/a" ∧
        e.turn.offers.map (fun o => (o.delivery.value, o.delivery.stop)) = [("pq", 3)]) &&
      e.turn.read?.any fun r => !r.1 && decide (r.2.1 = .rejected)) = true :=
    (Option.any_eq_true ..).1 (by decide +kernel)
  simp only [Bool.and_eq_true, Bool.not_eq_true', decide_eq_true_eq, Option.any_eq_true] at hresult hentered
  obtain ⟨hsaved, e', hentry', ⟨hscanned', hpath', hfile, htransition, hcontinues⟩, ⟨finished', outcome', before',
    after'⟩, hread', hroom, hroom'⟩ := hresult
  obtain ⟨⟨hscanned, hstays, hpath, hoffers⟩, ⟨_, _, before, after⟩, hread, rfl, rfl⟩ := hentered
  have hturn := Turn.eq_of_read? hread
  have hturn' := Turn.eq_of_read? hread'
  -- so the theorem applies
  have hfiles : ∀ f ∈ state.files, f.Tidy watch.splitter ∧ f.processed ≤ f.size := LogFile.tidy_of_valid hvalid
  obtain ⟨hread, htidy, -⟩ := tidy_of_read (by decide) (by decide) hfiles (List.mem_of_getElem? hentry) hturn
  obtain ⟨record, hrefused⟩ :=
    (refusedIn_or_flushed (by decide) htidy.inside hread).resolve_right fun h => by cases h.1
  obtain ⟨_, saved, front, o, rfl, hget, -, hfront, -, -, -, -, hagain⟩ :=
    refused_again hconfig hvalid hprocess hentry hturn hrefused hstays
  have hfound : watch.matcher.found d' = .ok candidates := by
    obtain ⟨found, hfound, heq⟩ := ok_of_any (x := watch.matcher.found d')
      (p := fun found => decide (found = candidates)) (by decide +kernel)
    rwa [of_decide_eq_true heq] at hfound
  have hrevisits : watch.Revisits .acceptAll {} result.state d' (.quiet d') 0 e' :=
    ⟨World.still_quiet d', List.mem_of_getElem? hentry', hscanned',
      ⟨candidates, 0, hfound, hcontinues, hfile, htransition⟩, _, _, _, _, hturn', hroom, hroom'⟩
  obtain ⟨hstill, -⟩ := still_of_read (by decide) (by decide) hfiles (List.mem_of_getElem? hentry) hturn
    (World.still_quiet d) hscanned
  obtain ⟨o', rest, hoffers', hvalue, hstop⟩ := hagain .acceptAll {} d' (.quiet d') e' hrevisits
    (hstill.growsAt (by rw [hpath, hpath']; decide +kernel))
  -- the values are as computed
  rw [List.take_zero, List.countP_nil] at hget
  have hlast : some (o.delivery.value, o.delivery.stop) = some ("pq", 3) := by
    simpa [hfront] using congrArg List.getLast? hoffers
  have hfields : (result.state.files.map fun f => (f.tailStart, f.skipping, f.tail, f.retry))[0]? =
      some (0, false, [0x70], 3) := by rw [hsaved]; rfl
  rw [List.getElem?_map, hget, Option.map_some] at hfields
  simp only [Option.some.injEq, Prod.mk.injEq] at hlast hfields
  exact ⟨result, saved, e', hprocess, hget, hfields.1, hfields.2.1, hfields.2.2.1, hfields.2.2.2, hrevisits, o', rest,
    hoffers', hvalue.trans hlast.1, hstop.trans hlast.2⟩

end Watcher

end LogTail
