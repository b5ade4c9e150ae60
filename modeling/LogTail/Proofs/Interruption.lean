import LogTail.Cycle.ReadFile
import LogTail.Proofs.Loss

/-!
# Interrupted reading

A file may be read in one go or in passes that stop anywhere, each of which opens a reader where the last
one left the file, with a size that may have grown. The records are the same if and only if a cut ends
behind every tail (`resumable_iff`): then offset, tail and skip flag say all there is to say of a reader.

* `takeEvents` consumes a number of events as `Watcher.readEvents` does, without a receiver and a budget.
* Otherwise a cut inside a tail that was read before moves the offset too far, into the middle of a unit,
  and what follows is lost.
-/

namespace LogTail

namespace Interruption

def consumeEvent (s : Reading) : ReadEvent → Reading
  | .skipped stop finished => Watcher.skipTo s stop finished
  | .record _ stop _ truncated =>
    let (tracker, file) := s.tracker.advance s.file stop
    { s with tracker := tracker, file := if truncated then { file with skipping := true } else file }

/-- Consumes a number of events, or fewer if there are no more; then what is left is kept as tail. Gives
the records and whether there were no more. -/
def takeEvents : Nat → Reading → Reader → Except Cause (List Record × Reading × Bool)
  | 0, s, _ => .ok ([], s, false)
  | n + 1, s, r =>
    match r.next s.world with
    | (.error c, _, _) => .error c
    | (.ok none, r, w) => .ok ([], Watcher.keepTail { s with world := w } r, true)
    | (.ok (some event), r, w) =>
      (takeEvents n (consumeEvent { s with world := w } event) r).map fun (rs, s, ended) =>
        (event.record?.toList ++ rs, s, ended)

/-- One pass over a file: up to which size, and how many events are consumed; all of them if no number is
given. -/
structure Pass where
  limit : Nat
  events : Option Nat

def runPass (o : ReaderOptions) (s : Reading) (p : Pass) : Except Cause (List Record × Reading × Bool) :=
  let s := { s with file := { s.file with size := p.limit } }
  match Reader.openFile o s.file s.world with
  | (.error c, _) => .error c
  | (.ok r, w) => takeEvents (p.events.getD (r.eventBound + 1)) { s with world := w } r

def runPasses (o : ReaderOptions) : Reading → List Pass → Except Cause (List Record × Reading)
  | s, [] => .ok ([], s)
  | s, p :: passes =>
    match runPass o s p with
    | .error c => .error c
    | .ok (rs, s, _) => (runPasses o s passes).map fun (rs', s) => (rs ++ rs', s)

/-- Reading came from a tracked file to another state of it, with some records: the cursor moved over
them, up to a limit that the size may still reach. -/
structure Moved (o : ReaderOptions) (d : Disk) (content : Bytes) (limit : Nat) (f : LogFile)
    (rs : List Record) (s : Reading) : Prop where
  still : s.world.Still d
  sound : s.file.Sound o.splitter
  path : s.file.path = f.path
  id : s.file.id = f.id
  leads : o.splitter.Leads false (f.cursor content limit) rs (s.file.cursor content limit)

/-- All of a file was read up to a limit: nothing comes next, and all bytes ahead are its tail. -/
structure Exhausted (s : Splitter) (content : Bytes) (limit : Nat) (f : LogFile) : Prop where
  last : s.next? false (f.cursor content limit) = none
  tail : f.tail = (f.cursor content limit).rest

section passes
variable {o : ReaderOptions} {d : Disk} {content : Bytes} {limit : Nat} {f : LogFile}
  {s s' : Reading} {rs rs' : List Record}

theorem Moved.trans (h : Moved o d content limit f rs s) (h' : Moved o d content limit s.file rs' s') :
    Moved o d content limit f (rs ++ rs') s' where
  still := h'.still
  sound := h'.sound
  path := h'.path.trans h.path
  id := h'.id.trans h.id
  leads := h.leads.trans h'.leads

theorem consumeEvent_file {finished : Bool} {event : ReadEvent} {c : Cursor}
    (h : o.splitter.Step finished (s.file.cursor content limit) event.record? c) :
    (consumeEvent s event).file = s.file.passed event.stop event.skips := by
  cases event with
  | skipped => rfl
  | record start stop bytes truncated =>
    have hreads : s.file.skipping = false := h.record.2.2.2
    cases truncated with
    | true => rfl
    | false =>
      simp [consumeEvent, Tracker.advance, LogFile.passed, ReadEvent.stop, ReadEvent.skips, hreads]

theorem consumeEvent_spec (hs : o.splitter.CutsBehindTails) (hpos : 0 < o.maxRecordSize)
    {event : ReadEvent} {r r' : Reader} (hw : s.world.Still d) (hsound : s.file.Sound o.splitter)
    (hlimit : s.file.size ≤ limit) (hcursor : r.cursor content = s.file.cursor content s.file.size)
    (hstep : o.splitter.Step false (r.cursor content) event.record? (r'.cursor content))
    (hstop : event.stop = r'.start) (hskips : event.skips = r'.skipping) :
    Moved o d content limit s.file event.record?.toList (consumeEvent s event) ∧
      r'.cursor content = (consumeEvent s event).file.cursor content s.file.size ∧
      (consumeEvent s event).file.size = s.file.size := by
  rw [hcursor] at hstep
  have hpassed := consumeEvent_file hstep
  obtain ⟨more, hmore⟩ := LogFile.exists_cursor_append hlimit
  have hlift := hstep.append more
  have hnear := hsound.cursor_passed (hs.behind hsound.short) hstep
  have hfar := hsound.cursor_passed (hs.behind hsound.short) (hmore ▸ hlift)
  have hstop' : event.stop = (r'.cursor content).offset := hstop
  have hskips' : event.skips = (r'.cursor content).skipping := hskips
  rw [← hstop', ← hskips', ← hpassed] at hnear
  rw [Cursor.append_offset, Cursor.append_skipping, ← hstop', ← hskips', ← hpassed] at hfar
  refine ⟨⟨?_, ?_, by rw [hpassed]; rfl, by rw [hpassed]; rfl, ?_⟩, hnear.symm, by rw [hpassed]; rfl⟩
  · cases event <;> exact hw
  · rw [hpassed]
    exact .passed _ hpos _ _
  · rw [hfar, hmore]
    exact .single hlift

theorem keepTail_spec (hsound : s.file.Sound o.splitter) (hlimit : s.file.size ≤ limit) {r r' : Reader}
    (ho : r.options = o) (hw : s.world.Still d) (hr : r'.Fits)
    (hcursor : r.cursor content = s.file.cursor content s.file.size)
    (hanswer : r.Answers content none r') :
    Moved o d content limit s.file [] (Watcher.keepTail s r') ∧
      Exhausted o.splitter content s.file.size (Watcher.keepTail s r').file := by
  cases hanswer with
  | ended hstays hall hlast =>
  rw [ho] at hlast
  rw [hcursor] at hstays hall hlast
  have hstart : r'.start = s.file.tailStart := congrArg Cursor.offset hstays
  have hskip : r'.skipping = s.file.skipping := congrArg Cursor.skipping hstays
  have hkept : (Watcher.keepTail s r').file =
      s.file.kept (s.file.tailStart + (s.file.cursor content s.file.size).rest.length)
        (s.file.cursor content s.file.size).rest s.file.skipping := by
    rw [← hstart, ← hskip, ← hall, ← hr.reaches]
    rfl
  have hnear := hsound.cursor_kept content (Nat.le_refl s.file.size)
  have hfar := hsound.cursor_kept content hlimit
  rw [← hkept] at hnear hfar
  refine ⟨⟨hw, ?_, rfl, rfl, ?_⟩, ?_, ?_⟩
  · rw [hkept]
    exact .kept hlast (Nat.le_add_left ..)
  · rw [hfar]
    exact .refl _
  · rw [← hnear] at hlast
    exact hlast
  · rw [hnear, hkept]
    rfl

theorem consumeEvent_world (s : Reading) (event : ReadEvent) : (consumeEvent s event).world = s.world := by
  cases event <;> rfl

/-- The records are those that the reader's cursor moves over, and enough fuel meets them all. -/
theorem takeEvents_records (n : Nat) {s : Reading} {r : Reader} (ho : r.options = o)
    (hfile : r.Covered d content) (hr : r.Fits) (hw : s.world.Still d) :
    ∃ rs s' ended c, takeEvents n s r = .ok (rs, s', ended) ∧
      o.splitter.Leads false (r.cursor content) rs c ∧
      (ended = true → o.splitter.next? false c = none) ∧
      ((r.cursor content).weight < n → ended = true) := by
  induction n generalizing s r with
  | zero => exact ⟨[], s, false, _, rfl, .refl _, nofun, nofun⟩
  | succ n ih =>
    obtain ⟨event?, r', w', hnext, hw', hr', hsame, hanswer⟩ := Reader.next_spec hfile hw hr
    rw [takeEvents, hnext]
    cases hanswer with
    | ended _ _ hlast => exact ⟨[], _, true, _, rfl, .refl _, fun _ => ho ▸ hlast, fun _ => rfl⟩
    | @event event _ hstep _ _ =>
      obtain ⟨rs, s', ended, c, htake, hleads, hend, hfuel⟩ := ih
        (s := consumeEvent { s with world := w' } event) (hsame.options.trans ho)
        (hfile.same hsame) hr' (by rwa [consumeEvent_world])
      rw [ho] at hstep
      refine ⟨event.record?.toList ++ rs, s', ended, c, by simp only [htake]; rfl, .step hstep hleads,
        hend, fun hlt => hfuel ?_⟩
      have := hstep.weight_lt
      omega

theorem takeEvents_spec (hs : o.splitter.CutsBehindTails) (n : Nat) {s : Reading} {r : Reader}
    (ho : r.options = o) (hfile : r.Covered d content) (hr : r.Fits) (hw : s.world.Still d)
    (hsound : s.file.Sound o.splitter) (hlimit : s.file.size ≤ limit)
    (hcursor : r.cursor content = s.file.cursor content s.file.size) {ended : Bool}
    (h : takeEvents n s r = .ok (rs, s', ended)) :
    Moved o d content limit s.file rs s' ∧
      (ended = true → Exhausted o.splitter content s.file.size s'.file) := by
  induction n generalizing s r rs with
  | zero =>
    cases h
    exact ⟨⟨hw, hsound, rfl, rfl, .refl _⟩, nofun⟩
  | succ n ih =>
    obtain ⟨event?, r', w', hnext, hw', hr', hsame, hanswer⟩ := Reader.next_spec hfile hw hr
    rw [takeEvents, hnext] at h
    cases event? with
    | none =>
      cases h
      obtain ⟨hmoved, hend⟩ :=
        keepTail_spec (s := { s with world := w' }) hsound hlimit ho hw' hr' hcursor hanswer
      exact ⟨hmoved, fun _ => hend⟩
    | some event =>
      cases hanswer with
      | event hstep hstop hskips =>
      have hpos : 0 < o.maxRecordSize := by
        have := hr.chunk_pos
        have := hr.chunk_le
        rw [ho] at *
        omega
      rw [ho] at hstep
      obtain ⟨hmoved, hcursor', hsize⟩ := consumeEvent_spec (s := { s with world := w' }) hs hpos hw'
        hsound hlimit hcursor hstep hstop hskips
      obtain ⟨rs', s₁, ended', htake, hmore⟩ : ∃ rs' s₁ ended',
          takeEvents n (consumeEvent { s with world := w' } event) r' = .ok (rs', s₁, ended') ∧
          (event.record?.toList ++ rs', s₁, ended') = (rs, s', ended) := by
        rcases htake : takeEvents n (consumeEvent { s with world := w' } event) r' with _ | ⟨rs', s₁, e⟩
        · simp only [htake] at h
          cases h
        · simp only [htake, Except.map, Except.ok.injEq] at h
          exact ⟨rs', s₁, e, rfl, h⟩
      cases hmore
      obtain ⟨hmoved', hend⟩ := ih (hsame.options.trans ho) (hfile.same hsame) hr' hmoved.still
        hmoved.sound (by rw [hsize]; exact hlimit) (by rw [hsize]; exact hcursor') htake
      exact ⟨hmoved.trans hmoved', fun hended => hsize ▸ hend hended⟩

/-- A pass is a reading from a file that is opened anew, up to another size. -/
theorem runPass_opens (hw : s.world.Still d) (hopens : s.file.Opens d o.verifyIdentity content) (p : Pass) :
    ∃ number w, w.Still d ∧ (Reader.ofFile o { s.file with size := p.limit } number).Covered d content ∧
      runPass o s p =
        takeEvents (p.events.getD ((Reader.ofFile o { s.file with size := p.limit } number).eventBound + 1))
          ⟨{ s.file with size := p.limit }, s.tracker, w⟩ (Reader.ofFile o { s.file with size := p.limit } number) := by
  have hopens' : { s.file with size := p.limit }.Opens d o.verifyIdentity content := hopens
  obtain ⟨number, w, hopen, hw', hfile⟩ := hopens'.readable.openFile hw
  refine ⟨number, w, hw', hfile, ?_⟩
  simp only [runPass, hopen]

theorem runPass_records (hchunk : 0 < o.chunkSize) (hmax : o.chunkSize ≤ o.maxRecordSize)
    (hw : s.world.Still d) (hopens : s.file.Opens d o.verifyIdentity content)
    (hsound : s.file.Sound o.splitter) (p : Pass) :
    ∃ rs s' ended c, runPass o s p = .ok (rs, s', ended) ∧
      o.splitter.Leads false (s.file.cursor content p.limit) rs c ∧
      (ended = true → o.splitter.next? false c = none) ∧ (p.events = none → ended = true) := by
  have hsound' : { s.file with size := p.limit }.Sound o.splitter := hsound.congr rfl rfl rfl
  obtain ⟨number, w, hw', hfile, hpass⟩ := runPass_opens hw hopens p
  have hfits := hsound'.fits hchunk hmax number
  obtain ⟨rs, s', ended, c, htake, hleads, hend, hfuel⟩ :=
    takeEvents_records (s := ⟨{ s.file with size := p.limit }, s.tracker, w⟩)
      (p.events.getD ((Reader.ofFile o { s.file with size := p.limit } number).eventBound + 1))
      rfl hfile hfits hw'
  refine ⟨rs, s', ended, c, hpass.trans htake, hleads, hend, fun hall => hfuel ?_⟩
  have := Reader.weight_lt_eventBound content hfits
  rw [hall, Option.getD_none]
  omega

theorem runPass_spec (hs : o.splitter.CutsBehindTails) (hchunk : 0 < o.chunkSize)
    (hmax : o.chunkSize ≤ o.maxRecordSize) (hw : s.world.Still d)
    (hopens : s.file.Opens d o.verifyIdentity content) (hsound : s.file.Sound o.splitter) {p : Pass}
    (hlimit : p.limit ≤ limit) {ended : Bool} (h : runPass o s p = .ok (rs, s', ended)) :
    Moved o d content limit s.file rs s' ∧
      (ended = true → Exhausted o.splitter content p.limit s'.file) := by
  have hsound' : { s.file with size := p.limit }.Sound o.splitter := hsound.congr rfl rfl rfl
  obtain ⟨number, w, hw', hfile, hpass⟩ := runPass_opens hw hopens p
  have hfits := hsound'.fits hchunk hmax number
  rw [hpass] at h
  obtain ⟨hmoved, hend⟩ := takeEvents_spec hs _ rfl hfile hfits hw' hsound' hlimit rfl h
  exact ⟨⟨hmoved.still, hmoved.sound, hmoved.path, hmoved.id, hmoved.leads⟩, hend⟩

theorem Moved.opens (h : Moved o d content limit f rs s) {verify : Bool}
    (hopens : f.Opens d verify content) : s.file.Opens d verify content := by
  rw [LogFile.Opens, h.path, h.id]
  exact hopens

theorem runPasses_spec (hs : o.splitter.CutsBehindTails) (hchunk : 0 < o.chunkSize)
    (hmax : o.chunkSize ≤ o.maxRecordSize) (hw : s.world.Still d)
    (hopens : s.file.Opens d o.verifyIdentity content) (hsound : s.file.Sound o.splitter)
    {passes : List Pass} (hlimit : ∀ p ∈ passes, p.limit ≤ limit) :
    ∃ rs s', runPasses o s passes = .ok (rs, s') ∧ Moved o d content limit s.file rs s' := by
  induction passes generalizing s with
  | nil => exact ⟨[], s, rfl, hw, hsound, rfl, rfl, .refl _⟩
  | cons p passes ih =>
    obtain ⟨rs, s₁, ended, _, hpass, _⟩ := runPass_records hchunk hmax hw hopens hsound p
    obtain ⟨hmoved, _⟩ := runPass_spec hs hchunk hmax hw hopens hsound (hlimit p (by simp)) hpass
    obtain ⟨rs', s₂, hpasses, hmoved'⟩ := ih hmoved.still (hmoved.opens hopens) hmoved.sound
      fun q hq => hlimit q (by simp [hq])
    refine ⟨rs ++ rs', s₂, ?_, hmoved.trans hmoved'⟩
    simp only [runPasses, hpass, hpasses]
    rfl

end passes

/-- Passes that stop anywhere, with sizes up to that of the last one, find the records that one pass
finds: some of them first, and all of them once the last pass has no more events; then the file is left
as one pass leaves it. -/
def Resumable (o : ReaderOptions) : Prop :=
  ∀ (d : Disk) (content : Bytes) (s : Reading) (passes : List Pass) (last : Pass),
    s.world.Still d → s.file.Opens d o.verifyIdentity content → s.file.Sound o.splitter →
    s.file.tail = (content.drop s.file.tailStart).take s.file.tail.length →
    (∀ p ∈ passes, p.limit ≤ last.limit) →
    ∃ rs s₁ rs' s₂ ended all whole,
      runPasses o s passes = .ok (rs, s₁) ∧ runPass o s₁ last = .ok (rs', s₂, ended) ∧
      runPass o s { last with events := none } = .ok (all, whole, true) ∧ rs ++ rs' <+: all ∧
      (ended = true → rs ++ rs' = all ∧ s₂.file.tailStart = whole.file.tailStart ∧
        s₂.file.tail = whole.file.tail ∧ s₂.file.skipping = whole.file.skipping)

theorem resumable {o : ReaderOptions} (hs : o.splitter.CutsBehindTails) (hchunk : 0 < o.chunkSize)
    (hmax : o.chunkSize ≤ o.maxRecordSize) : Resumable o := by
  intro d content s passes last hw hopens hsound _ hlimit
  obtain ⟨rs, s₁, hpasses, hmoved₁⟩ := runPasses_spec hs hchunk hmax hw hopens hsound hlimit
  obtain ⟨rs', s₂, ended, _, hpass, _⟩ :=
    runPass_records hchunk hmax hmoved₁.still (hmoved₁.opens hopens) hmoved₁.sound last
  obtain ⟨all, whole, ended', _, hwhole, _, _, hended⟩ :=
    runPass_records hchunk hmax hw hopens hsound { last with events := none }
  obtain rfl := hended rfl
  obtain ⟨hmoved₂, hend⟩ := runPass_spec hs hchunk hmax hmoved₁.still (hmoved₁.opens hopens)
    hmoved₁.sound (Nat.le_refl last.limit) hpass
  obtain ⟨hmoved, hlast⟩ := runPass_spec (p := { last with events := none }) hs hchunk hmax hw hopens
    hsound (Nat.le_refl last.limit) hwhole
  have hexhausted := hlast rfl
  obtain ⟨hall, hlast⟩ := hmoved.leads.eq_of_next?_none hexhausted.last
  have hboth := (hmoved₁.trans hmoved₂).leads
  refine ⟨rs, s₁, rs', s₂, ended, all, whole, hpasses, hpass, hwhole, ?_, ?_⟩
  · rw [← hall, hboth.records_eq]
    exact List.prefix_append ..
  · intro h
    obtain ⟨hall', hlast'⟩ := hboth.eq_of_next?_none (hend h).last
    have hcursor : s₂.file.cursor content last.limit = whole.file.cursor content last.limit := by
      rw [← hlast', ← hlast]
    refine ⟨by rw [← hall', hall], congrArg Cursor.offset hcursor, ?_, congrArg Cursor.skipping hcursor⟩
    rw [(hend h).tail, hcursor]
    exact hexhausted.tail.symm

/-! ## A cut inside a tail -/

def oneFile (content : Bytes) : Disk :=
  ⟨[(1, ⟨content, ⟨0, 0⟩, false⟩)], [([[0x61]], .file 1)], 2, []⟩

/-- The file of which all but one byte of the longest record was read. -/
def almostRead (o : ReaderOptions) : LogFile :=
  { path := ⟨[0x2f, 0x61]⟩, mtime := 0, id := .ofNumber 1, size := 0, processed := o.maxRecordSize - 1,
    digest := .empty, seq := 0, tail := List.replicate (o.maxRecordSize - 1) 0 }

theorem almostRead_opens (o : ReaderOptions) (content : Bytes) :
    (almostRead o).Opens (oneFile content) o.verifyIdentity content :=
  ⟨1, rfl, ⟨rfl, rfl⟩, fun _ => rfl⟩

theorem almostRead_almostRead (o : ReaderOptions) : (almostRead o).AlmostRead o.splitter.longest :=
  ⟨rfl, rfl, rfl⟩

def almostReading (o : ReaderOptions) : Reading :=
  ⟨almostRead o, default, .quiet (oneFile o.splitter.lostContent)⟩

section cut
variable {o : ReaderOptions}

/-- A pass that stops after its first event has cut the record, and the offset stands behind the tail. -/
theorem runPass_cut (h : ¬ o.splitter.CutsBehindTails) (hchunk : 0 < o.chunkSize)
    (hmax : o.chunkSize ≤ o.maxRecordSize) :
    ∃ rec s, runPass o (almostReading o) ⟨o.splitter.lostContent.length, some 1⟩ = .ok ([rec], s, false) ∧
      s.world.Still (oneFile o.splitter.lostContent) ∧
      s.file = { almostRead o with size := o.splitter.lostContent.length }.passed
        (o.encoding.alignDown o.maxRecordSize) true := by
  obtain ⟨number, w, hw, hfile, hpass⟩ := runPass_opens (o := o) (s := almostReading o) (World.still_quiet _)
    (almostRead_opens o _) ⟨o.splitter.lostContent.length, some 1⟩
  have halmost : { almostRead o with size := o.splitter.lostContent.length }.AlmostRead o.splitter.longest :=
    ⟨rfl, rfl, rfl⟩
  obtain ⟨start, bytes, r', w', hw', hnext⟩ := Reader.next_lost
    (r := Reader.ofFile o { almostRead o with size := o.splitter.lostContent.length } number) h hfile hw
    ((halmost.sound h).fits hchunk hmax number) (halmost.cursor h)
  refine ⟨⟨start, o.encoding.alignDown o.maxRecordSize, bytes, true⟩,
    consumeEvent ⟨{ almostRead o with size := o.splitter.lostContent.length }, default, w'⟩
      (.record start (o.encoding.alignDown o.maxRecordSize) bytes true), ?_, ?_, rfl⟩
  · rw [hpass, almostReading]
    simp only [Option.getD_some, takeEvents]
    rw [hnext]
    rfl
  · rwa [consumeEvent_world]

theorem cutsBehindTails_of_resumable (hchunk : 0 < o.chunkSize) (hmax : o.chunkSize ≤ o.maxRecordSize)
    (hres : Resumable o) : o.splitter.CutsBehindTails := by
  apply Decidable.byContradiction
  intro h
  obtain ⟨_, k, hk, hlen⟩ := Splitter.unit_of_not_cutsBehindTails h
  have hopens := almostRead_opens o o.splitter.lostContent
  have hsound := (almostRead_almostRead o).sound h
  have htail : (almostRead o).tail = (o.splitter.lostContent.drop
      (almostRead o).tailStart).take (almostRead o).tail.length := by
    rw [(almostRead_almostRead o).tailStart, List.drop_zero]
    refine (Splitter.lostContent_take (s := o.splitter) ?_).symm.trans (by simp [almostRead])
    show o.splitter.longest - 1 ≤ _
    omega
  obtain ⟨rs, s₁, rs', s₂, ended, all, whole, hpasses, hpass, hwhole, _, hequal⟩ :=
    hres (oneFile o.splitter.lostContent) o.splitter.lostContent (almostReading o)
      [⟨o.splitter.lostContent.length, some 1⟩] ⟨o.splitter.lostContent.length, none⟩
      (World.still_quiet _) hopens hsound htail (by simp)
  -- one pass meets both records
  obtain ⟨_, _, _, c, hwhole', hleads, hlast, _⟩ := runPass_records hchunk hmax
    (World.still_quiet (oneFile o.splitter.lostContent)) hopens hsound
    ⟨o.splitter.lostContent.length, none⟩ (s := almostReading o)
  cases hwhole'.symm.trans hwhole
  have hall := (hleads.eq_of_next?_none (hlast rfl)).1
  rw [show (almostReading o).file.cursor _ _ = _ from (almostRead_almostRead o).cursor h] at hall
  obtain ⟨r₁, r₂, _, hlost, _⟩ := Splitter.lost_leads h
  rw [hlost.records_eq] at hall
  -- the interrupted passes meet the one that was cut
  obtain ⟨rec, s₁', hcut, hw₁, hfile₁⟩ := runPass_cut h hchunk hmax
  simp only [runPasses, hcut, Except.map, Except.ok.injEq, Prod.mk.injEq, List.append_nil] at hpasses
  obtain ⟨rfl, rfl⟩ := hpasses
  have hinside : s₁'.file.CutInside o.splitter.longest := by
    rw [hfile₁]
    exact LogFile.AlmostRead.cut h ⟨rfl, rfl, rfl⟩
  have hopens₁ : s₁'.file.Opens (oneFile o.splitter.lostContent) o.verifyIdentity
      o.splitter.lostContent := by
    rw [hfile₁]
    exact hopens
  obtain ⟨_, _, _, c, hpass', hleads, hlast, hend⟩ := runPass_records hchunk hmax hw₁ hopens₁
    hinside.sound ⟨o.splitter.lostContent.length, none⟩
  cases hpass'.symm.trans hpass
  obtain rfl := hend rfl
  rw [hinside.cursor] at hleads
  have hnone := (Splitter.leads_misaligned h hleads).1
  have hboth := (hequal rfl).1
  rw [hnone, ← hall] at hboth
  exact absurd (congrArg List.length hboth) (by simp)

end cut

/-- **Interrupted reading is one reading, if and only if a cut ends behind every tail.** -/
theorem resumable_iff (o : ReaderOptions) (hchunk : 0 < o.chunkSize)
    (hmax : o.chunkSize ≤ o.maxRecordSize) :
    Resumable o ↔ o.maxRecordSize % o.encoding.unit ≤ 1 :=
  ⟨cutsBehindTails_of_resumable hchunk hmax, fun hs => resumable hs hchunk hmax⟩

theorem resumable_utf8_not_utf32 :
    Resumable ⟨.utf8, 65536, 262144, true⟩ ∧ ¬ Resumable ⟨.utf32le, 7, 7, true⟩ :=
  ⟨(resumable_iff _ (by decide) (by decide)).2 (by decide),
    fun h => absurd ((resumable_iff _ (by decide) (by decide)).1 h) (by decide)⟩

end Interruption

end LogTail
