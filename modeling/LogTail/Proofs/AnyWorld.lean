import LogTail.Proofs.CycleStep
import LogTail.Proofs.FileReading
import LogTail.Proofs.ReaderLoops
import Mathlib.Logic.Relation

/-!
# Cycles in a changing world

Whatever others do to the disk in the middle of a cycle, and whichever calls fail, a cycle leaves files that
reading can go on from: their tails are ones that reading leaves, and no two files share name and identity
(`Tidy`, `Orderly`).

* `LogFile.Step`: what one step of reading makes of a file. A file is read in such steps
  (`Watcher.readFile_steps`), and each keeps it tidy and within its size.
* `Cycle.Carried`: a file that goes on to the next cycle waited or was read (`Cycle.mem_kept_run`). So one
  step of a pass keeps files orderly, and a whole cycle does (`Cycle.run_orderly`).
-/

namespace LogTail

/-! ## Files -/

/-- The progress of a file is one that reading leaves, and its mark says whether it has a tail. -/
structure LogFile.Tidy (s : Splitter) (f : LogFile) : Prop extends f.Sound s where
  marked : f.Marked

section tidy
variable {s : Splitter} {f f' : LogFile}

theorem LogFile.Tidy.congr (h : f.Tidy s) (hprocessed : f'.processed = f.processed)
    (htail : f'.tail = f.tail) (hincomplete : f'.incomplete = f.incomplete)
    (hskip : f'.skipping = f.skipping) : f'.Tidy s where
  toSound := h.toSound.congr hprocessed htail hskip
  marked := by rw [Marked, hincomplete, htail]; exact h.marked

theorem LogFile.Tidy.of_nil (hpos : 0 < s.longest) (htail : f.tail = []) (hmark : f.incomplete = false) :
    f.Tidy s where
  inside := by rw [htail]; exact Nat.zero_le _
  free := by rw [htail]; exact Encoding.terminator?_nil _
  short := by
    have := s.encoding.unit_pos
    rw [htail]
    cases f.skipping with
    | false => exact hpos
    | true => exact this
  marked := by rw [Marked, hmark, htail]; rfl

end tidy

/-! ## The reader -/

namespace Reader

/-- A reader that fits, and reads no further than a bound. -/
structure Within (r : Reader) (bound : Nat) : Prop extends r.Fits where
  position_le : r.position ≤ bound
  limit_le : r.limit ≤ bound

section within
variable {r r' : Reader} {bound : Nat}

theorem Within.extend (hr : r.Within bound) (hnone : r.take? = none) (hlimit : r.position < r.limit)
    {bytes : Bytes} (hbytes : bytes.length ≤ r.wanted) : (r.extend r.wanted bytes).Within bound := by
  have hwanted := r.wanted_le
  have hroom := window_add_wanted_le hnone
  have hbound := hr.limit_le
  refine ⟨⟨hr.chunk_pos, hr.chunk_le, reaches_extend hr.reaches _ _, Nat.le_trans ?_ hroom⟩, ?_, ?_⟩
  · simp only [Reader.extend, List.length_append]
    omega
  · simp only [Reader.extend]
    omega
  · simp only [Reader.extend]
    split <;> omega

theorem Within.of_take? (hr : r.Within bound) {event : ReadEvent} (h : r.take? = some (event, r')) :
    r'.Within bound ∧ r'.options = r.options ∧ event.stop ≤ bound := by
  obtain ⟨n, hn, rfl, hstop, hroom, _⟩ := take?_some [] hr.toFits h
  have hreaches := hr.reaches
  have hbound := hr.position_le
  refine ⟨⟨⟨hr.chunk_pos, hr.chunk_le, reaches_behind hreaches hn _, ?_⟩, hbound, hr.limit_le⟩, rfl, by omega⟩
  rw [behind, List.length_drop]
  exact Nat.sub_le_of_le_add (Nat.add_comm n _ ▸ hroom)

theorem Within.of_fills {w w' : World} {more : Bool} (hr : r.Within bound) (hnone : r.take? = none)
    (h : Fills r w (.ok (r', more), w')) : r'.Within bound := by
  cases h with
  | limit => exact hr
  | read ahead reads => exact hr.extend hnone ahead (reads.length_le _ rfl)

theorem Finds.within {w : World} {found : Except Cause (Option ReadEvent) × Reader × World} (h : Finds r w found)
    (hr : r.Within bound) : found.2.1.Within bound ∧ found.2.1.options = r.options ∧
      ∀ event, found.1 = .ok (some event) → event.stop ≤ bound := by
  induction h with
  | event takes =>
    obtain ⟨hwithin, hoptions, hstop⟩ := hr.of_take? takes
    refine ⟨hwithin, hoptions, ?_⟩
    rintro _ ⟨⟩
    exact hstop
  | failed => exact ⟨hr, rfl, fun _ hsome => by cases hsome⟩
  | ended lacks fills =>
    have hwithin := hr.of_fills lacks fills
    obtain ⟨bytes, limit, rfl, -⟩ := fills.spec
    exact ⟨hwithin, rfl, fun _ hsome => by cases hsome⟩
  | again lacks fills _ ih =>
    have hwithin := hr.of_fills lacks fills
    obtain ⟨bytes, limit, rfl, -⟩ := fills.spec
    exact ih hwithin

/-- Whatever the world does, the reader keeps within its bound, as do the events, and it finds no event only
if its window holds none. -/
theorem next_within {w w' : World} {answer : Except Cause (Option ReadEvent)} (hr : r.Within bound)
    (h : r.next w = (answer, r', w')) :
    r'.Within bound ∧ r'.options = r.options ∧ (answer = .ok none → r'.take? = none) ∧
      ∀ event, answer = .ok (some event) → event.stop ≤ bound := by
  have hfinds := finds_of_next h
  obtain ⟨hwithin, hoptions, hstop⟩ := hfinds.within hr
  exact ⟨hwithin, hoptions, fun hnone => (hfinds.exhausted hr.chunk_pos hnone).lacks, hstop⟩

end within

end Reader

/-! ## One file -/

/-- A file after some reading: it is the same, and tidy if it was. -/
def LogFile.Onward (s : Splitter) (f f' : LogFile) : Prop := f.SameAs f' ∧ (f.Tidy s → f'.Tidy s)

theorem LogFile.Onward.refl (s : Splitter) (f : LogFile) : f.Onward s f := ⟨.refl f, fun h => h⟩

theorem LogFile.Onward.trans {s : Splitter} {f f' f'' : LogFile} (h : f.Onward s f')
    (h' : f'.Onward s f'') : f.Onward s f'' := ⟨h.1.trans h'.1, fun ht => h'.2 (h.2 ht)⟩

/-- What one step of reading makes of a file: it passes a record or bytes that are dropped, or keeps a tail,
or counts a refusal. It reads no further than a bound. -/
inductive LogFile.Step (s : Splitter) (bound : Nat) (f : LogFile) : LogFile → Prop
  | passed {stop : Nat} (inside : stop ≤ bound) (retry : Nat) (skipping : Bool) :
    Step s bound f { f.passed stop skipping with retry := retry }
  | kept {r : Reader} (within : r.Within bound) (splits : r.options.splitter = s) (ended : r.take? = none) :
    Step s bound f (f.kept r.position r.window r.skipping)
  | refused (retry : Nat) : Step s bound f { f with retry := retry }

abbrev LogFile.Steps (s : Splitter) (bound : Nat) : LogFile → LogFile → Prop :=
  Relation.ReflTransGen (LogFile.Step s bound)

section steps
variable {s : Splitter} {bound : Nat} {f f' : LogFile}

theorem LogFile.Step.onward (hpos : 0 < s.longest) (h : f.Step s bound f') : f.Onward s f' := by
  cases h with
  | passed => exact ⟨rfl, fun _ => .of_nil hpos rfl rfl⟩
  | @kept r hwithin hsplits hended =>
    subst hsplits
    obtain ⟨hfree, hshort⟩ := Reader.take?_none hended
    have hreaches := hwithin.reaches
    refine ⟨rfl, fun _ => ⟨⟨?_, hfree, hshort⟩, rfl⟩⟩
    show r.window.length ≤ max f.processed r.position
    omega
  | refused => exact ⟨rfl, fun ht => ht.congr rfl rfl rfl rfl⟩

theorem LogFile.Step.processed_le (h : f.Step s bound f') (hf : f.processed ≤ bound) :
    f'.processed ≤ bound := by
  cases h with
  | passed hstop => exact Nat.max_le.2 ⟨hf, hstop⟩
  | kept hwithin => exact Nat.max_le.2 ⟨hf, hwithin.position_le⟩
  | refused => exact hf

theorem LogFile.Steps.onward (hpos : 0 < s.longest) (h : f.Steps s bound f') : f.Onward s f' := by
  induction h with
  | refl => exact .refl s f
  | tail _ hstep ih => exact ih.trans (hstep.onward hpos)

theorem LogFile.Steps.processed_le (h : f.Steps s bound f') (hf : f.processed ≤ bound) :
    f'.processed ≤ bound := by
  induction h with
  | refl => exact hf
  | tail _ hstep ih => exact hstep.processed_le ih

end steps

namespace Watcher

section files
variable {watch : Watcher} {s : Reading} {bound : Nat}

theorem consume_file (watch : Watcher) (sink : Sink) (s : Reading) (bytes : Bytes) (stop : Nat) :
    (∃ retry, (watch.consume sink s bytes stop).2.file =
      { s.file.passed stop s.file.skipping with retry := retry }) ∨
    ((watch.consume sink s bytes stop).1 = .rejected ∧ ∃ retry,
      (watch.consume sink s bytes stop).2.file = { s.file with retry := retry }) := by
  unfold consume
  rcases watch.filter.apply (watch.config.encoding.decode bytes) with _ | value
  · exact .inl ⟨s.file.retry, rfl⟩
  · rcases hsink : sink s.tracker.offers.length (s.tracker.delivery s.file value stop) with _ | _
    · exact .inr ⟨by simp [Tracker.deliver, hsink], s.file.retry + 1, by simp [Tracker.deliver, hsink]⟩
    · exact .inl ⟨0, by simp [Tracker.deliver, hsink, Tracker.advance, LogFile.passed]⟩

theorem consume_step (watch : Watcher) (sink : Sink) (s : Reading) (bytes : Bytes) {stop : Nat}
    (hstop : stop ≤ bound) :
    s.file.Step watch.splitter bound (watch.consume sink s bytes stop).2.file := by
  rcases watch.consume_file sink s bytes stop with ⟨retry, h⟩ | ⟨_, retry, h⟩
  · rw [h]
    exact .passed hstop retry _
  · rw [h]
    exact .refused retry

theorem flush_steps (watch : Watcher) (sink : Sink) (s : Reading) {r : Reader} (hr : r.Within bound) :
    s.file.Steps watch.splitter bound (watch.flush sink s r).2.file := by
  have hreaches := hr.reaches
  have hposition := hr.position_le
  unfold flush Reader.takeRemainder
  by_cases hnothing : (r.window.isEmpty || r.skipping) = true
  · rw [if_pos hnothing]
  rw [if_neg hnothing]
  by_cases hspent : s.tracker.budget.exhausted = true
  · simp only [Reader.emit, hspent, if_true]
    exact .refl
  · have hstep := watch.consume_step sink s.tested (r.content r.window.length)
      (show r.start + r.window.length ≤ bound by omega)
    simp only [Reader.emit, hspent]
    rcases hconsume : watch.consume sink s.tested (r.content r.window.length) (r.start + r.window.length) with
      ⟨_ | _, s'⟩ <;> rw [hconsume] at hstep <;> exact .single hstep

theorem readEvents_steps (watch : Watcher) (sink : Sink) (finished : Bool) (fuel : Nat) (s : Reading)
    {r : Reader} (ho : r.options.splitter = watch.splitter) (hr : r.Within bound) :
    s.file.Steps watch.splitter bound (watch.readEvents sink finished fuel s r).2.file := by
  induction fuel generalizing s r with
  | zero => exact .refl
  | succ fuel ih =>
    rw [readEvents]
    by_cases hspent : s.tracker.budget.exhausted = true
    · rw [if_pos hspent]
    rw [if_neg hspent]
    rcases hnext : r.next s.world with ⟨answer, r', w⟩
    obtain ⟨hwithin, hoptions, hnone, hstop⟩ := Reader.next_within hr hnext
    rcases answer with c | _ | ⟨start, stop, bytes, truncated⟩ | ⟨stop, ended⟩
    · exact .refl
    · -- what is left in the window becomes the tail
      have hkept : s.file.Step watch.splitter bound (keepTail { s.tested with world := w } r').file :=
        .kept hwithin (hoptions ▸ ho) (hnone rfl)
      cases finished with
      | false => exact .single hkept
      | true => exact .head hkept (watch.flush_steps sink _ hwithin)
    · have hle : stop ≤ bound := hstop _ rfl
      have hstep := watch.consume_step sink { s.tested with world := w } bytes hle
      have hcases := watch.consume_file sink { s.tested with world := w } bytes stop
      simp only
      rcases hconsume : watch.consume sink { s.tested with world := w } bytes stop with ⟨_ | _, s'⟩
      · rw [hconsume] at hstep hcases
        refine .head ?_ (ih _ (hoptions ▸ ho) hwithin)
        obtain ⟨retry, hfile⟩ := hcases.resolve_right fun h => by cases h.1
        change s'.file = _ at hfile
        cases truncated with
        | false => exact hstep
        | true =>
          show s.file.Step watch.splitter bound { s'.file with skipping := true }
          rw [hfile]
          exact .passed hle retry true
      · rw [hconsume] at hstep
        exact .single hstep
    · exact .head (.passed (hstop _ rfl) s.file.retry (!ended))
        (ih (skipTo { s.tested with world := w } stop ended) (hoptions ▸ ho) hwithin)

/-- **Whatever the world does, a file is read in such steps**, and no further than its size. -/
theorem readFile_steps (hchunk : 0 < watch.config.chunkSize)
    (hmax : watch.config.chunkSize ≤ watch.config.maxRecordSize) (sink : Sink)
    (useIdentity finished : Bool) (hs : s.file.Tidy watch.splitter) :
    s.file.Steps watch.splitter (max s.file.processed s.file.size)
      (watch.readFile sink useIdentity finished s).2.file := by
  unfold readFile
  by_cases hidle : (s.file.unread = 0 && !(finished && s.file.hasFinalTail)) = true
  · rw [if_pos hidle]
  rw [if_neg hidle]
  by_cases hspent : s.tracker.budget.exhausted = true
  · rw [if_pos hspent]
  rw [if_neg hspent]
  unfold Reader.openFile
  rcases s.world.look fun d => d.numberOf s.file.path with ⟨_ | number, w⟩
  · exact .refl
  dsimp only
  by_cases hother : ((readerOptions watch.config useIdentity).verifyIdentity &&
      decide (FileId.ofNumber number ≠ s.file.id)) = true
  · rw [if_pos hother]
    exact .refl
  · rw [if_neg hother]
    have hfits := hs.toSound.fits (o := readerOptions watch.config useIdentity) hchunk hmax number
    exact watch.readEvents_steps sink finished _ { s.tested with world := w } rfl
      ⟨hfits, Nat.le_max_left .., Nat.le_max_right ..⟩

/-- **Whatever the world does, the reading of a file leaves it the same file, and tidy.** -/
theorem readFile_onward (hchunk : 0 < watch.config.chunkSize)
    (hmax : watch.config.chunkSize ≤ watch.config.maxRecordSize) (sink : Sink)
    (useIdentity finished : Bool) (hs : s.file.Tidy watch.splitter) :
    s.file.SameAs (watch.readFile sink useIdentity finished s).2.file ∧
      (watch.readFile sink useIdentity finished s).2.file.Tidy watch.splitter := by
  obtain ⟨hsame, htidy⟩ := (readFile_steps hchunk hmax sink useIdentity finished hs).onward
    (Nat.lt_of_lt_of_le hchunk hmax)
  exact ⟨hsame, htidy hs⟩

theorem prepareDrain_some {useIdentity : Bool} {f f' : LogFile} {w w' : World}
    (h : watch.prepareDrain useIdentity f w = (.ok (some f'), w')) :
    ∃ size, f.processed ≤ size ∧ f' = { f with size := size } := by
  unfold prepareDrain at h
  rcases hlook : w.look fun d => d.numberOf f.path with ⟨c | number, w₁⟩
  · simp only [hlook] at h
    by_cases hc : c = .notFound <;> simp [hc] at h
  · simp only [hlook] at h
    rcases hsame : watch.isSame useIdentity f number w₁ with ⟨c | _ | _, w₂⟩
    · simp [hsame] at h
    · simp [hsame] at h
    · simp only [hsame] at h
      rcases hsize : w₂.look fun d => .ok (d.size number) with ⟨c | size, w₃⟩
      · simp [hsize] at h
      · simp only [hsize, Prod.mk.injEq, Except.ok.injEq, Option.ite_none_left_eq_some] at h
        exact ⟨size, Nat.not_lt.1 h.1.1, (Option.some.inj h.1.2).symm⟩

end files

end Watcher

/-! ## Both passes -/

/-- What tells a tracked file from the others: the name at its end and its identity. -/
def LogFile.key (f : LogFile) : Option Bytes × FileId := (f.path.fileName?, f.id)

namespace LogFile

variable {P : LogFile → Prop} {front back : List LogFile} {f f' : LogFile}

theorem forall_drop (h : ∀ g ∈ front ++ f :: back, P g) : ∀ g ∈ front ++ back, P g := by
  intro g hg
  rw [List.mem_append] at hg
  exact h g (List.mem_append.2 (hg.imp_right (List.mem_cons_of_mem f)))

theorem forall_replace (h : ∀ g ∈ front ++ f :: back, P g) (hf' : P f') : ∀ g ∈ front ++ [f'] ++ back, P g := by
  intro g hg
  rw [List.append_assoc, List.mem_append, List.singleton_append, List.mem_cons] at hg
  rcases hg with hg | rfl | hg
  · exact h g (by simp [hg])
  · exact hf'
  · exact h g (by simp [hg])

theorem nodup_drop (h : ((front ++ f :: back).map key).Nodup) : ((front ++ back).map key).Nodup :=
  h.sublist (((List.sublist_cons_self f back).append_left front).map _)

theorem nodup_replace (h : ((front ++ f :: back).map key).Nodup) (hkey : f'.key = f.key) :
    ((front ++ [f'] ++ back).map key).Nodup := by
  simp only [List.map_append, List.map_cons, hkey, List.append_assoc, List.singleton_append] at h ⊢
  exact h

end LogFile

/-- All files are tidy, and no two have the same name and identity. -/
structure Orderly (s : Splitter) (files : List LogFile) : Prop where
  tidy : ∀ f ∈ files, f.Tidy s
  apart : (files.map LogFile.key).Nodup

namespace Orderly

variable {s : Splitter} {front back : List LogFile} {f f' : LogFile}

theorem drop (h : Orderly s (front ++ f :: back)) : Orderly s (front ++ back) :=
  ⟨LogFile.forall_drop h.tidy, LogFile.nodup_drop h.apart⟩

theorem replace (h : Orderly s (front ++ f :: back)) (hkey : f'.key = f.key) (htidy : f'.Tidy s) :
    Orderly s (front ++ [f'] ++ back) :=
  ⟨LogFile.forall_replace h.tidy htidy, LogFile.nodup_replace h.apart hkey⟩

end Orderly

namespace Cycle

/-- What becomes of a file that goes on to the next cycle: it waits, or it is read. A file that rotated away
takes its present size first, and is gone if that is less than what was processed. -/
inductive Carried (watch : Watcher) (sink : Sink) (useIdentity : Bool) (f : LogFile) : LogFile → Prop
  | waits : Carried watch sink useIdentity f f
  | read {size : Nat} (sized : size = f.size ∨ f.processed ≤ size) (finished : Bool) (tracker : Tracker)
    (world : World) : Carried watch sink useIdentity f
      (watch.readFile sink useIdentity finished ⟨{ f with size := size }, tracker, world⟩).2.file

section carried
variable {watch : Watcher} {sink : Sink} {useIdentity : Bool} {f f' : LogFile}
  (h : Carried watch sink useIdentity f f') (hchunk : 0 < watch.config.chunkSize)
  (hmax : watch.config.chunkSize ≤ watch.config.maxRecordSize) (hf : f.Tidy watch.splitter)
include h hchunk hmax hf

theorem Carried.tidy : f'.key = f.key ∧ f'.Tidy watch.splitter := by
  cases h with
  | waits => exact ⟨rfl, hf⟩
  | @read size _ finished tracker world =>
    obtain ⟨hsame, htidy⟩ := Watcher.readFile_onward (s := ⟨{ f with size := size }, tracker, world⟩) hchunk
      hmax sink useIdentity finished (hf.congr rfl rfl rfl rfl)
    refine ⟨?_, htidy⟩
    rw [LogFile.key, LogFile.key, hsame.path, hsame.id]

theorem Carried.within (hsize : f.processed ≤ f.size) : f'.processed ≤ f'.size := by
  cases h with
  | waits => exact hsize
  | @read size hsized finished tracker world =>
    have hle : f.processed ≤ size := hsized.elim (fun heq => heq ▸ hsize) id
    have htidy : LogFile.Tidy watch.splitter { f with size := size } := hf.congr rfl rfl rfl rfl
    have hsteps := Watcher.readFile_steps (s := ⟨{ f with size := size }, tracker, world⟩) hchunk hmax sink
      useIdentity finished htidy
    rw [show max f.processed size = size from Nat.max_eq_right hle] at hsteps
    rw [(hsteps.onward (Nat.lt_of_lt_of_le hchunk hmax)).1.size]
    exact hsteps.processed_le hle

end carried

section passes
variable {watch : Watcher} {c : Cycle}

theorem kept_visit (watch : Watcher) (sink : Sink) (useIdentity : Bool) (newest : Nat) (c : Cycle)
    (f : LogFile × Nat) : ∃ f', Carried watch sink useIdentity f.1 f' ∧
      (visit watch sink useIdentity newest c f).kept = c.kept ++ [f'] := by
  rcases hhalt : c.halted with _ | _
  · exact ⟨_, .read (.inl rfl) (f.2 < newest) c.tracker c.world, (visit_reads hhalt rfl).kept_of_scan⟩
  · exact ⟨f.1, .waits, by rw [visit_waits hhalt]; rfl⟩

theorem kept_drain (watch : Watcher) (sink : Sink) (useIdentity : Bool) (c : Cycle) (f : LogFile) :
    (drain watch sink useIdentity c f).kept = c.kept ∨ ∃ f', Carried watch sink useIdentity f f' ∧
      (drain watch sink useIdentity c f).kept = c.kept ++ [f'] := by
  rcases hhalt : c.halted with _ | _
  · rcases hprepare : watch.prepareDrain useIdentity f c.world with ⟨cause | _ | g, w⟩
    · exact .inl (by rw [drain_unreachable hhalt hprepare])
    · exact .inl (by rw [drain_gone hhalt hprepare])
    · obtain ⟨size, hsize, rfl⟩ := Watcher.prepareDrain_some hprepare
      have hafter : AfterReading _ false c _ _ (drain watch sink useIdentity c f) :=
        drain_reads hhalt hprepare rfl
      rcases hends : (drain watch sink useIdentity c f).halted with _ | _
      · exact .inl (hafter.kept_of_gone hends)
      · exact .inr ⟨_, .read (.inr hsize) true c.tracker w, hafter.kept_of_halted hends⟩
  · exact .inr ⟨f, .waits, by rw [drain_waits hhalt]; rfl⟩

theorem foldl_kept {α : Type} {P : List LogFile → Prop} {step : Cycle → α → Cycle} (file : α → LogFile)
    (hstep : ∀ c x back, P (c.kept ++ file x :: back) → P ((step c x).kept ++ back))
    (xs : List α) (back : List LogFile) {c : Cycle} (h : P (c.kept ++ xs.map file ++ back)) :
    P ((xs.foldl step c).kept ++ back) := by
  induction xs generalizing c with
  | nil => simpa using h
  | cons x xs ih =>
    apply ih
    rw [List.append_assoc]
    apply hstep c x _
    simpa using h

/-- A cycle keeps true of its files what carrying a file on, and dropping one, keep true. -/
theorem run_kept {P : List LogFile → Prop} (sink : Sink) (useIdentity : Bool)
    (hcarried : ∀ {front back f f'}, P (front ++ f :: back) → Carried watch sink useIdentity f f' →
      P (front ++ [f'] ++ back))
    (hdropped : ∀ {front back f}, P (front ++ f :: back) → P (front ++ back)) (r : Resolution)
    (h : P (c.kept ++ r.rotatedAway ++ r.files)) : P (run watch sink useIdentity r c).kept := by
  have hdrain (c : Cycle) (f : LogFile) (back : List LogFile) (h : P (c.kept ++ f :: back)) :
      P ((drain watch sink useIdentity c f).kept ++ back) := by
    rcases kept_drain watch sink useIdentity c f with hkept | ⟨f', hcarries, hkept⟩
    · rw [hkept]
      exact hdropped h
    · rw [hkept]
      exact hcarried h hcarries
  have hvisit (c : Cycle) (x : LogFile × Nat) (back : List LogFile) (h : P (c.kept ++ x.1 :: back)) :
      P ((visit watch sink useIdentity (r.files.length - 1) c x).kept ++ back) := by
    obtain ⟨f', hcarries, hkept⟩ := kept_visit watch sink useIdentity (r.files.length - 1) c x
    rw [hkept]
    exact hcarried h hcarries
  have hdrained := foldl_kept id hdrain r.rotatedAway r.files (by rwa [List.map_id])
  have hvisited := foldl_kept (·.1) hvisit r.files.zipIdx [] (by rwa [List.append_nil, List.zipIdx_map_fst])
  rwa [List.append_nil] at hvisited

/-- **Whatever the world does, a cycle keeps files orderly.** -/
theorem run_orderly (sink : Sink) (useIdentity : Bool) (hchunk : 0 < watch.config.chunkSize)
    (hmax : watch.config.chunkSize ≤ watch.config.maxRecordSize) (r : Resolution)
    (h : Orderly watch.splitter (c.kept ++ r.rotatedAway ++ r.files)) :
    Orderly watch.splitter (run watch sink useIdentity r c).kept := by
  refine run_kept sink useIdentity (fun {_ _ f _} h hcarried => ?_) (fun h => h.drop) r h
  obtain ⟨hkey, htidy⟩ := hcarried.tidy hchunk hmax (h.tidy f (by simp))
  exact h.replace hkey htidy

theorem mem_kept_foldl {α : Type} {sink : Sink} {useIdentity : Bool} {step : Cycle → α → Cycle}
    (file : α → LogFile) (hstep : ∀ c x, ∀ f' ∈ (step c x).kept,
      f' ∈ c.kept ∨ Carried watch sink useIdentity (file x) f') (xs : List α) {f' : LogFile}
    (h : f' ∈ (xs.foldl step c).kept) :
    f' ∈ c.kept ∨ ∃ f ∈ xs.map file, Carried watch sink useIdentity f f' := by
  induction xs generalizing c with
  | nil => exact .inl h
  | cons x xs ih =>
    rcases ih h with hmem | ⟨f, hf, hcarried⟩
    · exact (hstep c x f' hmem).imp_right fun hcarried => ⟨file x, by simp, hcarried⟩
    · exact .inr ⟨f, List.mem_cons_of_mem _ hf, hcarried⟩

/-- **What a cycle keeps are files of its resolution, which waited or were read.** -/
theorem mem_kept_run (sink : Sink) (useIdentity : Bool) (r : Resolution) {f' : LogFile}
    (h : f' ∈ (run watch sink useIdentity r c).kept) :
    f' ∈ c.kept ∨ ∃ f ∈ r.rotatedAway ++ r.files, Carried watch sink useIdentity f f' := by
  have hvisit (c : Cycle) (x : LogFile × Nat) : ∀ f' ∈ (visit watch sink useIdentity (r.files.length - 1) c
      x).kept, f' ∈ c.kept ∨ Carried watch sink useIdentity x.1 f' := by
    intro f' hf'
    obtain ⟨g, hg, hkept⟩ := kept_visit watch sink useIdentity (r.files.length - 1) c x
    rw [hkept, List.mem_append, List.mem_singleton] at hf'
    rcases hf' with hf' | rfl
    · exact .inl hf'
    · exact .inr hg
  have hdrain (c : Cycle) (x : LogFile) : ∀ f' ∈ (drain watch sink useIdentity c x).kept,
      f' ∈ c.kept ∨ Carried watch sink useIdentity x f' := by
    intro f' hf'
    rcases kept_drain watch sink useIdentity c x with hkept | ⟨g, hg, hkept⟩
    · exact .inl (hkept ▸ hf')
    · rw [hkept, List.mem_append, List.mem_singleton] at hf'
      rcases hf' with hf' | rfl
      · exact .inl hf'
      · exact .inr hg
  have hvisited := mem_kept_foldl (·.1) hvisit r.files.zipIdx h
  rw [List.zipIdx_map_fst] at hvisited
  rcases hvisited with hdrained | ⟨f, hf, hcarried⟩
  · have hdrained := mem_kept_foldl id hdrain r.rotatedAway hdrained
    rw [List.map_id] at hdrained
    exact hdrained.imp_right fun ⟨f, hf, hcarried⟩ => ⟨f, List.mem_append_left _ hf, hcarried⟩
  · exact .inr ⟨f, List.mem_append_right _ hf, hcarried⟩

end passes

end Cycle

end LogTail
