import LogTail.Proofs.CycleRun
import LogTail.Proofs.Processing

/-!
# What a cycle has to deliver

A stateless account of a cycle: the records of each file that rotated away, from where its reading stands
to its present end, and then those of each file of the scan up to its size. The last record of a file needs
no terminator, but for the file that is newest.

* `Watcher.process_reference`: on a still disk, for a receiver that accepts everything and limits that are
  not reached, this is what `Watcher.process` offers.
-/

namespace LogTail

namespace Watcher

/-! ## The reference -/

def recordsFrom (watch : Watcher) (finished : Bool) (f : LogFile) (content : Bytes) : List Record :=
  watch.splitter.records finished ⟨f.tailStart, f.skipping, content.drop f.tailStart⟩

/-- Whether the last path of a file still leads to it, and to no fewer bytes than were processed. -/
def canRead (watch : Watcher) (useIdentity : Bool) (d : Disk) (f : LogFile) : Bool :=
  match d.numberOf f.path with
  | .error _ => false
  | .ok n => watch.recognizes useIdentity d f n && f.processed ≤ d.size n

/-- The records of a file that rotated away up to its present end, if it can still be read. -/
def remainsOf (watch : Watcher) (useIdentity : Bool) (d : Disk) (f : LogFile) : List Record :=
  if watch.canRead useIdentity d f then watch.recordsFrom true f (d.bytesAt f.path) else []

/-- The records that a cycle has to look at: those of the files that rotated away, and then those of the
files of the scan, up to their sizes. -/
def reference (watch : Watcher) (useIdentity : Bool) (d : Disk) (r : Resolution) : List Record :=
  r.rotatedAway.flatMap (watch.remainsOf useIdentity d) ++ r.files.zipIdx.flatMap fun f =>
    watch.recordsFrom (f.2 < r.files.length - 1) f.1 ((d.bytesAt f.1.path).take f.1.size)

/-- The progress of a file is one that reading leaves, and if the file can be read its tail is what stands
there just before what was processed. -/
structure Fitting (watch : Watcher) (useIdentity : Bool) (d : Disk) (f : LogFile) : Prop
    extends f.Sound watch.splitter where
  within : f.processed ≤ f.size
  tail : watch.canRead useIdentity d f = true →
    ((d.bytesAt f.path).take f.processed).drop f.tailStart = f.tail

instance (watch : Watcher) (useIdentity : Bool) (d : Disk) (f : LogFile) :
    Decidable (watch.Fitting useIdentity d f) :=
  decidable_of_iff
    ((f.tail.length ≤ f.processed ∧ watch.splitter.encoding.terminator? f.tail = none ∧
      f.tail.length < if f.skipping then watch.splitter.encoding.unit else watch.splitter.longest) ∧
      f.processed ≤ f.size ∧ (watch.canRead useIdentity d f = true →
        ((d.bytesAt f.path).take f.processed).drop f.tailStart = f.tail))
    ⟨fun ⟨⟨h₁, h₂, h₃⟩, h₄, h₅⟩ => ⟨⟨h₁, h₂, h₃⟩, h₄, h₅⟩,
      fun ⟨⟨h₁, h₂, h₃⟩, h₄, h₅⟩ => ⟨⟨h₁, h₂, h₃⟩, h₄, h₅⟩⟩

section reference
variable {watch : Watcher} {useIdentity : Bool} {d : Disk} {f : LogFile}

theorem Fitting.cursor_eq (h : watch.Fitting useIdentity d f) (hread : watch.canRead useIdentity d f = true)
    {limit : Nat} (hlimit : f.processed ≤ limit) :
    f.cursor (d.bytesAt f.path) limit =
      ⟨f.tailStart, f.skipping, ((d.bytesAt f.path).take limit).drop f.tailStart⟩ := by
  have hstart := h.tailStart_add
  have htail := h.tail hread
  generalize d.bytesAt f.path = content at htail
  have hrest : ((content.take limit).drop f.tailStart).drop f.tail.length =
      (content.drop f.processed).take (limit - f.processed) := by
    rw [List.drop_drop, hstart, List.drop_take]
  have hfront : ((content.take limit).drop f.tailStart).take f.tail.length = f.tail := by
    rw [List.drop_take, List.take_take, Nat.min_eq_left (by omega)]
    rw [List.drop_take, show f.processed - f.tailStart = f.tail.length by omega] at htail
    exact htail
  have hall := List.take_append_drop f.tail.length ((content.take limit).drop f.tailStart)
  rw [hfront, hrest] at hall
  rw [LogFile.cursor, hall]

theorem records_nil (hpos : 0 < watch.config.maxRecordSize) {finished : Bool} {c : Cursor}
    (hrest : c.rest = []) : watch.splitter.records finished c = [] := by
  have hnone : watch.splitter.next? false c = none := by
    refine Splitter.next?_eq_none (by rw [hrest]; exact Encoding.terminator?_nil _) ?_
    have := watch.splitter.encoding.unit_pos
    rw [hrest]
    cases c.skipping with
    | false => exact hpos
    | true => exact this
  rw [Splitter.records, Splitter.split_none]
  cases finished with
  | false => exact hnone
  | true => exact Splitter.next?_finished_none hnone (.inr hrest)

theorem canRead_of_drainable? {g : LogFile} (h : watch.drainable? useIdentity d f = some g) :
    watch.canRead useIdentity d f = true := by
  unfold drainable? at h
  unfold canRead
  rcases hn : d.numberOf f.path with e | n
  · simp [hn] at h
  · simp only [hn, Option.ite_none_right_eq_some, Bool.and_eq_true] at h
    simp only [Bool.and_eq_true]
    exact h.1.1

/-- Only of a directory nothing is read although it is recognized. -/
theorem bytesAt_of_drainable?_none (h : watch.drainable? useIdentity d f = none)
    (hread : watch.canRead useIdentity d f = true) : d.bytesAt f.path = [] := by
  unfold drainable? at h
  unfold canRead at hread
  rcases hn : d.numberOf f.path with e | n
  · simp [hn] at hread
  simp only [hn] at hread
  simp only [hn, hread, ite_eq_right_iff, reduceCtorEq, imp_false, Bool.true_and, Bool.or_eq_true,
    Bool.not_eq_true', not_or, Bool.not_eq_false] at h
  simp [Disk.bytesAt, hn, h.1]

theorem pendingOf_eq (hpos : 0 < watch.config.maxRecordSize) (h : watch.Fitting useIdentity d f) :
    watch.pendingOf useIdentity d f = (watch.remainsOf useIdentity d f).map (f.path, ·) := by
  rcases hdrain : watch.drainable? useIdentity d f with _ | g
  · rw [pendingOf, hdrain, remainsOf]
    by_cases hread : watch.canRead useIdentity d f = true
    · have hnothing := bytesAt_of_drainable?_none hdrain hread
      rw [if_pos hread, recordsFrom, records_nil hpos (by rw [hnothing, List.drop_nil]), List.map_nil]
    · rw [if_neg hread, List.map_nil]
  · obtain ⟨n, hn, hg, hle, _⟩ := drainable?_some hdrain
    have hread := canRead_of_drainable? hdrain
    have hpath : g.path = f.path := by rw [hg]
    have hahead : g.ahead d = ⟨f.tailStart, f.skipping, (d.bytesAt f.path).drop f.tailStart⟩ := by
      have hcursor := h.cursor_eq hread hle
      have hall : (d.bytesAt f.path).take (d.size n) = d.bytesAt f.path := by
        apply List.take_of_length_le
        by_cases hdir : (d.node n).isDirectory = true <;> simp [Disk.bytesAt, hn, Disk.size, hdir]
      rw [hall] at hcursor
      rw [LogFile.ahead, hpath, ← hcursor, hg]
      rfl
    rw [pendingOf, hdrain, remainsOf, if_pos hread, recordsFrom]
    simp only
    rw [pendingIn, hahead, hpath]

theorem pendingIn_eq (h : watch.Fitting useIdentity d f) (hread : watch.canRead useIdentity d f = true)
    (finished : Bool) :
    watch.pendingIn d finished f =
      (watch.recordsFrom finished f ((d.bytesAt f.path).take f.size)).map (f.path, ·) := by
  rw [pendingIn, LogFile.ahead, h.cursor_eq hread h.within, recordsFrom]

theorem pending_eq_reference (useIdentity : Bool) (hpos : 0 < watch.config.maxRecordSize) {r : Resolution}
    (haway : ∀ f ∈ r.rotatedAway, watch.Fitting useIdentity d f)
    (hfiles : ∀ f ∈ r.files, watch.Fitting useIdentity d f ∧ watch.canRead useIdentity d f = true) :
    (watch.pending useIdentity d (r.files.length - 1) r.rotatedAway r.files.zipIdx).map (·.2) =
      watch.reference useIdentity d r := by
  rw [pending, List.map_append, reference]
  congr 1
  · rw [List.map_flatMap]
    apply List.flatMap_congr
    intro f hf
    rw [pendingOf_eq hpos (haway f hf), List.map_map]
    exact List.map_id' _
  · rw [pendingInAll, List.map_flatMap]
    apply List.flatMap_congr
    intro f hf
    obtain ⟨hfitting, hread⟩ := hfiles f.1 (List.mem_of_getElem? (List.mem_zipIdx_iff_getElem?.1 hf))
    rw [pendingIn_eq hfitting hread, List.map_map]
    exact List.map_id' _

end reference

/-! ## A cycle on a still disk -/

section process
variable {config : WatchConfig} {watch : Watcher} {d : Disk} {w : World} {state : WatchState}
  {candidates : List Candidate}

theorem matchesHead_of (head : Bytes) : (Digest.of head).matchesHead head = true := by
  simp [Digest.matchesHead, Digest.of]

theorem canRead_of_mem_files (hwindow : watch.matcher.window = watch.config.digestWindow)
    (hfound : watch.matcher.found d = .ok candidates) {f : LogFile}
    (hf : f ∈ (watch.resolution state candidates).files) (hwithin : f.processed ≤ f.size)
    (useIdentity : Bool) : watch.canRead useIdentity d f = true := by
  obtain ⟨c, hc, hpath, _, hid, hsize, hdigest⟩ := Resolution.exists_describes hf
  obtain ⟨n, hn, hfile, _, hnumber, hlength, hhead⟩ := Disk.candidate?_eq_some
    (Matcher.candidate?_of_found hfound hc)
  have hrecognized : watch.recognizes useIdentity d f n = true := by
    cases useIdentity with
    | true => simp [recognizes, hid, hnumber]
    | false =>
      simp only [recognizes, Bool.false_eq_true, if_false, hfile.readAt, List.drop_zero, ← hwindow,
        ← hhead, hdigest, matchesHead_of]
  rw [canRead, hpath, hn]
  simp only [hrecognized, hfile.size, Bool.true_and, decide_eq_true_eq]
  omega

/-- **A cycle delivers what the reference says**: the disk does not change, the receiver accepts
everything, and the limits are not reached. -/
theorem process_reference (hconfig : Watcher.ofConfig config = .ok watch) (hdelay : config.maxDelay = none)
    (time : CycleTime) (state : WatchState) {w' : World} {scan : Scan} (hw : w.Still d)
    (hscan : watch.matcher.scan w = (.ok scan, w'))
    (hfitting : ∀ f ∈ (watch.resolution state scan.candidates).files ++
      (watch.resolution state scan.candidates).rotatedAway, watch.Fitting state.useIdentity d f)
    (hprocessed : (watch.reference state.useIdentity d
      (watch.resolution state scan.candidates)).length < config.maxProcessed)
    (hsent : ((watch.reference state.useIdentity d
      (watch.resolution state scan.candidates)).filterMap watch.value?).length < config.maxSent) :
    ∃ result, watch.process .acceptAll time state w = .ok result ∧
      result.offers.map (·.delivery.value) = (watch.reference state.useIdentity d
        (watch.resolution state scan.candidates)).filterMap watch.value? ∧
      ∀ o ∈ result.offers, o.accepted = true := by
  obtain ⟨hwatch, hbounded, hwindow⟩ := ofConfig_ok hconfig
  have hchunk : 0 < watch.config.chunkSize := hwatch ▸ hbounded.chunk_pos
  have hmax : watch.config.chunkSize ≤ watch.config.maxRecordSize := hwatch ▸ hbounded.chunk_le
  obtain ⟨hfound, _⟩ := found_of_scan hw hscan
  obtain ⟨result, c, w'', hw'', hprocess, hran⟩ := process_still .acceptAll time state hw hfound
  have hfiles := fun f hf => hfitting f (List.mem_append_left _ hf)
  have haway := fun f hf => hfitting f (List.mem_append_right _ hf)
  have hequal := pending_eq_reference state.useIdentity (Nat.lt_of_lt_of_le hchunk hmax)
    haway fun f hf => ⟨hfiles f hf, canRead_of_mem_files (hwatch ▸ hwindow) hfound hf
      (hfiles f hf).within state.useIdentity⟩
  obtain ⟨rs, away, files, hruns⟩ := hran.runs hchunk hmax hw'' hfound fun f hf =>
    (hfitting f (List.mem_append.2 (List.mem_append.1 hf).symm)).toSound
  generalize watch.resolution state scan.candidates = r at *
  have hvalues := watch.deliveries_values rs
  -- what was taken is a part of what is pending, so no limit was reached
  have htaken : rs.map (·.2) <+: watch.reference state.useIdentity d r := hequal ▸ hruns.taken.map (·.2)
  have hgoes : c.halted = false := by
    have hlength := htaken.length_le
    have hlength' := (htaken.filterMap watch.value?).length_le
    rw [List.length_map] at hlength
    rw [← hvalues, List.length_map] at hlength'
    apply hruns.not_halted
    rw [hruns.emits.budget]
    refine Budget.not_exhausted ?_ ?_ ?_
    · show 0 + (watch.deliveries rs).length < watch.config.maxSent
      rw [hwatch]
      omega
    · show 0 + rs.length < watch.config.maxProcessed
      rw [hwatch]
      omega
    · exact (congrArg WatchConfig.maxDelay hwatch).trans hdelay
  have hall : rs.map (·.2) = watch.reference state.useIdentity d r := by
    rw [← hequal, (hruns.through hgoes).2]
  have hlog := hran.log hruns
  refine ⟨result, hprocess, ?_, watch.accepted_of_log hlog⟩
  calc result.offers.map (·.delivery.value)
      = (watch.deliveries rs).map (·.2.2.1) := by rw [← hlog, List.map_map]; rfl
    _ = (rs.map (·.2)).filterMap watch.value? := hvalues
    _ = (watch.reference state.useIdentity d r).filterMap watch.value? := by rw [hall]

end process

/-! A file that rotated away with a tail of one byte, and a new file with a last record that may go on. -/

/-- A watch on one file, with expressions and a template. -/
def sampleConfig : WatchConfig where
  kind := .single
  pattern := "/log"
  includes := ["(.)", "[a-c]"]
  excludes := ["b"]
  template := some "<\\1>"
  chunkSize := 4
  maxRecordSize := 8

def sampleWatch : Watcher := (Watcher.ofConfig sampleConfig).toOption.get (by decide +kernel)

theorem ofConfig_sampleConfig : Watcher.ofConfig sampleConfig = .ok sampleWatch := by
  have hsome : (Watcher.ofConfig sampleConfig).toOption = some sampleWatch := (Option.some_get _).symm
  rcases hconfig : Watcher.ofConfig sampleConfig with e | watch
  · rw [hconfig] at hsome
    cases hsome
  · rw [hconfig] at hsome
    exact congrArg Except.ok (Option.some.inj hsome)

/-- The file `old` holds two records, of which the last has no end, and so does the file `log`. -/
def sampleDisk : Disk :=
  { nodes := [(0, ⟨[], ⟨0, 0⟩, true⟩), (1, ⟨[0x61, 0x0a, 0x62], ⟨5, 0⟩, false⟩),
      (2, ⟨[0x63, 0x0a, 0x64], ⟨7, 0⟩, false⟩)]
    entries := [([[0x6f, 0x6c, 0x64]], .file 1), ([[0x6c, 0x6f, 0x67]], .file 2)]
    nextNumber := 3
    here := [] }

def sampleState : WatchState :=
  { useIdentity := true
    files := [{ path := .ofText "/old", mtime := 5, id := .ofNumber 1, size := 1, processed := 1,
                digest := .empty, seq := 0, incomplete := true, tail := [0x61] }] }

/-- The record `b` is excluded, and the record `d` may go on. -/
theorem process_reference_sample :
    ∃ result, sampleWatch.process .acceptAll {} sampleState (.quiet sampleDisk) = .ok result ∧
      result.offers.map (·.delivery.value) = ["<a>", "<c>"] ∧ ∀ o ∈ result.offers, o.accepted = true := by
  have hscan : ∃ w, sampleWatch.matcher.scan (.quiet sampleDisk) =
      (.ok ⟨[⟨.ofText "/log", 3, 7, .ofNumber 2, [0x63, 0x0a, 0x64]⟩], []⟩, w) := ⟨_, rfl⟩
  obtain ⟨w', hscan⟩ := hscan
  have hreference := process_reference ofConfig_sampleConfig rfl {} sampleState (World.still_quiet sampleDisk)
    hscan (by decide +kernel) (by decide +kernel) (by decide +kernel)
  have hvalues : (sampleWatch.reference sampleState.useIdentity sampleDisk
      (sampleWatch.resolution sampleState [⟨.ofText "/log", 3, 7, .ofNumber 2, [0x63, 0x0a, 0x64]⟩])).filterMap
        sampleWatch.value? = ["<a>", "<c>"] := by decide +kernel
  rwa [hvalues] at hreference

end Watcher

end LogTail
