import LogTail.Proofs.CycleRun
import LogTail.Proofs.Growth
import LogTail.Proofs.Loss

/-!
# Cycles that lose a record

A watch on one file, where a cut may end inside a tail. A cycle keeps all but one byte of the longest record
as tail; when the file has grown, the next one cuts the record and halts. What the third finds depends on
where the second left the offset.

* `Watcher.process_one`: a cycle that finds one file reads that file, and nothing else happens.
* `Watcher.readFile_cut`: the reading that cuts the record, and where it leaves the file.
* `Watcher.exists_lossy_cycles`: the three cycles, of which the last meets no record.
* `Watcher.exists_whole_cycle`: one cycle in their place, which meets both records.
-/

namespace LogTail

/-- A configuration with options for cutting records. -/
structure WatchConfig.CutsBy (encoding : Encoding) (chunkSize maxRecordSize : Nat) (c : WatchConfig) :
    Prop where
  encoding : c.encoding = encoding
  chunkSize : c.chunkSize = chunkSize
  maxRecordSize : c.maxRecordSize = maxRecordSize

/-- A budget for a number of records and any time, of which some records were taken. -/
structure Budget.Counts (limit count : Nat) (b : Budget) : Prop where
  maxSent : b.maxSent = limit
  maxProcessed : b.maxProcessed = limit
  maxDelay : b.maxDelay = none
  sent : b.sent = count
  processed : b.processed = count

theorem Budget.Counts.not_exhausted {limit count : Nat} {b : Budget} (h : b.Counts limit count) (hlt : count < limit) :
    b.exhausted = false :=
  Budget.not_exhausted (by rwa [h.sent, h.maxSent]) (by rwa [h.processed, h.maxProcessed]) h.maxDelay

theorem Budget.Counts.exhausted {limit : Nat} {b : Budget} (h : b.Counts limit limit) : b.exhausted = true := by
  simp [Budget.exhausted, h.sent, h.maxSent]

namespace Watcher

/-! ## One file -/

/-- The result of a cycle that reads one file. -/
structure ReadOne (watch : Watcher) (sink : Sink) (time : CycleTime) (f : LogFile) (w : World)
    (result : CycleResult) : Prop where
  files : result.state.files =
    Resolution.renumber 0 [(watch.readFile sink true false ⟨f, watch.opening time, w⟩).2.file]
  offers : result.offers =
    (watch.readFile sink true false ⟨f, watch.opening time, w⟩).2.tracker.offers.reverse
  budget : result.report.sent =
      (watch.readFile sink true false ⟨f, watch.opening time, w⟩).2.tracker.budget.sent ∧
    result.report.processed =
      (watch.readFile sink true false ⟨f, watch.opening time, w⟩).2.tracker.budget.processed
  plain : Resolution.Plain result.state

section one
variable {watch : Watcher} {sink : Sink} {d : Disk} {w : World} {state : WatchState} {c : Candidate}

theorem process_one (sink : Sink) (time : CycleTime)
    (hgrow : Resolution.Growing watch.config.rotation state [c])
    (hcopies : watch.config.rotation.detectsCopies = false) (hfound : watch.matcher.found d = .ok [c])
    (hw : w.Still d) :
    ∃ f w' result, w'.Still d ∧ f.Opens d true (d.bytesAt c.path) ∧ f.Describes c ∧
      ((∃ old ∈ state.files, old.id = c.id ∧ ∃ seq, f = Resolution.continueFile old c seq false) ∨
        ((∀ old ∈ state.files, old.id ≠ c.id) ∧ ∃ seq, f = Resolution.track c seq)) ∧
      watch.process sink time state w = .ok result ∧ watch.ReadOne sink time f w' result := by
  obtain ⟨result, cycle, w', hw', hprocess, hran⟩ := process_still sink time state hw hfound
  have hlength : (watch.resolution state [c]).files.length = 1 := Resolution.length_files ..
  obtain ⟨f, hfiles⟩ := List.length_eq_one_iff.1 hlength
  have haway : (watch.resolution state [c]).rotatedAway = [] := hgrow.rotatedAway _
  have hopens := opens_of_mem_files hfound (f := f) (by rw [hfiles]; simp) true
  have hf : (watch.resolution state [c]).files[0]? = some f := by rw [hfiles]; rfl
  obtain ⟨c', hc', horigin⟩ := Resolution.origin_of_files hf
  obtain rfl : c = c' := Option.some.inj hc'
  have hdescribes := horigin.describes
  rw [hdescribes.path] at hopens
  refine ⟨f, w', result, hw', hopens, hdescribes, Resolution.resolve_growing hgrow hcopies hf rfl,
    hprocess, ?_⟩
  have hafter : Cycle.AfterReading _ true _ _ _
      (Cycle.visit watch sink true 0 { tracker := watch.opening time, world := w' } (f, 0)) :=
    Cycle.visit_reads rfl rfl
  have hcycle : cycle = Cycle.visit watch sink true 0 { tracker := watch.opening time, world := w' }
      (f, 0) := by
    rw [hran.run, hgrow.plain.identity, Cycle.run, haway, hfiles]
    rfl
  rw [← hcycle] at hafter
  have htracker := hafter.tracker
  refine ⟨?_, ?_, ⟨?_, ?_⟩, ?_⟩
  · rw [hran.state]
    exact congrArg (Resolution.renumber 0) hafter.kept_of_scan
  · rw [hran.offers, htracker]
    rfl
  · rw [hran.sent, htracker]
    rfl
  · rw [hran.processed, htracker]
    rfl
  · rw [hran.state]
    apply hgrow.plain.nextState
    intro hnone
    rw [hafter.kept_of_scan] at hnone
    cases hnone

end one

/-! ## Readings -/

section readings
variable {watch : Watcher} {sink : Sink} {d : Disk} {content : Bytes} {useIdentity : Bool} {s : Reading}

theorem readEvents_spent (watch : Watcher) (sink : Sink) (finished : Bool) (fuel : Nat) (r : Reader)
    (h : s.tracker.budget.exhausted = true) : (watch.readEvents sink finished fuel s r).2 = s := by
  cases fuel with
  | zero => rfl
  | succ fuel => rw [readEvents, if_pos h]

theorem readEvents_cut {finished : Bool} {fuel : Nat} {r r' : Reader} {w : World} {start stop : Nat} {bytes : Bytes}
    {s' : Reading} (hspent : ¬ s.tracker.budget.exhausted = true)
    (hnext : r.next s.world = (.ok (some (.record start stop bytes true)), r', w))
    (hconsume : watch.consume sink { s.tested with world := w } bytes stop = (.consumed, s')) :
    watch.readEvents sink finished (fuel + 1) s r =
      watch.readEvents sink finished fuel { s' with file := { s'.file with skipping := true } } r' := by
  rw [readEvents, if_neg hspent, hnext]
  simp only [hconsume, if_true]

theorem readFile_nothing (watch : Watcher) (sink : Sink) (useIdentity : Bool)
    (hchunk : 0 < watch.config.chunkSize) (hmax : watch.config.chunkSize ≤ watch.config.maxRecordSize)
    (hw : s.world.Still d) (hopens : s.file.Readable d useIdentity content)
    (hsound : s.file.Sound watch.splitter) (hbudget : s.tracker.budget.Counts 1 0)
    (hbehind : watch.splitter.CutsBehind (s.file.cursor content s.file.size) s.file.tail)
    (hnone : watch.splitter.records false (s.file.cursor content s.file.size) = []) :
    ∃ c s', (watch.readFile sink useIdentity false s).2 = s' ∧ s'.tracker.offers = s.tracker.offers ∧
      s'.tracker.budget.Counts 1 0 ∧ s.file.SameAs s'.file ∧ s'.file.Sound watch.splitter ∧
      watch.splitter.Leads false (s.file.cursor content s.file.size) [] c ∧
      watch.splitter.next? false c = none ∧ s'.file.cursor content s'.file.size = c ∧
      s'.file.tail = c.rest := by
  have hreads := readFile_spec watch sink useIdentity false hchunk hmax hw hopens hsound
  rcases hresult : watch.readFile sink useIdentity false s with ⟨outcome, s'⟩
  rw [hresult] at hreads
  have hempty {rs : List Record} {c : Cursor}
      (hleads : watch.splitter.Leads false (s.file.cursor content s.file.size) rs c) : rs = [] := by
    have hall := hleads.records_eq
    rw [hnone] at hall
    exact (List.append_eq_nil_iff.1 hall.symm).1
  have hcounts {t : Tracker} (haccounts : watch.Accounts s.file s.tracker [] t) : t.budget.Counts 1 0 := by
    rw [haccounts.budget]
    exact ⟨hbudget.maxSent, hbudget.maxProcessed, hbudget.maxDelay, hbudget.sent, hbudget.processed⟩
  cases hreads with
  | ended _ htook hlast htail =>
    obtain rfl := hempty htook.leads
    obtain ⟨hsound', hcursor⟩ := htook.follows hbehind hsound rfl
    exact ⟨_, s', rfl, htook.accounts.offers, hcounts htook.accounts, htook.same, hsound', htook.leads,
      hlast, hcursor, htail⟩
  | budget htook hdone =>
    obtain rfl := hempty htook.leads
    rw [(hcounts htook.accounts).not_exhausted Nat.zero_lt_one] at hdone
    cases hdone
  | rejected htook hnext =>
    have := hempty (htook.leads.trans (.single hnext))
    simp at this

theorem readFile_all (watch : Watcher) (useIdentity finished : Bool) (hchunk : 0 < watch.config.chunkSize)
    (hmax : watch.config.chunkSize ≤ watch.config.maxRecordSize) (hw : s.world.Still d)
    (hopens : s.file.Readable d useIdentity content) (hsound : s.file.Sound watch.splitter)
    {rs : List Record} (hall : watch.splitter.records finished (s.file.cursor content s.file.size) = rs)
    {limit : Nat} (hbudget : s.tracker.budget.Counts limit 0) (hroom : rs.length < limit) :
    ∃ s', (watch.readFile .acceptAll useIdentity finished s).2 = s' ∧
      watch.Accounts s.file s.tracker rs s'.tracker := by
  have hreads := readFile_spec watch .acceptAll useIdentity finished hchunk hmax hw hopens hsound
  rcases hresult : watch.readFile .acceptAll useIdentity finished s with ⟨outcome, s'⟩
  rw [hresult] at hreads
  cases hreads with
  | ended _ htook hlast =>
    obtain rfl := (htook.leads.eq_of_next?_none hlast).1.symm.trans hall
    exact ⟨s', rfl, htook.accounts⟩
  | @budget rs' _ _ htook hspent =>
    have hle : rs'.length ≤ rs.length := by
      rw [← hall, htook.leads.records_eq, List.length_append]
      exact Nat.le_add_right ..
    have hle' : (rs'.filterMap watch.value?).length ≤ rs'.length := List.length_filterMap_le ..
    have hgoes : s'.tracker.budget.exhausted = false := by
      rw [htook.accounts.budget]
      obtain ⟨hsent, hprocessed, hdelay, hsent', hprocessed'⟩ := hbudget
      refine Budget.not_exhausted ?_ ?_ hdelay
      · show s.tracker.budget.sent + (rs'.filterMap watch.value?).length < s.tracker.budget.maxSent
        omega
      · show s.tracker.budget.processed + rs'.length < s.tracker.budget.maxProcessed
        omega
    cases hgoes.symm.trans hspent
  | rejected _ _ _ hrefused => cases hrefused

/-- **The reading that cuts a record** and then halts: the offset passes the cut, and no tail is left. -/
theorem readFile_cut (hs : ¬ watch.splitter.CutsBehindTails) (sink : Sink) (useIdentity : Bool)
    (hchunk : 0 < watch.config.chunkSize) (hmax : watch.config.chunkSize ≤ watch.config.maxRecordSize)
    (hw : s.world.Still d) (hopens : s.file.Readable d useIdentity watch.splitter.lostContent)
    (hsound : s.file.Sound watch.splitter) (hgrown : s.file.processed < s.file.size)
    (hcursor : s.file.cursor watch.splitter.lostContent s.file.size = .start watch.splitter.lostContent)
    (hone : s.tracker.budget.Counts 1 0) (hvalue : ∀ r, ∃ value, watch.value? r = some value)
    (haccepts : ∀ o, sink s.tracker.offers.length o = true) :
    ∃ s' delivery, (watch.readFile sink useIdentity false s).2 = s' ∧
      s'.tracker.offers = ⟨delivery, true⟩ :: s.tracker.offers ∧
      s'.tracker.budget.Counts 1 1 ∧
      s'.file = { s.file.passed (watch.splitter.encoding.alignDown watch.splitter.longest) true with
        retry := 0 } := by
  obtain ⟨number, w', hopen, hw', hfile⟩ :=
    hopens.openFile (o := readerOptions watch.config useIdentity) hw
  have hfits := hsound.fits (o := readerOptions watch.config useIdentity) hchunk hmax number
  have hmore : ¬ (s.file.unread = 0 && !(false && s.file.hasFinalTail)) = true := by
    have : s.file.size - s.file.processed ≠ 0 := by omega
    simp [LogFile.unread, this]
  have hspent : ¬ s.tracker.budget.exhausted = true := by
    rw [hone.not_exhausted Nat.zero_lt_one]
    decide
  have hone' : s.tested.tracker.budget.Counts 1 0 :=
    ⟨hone.maxSent, hone.maxProcessed, hone.maxDelay, hone.sent, hone.processed⟩
  have hspent' : ¬ s.tested.tracker.budget.exhausted = true := by
    rw [hone'.not_exhausted Nat.zero_lt_one]
    decide
  rw [readFile, if_neg hmore, if_neg hspent, hopen]
  dsimp only
  obtain ⟨start, bytes, r', w'', hw'', hnext⟩ := Reader.next_lost
    (r := Reader.ofFile (readerOptions watch.config useIdentity) s.file number) hs hfile hw' hfits hcursor
  replace hnext : (Reader.ofFile (readerOptions watch.config useIdentity) s.file number).next w' =
    (.ok (some (.record start (watch.splitter.encoding.alignDown watch.splitter.longest) bytes true)),
      r', w'') := hnext
  rcases consume_spec (s := { s.tested.tested with world := w'' }) watch sink hw''
      ⟨start, watch.splitter.encoding.alignDown watch.splitter.longest, bytes, true⟩ with
    ⟨s₁, hconsume, _, haccounts, hfile₁⟩ | ⟨_, _, _, _, _, hrefused⟩
  · obtain ⟨value, hleft⟩ :=
      hvalue ⟨start, watch.splitter.encoding.alignDown watch.splitter.longest, bytes, true⟩
    have hbudget : s₁.tracker.budget.Counts 1 1 := by
      rw [haccounts.budget]
      exact ⟨hone.maxSent, hone.maxProcessed, hone.maxDelay, by simp [hleft, Reading.tested, Tracker.tested, hone.sent],
        by simp [Reading.tested, Tracker.tested, hone.processed]⟩
    obtain ⟨delivery, hoffers⟩ : ∃ delivery, s₁.tracker.offers = ⟨delivery, true⟩ :: s.tracker.offers := by
      rw [haccounts.offers]
      simp [offersOf_singleton, hleft]
    rw [readEvents_cut (s := { s.tested with world := w' }) hspent' hnext hconsume]
    refine ⟨_, delivery, readEvents_spent watch sink false _ r' hbudget.exhausted, hoffers, hbudget, ?_⟩
    · rw [hfile₁]
      simp [LogFile.passed, hleft]
  · cases hrefused.symm.trans (haccepts _)

end readings

/-! ## A watch on one file -/

/-- A watch on the files of the directory `log` with an `a` in their names, which takes one record in a
cycle. -/
def rotatedConfig (encoding : Encoding) (chunkSize maxRecordSize : Nat) : WatchConfig :=
  { pattern := "/log/a", encoding := encoding, chunkSize := chunkSize, maxRecordSize := maxRecordSize,
    maxSent := 1, maxProcessed := 1 }

def rotatedWatch (encoding : Encoding) (chunkSize maxRecordSize : Nat) : Watcher :=
  ⟨rotatedConfig encoding chunkSize maxRecordSize,
    ⟨.rotated (.ofText "/log") ((Pattern.compile? "a").get rfl), 512⟩, ⟨[], [], none⟩⟩

def rotatedDisk (name content : Bytes) : Disk :=
  { nodes := [(0, ⟨[], ⟨0, 0⟩, true⟩), (1, ⟨[], ⟨0, 0⟩, true⟩), (2, ⟨content, ⟨0, 0⟩, false⟩)]
    entries := [([[0x6c, 0x6f, 0x67]], .directory 1), ([[0x6c, 0x6f, 0x67], name], .file 2)]
    nextNumber := 3
    here := [] }

def rotatedPath : Path := ⟨[0x2f, 0x6c, 0x6f, 0x67, 0x2f, 0x61]⟩

def rotatedCandidate (content : Bytes) : Candidate :=
  ⟨rotatedPath, content.length, 0, FileId.ofNumber 2, content.take 512⟩

section rotated
variable {e : Encoding} {chunk longest : Nat} {content old : Bytes} {state : WatchState} {f : LogFile}

theorem ofConfig_rotated (e : Encoding) (hchunk : 0 < chunk) (hmax : chunk ≤ longest) :
    Watcher.ofConfig (rotatedConfig e chunk longest) = .ok (rotatedWatch e chunk longest) := by
  have hpattern : (rotatedConfig e chunk longest).checkPattern = .ok () := by
    simp only [WatchConfig.checkPattern, rotatedConfig, show "/log/a".isEmpty = false by decide]
    rfl
  have hlimits : (rotatedConfig e chunk longest).checkLimits = .ok () := by
    have hzero : chunk ≠ 0 := by omega
    simp only [WatchConfig.checkLimits, rotatedConfig, require, hmax, ne_eq, hzero]
    rfl
  have hmatcher : Matcher.ofConfig (rotatedConfig e chunk longest) =
      .ok (rotatedWatch e chunk longest).matcher := by
    unfold Matcher.ofConfig
    simp only [rotatedConfig, show splitPattern "/log/a" = .ok ("/log", "a") by decide +kernel]
    rfl
  rw [Watcher.ofConfig, WatchConfig.validate, hpattern, hlimits, hmatcher]
  rfl

theorem found_rotated (content : Bytes) : (rotatedWatch e chunk longest).matcher.found
    (rotatedDisk [0x61] content) = .ok [rotatedCandidate content] := by
  have hlist : (rotatedDisk [0x61] content).list (.ofText "/log") = .ok [[0x61]] := rfl
  have hmatch : ((Pattern.compile? "a").get rfl).isMatch (Text.Utf8.decodeLossy [0x61]) = true := by
    decide +kernel
  have hpath : (Path.ofText "/log").join [0x61] = rotatedPath := rfl
  have hcandidate : (rotatedDisk [0x61] content).candidate? 512 rotatedPath =
      some (rotatedCandidate content) := rfl
  simp only [rotatedWatch, Matcher.found, hlist, List.filterMap_cons, List.filterMap_nil,
    Matcher.candidateNamed?, hmatch, hpath, hcandidate, if_true, List.mergeSort_singleton]

theorem files_rotated (content : Bytes) : (rotatedWatch e chunk longest).matcher.files
    (rotatedDisk [0x61] content) = [rotatedCandidate content] := by
  rw [Matcher.files, found_rotated]

theorem rotatedDisk_proper (content : Bytes) : (rotatedDisk [0x61] content).Proper where
  places := by
    show ([[[0x6c, 0x6f, 0x67]], [[0x6c, 0x6f, 0x67], [0x61]]] : List (List Bytes)).Nodup
    decide
  names := by
    intro e he name hname
    rw [rotatedDisk, List.mem_cons, List.mem_singleton] at he
    rcases he with rfl | rfl
    · obtain rfl : [0x6c, 0x6f, 0x67] = name := by simpa using hname
      exact ⟨by decide, by decide, by decide, by decide⟩
    · obtain rfl : [0x61] = name := by simpa using hname
      exact ⟨by decide, by decide, by decide, by decide⟩

theorem value?_rotated (r : Record) : (rotatedWatch e chunk longest).value? r = some (e.decode r.bytes) :=
  rfl

theorem length_values_rotated (rs : List Record) :
    (rs.filterMap (rotatedWatch e chunk longest).value?).length = rs.length := by
  rw [List.filterMap_congr fun r _ => value?_rotated r, List.filterMap_eq_map', List.length_map]

/-- A state with one tracked file, which was last seen with the beginning of a content. -/
structure Tracked (content : Bytes) (state : WatchState) (f : LogFile) : Prop where
  plain : Resolution.Plain state
  files : state.files = [f]
  id : f.id = FileId.ofNumber 2
  seen : f.Seen 512 content

/-- A file where a tracked one stood, as a scan found it. -/
structure Goes (content : Bytes) (f g : LogFile) : Prop where
  describes : g.Describes (rotatedCandidate content)
  processed : g.processed = f.processed
  tail : g.tail = f.tail
  skipping : g.skipping = f.skipping

theorem Tracked.process_one (h : Tracked old state f) (watch : Watcher) (hbegins : old <+: content)
    (hmatcher : watch.matcher = (rotatedWatch e chunk longest).matcher)
    (hcopies : watch.config.rotation.detectsCopies = false) (sink : Sink) :
    ∃ g w result, Goes content f g ∧ w.Still (rotatedDisk [0x61] content) ∧
      g.Opens (rotatedDisk [0x61] content) true content ∧
      watch.process sink {} state (.quiet (rotatedDisk [0x61] content)) = .ok result ∧
      watch.ReadOne sink {} g w result := by
  have hgrow : Resolution.Growing watch.config.rotation state [rotatedCandidate content] := by
    refine ⟨h.plain, ?_, List.nodup_singleton _, ?_, ?_⟩
    · rw [h.files]
      exact List.nodup_singleton _
    · rw [h.files]
      simp [h.id, rotatedCandidate]
    · rw [h.files]
      simp only [List.mem_singleton]
      rintro _ rfl _ rfl _
      exact (h.seen.grow hbegins).not_truncated _ rfl rfl
  obtain ⟨g, w, result, hw, hopens, hdescribes, horigin, hprocess, hread⟩ := Watcher.process_one sink {}
    hgrow hcopies (by rw [hmatcher]; exact found_rotated content) (World.still_quiet _)
  refine ⟨g, w, result, ?_, hw, hopens, hprocess, hread⟩
  rcases horigin with ⟨old, hold, _, seq, rfl⟩ | ⟨hnew, _⟩
  · rw [h.files, List.mem_singleton] at hold
    subst hold
    exact ⟨hdescribes, rfl, rfl, rfl⟩
  · exact absurd h.id (hnew f (by simp [h.files]))

theorem ReadOne.tracked {watch : Watcher} {sink : Sink} {time : CycleTime} {w : World} {g : LogFile}
    {result : CycleResult} {s : Reading} (h : watch.ReadOne sink time g w result)
    (hs : (watch.readFile sink true false ⟨g, watch.opening time, w⟩).2 = s) (hsame : g.SameAs s.file)
    (hdescribes : g.Describes (rotatedCandidate content)) (hwithin : s.file.processed ≤ content.length) :
    Tracked content result.state { s.file with seq := 0, copyOf := none } := by
  have hsize : s.file.size = content.length := hsame.size.trans hdescribes.size
  refine ⟨h.plain, ?_, hsame.id.trans hdescribes.id, ?_, content, List.prefix_rfl, hsize, ?_⟩
  · rw [h.files, hs]
    rfl
  · show s.file.processed ≤ s.file.size
    rwa [hsize]
  · rw [LogFile.SameAs] at hsame
    rw [hsame]
    exact hdescribes.digest

end rotated

/-! ## A record that is cut, and lost -/

section lossy
variable {e : Encoding} {chunk longest : Nat} {state : WatchState} {f : LogFile} (hchunk : 0 < chunk)
  (hmax : chunk ≤ longest)

def shortDisk (longest : Nat) : Disk := rotatedDisk [0x61] (List.replicate (longest - 1) 0)

def longDisk (e : Encoding) (longest : Nat) : Disk :=
  rotatedDisk [0x61] (⟨e, longest⟩ : Splitter).lostContent

include hchunk hmax

/-- The first cycle keeps what the file holds as tail. -/
theorem exists_first_cycle : ∃ result f,
    (rotatedWatch e chunk longest).process .acceptAll {} (.fresh false) (.quiet (shortDisk longest)) =
      .ok result ∧ result.offers = [] ∧ Tracked (List.replicate (longest - 1) 0) result.state f ∧
      f.AlmostRead longest := by
  have hpos : 0 < longest := by omega
  have hgrow : Resolution.Growing (rotatedWatch e chunk longest).config.rotation (.fresh false)
      [rotatedCandidate (List.replicate (longest - 1) 0)] :=
    ⟨⟨rfl, rfl, rfl⟩, List.nodup_nil, List.nodup_singleton _, by simp [WatchState.fresh],
      by simp [WatchState.fresh]⟩
  obtain ⟨f, w, result, hw, hopens, hdescribes, horigin, hprocess, hread⟩ :=
    process_one .acceptAll {} hgrow rfl (found_rotated _) (World.still_quiet _)
  have hstart : f.processed = 0 ∧ f.tail = [] ∧ f.skipping = false := by
    rcases horigin with ⟨old, hold, _⟩ | ⟨_, seq, rfl⟩
    · simp [WatchState.fresh] at hold
    · exact ⟨rfl, rfl, rfl⟩
  obtain ⟨hprocessed, htail, hskip⟩ := hstart
  have hcursor : f.cursor (List.replicate (longest - 1) 0) f.size =
      .start (List.replicate (longest - 1) 0) := by
    have hsize : f.size = (List.replicate (longest - 1) (0 : UInt8)).length := hdescribes.size
    rw [hsize, LogFile.cursor_length, LogFile.tailStart, hprocessed, htail, hskip]
    rfl
  have hnone : (rotatedWatch e chunk longest).splitter.next? false
      (.start (List.replicate (longest - 1) 0)) = none := by
    refine Splitter.next?_eq_none (Encoding.terminator?_zeros ..) ?_
    show (List.replicate (longest - 1) (0 : UInt8)).length < longest
    rw [List.length_replicate]
    omega
  have hsound : f.Sound (rotatedWatch e chunk longest).splitter := by
    refine ⟨?_, ?_, ?_⟩
    · rw [htail]
      exact Nat.zero_le _
    · rw [htail, Encoding.terminator?_nil]
    · rw [htail, hskip]
      exact hpos
  obtain ⟨c, s, hs, hoffers, _, hsame, hsound', hleads, hlast, hend, htail'⟩ := readFile_nothing
    (s := ⟨f, (rotatedWatch e chunk longest).opening {}, w⟩) (rotatedWatch e chunk longest) .acceptAll true
    hchunk hmax hw hopens.readable hsound ⟨rfl, rfl, rfl, rfl, rfl⟩ (fun _ => .inr (by simp [htail]))
    (by rw [Splitter.records]; exact congrArg Prod.fst (Splitter.split_none (hcursor ▸ hnone)))
  have hc : c = .start (List.replicate (longest - 1) 0) := by
    have hstays := (hleads.eq_of_next?_none hlast).2
    rw [Splitter.last, Splitter.split_none (hcursor ▸ hnone)] at hstays
    exact hstays.symm.trans hcursor
  rw [hc] at hend htail'
  have hprocessed' : s.file.processed = longest - 1 := by
    have hadd := hsound'.tailStart_add
    rw [show s.file.tailStart = 0 from congrArg Cursor.offset hend, htail'] at hadd
    simpa [Cursor.start] using hadd.symm
  refine ⟨result, _, hprocess, ?_, hread.tracked hs hsame hdescribes ?_, hprocessed', htail', ?_⟩
  · rw [hread.offers, hs, hoffers]
    rfl
  · exact Nat.le_of_eq (hprocessed'.trans List.length_replicate.symm)
  · exact congrArg Cursor.skipping hend

/-- The second cycle cuts the record, and halts. -/
theorem exists_second_cycle (h : ¬ (rotatedWatch e chunk longest).splitter.CutsBehindTails)
    (htracked : Tracked (List.replicate (longest - 1) 0) state f)
    (halmost : f.AlmostRead longest) : ∃ result delivery g,
    (rotatedWatch e chunk longest).process .acceptAll {} state (.quiet (longDisk e longest)) = .ok result ∧
      result.offers = [⟨delivery, true⟩] ∧ result.report.sent = 1 ∧
      Tracked (⟨e, longest⟩ : Splitter).lostContent result.state g ∧ g.CutInside longest := by
  obtain ⟨g, w, result, hgoes, hw, hopens, hprocess, hread⟩ :=
    htracked.process_one (rotatedWatch e chunk longest) (Splitter.zeros_prefix h) rfl rfl .acceptAll
  have hsize := hgoes.describes.size
  have halmost' : g.AlmostRead (rotatedWatch e chunk longest).splitter.longest :=
    ⟨hgoes.processed.trans halmost.processed, hgoes.tail.trans halmost.tail,
      hgoes.skipping.trans halmost.skipping⟩
  have hlength := Splitter.length_lostContent h
  obtain ⟨_, k, hk, hlen⟩ := Splitter.unit_of_not_cutsBehindTails h
  have hgrown : g.processed < (rotatedWatch e chunk longest).splitter.lostContent.length := by
    rw [halmost'.processed]
    omega
  have hcursor : g.cursor (rotatedWatch e chunk longest).splitter.lostContent g.size =
      .start (rotatedWatch e chunk longest).splitter.lostContent := by
    rw [hsize]
    exact halmost'.cursor h
  obtain ⟨s, delivery, hs, hoffers, hbudget, hfile⟩ := readFile_cut h .acceptAll true hchunk hmax
    (s := ⟨g, (rotatedWatch e chunk longest).opening {}, w⟩) hw hopens.readable (halmost'.sound h)
    (Nat.lt_of_lt_of_eq hgrown hsize.symm) hcursor ⟨rfl, rfl, rfl, rfl, rfl⟩ (fun r => ⟨_, value?_rotated r⟩) fun _ => rfl
  have hcut := halmost'.cut h
  refine ⟨result, delivery, _, hprocess, ?_, ?_, hread.tracked hs ?_ hgoes.describes ?_, ?_⟩
  · rw [hread.offers, hs, hoffers]
    rfl
  · rw [hread.budget.1, hs, hbudget.sent]
  · rw [hfile]
    rfl
  · rw [halmost'.processed, ← hcut.processed] at hgrown
    rw [hfile]
    exact Nat.le_of_lt hgrown
  · rw [hfile]
    exact ⟨hcut.processed, hcut.tail, hcut.skipping⟩

/-- The third cycle finds no record, and comes to the end of the file. -/
theorem exists_third_cycle (h : ¬ (rotatedWatch e chunk longest).splitter.CutsBehindTails)
    (htracked : Tracked (⟨e, longest⟩ : Splitter).lostContent state f)
    (hinside : f.CutInside longest) : ∃ result g,
    (rotatedWatch e chunk longest).process .acceptAll {} state (.quiet (longDisk e longest)) = .ok result ∧
      result.offers = [] ∧ result.report.sent = 0 ∧ result.report.processed = 0 ∧
      result.state.files = [g] ∧ g.id = FileId.ofNumber 2 ∧ g.skipping = true ∧
      e.alignDown longest + 12 ≤ g.tailStart := by
  obtain ⟨g, w, result, hgoes, hw, hopens, hprocess, hread⟩ :=
    htracked.process_one (rotatedWatch e chunk longest) List.prefix_rfl rfl rfl .acceptAll
  have hinside' : g.CutInside (rotatedWatch e chunk longest).splitter.longest :=
    ⟨hgoes.processed.trans hinside.processed, hgoes.tail.trans hinside.tail,
      hgoes.skipping.trans hinside.skipping⟩
  have hcursor : g.cursor (rotatedWatch e chunk longest).splitter.lostContent g.size = _ :=
    (congrArg (g.cursor _) hgoes.describes.size).trans hinside'.cursor
  have hnone : (rotatedWatch e chunk longest).splitter.records false
      (g.cursor (rotatedWatch e chunk longest).splitter.lostContent g.size) = [] := by
    rw [hcursor]
    exact (Splitter.leads_misaligned h (Splitter.leads_last ..).1).1
  obtain ⟨c, s, hs, hoffers, hbudget, hsame, hsound, hleads, hlast, hend, _⟩ := readFile_nothing
    (s := ⟨g, (rotatedWatch e chunk longest).opening {}, w⟩) (rotatedWatch e chunk longest) .acceptAll true
    hchunk hmax hw hopens.readable hinside'.sound ⟨rfl, rfl, rfl, rfl, rfl⟩ (fun _ => .inr (by simp [hinside'.tail])) hnone
  replace hleads : (rotatedWatch e chunk longest).splitter.Leads false
      ⟨longest - 1, true, (⟨e, longest⟩ : Splitter).lostContent.drop (longest - 1)⟩ [] c := hcursor ▸ hleads
  have hskip : c.skipping = true := (Splitter.leads_misaligned h hleads).2
  refine ⟨result, { s.file with seq := 0, copyOf := none }, hprocess, ?_, ?_, ?_, ?_, ?_, ?_, ?_⟩
  · rw [hread.offers, hs, hoffers]
    rfl
  · rw [hread.budget.1, hs, hbudget.sent]
  · rw [hread.budget.2, hs, hbudget.processed]
  · rw [hread.files, hs]
    rfl
  · exact hsame.id.trans hgoes.describes.id
  · exact (congrArg Cursor.skipping hend).trans hskip
  · -- fewer bytes are left than a unit has
    have hless := (Splitter.next?_none hlast).2
    obtain ⟨hunit, k, hk, hlen⟩ := Splitter.unit_of_not_cutsBehindTails h
    obtain ⟨n, hn, hc⟩ := hleads.move
    have hlength : (⟨e, longest⟩ : Splitter).lostContent.length = e.alignDown longest + 16 :=
      Splitter.length_lostContent h
    have hstart : s.file.tailStart = c.offset := congrArg Cursor.offset hend
    have hoffset : c.offset = longest - 1 + n := congrArg Cursor.offset hc
    have hrest : c.rest.length = (⟨e, longest⟩ : Splitter).lostContent.length - (longest - 1) - n := by
      rw [show c.rest = _ from congrArg Cursor.rest hc, Cursor.move_rest, List.length_drop,
        List.length_drop]
    rw [hskip, if_pos rfl, hunit] at hless
    rw [List.length_drop] at hn
    show e.alignDown longest + 12 ≤ s.file.tailStart
    omega

/-- One cycle in place of the second and the third finds both records. -/
theorem exists_whole_cycle (h : ¬ (rotatedWatch e chunk longest).splitter.CutsBehindTails)
    (htracked : Tracked (List.replicate (longest - 1) 0) state f)
    (halmost : f.AlmostRead longest) : ∃ limit result,
    ((rotatedWatch e chunk longest).limited limit limit none).process .acceptAll {} state
      (.quiet (longDisk e longest)) = .ok result ∧ result.report.sent < limit ∧
      result.report.processed < limit ∧ 2 ≤ result.offers.length ∧
      ∀ o ∈ result.offers, o.accepted = true := by
  generalize hrecords : (rotatedWatch e chunk longest).splitter.records false
    (.start (rotatedWatch e chunk longest).splitter.lostContent) = rs
  obtain ⟨g, w, result, hgoes, hw, hopens, hprocess, hread⟩ := htracked.process_one
    ((rotatedWatch e chunk longest).limited (rs.length + 1) (rs.length + 1) none)
    (Splitter.zeros_prefix h) (show _ = (rotatedWatch e chunk longest).matcher from rfl) rfl .acceptAll
  have halmost' : g.AlmostRead (rotatedWatch e chunk longest).splitter.longest :=
    ⟨hgoes.processed.trans halmost.processed, hgoes.tail.trans halmost.tail,
      hgoes.skipping.trans halmost.skipping⟩
  have hcursor : g.cursor (rotatedWatch e chunk longest).splitter.lostContent g.size =
      .start (rotatedWatch e chunk longest).splitter.lostContent := by
    rw [hgoes.describes.size]
    exact halmost'.cursor h
  obtain ⟨s, hs, haccounts⟩ := readFile_all
    (s := ⟨g, ((rotatedWatch e chunk longest).limited (rs.length + 1) (rs.length + 1) none).opening {}, w⟩)
    ((rotatedWatch e chunk longest).limited (rs.length + 1) (rs.length + 1) none) true false hchunk hmax hw
    hopens.readable (halmost'.sound h) ((congrArg _ hcursor).trans hrecords)
    ⟨rfl, rfl, rfl, rfl, rfl⟩ (Nat.lt_succ_self _)
  have hvalues : (rs.filterMap (rotatedWatch e chunk longest).value?).length = rs.length :=
    length_values_rotated rs
  have hoffers : result.offers =
      (rotatedWatch e chunk longest).offersOf ((rotatedWatch e chunk longest).opening {}) g rs := by
    rw [hread.offers, hs, haccounts.offers, List.reverse_append, List.reverse_reverse]
    rfl
  refine ⟨rs.length + 1, result, hprocess, ?_, ?_, ?_, ?_⟩
  · rw [hread.budget.1, hs, haccounts.budget]
    show 0 + (rs.filterMap (rotatedWatch e chunk longest).value?).length < rs.length + 1
    omega
  · rw [hread.budget.2, hs, haccounts.budget]
    show 0 + rs.length < rs.length + 1
    omega
  · obtain ⟨r₁, r₂, _, hleads, _⟩ := Splitter.lost_leads h
    have hmany : 2 ≤ rs.length := by
      rw [← hrecords, hleads.records_eq]
      exact Nat.le_add_left 2 _
    rw [hoffers, length_offersOf, hvalues]
    exact hmany
  · intro o ho
    rw [hoffers] at ho
    exact accepted_of_mem_offersOf ho

end lossy

end Watcher

end LogTail
