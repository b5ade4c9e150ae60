import LogTail.Proofs.ReadingOrder
import LogTail.Proofs.Retrying

/-!
# Offsets on unit boundaries

Terminators are looked for at multiples of the unit of an encoding, from where a file stands on. So reading has to
keep every file at a multiple of the unit, whatever the sizes of files and of digests are.

* Reading moves a file by whole units, but for the last record of a file to which nothing will be added
  (`Watcher.modEq_of_readFile`).
* A resolution takes over where the tracked files stood, begins at the start, or where the state says
  (`Resolution.Entry.tailStart_dvd`).
* Together: `Watcher.tailStart_dvd_of_process`.
-/

namespace LogTail

/-! ## Reading -/

namespace Watcher

section reading
variable {watch : Watcher} {sink : Sink} {useIdentity finished : Bool} {outcome : FileOutcome}
  {before after : Reading}

theorem tailStart_keepTail {s : Reading} {r : Reader} (hinside : s.file.processed ≤ r.position)
    (hreaches : r.position = r.start + r.window.length) : (keepTail s r).file.tailStart = r.start := by
  show max s.file.processed r.position - r.window.length = r.start
  omega

/-- The last record of a file, which has no end, was consumed, and the file stands behind it. -/
def Flushed (watch : Watcher) (sink : Sink) (start : Nat) (after : Reading) : Prop :=
  ∃ (s : Reading) (r : Reader) (bytes : Bytes),
    r.takeRemainder.1 = some (.record start after.file.tailStart bytes false) ∧
    watch.consume sink s bytes after.file.tailStart = (.consumed, after) ∧ after.file.tail = []

theorem tailStart_flush (watch : Watcher) (sink : Sink) {s : Reading} {r : Reader}
    (hinside : s.file.processed ≤ r.position) (hreaches : r.position = r.start + r.window.length)
    (h : watch.flush sink (keepTail s r) r = (outcome, after)) :
    after.file.tailStart = r.start ∨ outcome = .done ∧ watch.Flushed sink r.start after := by
  have hkept := tailStart_keepTail hinside hreaches
  unfold flush at h
  by_cases hnothing : (r.window.isEmpty || r.skipping) = true
  · rw [Reader.takeRemainder, if_pos hnothing] at h
    cases h
    exact .inl hkept
  have htaken : r.takeRemainder = (some (.record r.start (r.start + r.window.length)
      (r.content r.window.length) false), r.drop r.window.length) := by
    rw [Reader.takeRemainder, if_neg hnothing]
    rfl
  simp only [htaken] at h
  by_cases hspent : (keepTail s r).tracker.budget.exhausted = true
  · rw [if_pos hspent] at h
    cases h
    exact .inl hkept
  rw [if_neg hspent] at h
  rcases watch.consume_offers sink (keepTail s r).tested (r.content r.window.length) (r.start + r.window.length) with
    ⟨offers, s', hconsume, -, hfile, -⟩ | ⟨value, w, hconsume, -⟩
  · rw [hconsume] at h
    cases h
    have hstop : after.file.tailStart = r.start + r.window.length := by
      rw [hfile]
      show max (max s.file.processed r.position) (r.start + r.window.length) - 0 = r.start + r.window.length
      omega
    exact .inr ⟨rfl, _, r, _, by rw [htaken, hstop], by rw [hstop]; exact hconsume, by rw [hfile]; rfl⟩
  · rw [hconsume] at h
    cases h
    exact .inl hkept

/-- **Reading moves a file by whole units**, but for its last record if nothing will be added to it. -/
theorem modEq_of_readFile (hchunk : 0 < watch.config.chunkSize)
    (hmax : watch.config.chunkSize ≤ watch.config.maxRecordSize) (hcuts : watch.splitter.CutsBehindTails)
    (hsound : before.file.Sound watch.splitter)
    (hread : watch.readFile sink useIdentity finished before = (outcome, after)) :
    after.file.tailStart ≡ before.file.tailStart [MOD watch.config.encoding.unit] ∨
      finished = true ∧ outcome = .done ∧ ∃ start, watch.Flushed sink start after ∧
        start ≡ before.file.tailStart [MOD watch.config.encoding.unit] := by
  have hcourse := watch.readFile_course sink useIdentity finished hchunk hsound.inside
  rw [hread] at hcourse
  generalize hresult : (outcome, after) = result at hcourse
  cases hcourse with
  | idle | spent | unopened =>
    cases hresult
    exact .inl rfl
  | @opened number w s r _ hfound htrace hstops =>
    have halong := (along_ofFile useIdentity hchunk hmax hsound number w).traced hsound htrace
    have hstands : s.file.tailStart ≡ before.file.tailStart [MOD watch.config.encoding.unit] :=
      halong.poised.tailStart (.inr hcuts) ▸ halong.aligned
    -- at the end of the file the reader has read on, from where it stood
    have hend {r' : Reader} {w' : World} (hnext : r.next s.world = (.ok none, r', w')) :
        r'.start = r.start ∧ s.file.processed ≤ r'.position ∧ r'.position = r'.start + r'.window.length := by
      obtain ⟨more, limit, rfl⟩ := Reader.next_rest halong.within hnext
      obtain ⟨hwithin, -⟩ := Reader.next_within halong.within hnext
      exact ⟨rfl, Nat.le_add_right_of_le halong.poised.inside, hwithin.reaches⟩
    cases hstops with
    | spent | failed =>
      cases hresult
      exact .inl hstands
    | @ended r' w' _ hnext =>
      cases hresult
      obtain ⟨hstart, hinside, hreaches⟩ := hend hnext
      refine .inl ?_
      rw [tailStart_keepTail (s := { s.tested with world := w' }) hinside hreaches, hstart]
      exact halong.aligned
    | @flushed r' w' hfinishes hnext =>
      obtain ⟨hstart, hinside, hreaches⟩ := hend hnext
      rcases watch.tailStart_flush sink (s := { s.tested with world := w' }) hinside hreaches hresult.symm with
        hkept | ⟨hdone, hflushed⟩
      · rw [hkept, hstart]
        exact .inl halong.aligned
      · rw [hstart] at hflushed
        exact .inr ⟨hfinishes, hdone, r.start, hflushed, halong.aligned⟩
    | refused hrefuses =>
      cases hresult
      obtain ⟨r', w', value, w₁, -, -, rfl⟩ := hrefuses.after_eq
      exact .inl hstands

end reading

end Watcher

/-! ## Resolutions -/

/-- A file that is new to a state is read from behind its start: from its end if old data is skipped, and from its
end or the saved position if the state has a position and no files. -/
def WatchState.BeginsBehind (state : WatchState) (f : LogFile) : Prop :=
  state.skipOldData = true ∧ f.processed = f.size ∨
    state.files = [] ∧ 0 < state.lastMtime ∧ (f.processed = f.size ∨ f.processed = state.lastSize)

namespace Resolution

section units
variable {policy : RotationPolicy} {encoding : Encoding} {state : WatchState} {candidates : List Candidate}
  {c : Candidate} {j : Nat} {f : LogFile} {t : Transition}

theorem track_startOf (state : WatchState) (candidates : List Candidate) (c : Candidate) (place seq : Nat) :
    startOf state (resumedAt? state candidates) c place = 0 ∨
      state.BeginsBehind { track c seq with processed := startOf state (resumedAt? state candidates) c place } := by
  by_cases hskip : state.skipOldData = true
  · exact .inr (.inl ⟨hskip, by simp [startOf, hskip, track]⟩)
  by_cases hwarm : state.files ≠ [] ∨ state.lastMtime ≤ 0
  · exact .inl (startOf_eq_zero (Bool.not_eq_true _ ▸ hskip) hwarm c place)
  rw [not_or, not_not, Int.not_le] at hwarm
  obtain ⟨hfiles, htime⟩ := hwarm
  by_cases hplace : resumedAt? state candidates = some place
  · exact .inr (.inr ⟨hfiles, htime, .inr (by simp [startOf, hskip, hplace])⟩)
  by_cases hold : (isResuming state && decide (c.mtime < state.lastMtime)) = true
  · exact .inr (.inr ⟨hfiles, htime, .inl (by simp only [startOf, hskip, hplace, hold, track]; simp)⟩)
  · exact .inl (by simp only [startOf, hskip, hplace, hold]; simp)

/-- What each copy of a resolution is known to share with its source reaches to the tail of the source or is whole
units. -/
def CopiesUnits (unit : Nat) (state : WatchState) (candidates : List Candidate) (r : Resolution) : Prop :=
  ∀ (i j : Nat) (f source : LogFile) (c : Candidate), r.files[j]? = some f →
    r.transitions[j]? = some .rotatedCopy → f.copyOf = some i → candidates[j]? = some c →
    state.files[i]? = some source →
      source.tailStart ≤ min source.digest.length c.size ∨ unit ∣ min source.digest.length c.size

theorem Entry.tailStart_dvd {unit : Nat} (h : Entry policy encoding state candidates c j f t)
    (hfiles : ∀ f ∈ state.files, unit ∣ f.tailStart)
    (hcopies : ∀ (i : Nat) (source : LogFile), t = .rotatedCopy → f.copyOf = some i →
      state.files[i]? = some source →
        source.tailStart ≤ min source.digest.length c.size ∨ unit ∣ min source.digest.length c.size) :
    unit ∣ f.tailStart ∨ t = .new ∧ f.tail = [] ∧ state.BeginsBehind f := by
  cases h with
  | @continued l old _ hold =>
    have hunits := hfiles old (List.mem_of_getElem? hold)
    unfold continueFile
    cases l.truncated
    · exact .inl hunits
    · exact .inl (Nat.dvd_zero unit)
  | @copied i source _ _ hsource =>
    have hunits := hfiles source (List.mem_of_getElem? hsource)
    have hshared := hcopies i source rfl (copyFile_copyOf ..) hsource
    unfold copyFile
    left
    dsimp only
    split_ifs with hread htail
    · exact hunits
    · exact hunits
    · exact hshared.resolve_left htail
  | new =>
    rcases track_startOf state candidates c j ((resolve policy encoding state candidates).rotatedAway.length + j) with
      hstart | hbehind
    · rw [LogFile.tailStart, hstart]
      exact .inl (Nat.dvd_zero unit)
    · exact .inr ⟨rfl, rfl, hbehind⟩

end units

end Resolution

/-! ## Cycles -/

namespace Watcher

section cycles
variable {config : WatchConfig} {watch : Watcher} {sink : Sink} {time : CycleTime} {state : WatchState}
  {w w₁ : World} {result : CycleResult} {candidates : List Candidate} {f saved : LogFile} {m n : Nat}

/-- A place of a file is on a unit boundary, or as far off one as the place behind its start where the reading of a
new file began. -/
def OnUnits (watch : Watcher) (state : WatchState) (candidates : List Candidate) (f : LogFile) (n : Nat) : Prop :=
  watch.config.encoding.unit ∣ n ∨
    ∃ j : Nat, (watch.resolution state candidates).files[j]? = some f ∧
      (watch.resolution state candidates).transitions[j]? = some .new ∧ state.BeginsBehind f ∧
      n ≡ f.processed [MOD watch.config.encoding.unit]

theorem OnUnits.congr (h : watch.OnUnits state candidates f n) (hm : m ≡ n [MOD watch.config.encoding.unit]) :
    watch.OnUnits state candidates f m := by
  rcases h with h | ⟨j, hj, ht, hbehind, hn⟩
  · exact .inl ((hm.dvd_iff (Nat.dvd_refl _)).2 h)
  · exact .inr ⟨j, hj, ht, hbehind, hm.trans hn⟩

/-- The file of an entry goes on from a unit boundary; or it was not the newest, and its last record, which has no
end, began at one and was consumed. -/
def LeavesOnUnits (watch : Watcher) (sink : Sink) (state : WatchState) (candidates : List Candidate) (e : Entry)
    (saved : LogFile) : Prop :=
  saved.path = e.resolved.path ∧
    (watch.OnUnits state candidates e.resolved saved.tailStart ∨
      e.scanned = true ∧ ∃ before after start, e.turn = .read true .done before after ∧
        watch.OnUnits state candidates e.resolved start ∧ watch.Flushed sink start after ∧
        saved.tailStart = after.file.tailStart ∧ saved.tail = [])

theorem onUnits_of_resolution (haligned : ∀ f ∈ state.files, watch.config.encoding.unit ∣ f.tailStart)
    (hcopies : (watch.resolution state candidates).CopiesUnits watch.config.encoding.unit state candidates)
    (hf : f ∈ (watch.resolution state candidates).rotatedAway ++ (watch.resolution state candidates).files) :
    watch.OnUnits state candidates f f.tailStart := by
  rcases List.mem_append.1 hf with hf | hf
  · obtain ⟨i, old, seq, hold, -, rfl⟩ := Resolution.gone_of_mem_rotatedAway hf
    exact .inl (haligned old (List.mem_of_getElem? hold))
  · obtain ⟨j, hj⟩ := List.getElem?_of_mem hf
    obtain ⟨c, t, hc, ht, hentry⟩ := Resolution.exists_entry_of_files hj
    rcases hentry.tailStart_dvd haligned fun i source hcopied hcopy hsource =>
      hcopies i j f source c hj (hcopied ▸ ht) hcopy hc hsource with hunits | ⟨rfl, htail, hbehind⟩
    · exact .inl hunits
    · refine .inr ⟨j, hj, ht, hbehind, ?_⟩
      rw [LogFile.tailStart, htail]
      rfl

/-- **A cycle keeps every file on a unit boundary**, or as far off one as the reading of it began, if it is new and
was not begun at its start; but for a file that is not the newest, of which the last record was consumed though it
has no end. This is so whatever others do to the disk in the middle of the cycle. -/
theorem tailStart_dvd_of_process (hconfig : Watcher.ofConfig config = .ok watch)
    (hcuts : Splitter.CutsBehindTails ⟨config.encoding, config.maxRecordSize⟩)
    (hvalid : ∀ (i : Nat) (f : LogFile), state.files[i]? = some f → f.Valid config i)
    (haligned : ∀ f ∈ state.files, config.encoding.unit ∣ f.tailStart) {scan : Scan}
    (hscan : watch.matcher.scan w = (.ok scan, w₁))
    (hcopies : (watch.resolution state scan.candidates).CopiesUnits config.encoding.unit state scan.candidates)
    (hprocess : watch.process sink time state w = .ok result) :
    ∀ saved ∈ result.state.files, ∃ e ∈ watch.entries sink time state w,
      watch.LeavesOnUnits sink state scan.candidates e saved := by
  intro saved hsaved
  obtain ⟨rfl, hbounded, -⟩ := ofConfig_ok hconfig
  have hchunk := hbounded.chunk_pos
  have hmax := hbounded.chunk_le
  have hfiles : ∀ f ∈ state.files, f.Tidy watch.splitter ∧ f.processed ≤ f.size := LogFile.tidy_of_valid hvalid
  -- the file is that of an entry, as its turn left it
  rw [files_of_process hprocess] at hsaved
  obtain ⟨g, hg, seq, rfl⟩ := Resolution.exists_of_mem_renumber hsaved
  obtain ⟨e, he, rfl⟩ := List.mem_map.1 hg
  obtain ⟨hmem, hgoes⟩ := List.mem_filter.1 he
  have hstood := onUnits_of_resolution haligned hcopies (resolved_of_scan hscan ▸ List.mem_map_of_mem hmem)
  refine ⟨e, hmem, ?_⟩
  rcases e.final_cases with hfinal | ⟨finished, outcome, before, after, hturn, hfinal⟩
  · rw [hfinal]
    exact ⟨rfl, .inl hstood⟩
  · rw [hfinal]
    obtain ⟨hread, htidy, size, hbefore⟩ := tidy_of_read hchunk hmax hfiles hmem hturn
    have hsame := (watch.readFile_onward hchunk hmax sink state.useIdentity finished htidy).1
    rw [hread] at hsame
    have hstart : before.file.tailStart = e.resolved.tailStart := by rw [hbefore]; rfl
    refine ⟨hsame.path.trans (by rw [hbefore]), ?_⟩
    rcases modEq_of_readFile hchunk hmax hcuts htidy.toSound hread with hkept | ⟨rfl, rfl, start, hflushed, hkept⟩
    · exact .inl (hstood.congr (hstart ▸ hkept))
    · refine .inr ⟨?_, before, after, start, hturn, hstood.congr (hstart ▸ hkept), hflushed, rfl, ?_⟩
      · rw [Entry.goesOn, hturn] at hgoes
        exact (Bool.or_eq_true_iff.1 hgoes).resolve_right (by simp [FileOutcome.halts])
      · obtain ⟨_, _, _, -, -, htail⟩ := hflushed
        exact htail

end cycles

/-- In UTF-16 a file was tracked with a tail of half a unit, then copied and cut. The copy is the older one, and ends
inside a unit, behind which it stands then; the other one grows while the cycle is at the copy. -/
theorem tailStart_dvd_of_halves :
    let config : WatchConfig := { logConfig "a|b" 10 0 with encoding := .utf16le, rotation := .copyTruncate }
    let disk (more : Bytes) :=
      logDisk [([0x61], [0x72, 0, 0x0a, 0, 0x73, 0, 0x74]), ([0x62], [0x75, 0, 0x0a, 0, 0x76] ++ more)]
    let w : World := ⟨disk [], 0, fun m d => if m = .offer 0 then disk [0, 0x0a] else d, fun _ => none⟩
    let source : LogFile :=
      ⟨.ofText "/log/b", 0, .ofNumber 3, 5, 5, .of [0x72, 0, 0x0a, 0, 0x73], 0, 0, true, [0x73], false, none⟩
    let state : WatchState := { useIdentity := true, files := [source] }
    ∃ watch result scan w₁, Watcher.ofConfig config = .ok watch ∧
      watch.process .acceptAll {} state w = .ok result ∧ result.state.files.map (·.tailStart) = [7, 4] ∧
      watch.matcher.scan w = (.ok scan, w₁) ∧
      (watch.resolution state scan.candidates).transitions = [.rotatedCopy, .truncated] ∧
      ∀ saved ∈ result.state.files, ∃ e ∈ watch.entries .acceptAll {} state w,
        watch.LeavesOnUnits .acceptAll state scan.candidates e saved := by
  intro config disk w source state
  have hsort : @Matcher.inOrder = _ := funext Matcher.inOrder_eq_insertionSort
  have hvalid (i : Nat) (f : LogFile) (hf : state.files[i]? = some f) : f.Valid config i := by
    obtain ⟨rfl, rfl⟩ : i = 0 ∧ source = f := by simpa [state, List.getElem?_singleton] using hf
    refine ⟨by decide, by decide, by decide, fun k => ?_, .inl (by decide), by decide, rfl, rfl⟩
    show ([0x73].drop (k * 2)).take 2 ≠ [0x0a, 0]
    intro hunit
    have hlength := congrArg List.length hunit
    simp only [List.length_take, List.length_drop, List.length_cons, List.length_nil] at hlength
    omega
  obtain ⟨watch, hconfig, hruns⟩ := ok_of_any (x := Watcher.ofConfig config)
    (p := fun watch => ((watch.process .acceptAll {} state w).toOption.any fun result : CycleResult =>
        decide (result.state.files.map (·.tailStart) = [7, 4])) &&
      (watch.matcher.scan w).1.toOption.any fun scan : Scan =>
        decide ((watch.resolution state scan.candidates).transitions = [.rotatedCopy, .truncated] ∧
          ∀ c ∈ scan.candidates, 4 ≤ c.size))
    (by unfold Watcher.process Watcher.resolution Matcher.scan; rw [hsort]; decide +kernel)
  obtain ⟨hresult, hscanned⟩ := Bool.and_eq_true_iff.1 hruns
  obtain ⟨result, hprocess, htails⟩ := ok_of_any hresult
  obtain ⟨scan, hscan, hfound⟩ := ok_of_any hscanned
  obtain ⟨htransitions, hsizes⟩ := of_decide_eq_true hfound
  -- the copy shares the five bytes of the digest with its source, whose tail begins behind four
  have hcopies : (watch.resolution state scan.candidates).CopiesUnits config.encoding.unit state
      scan.candidates := by
    intro i j f tracked c _ _ _ hc hsource
    obtain ⟨-, rfl⟩ : i = 0 ∧ source = tracked := by simpa [state, List.getElem?_singleton] using hsource
    exact .inl (Nat.le_min.2 ⟨by decide, hsizes c (List.mem_of_getElem? hc)⟩)
  have hleaves := tailStart_dvd_of_process hconfig (by decide) hvalid (by decide) (Prod.ext hscan rfl) hcopies
    hprocess
  exact ⟨watch, result, scan, _, hconfig, hprocess, of_decide_eq_true htails, Prod.ext hscan rfl, htransitions,
    hleaves⟩

/-! ## What strays from the boundaries -/

/-- All tracked files stand on unit boundaries, and a cycle that accepts everything leaves one that does not. -/
def Strays (config : WatchConfig) (state : WatchState) (w : World) : Prop :=
  1 < config.encoding.unit ∧ (∀ f ∈ state.files, config.encoding.unit ∣ f.tailStart) ∧
    ∃ watch result, Watcher.ofConfig config = .ok watch ∧ watch.process .acceptAll {} state w = .ok result ∧
      ∃ f ∈ result.state.files, ¬ config.encoding.unit ∣ f.tailStart

theorem strays_of_any {config : WatchConfig} {state : WatchState} {w : World}
    (hunits : 1 < config.encoding.unit ∧ ∀ f ∈ state.files, config.encoding.unit ∣ f.tailStart)
    (h : (Watcher.ofConfig config).toOption.any (fun watch =>
      (watch.process .acceptAll {} state w).toOption.any fun result =>
        result.state.files.any fun f => !decide (config.encoding.unit ∣ f.tailStart)) = true) :
    Strays config state w := by
  obtain ⟨watch, hconfig, hprocess⟩ := ok_of_any h
  obtain ⟨result, hprocess, hfiles⟩ := ok_of_any hprocess
  obtain ⟨f, hf, hstrays⟩ := List.any_eq_true.1 hfiles
  exact ⟨hunits.1, hunits.2, watch, result, hconfig, hprocess, f, hf, by simpa using hstrays⟩

/-- **Files stray from the boundaries** where the last record of one that is not the newest ends inside a unit; where
old data is skipped in a file that ends there; where a position that was saved without files lies there; where a tail
holds a line feed, and where a record is cut inside its tail; and where a copy is cut inside a unit by a digest, or
because it lost bytes while it was scanned. -/
theorem strays_from_boundaries :
    let config : WatchConfig := { logConfig "a" 1 0 with encoding := .utf16le }
    let begun (tail : Bytes) : LogFile :=
      ⟨.ofText "/log/a", 0, .ofNumber 2, tail.length, tail.length, .of tail, 0, 0, true, tail, false, none⟩
    let copied (window : Nat) : LogFile :=
      ⟨.ofText "/log/b", 0, .ofNumber 3, 18, 18, .of (List.replicate window 0), 0, 0, false, [], false, none⟩
    let zeros (length : Nat) : Disk := logDisk [([0x61], List.replicate length 0)]
    Strays { config with pattern := "/log/a|b" } (.fresh false)
      (.quiet (logDisk [([0x61], [0x70, 0, 0x71]), ([0x62], [])])) ∧
    Strays config (.fresh true) (.quiet (logDisk [([0x61], [0x70, 0, 0x71])])) ∧
    Strays config { lastMtime := 1, lastSize := 1 } (.quiet (logDisk [([0x61], [0x70, 0, 0x71])])) ∧
    Strays config { files := [begun [0x70, 0, 0x0a, 0, 0x71]] }
      (.quiet (logDisk [([0x61], [0x70, 0, 0x0a, 0, 0x71, 0, 0x0a, 0])])) ∧
    Strays { config with encoding := .utf32le, chunkSize := 7, maxRecordSize := 7 }
      { files := [begun (List.replicate 6 0)] } (.quiet (zeros 8)) ∧
    Strays { config with rotation := .copyTruncate, digestWindow := 17 } { files := [copied 17] }
      (.quiet (zeros 18)) ∧
    Strays { config with rotation := .copyTruncate } { files := [copied 18] }
      ⟨zeros 18, 0, fun m d => if m = .call 4 then zeros 17 else d, fun _ => none⟩ := by
  have hsort : @Matcher.inOrder = _ := funext Matcher.inOrder_eq_insertionSort
  refine ⟨?_, ?_, ?_, ?_, ?_, ?_, ?_⟩
  · exact strays_of_any (by decide) (by unfold Watcher.process Matcher.scan; rw [hsort]; decide +kernel)
  all_goals exact strays_of_any (by decide) (by decide +kernel)

end Watcher

end LogTail
