import LogTail.Proofs.CycleStep
import LogTail.Proofs.FileReading
import LogTail.Proofs.Processing
import Mathlib.Data.List.Forall2

/-!
# The passes of a cycle

What the two passes of a cycle do on a still disk, for a receiver that accepts everything, in terms of the
records that are pending in each file.

* `Watcher.pendingIn` are the records that a file of the scan still has, and `Watcher.pendingOf` those of
  a file that rotated away, if it can still be read under its last path.
* `Cycle.visits_spec` and `Cycle.drains_spec`: a pass takes records from the front of all that are
  pending, until it is through or the budget is spent, and leaves files in which the rest is pending.
-/

namespace LogTail

/-! ## Offers and budgets -/

theorem Budget.not_exhausted {b : Budget} (hsent : b.sent < b.maxSent)
    (hprocessed : b.processed < b.maxProcessed) (hdelay : b.maxDelay = none) : b.exhausted = false := by
  have htime : b.outOfTime = false := by rw [outOfTime, hdelay, Option.any_none]
  simp only [exhausted, htime, Bool.or_false, Bool.or_eq_false_iff, decide_eq_false_iff_not]
  omega

/-- What was offered, in order: path, end and value of each delivery, and whether it was accepted. -/
def Tracker.log (t : Tracker) : List (Path × Nat × String × Bool) :=
  t.offers.reverse.map fun o => (o.delivery.path, o.delivery.stop, o.delivery.value, o.accepted)

namespace Watcher

def deliveries (watch : Watcher) (rs : List (Path × Record)) : List (Path × Nat × String × Bool) :=
  rs.filterMap fun r => (watch.value? r.2).map fun value => (r.1, r.2.stop, value, true)

theorem deliveries_values (watch : Watcher) (rs : List (Path × Record)) :
    (watch.deliveries rs).map (·.2.2.1) = (rs.map (·.2)).filterMap watch.value? := by
  rw [deliveries, List.map_filterMap, List.filterMap_map]
  apply List.filterMap_congr
  intro r _
  cases h : watch.value? r.2 <;> simp [h]

theorem accepted_of_log (watch : Watcher) {rs : List (Path × Record)} {offers : List Offer}
    (h : (offers.map fun o => (o.delivery.path, o.delivery.stop, o.delivery.value, o.accepted)) =
      watch.deliveries rs) : ∀ o ∈ offers, o.accepted = true := by
  intro o ho
  have hmem : (o.delivery.path, o.delivery.stop, o.delivery.value, o.accepted) ∈ watch.deliveries rs :=
    h ▸ List.mem_map_of_mem ho
  simp only [deliveries, List.mem_filterMap, Option.map_eq_some_iff, Prod.mk.injEq] at hmem
  obtain ⟨_, _, _, _, _, _, _, haccepted⟩ := hmem
  exact haccepted.symm

/-- The accounts after records at paths were taken. -/
structure Emits (watch : Watcher) (t : Tracker) (rs : List (Path × Record)) (t' : Tracker) : Prop where
  log : t'.log = t.log ++ watch.deliveries rs
  budget : t'.budget = { t.budget with
    tests := t'.budget.tests
    sent := t.budget.sent + (watch.deliveries rs).length
    processed := t.budget.processed + rs.length }

section emits
variable {watch : Watcher} {t t' t'' : Tracker} {rs rs' : List (Path × Record)}

theorem Emits.refl (watch : Watcher) (t : Tracker) : watch.Emits t [] t :=
  ⟨by simp [deliveries], by simp [deliveries]⟩

theorem Emits.trans (h : watch.Emits t rs t') (h' : watch.Emits t' rs' t'') :
    watch.Emits t (rs ++ rs') t'' where
  log := by simp [h'.log, h.log, deliveries]
  budget := by
    rw [h'.budget, h.budget]
    simp [deliveries, Nat.add_assoc]

theorem Accounts.emits {f : LogFile} {rs : List Record} (h : watch.Accounts f t rs t') :
    watch.Emits t (rs.map (f.path, ·)) t' where
  log := by
    rw [Tracker.log, h.offers, List.reverse_append, List.reverse_reverse, List.map_append]
    congr 1
    refine (map_offersOf (fun left => (f.path, left.2, left.1, true)) t f (fun _ _ => rfl) rs).trans ?_
    simp [leftOf, deliveries, List.map_filterMap, List.filterMap_map, Function.comp_def]
  budget := by
    rw [h.budget]
    have hlen : (watch.deliveries (rs.map (f.path, ·))).length = (rs.filterMap watch.value?).length := by
      simp [deliveries, List.length_filterMap_eq_countP]
    rw [hlen, List.length_map]

end emits

/-! ## One file -/

/-- The records of a file of the scan that were not taken yet. -/
def pendingIn (watch : Watcher) (d : Disk) (finished : Bool) (f : LogFile) : List (Path × Record) :=
  (watch.splitter.records finished (f.ahead d)).map (f.path, ·)

/-- A file after some of its records were taken: it stands behind them, and nothing else of it has
changed. -/
structure Advanced (watch : Watcher) (d : Disk) (finished : Bool) (f : LogFile) (rs : List Record)
    (f' : LogFile) : Prop where
  same : f.SameAs f'
  leads : watch.splitter.Leads finished (f.ahead d) rs (f'.ahead d)
  within : f.processed ≤ f.size → f'.processed ≤ f'.size
  retry : f'.retry = if rs.filterMap watch.value? = [] then f.retry else 0

/-- A file of which all was read: nothing comes next, and its tail are all the bytes ahead. -/
structure Settled (watch : Watcher) (d : Disk) (finished : Bool) (f : LogFile) : Prop where
  last : watch.splitter.next? finished (f.ahead d) = none
  tail : f.tail = (f.ahead d).rest

section files
variable {watch : Watcher} {d : Disk} {finished : Bool} {f f' : LogFile} {rs : List Record}

theorem Advanced.refl (watch : Watcher) (d : Disk) (finished : Bool) (f : LogFile) :
    watch.Advanced d finished f [] f :=
  ⟨rfl, .refl _, id, rfl⟩

theorem Advanced.pendingIn (h : watch.Advanced d finished f rs f') :
    rs.map (f.path, ·) ++ watch.pendingIn d finished f' = watch.pendingIn d finished f := by
  rw [Watcher.pendingIn, Watcher.pendingIn, h.leads.records_eq, List.map_append, h.same.path]

theorem Took.advanced {c' : Cursor} {s s' : Reading}
    (hs : watch.splitter.CutsBehind (s.file.ahead d) s.file.tail) (hsound : s.file.Sound watch.splitter)
    (h : watch.Took d (d.bytesAt s.file.path) finished (s.file.ahead d) s rs c' s') :
    watch.Advanced d finished s.file rs s'.file ∧ s'.file.ahead d = c' := by
  obtain ⟨_, hcursor⟩ := h.follows hs hsound rfl
  have hahead : s'.file.ahead d = c' := by rw [LogFile.ahead, h.same.path, hcursor]
  refine ⟨⟨h.same, hahead ▸ h.leads, ?_, h.retry⟩, hahead⟩
  intro hle
  have hwithin := h.within
  have hstart := hsound.tailStart_add
  rw [h.same.size]
  have hrest : (s.file.ahead d).rest.length ≤ s.file.tail.length + (s.file.size - s.file.processed) := by
    simp only [LogFile.ahead, LogFile.cursor, List.length_append, List.length_take]
    omega
  have hoffset : (s.file.ahead d).offset = s.file.tailStart := rfl
  omega

end files

def pendingInAll (watch : Watcher) (d : Disk) (newest : Nat) (files : List (LogFile × Nat)) :
    List (Path × Record) :=
  files.flatMap fun f => watch.pendingIn d (f.2 < newest) f.1

/-! ## Files that rotated away -/

/-- Whether a number of a disk stands for a tracked file: it has its identity, or its first bytes. -/
def recognizes (watch : Watcher) (useIdentity : Bool) (d : Disk) (f : LogFile) (n : Nat) : Bool :=
  if useIdentity then FileId.ofNumber n = f.id
  else match d.readAt n 0 watch.config.digestWindow with
    | .error _ => false
    | .ok head => f.digest.matchesHead head

/-- A file that rotated away as it is read to its end: with its present size, if its last path leads to
it and to no fewer bytes than were processed. Of a directory no bytes can be read. -/
def drainable? (watch : Watcher) (useIdentity : Bool) (d : Disk) (f : LogFile) : Option LogFile :=
  match d.numberOf f.path with
  | .error _ => none
  | .ok n =>
    if watch.recognizes useIdentity d f n && f.processed ≤ d.size n &&
        (!(d.node n).isDirectory || d.size n ≤ f.processed) then
      some { f with size := d.size n }
    else none

def pendingOf (watch : Watcher) (useIdentity : Bool) (d : Disk) (f : LogFile) : List (Path × Record) :=
  match watch.drainable? useIdentity d f with
  | none => []
  | some f => watch.pendingIn d true f

/-- All records that are pending for a cycle, in the order of reading. -/
def pending (watch : Watcher) (useIdentity : Bool) (d : Disk) (newest : Nat) (away : List LogFile)
    (files : List (LogFile × Nat)) : List (Path × Record) :=
  away.flatMap (watch.pendingOf useIdentity d) ++ watch.pendingInAll d newest files

/-- A file whose path leads to a directory with its identity, of which bytes are to be read. -/
def Blocked (useIdentity : Bool) (d : Disk) (f : LogFile) : Prop :=
  ∃ n, d.numberOf f.path = .ok n ∧ (d.node n).isDirectory = true ∧ f.processed < d.size n ∧
    f.size = d.size n ∧ (useIdentity = true → FileId.ofNumber n = f.id)

section drained
variable {watch : Watcher} {useIdentity : Bool} {d : Disk} {f f' : LogFile} {w : World}

theorem recognizes_eq (hid : f'.id = f.id) (hdigest : f'.digest = f.digest) {n : Nat} :
    watch.recognizes useIdentity d f' n = watch.recognizes useIdentity d f n := by
  rw [recognizes, recognizes, hid, hdigest]

theorem isSame_spec (watch : Watcher) (useIdentity : Bool) (f : LogFile) (n : Nat) (hw : w.Still d) :
    ∃ same w', watch.isSame useIdentity f n w = (same, w') ∧ w'.Still d ∧
      (same = .ok (watch.recognizes useIdentity d f n) ∨
        ∃ e, same = .error e ∧ watch.recognizes useIdentity d f n = false) := by
  cases useIdentity with
  | true => exact ⟨_, w, rfl, hw, .inl rfl⟩
  | false =>
    obtain ⟨w', hw', hhead⟩ := hw.look fun d => d.readAt n 0 watch.config.digestWindow
    rcases hread : d.readAt n 0 watch.config.digestWindow with e | head
    · exact ⟨.error e, w', by simp [isSame, Matcher.readHead, hhead, hread], hw',
        .inr ⟨e, rfl, by simp [recognizes, hread]⟩⟩
    · exact ⟨.ok (f.digest.matchesHead head), w', by simp [isSame, Matcher.readHead, hhead, hread], hw',
        .inl (by simp [recognizes, hread])⟩

theorem drainable?_some (h : watch.drainable? useIdentity d f = some f') :
    ∃ n, d.numberOf f.path = .ok n ∧ f' = { f with size := d.size n } ∧ f.processed ≤ d.size n ∧
      f'.Readable d useIdentity (d.bytesAt f.path) := by
  unfold drainable? at h
  rcases hn : d.numberOf f.path with e | n
  · simp [hn] at h
  simp only [hn, Option.ite_none_right_eq_some, Bool.and_eq_true, Bool.or_eq_true, Bool.not_eq_true',
    decide_eq_true_eq, Option.some.injEq] at h
  obtain ⟨⟨⟨hsame, hle⟩, hread⟩, rfl⟩ := h
  refine ⟨n, rfl, rfl, hle, n, hn, ?_, ?_⟩
  · rcases hread with hfile | hend
    · exact .inl ⟨hfile, by simp [Disk.bytesAt, hn, hfile]⟩
    · exact .inr hend
  · intro hid
    rw [recognizes, if_pos hid, decide_eq_true_eq] at hsame
    exact hsame

theorem drainable?_size (watch : Watcher) (useIdentity : Bool) (d : Disk) (f : LogFile) (size : Nat) :
    watch.drainable? useIdentity d { f with size := size } = watch.drainable? useIdentity d f := rfl

theorem drainable?_same {g h : LogFile} (hdrain : watch.drainable? useIdentity d f = some g)
    (hsame : g.SameAs h) (hgrows : g.processed ≤ h.processed) (hwithin : h.processed ≤ h.size) :
    watch.drainable? useIdentity d h = some h := by
  unfold drainable? at hdrain
  rcases hn : d.numberOf f.path with e | n
  · simp [hn] at hdrain
  simp only [hn, Option.ite_none_right_eq_some, Bool.and_eq_true, Bool.or_eq_true, Bool.not_eq_true',
    decide_eq_true_eq, Option.some.injEq] at hdrain
  obtain ⟨⟨⟨hid, _⟩, hread⟩, rfl⟩ := hdrain
  have hsize : h.size = d.size n := hsame.size
  have hpath : h.path = f.path := hsame.path
  have hdigest : h.digest = f.digest := by
    rw [LogFile.SameAs] at hsame
    rw [hsame]
  have hid' : h.id = f.id := hsame.id
  have hread' : (d.node n).isDirectory = false ∨ d.size n ≤ h.processed :=
    hread.imp_right fun hle => Nat.le_trans hle hgrows
  rw [hsize] at hwithin
  have hcan : (watch.recognizes useIdentity d h n && decide (h.processed ≤ d.size n) &&
      (!(d.node n).isDirectory || decide (d.size n ≤ h.processed))) = true := by
    rw [recognizes_eq hid' hdigest, hid]
    simp [hwithin, hread']
  simp only [drainable?, hpath, hn]
  rw [if_pos hcan, ← hpath, ← hsize]

theorem prepareDrain_spec (watch : Watcher) (useIdentity : Bool) (f : LogFile) (hw : w.Still d) :
    ∃ answer w', watch.prepareDrain useIdentity f w = (answer, w') ∧ w'.Still d ∧
      (answer = .ok (watch.drainable? useIdentity d f) ∨
        (watch.drainable? useIdentity d f = none ∧ ∃ e, answer = .error e) ∨
        (watch.drainable? useIdentity d f = none ∧ ∃ f', answer = .ok (some f') ∧
          Blocked useIdentity d f' ∧ f' = { f with size := f'.size })) := by
  obtain ⟨w₁, hw₁, hlook⟩ := hw.look fun d => d.numberOf f.path
  rw [prepareDrain, hlook]
  rcases hn : d.numberOf f.path with e | n
  · refine ⟨_, w₁, rfl, hw₁, ?_⟩
    by_cases he : e = .notFound
    · exact .inl (by simp [drainable?, hn, he])
    · exact .inr (.inl ⟨by simp [drainable?, hn], e, by simp [he]⟩)
  obtain ⟨same, w₂, hsame, hw₂, hvalue⟩ := watch.isSame_spec useIdentity f n hw₁
  simp only [hsame]
  have hdrain : watch.drainable? useIdentity d f =
      if watch.recognizes useIdentity d f n && f.processed ≤ d.size n &&
        (!(d.node n).isDirectory || d.size n ≤ f.processed) then some { f with size := d.size n }
      else none := by simp [drainable?, hn]
  rcases hvalue with rfl | ⟨e, rfl, hno⟩
  rotate_left
  · exact ⟨_, w₂, rfl, hw₂, .inr (.inl ⟨by simp [hdrain, hno], e, rfl⟩)⟩
  have hid : useIdentity = true → watch.recognizes useIdentity d f n = true → FileId.ofNumber n = f.id := by
    intro huse h
    rw [recognizes, if_pos huse] at h
    exact of_decide_eq_true h
  generalize watch.recognizes useIdentity d f n = same at hdrain hid
  cases same with
  | false => exact ⟨_, w₂, rfl, hw₂, .inl (by simp [hdrain])⟩
  | true =>
    obtain ⟨w₃, hw₃, hsize⟩ := hw₂.look fun d => .ok (d.size n)
    refine ⟨.ok (if d.size n < f.processed then none else some { f with size := d.size n }), w₃,
      by simp only [hsize], hw₃, ?_⟩
    by_cases hless : d.size n < f.processed
    · left
      have : ¬ f.processed ≤ d.size n := by omega
      simp [hdrain, hless, this]
    by_cases hblocked : (d.node n).isDirectory = true ∧ ¬ d.size n ≤ f.processed
    · refine .inr (.inr ⟨by simp [hdrain, hblocked], _, by rw [if_neg hless], ?_, rfl⟩)
      exact ⟨n, hn, hblocked.1, Nat.not_le.1 hblocked.2, rfl, fun h => hid h rfl⟩
    · left
      have hle : f.processed ≤ d.size n := by omega
      have hread : (!(d.node n).isDirectory || decide (d.size n ≤ f.processed)) = true := by
        simp only [Bool.or_eq_true, Bool.not_eq_true', decide_eq_true_eq]
        by_cases hdir : (d.node n).isDirectory = true
        · exact .inr (Nat.not_lt.1 fun h => hblocked ⟨hdir, Nat.not_le.2 h⟩)
        · exact .inl (by simpa using hdir)
      simp [hdrain, hless, hle, hread]

/-- The reading of a directory fails, or the budget is spent, before anything is taken. -/
theorem readFile_blocked (watch : Watcher) (sink : Sink) {s : Reading}
    (hchunk : 0 < watch.config.chunkSize) (hmax : watch.config.chunkSize ≤ watch.config.maxRecordSize)
    (hw : s.world.Still d) (hblocked : Blocked useIdentity d s.file)
    (hsound : s.file.Sound watch.splitter) :
    ∃ outcome t w', watch.readFile sink useIdentity true s = (outcome, ⟨s.file, t, w'⟩) ∧ w'.Still d ∧
      watch.Accounts s.file s.tracker [] t ∧
      ((∃ e, outcome = .failed e) ∨ outcome = .budget ∧ t.budget.exhausted = true) := by
  obtain ⟨n, hn, hdir, hmore, hsize, hid⟩ := hblocked
  have hunread : ¬ (s.file.unread = 0 && !(true && s.file.hasFinalTail)) = true := by
    have hzero : s.file.size - s.file.processed ≠ 0 := by omega
    simp [LogFile.unread, hzero]
  rw [readFile, if_neg hunread]
  by_cases hspent : s.tracker.budget.exhausted = true
  · rw [if_pos hspent]
    exact ⟨_, _, _, rfl, hw, .refl .., .inr ⟨rfl, hspent⟩⟩
  rw [if_neg hspent]
  obtain ⟨w₁, hw₁, hlook⟩ := hw.look fun d => d.numberOf s.file.path
  have hopen : Reader.openFile (readerOptions watch.config useIdentity) s.file s.world =
      (.ok (Reader.ofFile (readerOptions watch.config useIdentity) s.file n), w₁) := by
    rw [Reader.openFile, hlook, hn]
    cases useIdentity with
    | false => simp [readerOptions]
    | true => simp [readerOptions, hid rfl]
  rw [hopen]
  generalize hr : Reader.ofFile (readerOptions watch.config useIdentity) s.file n = r
  have hfits : r.Fits := hr ▸ hsound.fits (o := readerOptions watch.config useIdentity) hchunk hmax n
  have hnone : r.take? = none := by
    rw [← hr]
    exact Reader.take?_eq_none hsound.free hsound.short
  have hlimit : r.position < r.limit := by
    rw [← hr]
    simp only [Reader.ofFile]
    omega
  have hwanted := Reader.wanted_pos hfits.chunk_pos hnone hlimit
  obtain ⟨w₂, hw₂, hread⟩ := hw₁.look fun d => d.readAt n r.position r.wanted
  have herror : d.readAt n r.position r.wanted = .error .isDirectory := by
    simp [Disk.readAt, hdir, Nat.ne_of_gt hwanted]
  have hnumber : r.number = n := by rw [← hr]; rfl
  have hfull : Reader.readFull r.number r.wanted w₁ r.position r.wanted = (.error .isDirectory, w₂) := by
    obtain ⟨k, hk⟩ := Nat.exists_eq_succ_of_ne_zero (Nat.ne_of_gt hwanted)
    rw [hk] at hread herror ⊢
    rw [hnumber, Reader.readFull, if_neg (Nat.succ_ne_zero k), hread, herror]
  have hnext : r.next w₁ = (.error .isDirectory, r, w₂) := by
    rw [Reader.next, Reader.nextFrom, hnone]
    simp only [Reader.fill, if_neg (Nat.not_le.2 hlimit), hfull]
  simp only [readEvents]
  by_cases hspent' : s.tested.tracker.budget.exhausted = true
  · rw [if_pos hspent']
    exact ⟨_, _, _, rfl, hw₁, .tested .., .inr ⟨rfl, hspent'⟩⟩
  · rw [if_neg hspent', hnext]
    exact ⟨_, _, _, rfl, hw₂, (Accounts.tested ..).trans (.refl _) (.tested ..), .inl ⟨_, rfl⟩⟩

end drained

end Watcher

namespace Cycle

section passes
variable {watch : Watcher} {d : Disk} {useIdentity : Bool} {newest : Nat} {c : Cycle}

/-! ## The files of the scan -/

theorem visits_halted (sink : Sink) (hhalt : c.halted = true) (files : List (LogFile × Nat)) :
    files.foldl (visit watch sink useIdentity newest) c = { c with kept := c.kept ++ files.map (·.1) } := by
  induction files generalizing c with
  | nil => simp
  | cons f files ih =>
    rw [List.foldl_cons, visit_waits hhalt, ih (by exact hhalt)]
    simp [keep]

theorem visit_spec (newest : Nat) (hchunk : 0 < watch.config.chunkSize)
    (hmax : watch.config.chunkSize ≤ watch.config.maxRecordSize) (hw : c.world.Still d)
    (hhalt : c.halted = false) {f : LogFile} {place : Nat}
    (hread : f.Readable d useIdentity (d.bytesAt f.path)) (hsound : f.Sound watch.splitter) :
    ∃ rs cursor s c', visit watch .acceptAll useIdentity newest c (f, place) = c' ∧
      watch.Took d (d.bytesAt f.path) (place < newest) (f.ahead d) ⟨f, c.tracker, c.world⟩ rs cursor s ∧
      c'.world.Still d ∧ c'.kept = c.kept ++ [s.file] ∧ c'.tracker = s.tracker ∧
      ((c'.halted = false ∧ watch.splitter.next? (place < newest) cursor = none ∧
          s.file.tail = cursor.rest) ∨
        (c'.halted = true ∧ c'.tracker.budget.exhausted = true)) := by
  have hreads := Watcher.readFile_spec (s := ⟨f, c.tracker, c.world⟩) watch .acceptAll useIdentity
    (place < newest) hchunk hmax hw hread hsound
  rcases hresult : watch.readFile .acceptAll useIdentity (place < newest) ⟨f, c.tracker, c.world⟩ with
    ⟨outcome, s⟩
  have hafter := visit_reads (x := (f, place)) hhalt hresult
  rw [hresult] at hreads
  cases hreads with
  | @ended _ rs cursor _ hover htook hlast htail hskip =>
    refine ⟨rs, cursor, s, _, rfl, htook, hafter.world ▸ htook.still, hafter.kept_of_scan, hafter.tracker,
      .inl ⟨?_, hlast, htail⟩⟩
    rcases hover with rfl | rfl <;> exact hafter.halted
  | @budget rs cursor _ htook hspent =>
    exact ⟨rs, cursor, s, _, rfl, htook, hafter.world ▸ htook.still, hafter.kept_of_scan, hafter.tracker,
      .inr ⟨hafter.halted, hafter.tracker ▸ hspent⟩⟩
  | rejected _ _ _ hrefused => cases hrefused

/-- What a pass over files of the scan comes to. -/
structure Visits (watch : Watcher) (d : Disk) (newest : Nat) (files : List (LogFile × Nat)) (c : Cycle)
    (rs : List (Path × Record)) (files' : List (LogFile × Nat)) (c' : Cycle) : Prop where
  still : c'.world.Still d
  kept : c'.kept = c.kept ++ files'.map (·.1)
  emits : watch.Emits c.tracker rs c'.tracker
  taken : rs <+: watch.pendingInAll d newest files
  through : c'.halted = false → rs = watch.pendingInAll d newest files
  spent : c'.halted = true → c'.tracker.budget.exhausted = true
  /-- Where a cut ends behind every tail, the rest is pending in the files that are left. -/
  rest : watch.splitter.CutsBehindTails →
    rs ++ watch.pendingInAll d newest files' = watch.pendingInAll d newest files ∧
    List.Forall₂ (fun f f' => f'.2 = f.2 ∧
      (∃ rs, watch.Advanced d (f.2 < newest) f.1 rs f'.1) ∧
      (c'.halted = false → watch.Settled d (f.2 < newest) f'.1)) files files'

theorem visits_one (newest : Nat) (hchunk : 0 < watch.config.chunkSize)
    (hmax : watch.config.chunkSize ≤ watch.config.maxRecordSize) (hw : c.world.Still d)
    (hhalt : c.halted = false) {f : LogFile} (place : Nat)
    (hread : f.Readable d useIdentity (d.bytesAt f.path)) (hsound : f.Sound watch.splitter) :
    ∃ rs f', Visits watch d newest [(f, place)] c rs [(f', place)]
      (visit watch .acceptAll useIdentity newest c (f, place)) := by
  obtain ⟨rs, cursor, s, c', hvisit, htook, hw', hkept, htracker, hstate⟩ :=
    visit_spec newest hchunk hmax hw hhalt hread hsound
  have hemits := htook.accounts.emits
  rw [← htracker] at hemits
  have hpending (g : LogFile) : watch.pendingInAll d newest [(g, place)] = watch.pendingIn d (place < newest) g := by
    rw [Watcher.pendingInAll, List.flatMap_cons, List.flatMap_nil, List.append_nil]
  rw [hvisit]
  refine ⟨rs.map (f.path, ·), s.file, hw', hkept, hemits, ?_, fun hgoes => ?_, fun hhalts => ?_, fun hs => ?_⟩
  · rw [hpending, Watcher.pendingIn, htook.leads.records_eq, List.map_append]
    exact List.prefix_append ..
  · rcases hstate with ⟨_, hlast, _⟩ | ⟨hhalts, _⟩
    · rw [hpending, Watcher.pendingIn, (htook.leads.eq_of_next?_none hlast).1]
    · rw [hgoes] at hhalts
      cases hhalts
  · rcases hstate with ⟨hgoes, _⟩ | ⟨_, hspent⟩
    · rw [hgoes] at hhalts
      cases hhalts
    · exact hspent
  · obtain ⟨hadv, hcursor⟩ :=
      Watcher.Took.advanced (s := ⟨f, c.tracker, c.world⟩) (hs.behind hsound.short) hsound htook
    rw [hpending, hpending]
    refine ⟨hadv.pendingIn, .cons ⟨rfl, ⟨rs, hadv⟩, fun hgoes => ?_⟩ .nil⟩
    rcases hstate with ⟨_, hlast, htail⟩ | ⟨hhalts, _⟩
    · exact ⟨by rw [hcursor]; exact hlast, by rw [hcursor]; exact htail⟩
    · rw [hgoes] at hhalts
      cases hhalts

section visits
variable {files files' more more' : List (LogFile × Nat)} {rs rs' : List (Path × Record)} {c' c'' : Cycle}

theorem Visits.trans (h : Visits watch d newest files c rs files' c') (hgoes : c'.halted = false)
    (h' : Visits watch d newest more c' rs' more' c'') :
    Visits watch d newest (files ++ more) c (rs ++ rs') (files' ++ more') c'' := by
  have hall := h.through hgoes
  refine ⟨h'.still, ?_, h.emits.trans h'.emits, ?_, fun hend => ?_, h'.spent, fun hs => ?_⟩
  · rw [h'.kept, h.kept, List.map_append, List.append_assoc]
  · rw [Watcher.pendingInAll, List.flatMap_append, hall]
    exact (List.prefix_append_right_inj _).2 h'.taken
  · rw [Watcher.pendingInAll, List.flatMap_append, hall, h'.through hend]
    rfl
  · obtain ⟨hrest, hpairs⟩ := h.rest hs
    obtain ⟨hrest', hpairs'⟩ := h'.rest hs
    -- what was read to its end holds no more
    have hnone : watch.pendingInAll d newest files' = [] := by
      rw [← hall] at hrest
      exact List.append_right_eq_self.1 hrest
    refine ⟨?_, List.rel_append (hpairs.imp fun _ _ ⟨hplace, hadv, hsettled⟩ =>
      ⟨hplace, hadv, fun _ => hsettled hgoes⟩) hpairs'⟩
    rw [Watcher.pendingInAll] at hnone ⊢
    rw [List.flatMap_append, hnone, List.nil_append, List.append_assoc, Watcher.pendingInAll, List.flatMap_append,
      hall]
    exact congrArg _ hrest'

theorem Visits.halt (h : Visits watch d newest files c rs files' c') (hhalts : c'.halted = true)
    (more : List (LogFile × Nat)) :
    Visits watch d newest (files ++ more) c rs (files' ++ more) { c' with kept := c'.kept ++ more.map (·.1) } := by
  have hnot : c'.halted ≠ false := by
    rw [hhalts]
    exact Bool.noConfusion
  refine ⟨h.still, ?_, h.emits, ?_, fun hend => absurd hend hnot, h.spent, fun hs => ?_⟩
  · show c'.kept ++ _ = _
    rw [h.kept, List.map_append, List.append_assoc]
  · rw [Watcher.pendingInAll, List.flatMap_append]
    exact h.taken.trans (List.prefix_append ..)
  · obtain ⟨hrest, hpairs⟩ := h.rest hs
    refine ⟨?_, List.rel_append hpairs (List.forall₂_same.2 fun g _ =>
      ⟨rfl, ⟨[], .refl ..⟩, fun hend => absurd hend hnot⟩)⟩
    rw [Watcher.pendingInAll, Watcher.pendingInAll, List.flatMap_append, List.flatMap_append, ← List.append_assoc]
    exact congrArg (· ++ _) hrest

end visits

/-- **A pass over the files of the scan** takes records from the front of all that are pending. -/
theorem visits_spec (newest : Nat) (hchunk : 0 < watch.config.chunkSize)
    (hmax : watch.config.chunkSize ≤ watch.config.maxRecordSize) (hw : c.world.Still d)
    (hhalt : c.halted = false) (files : List (LogFile × Nat))
    (hfiles : ∀ f ∈ files, f.1.Readable d useIdentity (d.bytesAt f.1.path) ∧
      f.1.Sound watch.splitter) :
    ∃ rs files', Visits watch d newest files c rs files'
      (files.foldl (visit watch .acceptAll useIdentity newest) c) := by
  induction files generalizing c with
  | nil =>
    exact ⟨[], [], hw, by simp, .refl .., List.nil_prefix, fun _ => rfl, by simp [hhalt],
      fun _ => ⟨rfl, .nil⟩⟩
  | cons f files ih =>
    obtain ⟨f, place⟩ := f
    obtain ⟨hread, hsound⟩ := hfiles (f, place) (by simp)
    obtain ⟨rs, f', hvisits⟩ := visits_one newest hchunk hmax hw hhalt place hread hsound
    rw [List.foldl_cons]
    generalize visit watch .acceptAll useIdentity newest c (f, place) = c₁ at hvisits
    cases hhalts : c₁.halted with
    | false =>
      obtain ⟨rs', files', hmore⟩ := ih hvisits.still hhalts fun g hg => hfiles g (by simp [hg])
      exact ⟨_, _, hvisits.trans hhalts hmore⟩
    | true =>
      rw [visits_halted _ hhalts]
      exact ⟨_, _, hvisits.halt hhalts files⟩

/-! ## The files that rotated away -/

theorem drains_halted (sink : Sink) (hhalt : c.halted = true) (files : List LogFile) :
    files.foldl (drain watch sink useIdentity) c = { c with kept := c.kept ++ files } := by
  induction files generalizing c with
  | nil => simp
  | cons f files ih =>
    rw [List.foldl_cons, drain_waits hhalt, ih (by exact hhalt)]
    simp [keep]

/-- What the draining of one file comes to: it is through with the file, or the budget is spent and the
file goes on to the next cycle. -/
structure Drained (watch : Watcher) (useIdentity : Bool) (d : Disk) (f : LogFile) (c : Cycle)
    (rs : List (Path × Record)) (c' : Cycle) : Prop where
  still : c'.world.Still d
  emits : watch.Emits c.tracker rs c'.tracker
  taken : rs <+: watch.pendingOf useIdentity d f
  ends : (c'.halted = false ∧ c'.kept = c.kept ∧ rs = watch.pendingOf useIdentity d f) ∨
    (c'.halted = true ∧ c'.tracker.budget.exhausted = true ∧ ∃ f', c'.kept = c.kept ++ [f'] ∧
      (watch.splitter.CutsBehindTails →
        rs ++ watch.pendingOf useIdentity d f' = watch.pendingOf useIdentity d f))

theorem drain_nothing (useIdentity : Bool) (hchunk : 0 < watch.config.chunkSize)
    (hmax : watch.config.chunkSize ≤ watch.config.maxRecordSize) (hw : c.world.Still d)
    (hhalt : c.halted = false) {f : LogFile} (hsound : f.Sound watch.splitter)
    (hdrain : watch.drainable? useIdentity d f = none) :
    Drained watch useIdentity d f c [] (drain watch .acceptAll useIdentity c f) := by
  obtain ⟨answer, w₁, hprepare, hw₁, hanswer⟩ := watch.prepareDrain_spec useIdentity f hw
  have hnone : watch.pendingOf useIdentity d f = [] := by rw [Watcher.pendingOf, hdrain]
  rw [hdrain] at hanswer
  rcases hanswer with rfl | ⟨_, e, rfl⟩ | ⟨_, g, rfl, hblocked, hg⟩
  · rw [drain_gone hhalt hprepare]
    exact ⟨hw₁, .refl .., List.nil_prefix, .inl ⟨hhalt, rfl, hnone.symm⟩⟩
  · rw [drain_unreachable hhalt hprepare]
    exact ⟨hw₁, .refl .., List.nil_prefix, .inl ⟨hhalt, rfl, hnone.symm⟩⟩
  · have hsound' : g.Sound watch.splitter := by
      rw [hg]
      exact hsound.congr rfl rfl rfl
    obtain ⟨outcome, t, w₂, hread, hw₂, haccounts, hways⟩ :=
      watch.readFile_blocked .acceptAll (s := ⟨g, c.tracker, w₁⟩) hchunk hmax hw₁ hblocked hsound'
    have hafter := drain_reads hhalt hprepare hread
    rcases hways with ⟨e, rfl⟩ | ⟨rfl, hspent⟩
    · exact ⟨hafter.world ▸ hw₂, hafter.tracker ▸ haccounts.emits, List.nil_prefix,
        .inl ⟨hafter.halted, hafter.kept_of_gone hafter.halted, hnone.symm⟩⟩
    · refine ⟨hafter.world ▸ hw₂, hafter.tracker ▸ haccounts.emits, List.nil_prefix,
        .inr ⟨hafter.halted, hafter.tracker ▸ hspent, g, hafter.kept_of_halted hafter.halted, ?_⟩⟩
      intro _
      have hnone' : watch.pendingOf useIdentity d g = [] := by
        rw [Watcher.pendingOf, hg, Watcher.drainable?_size, hdrain]
      rw [hnone, hnone', List.append_nil]

theorem drain_drainable (useIdentity : Bool) (hchunk : 0 < watch.config.chunkSize)
    (hmax : watch.config.chunkSize ≤ watch.config.maxRecordSize) (hw : c.world.Still d)
    (hhalt : c.halted = false) {f g : LogFile} (hsound : f.Sound watch.splitter)
    (hdrain : watch.drainable? useIdentity d f = some g) :
    ∃ rs, Drained watch useIdentity d f c rs (drain watch .acceptAll useIdentity c f) := by
  obtain ⟨answer, w₁, hprepare, hw₁, hanswer⟩ := watch.prepareDrain_spec useIdentity f hw
  have hpending : watch.pendingOf useIdentity d f = watch.pendingIn d true g := by
    rw [Watcher.pendingOf, hdrain]
  rw [hdrain] at hanswer
  obtain rfl : answer = .ok (some g) := by
    rcases hanswer with h | ⟨h, _⟩ | ⟨h, _⟩
    · exact h
    · cases h
    · cases h
  obtain ⟨n, hn, hg, hle, hread⟩ := Watcher.drainable?_some hdrain
  have hpath : g.path = f.path := by rw [hg]
  have hsound' : g.Sound watch.splitter := by
    rw [hg]
    exact hsound.congr rfl rfl rfl
  rw [← hpath] at hread
  have hreads := Watcher.readFile_spec (s := ⟨g, c.tracker, w₁⟩) watch .acceptAll useIdentity true
    hchunk hmax hw₁ hread hsound'
  rcases hresult : watch.readFile .acceptAll useIdentity true ⟨g, c.tracker, w₁⟩ with ⟨outcome, s⟩
  have hafter := drain_reads hhalt hprepare hresult
  rw [hresult] at hreads
  cases hreads with
  | @ended _ rs cursor _ hover htook hlast htail hskip =>
    have hall : rs.map (g.path, ·) = watch.pendingOf useIdentity d f := by
      rw [hpending, Watcher.pendingIn]
      exact congrArg _ (htook.leads.eq_of_next?_none hlast).1.symm
    have hgoes : (drain watch .acceptAll useIdentity c f).halted = false := by
      rcases hover with rfl | rfl <;> exact hafter.halted
    exact ⟨rs.map (g.path, ·), hafter.world ▸ htook.still, hafter.tracker ▸ htook.accounts.emits,
      hall ▸ List.prefix_rfl, .inl ⟨hgoes, hafter.kept_of_gone hgoes, hall⟩⟩
  | @budget rs cursor _ htook hspent =>
    refine ⟨rs.map (g.path, ·), hafter.world ▸ htook.still, hafter.tracker ▸ htook.accounts.emits, ?_,
      .inr ⟨hafter.halted, hafter.tracker ▸ hspent, s.file, hafter.kept_of_halted hafter.halted, ?_⟩⟩
    · have hrecords := htook.leads.records_eq
      rw [hpending, Watcher.pendingIn, show g.ahead d = g.cursor (d.bytesAt g.path) g.size from rfl,
        hrecords, List.map_append]
      exact List.prefix_append ..
    · intro hs
      obtain ⟨hadv, _⟩ :=
        Watcher.Took.advanced (s := ⟨g, c.tracker, w₁⟩) (hs.behind hsound'.short) hsound' htook
      have hsize : g.processed ≤ g.size := by
        rw [hg]
        exact hle
      have hagain := Watcher.drainable?_same hdrain hadv.same htook.grows (hadv.within hsize)
      rw [hpending, Watcher.pendingOf, hagain]
      exact hadv.pendingIn
  | rejected _ _ _ hrefused => cases hrefused

theorem drain_spec (useIdentity : Bool) (hchunk : 0 < watch.config.chunkSize)
    (hmax : watch.config.chunkSize ≤ watch.config.maxRecordSize) (hw : c.world.Still d)
    (hhalt : c.halted = false) {f : LogFile} (hsound : f.Sound watch.splitter) :
    ∃ rs, Drained watch useIdentity d f c rs (drain watch .acceptAll useIdentity c f) := by
  rcases hdrain : watch.drainable? useIdentity d f with _ | g
  · exact ⟨[], drain_nothing useIdentity hchunk hmax hw hhalt hsound hdrain⟩
  · exact drain_drainable useIdentity hchunk hmax hw hhalt hsound hdrain

structure Drains (watch : Watcher) (useIdentity : Bool) (d : Disk) (files : List LogFile) (c : Cycle)
    (rs : List (Path × Record)) (files' : List LogFile) (c' : Cycle) : Prop where
  still : c'.world.Still d
  kept : c'.kept = c.kept ++ files'
  emits : watch.Emits c.tracker rs c'.tracker
  taken : rs <+: files.flatMap (watch.pendingOf useIdentity d)
  through : c'.halted = false → files' = [] ∧ rs = files.flatMap (watch.pendingOf useIdentity d)
  spent : c'.halted = true → c'.tracker.budget.exhausted = true
  rest : watch.splitter.CutsBehindTails →
    rs ++ files'.flatMap (watch.pendingOf useIdentity d) = files.flatMap (watch.pendingOf useIdentity d)

/-- **The pass over the files that rotated away** takes records from the front of all that are pending. -/
theorem drains_spec (useIdentity : Bool) (hchunk : 0 < watch.config.chunkSize)
    (hmax : watch.config.chunkSize ≤ watch.config.maxRecordSize) (hw : c.world.Still d)
    (hhalt : c.halted = false) (files : List LogFile) (hfiles : ∀ f ∈ files, f.Sound watch.splitter) :
    ∃ rs files', Drains watch useIdentity d files c rs files'
      (files.foldl (drain watch .acceptAll useIdentity) c) := by
  induction files generalizing c with
  | nil =>
    exact ⟨[], [], hw, by simp, .refl .., List.nil_prefix, fun _ => ⟨rfl, rfl⟩, by simp [hhalt],
      fun _ => rfl⟩
  | cons f files ih =>
    obtain ⟨rs₁, hdrained⟩ := drain_spec useIdentity hchunk hmax hw hhalt
      (hfiles f (by simp))
    rw [List.foldl_cons]
    generalize drain watch .acceptAll useIdentity c f = c₁ at hdrained
    rcases hdrained.ends with ⟨hgoes, hkept, hall⟩ | ⟨hhalts, hspent, f', hkept, hrest⟩
    · obtain ⟨rs₂, files₂, hdrains⟩ := ih hdrained.still hgoes fun g hg => hfiles g (by simp [hg])
      refine ⟨rs₁ ++ rs₂, files₂, hdrains.still, by rw [hdrains.kept, hkept],
        hdrained.emits.trans hdrains.emits, ?_, ?_, hdrains.spent, ?_⟩
      · rw [List.flatMap_cons, hall]
        exact (List.prefix_append_right_inj _).2 hdrains.taken
      · intro h
        obtain ⟨hnone, hall₂⟩ := hdrains.through h
        exact ⟨hnone, by rw [List.flatMap_cons, hall, hall₂]⟩
      · intro hs
        rw [List.flatMap_cons, List.append_assoc, hdrains.rest hs, hall]
    · rw [drains_halted _ hhalts]
      refine ⟨rs₁, f' :: files, hdrained.still, by simp [hkept], hdrained.emits, ?_, ?_,
        fun _ => hspent, ?_⟩
      · rw [List.flatMap_cons]
        exact hdrained.taken.trans (List.prefix_append ..)
      · intro h
        rw [show c₁.halted = false from h] at hhalts
        cases hhalts
      · intro hs
        rw [List.flatMap_cons, List.flatMap_cons, ← List.append_assoc, hrest hs]

/-! ## Both passes -/

/-- What a cycle comes to, with the files that rotated away and those of the scan that it leaves. -/
structure Runs (watch : Watcher) (useIdentity : Bool) (d : Disk) (r : Resolution) (c : Cycle)
    (rs : List (Path × Record)) (away files : List LogFile) (c' : Cycle) : Prop where
  kept : c'.kept = c.kept ++ away ++ files
  emits : watch.Emits c.tracker rs c'.tracker
  taken : rs <+: watch.pending useIdentity d (r.files.length - 1) r.rotatedAway r.files.zipIdx
  through : c'.halted = false →
    away = [] ∧ rs = watch.pending useIdentity d (r.files.length - 1) r.rotatedAway r.files.zipIdx
  spent : c'.halted = true → c'.tracker.budget.exhausted = true
  rest : watch.splitter.CutsBehindTails →
    rs ++ watch.pending useIdentity d (r.files.length - 1) away files.zipIdx =
      watch.pending useIdentity d (r.files.length - 1) r.rotatedAway r.files.zipIdx ∧
    files.length = r.files.length ∧
    ∀ i f f', r.files[i]? = some f → files[i]? = some f' →
      (∃ rs, watch.Advanced d (i < r.files.length - 1) f rs f') ∧
      (c'.halted = false → watch.Settled d (i < r.files.length - 1) f')

theorem Runs.not_halted {c' : Cycle} {r : Resolution} {rs : List (Path × Record)} {away files : List LogFile}
    (h : Runs watch useIdentity d r c rs away files c') (hleft : c'.tracker.budget.exhausted = false) :
    c'.halted = false := by
  rw [← Bool.not_eq_true]
  intro hhalted
  rw [h.spent hhalted] at hleft
  cases hleft

theorem zipIdx_of_forall₂ {R : LogFile → Nat → LogFile → Prop} {files : List LogFile}
    {files' : List (LogFile × Nat)}
    (h : List.Forall₂ (fun f f' => f'.2 = f.2 ∧ R f.1 f.2 f'.1) files.zipIdx files') :
    files' = (files'.map (·.1)).zipIdx ∧ (files'.map (·.1)).length = files.length ∧
      ∀ i f f', files[i]? = some f → (files'.map (·.1))[i]? = some f' → R f i f' := by
  obtain ⟨hlength, hget⟩ := List.forall₂_iff_get.1 h
  rw [List.length_zipIdx] at hlength
  have hpair (i : Nat) (hi : i < files.length) (hi' : i < files'.length) :
      files'[i].2 = i ∧ R files[i] i files'[i].1 := by
    have := hget i (by simpa using hi) hi'
    simpa using this
  refine ⟨List.ext_getElem (by simp) ?_, by rw [List.length_map, hlength],
    ?_⟩
  · intro i hi _
    have hplace := (hpair i (hlength ▸ hi) hi).1
    rw [List.getElem_zipIdx, List.getElem_map, Nat.zero_add]
    exact Prod.ext rfl hplace
  · intro i f f' hf hf'
    obtain ⟨hi, rfl⟩ := List.getElem?_eq_some_iff.1 hf
    obtain ⟨hi', rfl⟩ := List.getElem?_eq_some_iff.1 hf'
    rw [List.length_map] at hi'
    rw [List.getElem_map]
    exact (hpair i hi hi').2

/-- **A cycle** takes records from the front of all that are pending, until it is through or the budget is
spent. -/
theorem run_spec (watch : Watcher) (useIdentity : Bool) (hchunk : 0 < watch.config.chunkSize)
    (hmax : watch.config.chunkSize ≤ watch.config.maxRecordSize) (hw : c.world.Still d)
    (hhalt : c.halted = false) (r : Resolution) (haway : ∀ f ∈ r.rotatedAway, f.Sound watch.splitter)
    (hfiles : ∀ f ∈ r.files, f.Readable d useIdentity (d.bytesAt f.path) ∧ f.Sound watch.splitter) :
    ∃ rs away files, Runs watch useIdentity d r c rs away files (run watch .acceptAll useIdentity r c) := by
  have hfiles' : ∀ f ∈ r.files.zipIdx, f.1.Readable d useIdentity (d.bytesAt f.1.path) ∧
      f.1.Sound watch.splitter := fun f hf =>
    hfiles f.1 (List.mem_of_getElem? (List.mem_zipIdx_iff_getElem?.1 hf))
  obtain ⟨rs₁, away, hdrains⟩ := drains_spec useIdentity hchunk hmax hw hhalt
    r.rotatedAway haway
  rw [run]
  generalize r.rotatedAway.foldl (drain watch .acceptAll useIdentity) c = c₁ at hdrains
  by_cases hhalts : c₁.halted = true
  · rw [visits_halted _ hhalts]
    refine ⟨rs₁, away, r.files, ?_, hdrains.emits, ?_, ?_, fun _ => hdrains.spent hhalts,
      ?_⟩
    · rw [hdrains.kept, List.zipIdx_map_fst]
    · exact hdrains.taken.trans (List.prefix_append ..)
    · intro h
      rw [show c₁.halted = false from h] at hhalts
      cases hhalts
    · intro hs
      refine ⟨?_, rfl, ?_⟩
      · rw [Watcher.pending, Watcher.pending, ← List.append_assoc, hdrains.rest hs]
      · intro i f f' hf hf'
        obtain rfl : f = f' := Option.some.inj (hf.symm.trans hf')
        refine ⟨⟨[], .refl ..⟩, fun h => ?_⟩
        rw [show c₁.halted = false from h] at hhalts
        cases hhalts
  · rw [Bool.not_eq_true] at hhalts
    obtain ⟨hnone, hall⟩ := hdrains.through hhalts
    obtain ⟨rs₂, files, hvisits⟩ := visits_spec (r.files.length - 1) hchunk hmax hdrains.still
      hhalts r.files.zipIdx hfiles'
    generalize r.files.zipIdx.foldl (visit watch .acceptAll useIdentity (r.files.length - 1)) c₁ = c₂
      at hvisits
    refine ⟨rs₁ ++ rs₂, [], files.map (·.1), ?_, hdrains.emits.trans hvisits.emits, ?_, fun h => ⟨rfl, ?_⟩,
      hvisits.spent, ?_⟩
    · rw [hvisits.kept, hdrains.kept, hnone]
    · rw [Watcher.pending, hall]
      exact (List.prefix_append_right_inj _).2 hvisits.taken
    · rw [Watcher.pending, hall, hvisits.through h]
    · intro hs
      obtain ⟨hrest, hpairs⟩ := hvisits.rest hs
      obtain ⟨hplaces, hlength, hadvanced⟩ := zipIdx_of_forall₂
        (R := fun f i f' => (∃ rs, watch.Advanced d (i < r.files.length - 1) f rs f') ∧
          (c₂.halted = false → watch.Settled d (i < r.files.length - 1) f')) hpairs
      refine ⟨?_, hlength, hadvanced⟩
      rw [Watcher.pending, Watcher.pending, List.flatMap_nil, List.nil_append, List.append_assoc, ← hplaces,
        hrest, hall]

end passes

end Cycle

namespace Watcher

section ran
variable {watch : Watcher} {useIdentity : Bool} {d : Disk} {w : World} {time : CycleTime} {state : WatchState}
  {candidates : List Candidate} {c : Cycle} {result : CycleResult}

/-- On a still disk a cycle runs over the files that its resolution has, as all those of the scan can be read. -/
theorem Ran.runs (h : watch.Ran .acceptAll time state candidates w c result) (hchunk : 0 < watch.config.chunkSize)
    (hmax : watch.config.chunkSize ≤ watch.config.maxRecordSize) (hw : w.Still d)
    (hfound : watch.matcher.found d = .ok candidates)
    (hsound : ∀ f ∈ (watch.resolution state candidates).rotatedAway ++ (watch.resolution state candidates).files,
      f.Sound watch.splitter) :
    ∃ rs away files, Cycle.Runs watch state.useIdentity d (watch.resolution state candidates)
      { tracker := watch.opening time, world := w } rs away files c := by
  rw [h.run]
  exact Cycle.run_spec watch state.useIdentity hchunk hmax hw rfl _
    (fun f hf => hsound f (List.mem_append_left _ hf))
    fun f hf => ⟨(opens_of_mem_files hfound hf _).readable, hsound f (List.mem_append_right _ hf)⟩

theorem Ran.log (h : watch.Ran .acceptAll time state candidates w c result) {r : Resolution}
    {rs : List (Path × Record)} {away files : List LogFile}
    (hruns : Cycle.Runs watch useIdentity d r { tracker := watch.opening time, world := w } rs away files c) :
    (result.offers.map fun o => (o.delivery.path, o.delivery.stop, o.delivery.value, o.accepted)) =
      watch.deliveries rs := by
  rw [h.offers]
  exact hruns.emits.log

end ran

end Watcher

end LogTail
