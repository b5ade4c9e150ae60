import LogTail.Proofs.Interruption
import LogTail.Proofs.ReaderSteps

/-!
# The window of a reader is bounded

A reader subtracts lengths and cuts byte strings without looking: in its own functions a difference below zero is 0,
and a cut behind the end of a byte string is one at its end. Here each of these steps has a guard in front of it, and
the reader is inspected whenever its window has changed: it has to reach to the position, and must not be longer than a
bound, also while room is made for a chunk. No guard ever stops a reader, whatever is asked of it and whatever becomes
of the file (`Reader.guarded_run`).

* `Guarded.take?_eq`: what is taken from the front of a window lies within it, whatever the window holds.
* `Reader.Bounded.fill`: bytes are read only where no event was taken, and there is room for them.
-/

namespace LogTail

/-! ## Requests -/

namespace Reader

/-- What can be asked of a reader: the next event, or the record of what is left. -/
inductive Request where
  | next
  | remainder

def answer (request : Request) (r : Reader) (w : World) : Except Cause (Option ReadEvent) × Reader × World :=
  match request with
  | .next => r.next w
  | .remainder => (.ok r.takeRemainder.1, r.takeRemainder.2, w)

/-- The answers to requests one after the other. -/
def run : List Request → Reader → World → List (Except Cause (Option ReadEvent)) × Reader × World
  | [], r, w => ([], r, w)
  | request :: requests, r, w =>
    let (first, r, w) := r.answer request w
    let (others, r, w) := run requests r w
    (first :: others, r, w)

theorem run_cons (request : Request) (requests : List Request) {r r₁ : Reader} {w w₁ : World}
    {first : Except Cause (Option ReadEvent)} (h : r.answer request w = (first, r₁, w₁)) :
    run (request :: requests) r w = (first :: (run requests r₁ w₁).1, (run requests r₁ w₁).2) := by
  rw [run, h]

end Reader

/-! ## The reader with guards -/

/-- Where a guard stops a reader. -/
inductive Fault where
  /-- A difference would be below zero. -/
  | difference (m n : Nat)
  /-- A byte string would be cut behind its end. -/
  | cut (length n : Nat)
  /-- The window does not reach to the position. -/
  | misplaced
  /-- The window is longer than the bound. -/
  | overfull
  deriving DecidableEq

namespace Guarded

def minus (m n : Nat) : Except Fault Nat := if n ≤ m then .ok (m - n) else .error (.difference m n)

def front (bs : Bytes) (n : Nat) : Except Fault Bytes :=
  if n ≤ bs.length then .ok (bs.take n) else .error (.cut bs.length n)

def back (bs : Bytes) (n : Nat) : Except Fault Bytes :=
  if n ≤ bs.length then .ok (bs.drop n) else .error (.cut bs.length n)

def terminatorFrom (e : Encoding) (offset : Nat) (unit : Bytes) (afterReturn : Bool) :
    Bytes → Except Fault (Option (Nat × Nat))
  | [] => return none
  | b :: rest =>
    let unit := unit ++ [b]
    if unit.length < e.unit then terminatorFrom e offset unit afterReturn rest
    else if unit = e.lineFeed then do
      let contentEnd ← if afterReturn then minus offset e.unit else pure offset
      return some (contentEnd, offset + e.unit)
    else terminatorFrom e (offset + e.unit) [] (unit = e.carriageReturn) rest

def alignDown (e : Encoding) (length : Nat) : Except Fault Nat := minus length (length % e.unit)

def stripBom (e : Encoding) (bs : Bytes) : Except Fault Bytes :=
  if bs.take e.bom.length = e.bom then back bs e.bom.length else return bs

def ofFile (options : ReaderOptions) (file : LogFile) (number : Nat) : Except Fault Reader := do
  let start ← minus file.processed file.tail.length
  return ⟨options, number, file.tail, start, file.processed, file.size, file.skipping⟩

def drop (r : Reader) (n : Nat) : Except Fault Reader := do
  let window ← back r.window n
  return { r with window := window, start := r.start + n }

def content (r : Reader) (length : Nat) : Except Fault Bytes := do
  let bytes ← front r.window length
  if r.start = 0 then stripBom r.options.encoding bytes else return bytes

def emit (r : Reader) (contentEnd recordEnd : Nat) (truncated : Bool) : Except Fault (ReadEvent × Reader) := do
  let bytes ← content r contentEnd
  let rest ← drop r recordEnd
  return (.record r.start (r.start + recordEnd) bytes truncated, rest)

def take? (r : Reader) : Except Fault (Option (ReadEvent × Reader)) := do
  let encoding := r.options.encoding
  match ← terminatorFrom encoding 0 [] false r.window with
  | some (contentEnd, recordEnd) =>
    if r.skipping then
      let rest ← drop r recordEnd
      return some (.skipped (r.start + recordEnd) true, { rest with skipping := false })
    else return some (← emit r contentEnd recordEnd false)
  | none =>
    if r.skipping then
      let discard ← alignDown encoding r.window.length
      if 0 < discard then return some (.skipped (r.start + discard) false, ← drop r discard) else return none
    else if r.options.maxRecordSize ≤ r.window.length then
      let cut ← alignDown encoding r.options.maxRecordSize
      return some (← emit { r with skipping := true } cut cut true)
    else return none

def takeRemainder (r : Reader) : Except Fault (Option ReadEvent × Reader) :=
  if r.window.isEmpty || r.skipping then return (none, r)
  else do
    let (event, r) ← emit r r.window.length r.window.length false
    return (some event, r)

def wanted (r : Reader) : Except Fault Nat := do
  let room ← if r.skipping then pure r.options.chunkSize else minus r.options.maxRecordSize r.window.length
  let left ← minus r.limit r.position
  return min (min left r.options.chunkSize) room

def readFull (number : Nat) : Nat → World → Nat → Nat → Except Fault (Except Cause Bytes × World)
  | 0, w, _, _ => return (.ok [], w)
  | fuel + 1, w, offset, count =>
    if count = 0 then return (.ok [], w)
    else
      match w.look fun d => d.readAt number offset count with
      | (.error c, w) => return (.error c, w)
      | (.ok bytes, w) =>
        if bytes.isEmpty then return (.ok [], w)
        else do
          let missing ← minus count bytes.length
          match ← readFull number fuel w (offset + bytes.length) missing with
          | (.error c, w) => return (.error c, w)
          | (.ok more, w) => return (.ok (bytes ++ more), w)

/-- Looks at a reader: at its place, and at the length of its window with the room that is made in it. -/
def inspect (bound : Nat) (r : Reader) (room : Nat) : Except Fault Unit :=
  if r.start + r.window.length ≠ r.position then .error .misplaced
  else if bound < r.window.length + room then .error .overfull
  else return ()

def fill (bound : Nat) (r : Reader) (w : World) : Except Fault (Except Cause (Reader × Bool) × World) :=
  if r.limit ≤ r.position then return (.ok (r, false), w)
  else do
    let wanted ← wanted r
    inspect bound r wanted
    match ← readFull r.number wanted w r.position wanted with
    | (.error c, w) => return (.error c, w)
    | (.ok bytes, w) => return (.ok (r.extend wanted bytes, !bytes.isEmpty), w)

def nextFrom (bound : Nat) :
    Nat → Reader → World → Except Fault (Except Cause (Option ReadEvent) × Reader × World)
  | 0, r, w => return (.ok none, r, w)
  | fuel + 1, r, w => do
    inspect bound r 0
    match ← take? r with
    | some (event, r) => return (.ok (some event), r, w)
    | none =>
      match ← fill bound r w with
      | (.error c, w) => return (.error c, r, w)
      | (.ok (r, false), w) => return (.ok none, r, w)
      | (.ok (r, true), w) => nextFrom bound fuel r w

def answer (bound : Nat) (request : Reader.Request) (r : Reader) (w : World) :
    Except Fault (Except Cause (Option ReadEvent) × Reader × World) :=
  match request with
  | .next => nextFrom bound (r.limit - r.position + 1) r w
  | .remainder => do
    let (event?, r) ← takeRemainder r
    return (.ok event?, r, w)

/-- The answers to requests of a reader that is inspected before the first and after each of them. -/
def run (bound : Nat) :
    List Reader.Request → Reader → World → Except Fault (List (Except Cause (Option ReadEvent)) × Reader × World)
  | [], r, w => do
    inspect bound r 0
    return ([], r, w)
  | request :: requests, r, w => do
    inspect bound r 0
    let (first, r, w) ← answer bound request r w
    let (others, r, w) ← run bound requests r w
    return (first :: others, r, w)

/-! ## No guard stops a reader -/

theorem ok_bind {α β : Type} (a : α) (f : α → Except Fault β) : (Except.ok a >>= f) = f a := rfl

theorem minus_eq {m n : Nat} (h : n ≤ m) : minus m n = .ok (m - n) := if_pos h

theorem front_eq {bs : Bytes} {n : Nat} (h : n ≤ bs.length) : front bs n = .ok (bs.take n) := if_pos h

theorem back_eq {bs : Bytes} {n : Nat} (h : n ≤ bs.length) : back bs n = .ok (bs.drop n) := if_pos h

theorem terminatorFrom_eq {e : Encoding} {offset : Nat} {afterReturn : Bool}
    (h : afterReturn = true → e.unit ≤ offset) (unit bs : Bytes) :
    terminatorFrom e offset unit afterReturn bs = .ok (e.terminatorFrom offset unit afterReturn bs) := by
  induction bs generalizing offset unit afterReturn with
  | nil => rfl
  | cons b rest ih =>
    simp only [terminatorFrom, Encoding.terminatorFrom]
    by_cases hshort : (unit ++ [b]).length < e.unit
    · rw [if_pos hshort, if_pos hshort]
      exact ih h _
    rw [if_neg hshort, if_neg hshort]
    by_cases hfeed : unit ++ [b] = e.lineFeed
    · rw [if_pos hfeed, if_pos hfeed]
      cases afterReturn with
      | false => rfl
      | true => rw [if_pos rfl, if_pos rfl, minus_eq (h rfl), ok_bind]; rfl
    · rw [if_neg hfeed, if_neg hfeed]
      exact ih (fun _ => Nat.le_add_left ..) _

theorem terminator?_eq (e : Encoding) (bs : Bytes) : terminatorFrom e 0 [] false bs = .ok (e.terminator? bs) :=
  terminatorFrom_eq (fun h => absurd h Bool.false_ne_true) ..

theorem alignDown_eq (e : Encoding) (n : Nat) : alignDown e n = .ok (e.alignDown n) := minus_eq (Nat.mod_le ..)

theorem stripBom_eq (e : Encoding) (bs : Bytes) : stripBom e bs = .ok (e.stripBom bs) := by
  unfold stripBom Encoding.stripBom
  by_cases hbom : bs.take e.bom.length = e.bom
  · rw [if_pos hbom, if_pos hbom]
    exact back_eq (hbom ▸ List.length_take_le' ..)
  · rw [if_neg hbom, if_neg hbom]
    rfl

section reader
variable (r : Reader)

theorem drop_eq {n : Nat} (h : n ≤ r.window.length) : drop r n = .ok (r.drop n) := by
  rw [drop, back_eq h]
  rfl

theorem content_eq {n : Nat} (h : n ≤ r.window.length) : content r n = .ok (r.content n) := by
  rw [content, front_eq h, ok_bind, Reader.content]
  split
  · exact stripBom_eq ..
  · rfl

theorem emit_eq {contentEnd recordEnd : Nat} (hcontent : contentEnd ≤ r.window.length)
    (hrecord : recordEnd ≤ r.window.length) (truncated : Bool) :
    emit r contentEnd recordEnd truncated = .ok (r.emit contentEnd recordEnd truncated) := by
  rw [emit, content_eq r hcontent, ok_bind, drop_eq r hrecord]
  rfl

/-- **What is taken from the front of a window lies within it**, whatever it holds. -/
theorem take?_eq : take? r = .ok r.take? := by
  simp only [take?, Reader.take?, terminator?_eq, ok_bind]
  rcases hfound : r.options.encoding.terminator? r.window with _ | ⟨contentEnd, stop⟩
  · simp only
    by_cases hskip : r.skipping = true
    · rw [if_pos hskip, if_pos hskip, alignDown_eq, ok_bind]
      split
      · rw [drop_eq r (Encoding.alignDown_le ..)]
        rfl
      · rfl
    rw [if_neg hskip, if_neg hskip]
    by_cases hlong : r.options.maxRecordSize ≤ r.window.length
    · have hcut := Nat.le_trans (r.options.encoding.alignDown_le r.options.maxRecordSize) hlong
      rw [if_pos hlong, if_pos hlong, alignDown_eq, ok_bind, emit_eq { r with skipping := true } hcut hcut]
      rfl
    · rw [if_neg hlong, if_neg hlong]
      rfl
  · have hstop := Encoding.terminator?_le_length hfound
    have hcontent := Encoding.contentEnd_lt_terminator? hfound
    simp only
    by_cases hskip : r.skipping = true
    · rw [if_pos hskip, if_pos hskip, drop_eq r hstop]
      rfl
    · rw [if_neg hskip, if_neg hskip, emit_eq r (by omega) hstop]
      rfl

theorem takeRemainder_eq : takeRemainder r = .ok r.takeRemainder := by
  unfold takeRemainder Reader.takeRemainder
  split
  · rfl
  · rw [emit_eq r (Nat.le_refl _) (Nat.le_refl _)]
    rfl

end reader

theorem readFull_eq (number fuel : Nat) (w : World) (offset count : Nat) :
    readFull number fuel w offset count = .ok (Reader.readFull number fuel w offset count) := by
  induction fuel generalizing w offset count with
  | zero => rfl
  | succ fuel ih =>
    unfold readFull Reader.readFull
    by_cases hcount : count = 0
    · rw [if_pos hcount, if_pos hcount]
      rfl
    rw [if_neg hcount, if_neg hcount]
    rcases hlook : w.look fun d => d.readAt number offset count with ⟨c | bytes, w₁⟩
    · rfl
    have hle := Disk.length_readAt (World.look_ok hlook)
    by_cases hempty : bytes.isEmpty = true
    · simp only [hempty, if_true]
      rfl
    simp only [hempty, if_false, Bool.false_eq_true, minus_eq hle, ok_bind, ih]
    rcases Reader.readFull number fuel w₁ (offset + bytes.length) (count - bytes.length) with ⟨_ | _, _⟩ <;> rfl

/-- Where no event was taken, a window is shorter than a record, or than a unit of one that is skipped. -/
theorem wanted_eq {r : Reader} (hnone : r.take? = none) (hlimit : r.position < r.limit) :
    wanted r = .ok r.wanted := by
  have hshort := (Reader.take?_none hnone).2
  unfold wanted Reader.wanted
  rw [minus_eq (Nat.le_of_lt hlimit)]
  by_cases hskip : r.skipping = true
  · rw [if_pos hskip, if_pos hskip]
    rfl
  · rw [if_neg hskip] at hshort
    rw [if_neg hskip, if_neg hskip, minus_eq (Nat.le_of_lt hshort)]
    rfl

/-- Where an event was not taken first, there may be no room. -/
example : wanted ⟨⟨.utf8, 1, 3, true⟩, 1, [0, 0, 0, 0], 0, 4, 5, false⟩ = .error (.difference 3 4) := rfl

end Guarded

/-! ## The bound of a window -/

namespace Reader

/-- The window reaches to the position and is no longer than a bound, which has room for a longest record, and for a
chunk behind a unit that is not complete. -/
structure Bounded (bound : Nat) (r : Reader) : Prop where
  reaches : r.start + r.window.length = r.position
  window_le : r.window.length ≤ bound
  record_le : r.options.maxRecordSize ≤ bound
  chunk_le : r.options.chunkSize + r.options.encoding.unit - 1 ≤ bound

namespace Bounded
variable {bound : Nat} {r r' : Reader} {event : ReadEvent}

theorem behind (hr : r.Bounded bound) {n : Nat} (hn : n ≤ r.window.length) (skipping : Bool) :
    (r.behind n skipping).Bounded bound where
  reaches := (reaches_behind hr.reaches.symm hn skipping).symm
  window_le := by
    have hwindow := hr.window_le
    simp only [Reader.behind, List.length_drop]
    omega
  record_le := hr.record_le
  chunk_le := hr.chunk_le

theorem take? (hr : r.Bounded bound) (h : r.take? = some (event, r')) : r'.Bounded bound := by
  obtain ⟨n, hn, rfl, -⟩ := take?_event h
  exact hr.behind hn _

theorem takeRemainder (hr : r.Bounded bound) : r.takeRemainder.2.Bounded bound := by
  unfold Reader.takeRemainder
  split
  · exact hr
  · exact hr.behind (Nat.le_refl _) _

theorem inspect (hr : r.Bounded bound) {room : Nat} (hroom : r.window.length + room ≤ bound) :
    Guarded.inspect bound r room = .ok () := by
  unfold Guarded.inspect
  rw [if_neg (not_not_intro hr.reaches), if_neg (Nat.not_lt.2 hroom)]
  rfl

theorem inspect_self (hr : r.Bounded bound) : Guarded.inspect bound r 0 = .ok () := hr.inspect hr.window_le

theorem room (hr : r.Bounded bound) (hnone : r.take? = none) : r.window.length + r.wanted ≤ bound := by
  have hroom := window_add_wanted_le hnone
  have hunit := r.options.encoding.unit_pos
  have hrecord := hr.record_le
  have hchunk := hr.chunk_le
  split at hroom <;> omega

theorem extend (hr : r.Bounded bound) {wanted : Nat} {bytes : Bytes} (hroom : r.window.length + wanted ≤ bound)
    (hbytes : bytes.length ≤ wanted) : (r.extend wanted bytes).Bounded bound where
  reaches := (reaches_extend hr.reaches.symm wanted bytes).symm
  window_le := by
    simp only [Reader.extend, List.length_append]
    omega
  record_le := hr.record_le
  chunk_le := hr.chunk_le

theorem of_fills (hr : r.Bounded bound) (hnone : r.take? = none) {w w' : World} {more : Bool}
    (h : Fills r w (.ok (r', more), w')) : r'.Bounded bound := by
  cases h with
  | limit => exact hr
  | read _ reads => exact hr.extend (hr.room hnone) (reads.length_le _ rfl)

/-- **Bytes are read only where no event was taken, and there is room for them.** -/
theorem fill (hr : r.Bounded bound) (hnone : r.take? = none) (w : World) :
    Guarded.fill bound r w = .ok (r.fill w) := by
  have hroom := hr.room hnone
  unfold Guarded.fill Reader.fill
  by_cases hlimit : r.limit ≤ r.position
  · rw [if_pos hlimit, if_pos hlimit]
    rfl
  rw [if_neg hlimit, if_neg hlimit, Guarded.wanted_eq hnone (Nat.not_le.1 hlimit)]
  simp only [hr.inspect hroom, Guarded.ok_bind, Guarded.readFull_eq]
  rcases readFull r.number r.wanted w r.position r.wanted with ⟨c | bytes, w₁⟩ <;> rfl

theorem nextFrom (fuel : Nat) (hr : r.Bounded bound) (w : World) :
    Guarded.nextFrom bound fuel r w = .ok (r.nextFrom fuel w) ∧ (r.nextFrom fuel w).2.1.Bounded bound := by
  induction fuel generalizing r w with
  | zero => exact ⟨rfl, hr⟩
  | succ fuel ih =>
    simp only [Guarded.nextFrom, Reader.nextFrom, hr.inspect_self, Guarded.take?_eq, Guarded.ok_bind]
    rcases htake : r.take? with _ | ⟨event, r₁⟩
    · have hfills := fills_fill r w
      simp only [hr.fill htake, Guarded.ok_bind]
      rcases hfill : r.fill w with ⟨c | ⟨r₁, _ | _⟩, w₁⟩ <;> rw [hfill] at hfills
      · exact ⟨rfl, hr⟩
      · exact ⟨rfl, hr.of_fills htake hfills⟩
      · exact ih (hr.of_fills htake hfills) w₁
    · exact ⟨rfl, hr.take? htake⟩

theorem answer (hr : r.Bounded bound) (request : Request) (w : World) :
    Guarded.answer bound request r w = .ok (r.answer request w) ∧ (r.answer request w).2.1.Bounded bound := by
  cases request with
  | next => exact hr.nextFrom _ w
  | remainder =>
    refine ⟨?_, hr.takeRemainder⟩
    rw [Guarded.answer, Guarded.takeRemainder_eq]
    rfl

theorem run (hr : r.Bounded bound) (requests : List Request) (w : World) :
    Guarded.run bound requests r w = .ok (Reader.run requests r w) ∧ (Reader.run requests r w).2.1.Bounded bound := by
  induction requests generalizing r w with
  | nil =>
    refine ⟨?_, hr⟩
    rw [Guarded.run, hr.inspect_self]
    rfl
  | cons request requests ih =>
    obtain ⟨hanswer, hkept⟩ := hr.answer request w
    rcases hfirst : r.answer request w with ⟨first, r₁, w₁⟩
    rw [hfirst] at hanswer hkept
    obtain ⟨hrun, hlast⟩ := ih hkept w₁
    rw [Guarded.run, hr.inspect_self, Guarded.ok_bind, hanswer, Guarded.ok_bind, run_cons _ _ hfirst]
    simp only [hrun, Guarded.ok_bind]
    exact ⟨rfl, hlast⟩

end Bounded

theorem bounded_ofFile (o : ReaderOptions) {f : LogFile} (htail : f.tail.length ≤ f.processed) (number : Nat) :
    (ofFile o f number).Bounded (max (max f.tail.length o.maxRecordSize) (o.chunkSize + o.encoding.unit - 1)) where
  reaches := Nat.sub_add_cancel htail
  window_le := Nat.le_trans (Nat.le_max_left ..) (Nat.le_max_left ..)
  record_le := Nat.le_trans (Nat.le_max_right ..) (Nat.le_max_left ..)
  chunk_le := Nat.le_max_right ..

theorem openFile_ok {o : ReaderOptions} {f : LogFile} {w₀ w : World} {r : Reader}
    (h : openFile o f w₀ = (.ok r, w)) : r = ofFile o f r.number := by
  unfold openFile at h
  rcases hlook : w₀.look fun d => d.numberOf f.path with ⟨c | number, w₁⟩
  · simp [hlook] at h
  · simp only [hlook] at h
    split at h
    · cases h
    · cases h
      rfl

/-- **The window of a reader is bounded, and nothing is cut or subtracted out of range**: whatever the tail, the sizes
and the requests, and whatever the world does meanwhile, a reader with guards does what one without them does, its
window reaches to its position and never grows past the longest of the tail, a record, and a chunk behind a unit that
is not complete. -/
theorem guarded_run {o : ReaderOptions} {f : LogFile} {w₀ w : World} {r : Reader}
    (htail : f.tail.length ≤ f.processed) (hopen : openFile o f w₀ = (.ok r, w)) (requests : List Request) :
    Guarded.ofFile o f r.number = .ok r ∧
      Guarded.run (max (max f.tail.length o.maxRecordSize) (o.chunkSize + o.encoding.unit - 1)) requests r w =
        .ok (run requests r w) ∧
      (run requests r w).2.1.start + (run requests r w).2.1.window.length = (run requests r w).2.1.position ∧
      (run requests r w).2.1.window.length ≤
        max (max f.tail.length o.maxRecordSize) (o.chunkSize + o.encoding.unit - 1) := by
  have hr := bounded_ofFile o htail r.number
  rw [← openFile_ok hopen] at hr
  obtain ⟨hrun, hlast⟩ := hr.run requests w
  refine ⟨?_, hrun, hlast.reaches, hlast.window_le⟩
  rw [Guarded.ofFile, Guarded.minus_eq htail, Guarded.ok_bind]
  exact congrArg Except.ok (openFile_ok hopen).symm

/-- Five bytes at a time, and records shorter than a unit, so that all are cut before their first byte. -/
def narrowOptions : ReaderOptions := ⟨.utf32le, 5, 3, true⟩

def narrowContent : Bytes :=
  [0x61, 0, 0, 0, 0x62, 0, 0, 0, 0x0a, 0, 0, 0] ++ [0x63, 0, 0, 0, 0x0a, 0, 0, 0] ++ [0x64, 0, 0, 0]

def narrowFile : LogFile :=
  { path := ⟨[0x2f, 0x61]⟩, mtime := 0, id := .ofNumber 1, size := 24, processed := 7, digest := .empty, seq := 0,
    tail := narrowContent.take 7 }

def shrinking : World :=
  ⟨Interruption.oneFile narrowContent, 0,
    fun m d => if m = .call 4 then d.setContent 1 (narrowContent.take 22) else d, fun _ => none⟩

theorem guarded_run_shrinking :
    let requests : List Request := [.next, .next, .next, .next, .next, .next, .remainder, .next]
    narrowFile.tail.length ≤ narrowFile.processed ∧
      ∃ r w, openFile narrowOptions narrowFile shrinking = (.ok r, w) ∧
        Guarded.ofFile narrowOptions narrowFile r.number = .ok r ∧
        Guarded.run 8 requests r w = .ok (run requests r w) ∧
        (run requests r w).1 =
          [.ok (some (.record 0 0 [] true)), .ok (some (.skipped 4 false)), .ok (some (.skipped 12 true)),
            .ok (some (.record 12 12 [] true)), .ok (some (.skipped 20 true)), .ok none,
            .ok (some (.record 20 22 [0x64, 0] false)), .ok none] ∧
        (run requests r w).2.1.start = 22 ∧ (run requests r w).2.1.position = 22 := by
  intro requests
  have htail : narrowFile.tail.length ≤ narrowFile.processed := by decide
  have hopen : openFile narrowOptions narrowFile shrinking =
      (.ok (ofFile narrowOptions narrowFile 1), { shrinking with calls := 1 }) := rfl
  obtain ⟨hstart, hrun, -, -⟩ := guarded_run htail hopen requests
  exact ⟨htail, _, _, hopen, hstart, hrun, rfl, rfl, rfl⟩

end Reader

end LogTail
