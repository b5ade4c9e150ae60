import LogTail.Proofs.Splitting
import LogTail.Record.Reader

/-!
# Reading is splitting

The reader of a file in a still world, against the records of the bytes ahead of it. A reader's cursor has
as the bytes ahead its window and what it may still read of the file; chunks and the bounds of the window
leave no trace in it.

* `Reader.Takes`: what is taken from the front of a window.
* `Reader.fill_spec`: to read more bytes leaves the cursor where it is.
* `Reader.next_spec`: an event is one move of the cursor, and there is none only where nothing can come
  next.
-/

namespace LogTail

/-! ## Still worlds -/

/-- A world in which nobody else changes the disk and no call fails by itself. -/
structure World.Still (d : Disk) (w : World) : Prop where
  disk : w.disk = d
  others : ∀ m d', w.others m d' = d'
  faults : ∀ n, w.faults n = none

namespace World

theorem still_quiet (d : Disk) : Still d (quiet d) := ⟨rfl, fun _ _ => rfl, fun _ => rfl⟩

variable {d : Disk} {w : World}

theorem Still.look {α : Type} (h : Still d w) (f : Disk → Except Cause α) :
    ∃ w', Still d w' ∧ w.look f = (f d, w') := by
  refine ⟨{ w with disk := d, calls := w.calls + 1 }, ⟨rfl, h.others, h.faults⟩, ?_⟩
  simp [World.look, h.others, h.faults, h.disk]

theorem look_ok {α : Type} {w' : World} {f : Disk → Except Cause α} {a : α}
    (h : w.look f = (.ok a, w')) : f (w.others (.call w.calls) w.disk) = .ok a := by
  simp only [look, Prod.mk.injEq] at h
  rcases hfault : w.faults w.calls with _ | c
  · rw [hfault] at h
    exact h.1
  · rw [hfault] at h
    cases h.1

theorem Still.atOffer (h : Still d w) (n : Nat) : Still d (w.atOffer n) :=
  ⟨by rw [World.atOffer, h.others, h.disk], h.others, h.faults⟩

end World

/-- A number of a disk that stands for a file with a content. -/
structure Disk.HasFile (d : Disk) (number : Nat) (content : Bytes) : Prop where
  regular : (d.node number).isDirectory = false
  content : (d.node number).content = content

theorem Disk.HasFile.readAt {d : Disk} {number : Nat} {content : Bytes} (h : d.HasFile number content)
    (offset count : Nat) : d.readAt number offset count = .ok ((content.drop offset).take count) := by
  unfold Disk.readAt
  by_cases hcount : count = 0 <;> simp [hcount, h.regular, h.content]

theorem Disk.HasFile.size {d : Disk} {number : Nat} {content : Bytes} (h : d.HasFile number content) :
    d.size number = content.length := by
  simp [Disk.size, h.regular, h.content]

/-! ## The cursor of a reader -/

def ReaderOptions.splitter (o : ReaderOptions) : Splitter := ⟨o.encoding, o.maxRecordSize⟩

def ReadEvent.record? : ReadEvent → Option Record
  | .record start stop bytes truncated => some ⟨start, stop, bytes, truncated⟩
  | .skipped .. => none

def ReadEvent.skips : ReadEvent → Bool
  | .record _ _ _ truncated => truncated
  | .skipped _ finished => !finished

namespace Reader

def cursor (content : Bytes) (r : Reader) : Cursor :=
  ⟨r.start, r.skipping, r.window ++ (content.drop r.position).take (r.limit - r.position)⟩

/-- The window reaches to the position, and is no longer than the reader lets it become. -/
structure Fits (r : Reader) : Prop where
  chunk_pos : 0 < r.options.chunkSize
  chunk_le : r.options.chunkSize ≤ r.options.maxRecordSize
  reaches : r.position = r.start + r.window.length
  bounded : r.window.length ≤
    if r.skipping then r.options.encoding.unit - 1 + r.options.chunkSize else r.options.maxRecordSize

/-- What every step leaves as it is. -/
structure SameFile (r r' : Reader) : Prop where
  options : r'.options = r.options
  number : r'.number = r.number
  ended : r.limit ≤ r.position → r'.limit ≤ r'.position

theorem SameFile.refl (r : Reader) : SameFile r r := ⟨rfl, rfl, id⟩

theorem SameFile.trans {r₁ r₂ r₃ : Reader} (h : SameFile r₁ r₂) (h' : SameFile r₂ r₃) : SameFile r₁ r₃ :=
  ⟨h'.options.trans h.options, h'.number.trans h.number, h'.ended ∘ h.ended⟩

/-- What a reader has still to read stands in a file with a content; at its limit it needs none. -/
def Covered (d : Disk) (content : Bytes) (r : Reader) : Prop :=
  d.HasFile r.number content ∨ r.limit ≤ r.position

theorem Covered.same {d : Disk} {content : Bytes} {r r' : Reader} (h : r.Covered d content)
    (hsame : SameFile r r') : r'.Covered d content := by
  rcases h with hfile | hended
  · exact .inl (hsame.number ▸ hfile)
  · exact .inr (hsame.ended hended)

def behind (r : Reader) (n : Nat) (skipping : Bool) : Reader :=
  { r with window := r.window.drop n, start := r.start + n, skipping := skipping }

section window
variable {content : Bytes} {r r' : Reader} {event : ReadEvent}

theorem reaches_behind (h : r.position = r.start + r.window.length) {n : Nat} (hn : n ≤ r.window.length) (b : Bool) :
    (r.behind n b).position = (r.behind n b).start + (r.behind n b).window.length := by
  simp only [behind, List.length_drop]
  omega

theorem reaches_extend (h : r.position = r.start + r.window.length) (wanted : Nat) (bytes : Bytes) :
    (r.extend wanted bytes).position = (r.extend wanted bytes).start + (r.extend wanted bytes).window.length := by
  simp only [extend, List.length_append]
  omega

theorem cursor_behind {n : Nat} (h : n ≤ r.window.length) (b : Bool) :
    (r.behind n b).cursor content = (r.cursor content).move n b := by
  simp [cursor, behind, Cursor.move, List.drop_append_of_le_length h]

theorem record_eq (content : Bytes) {n : Nat} (h : n ≤ r.window.length) (stop : Nat) (b : Bool) :
    (r.cursor content).record r.options.encoding n stop b = ⟨r.start, r.start + stop, r.content n, b⟩ := by
  simp [cursor, Cursor.record, Reader.content, List.take_append_of_le_length h]

/-- What is taken from the front of a window: what ends with its first terminator; or, if it holds none, the whole
units of a record that is skipped, or of one that is too long. -/
inductive Takes (r : Reader) : ReadEvent → Reader → Prop
  | skipped {contentEnd stop : Nat} (skips : r.skipping = true)
    (found : r.options.encoding.terminator? r.window = some (contentEnd, stop)) :
    Takes r (.skipped (r.start + stop) true) (r.behind stop false)
  | dropped (skips : r.skipping = true) (free : r.options.encoding.terminator? r.window = none)
    (pos : 0 < r.options.encoding.alignDown r.window.length) :
    Takes r (.skipped (r.start + r.options.encoding.alignDown r.window.length) false)
      (r.behind (r.options.encoding.alignDown r.window.length) true)
  | whole {contentEnd stop : Nat} (reads : r.skipping = false)
    (found : r.options.encoding.terminator? r.window = some (contentEnd, stop)) :
    Takes r (.record r.start (r.start + stop) (r.content contentEnd) false) (r.behind stop false)
  | cut (reads : r.skipping = false) (free : r.options.encoding.terminator? r.window = none)
    (long : r.options.maxRecordSize ≤ r.window.length) :
    Takes r (.record r.start (r.start + r.options.encoding.alignDown r.options.maxRecordSize)
        (r.content (r.options.encoding.alignDown r.options.maxRecordSize)) true)
      (r.behind (r.options.encoding.alignDown r.options.maxRecordSize) true)

theorem takes_of_take? (h : r.take? = some (event, r')) : r.Takes event r' := by
  unfold take? at h
  rcases hfound : r.options.encoding.terminator? r.window with _ | ⟨contentEnd, stop⟩
  · simp only [hfound] at h
    by_cases hskip : r.skipping = true
    · simp only [if_pos hskip, Option.ite_none_right_eq_some, Option.some.injEq, Prod.mk.injEq] at h
      obtain ⟨hpos, rfl, rfl⟩ := h
      rw [show r.drop _ = r.behind _ true by rw [behind, drop, hskip]]
      exact .dropped hskip hfound hpos
    · simp only [if_neg hskip, Option.ite_none_right_eq_some, Option.some.injEq, emit, Prod.mk.injEq] at h
      obtain ⟨hlong, rfl, rfl⟩ := h
      exact .cut (Bool.not_eq_true _ ▸ hskip) hfound hlong
  · simp only [hfound] at h
    by_cases hskip : r.skipping = true
    · simp only [if_pos hskip, Option.some.injEq, Prod.mk.injEq] at h
      obtain ⟨rfl, rfl⟩ := h
      exact .skipped hskip hfound
    · simp only [if_neg hskip, Option.some.injEq, emit, Prod.mk.injEq] at h
      obtain ⟨rfl, rfl⟩ := h
      rw [Bool.not_eq_true] at hskip
      rw [show r.drop _ = r.behind _ false by rw [behind, drop, hskip]]
      exact .whole hskip hfound

theorem take?_some (content : Bytes) (hr : r.Fits) (h : r.take? = some (event, r')) :
    ∃ n ≤ r.window.length, r' = r.behind n event.skips ∧ event.stop = r.start + n ∧
      r.window.length ≤ n + (if event.skips then r.options.encoding.unit - 1 + r.options.chunkSize
        else r.options.maxRecordSize) ∧
      r.options.splitter.Step false (r.cursor content) event.record?
        ((r.cursor content).move n event.skips) := by
  have hbound := hr.bounded
  have hchunk := hr.chunk_le
  cases takes_of_take? h with
  | @skipped contentEnd stop hskip hfound =>
    have hge := Encoding.unit_le_terminator? hfound
    rw [if_pos hskip] at hbound
    refine ⟨stop, Encoding.terminator?_le_length hfound, rfl, rfl, by simp [ReadEvent.skips]; omega, ?_⟩
    exact .skipped hskip (Encoding.terminator?_append hfound _)
  | dropped hskip hfree hpos =>
    have hle := r.options.encoding.alignDown_le r.window.length
    rw [if_pos hskip] at hbound
    refine ⟨_, hle, rfl, rfl, by simp [ReadEvent.skips]; omega, ?_⟩
    refine .dropped hskip hpos ?_ (Encoding.unit_dvd_alignDown _ _) ?_
    · simp only [cursor, List.length_append]
      omega
    · simp only [cursor, List.take_append_of_le_length hle]
      rw [← List.take_append_drop (r.options.encoding.alignDown r.window.length) r.window] at hfree
      exact Encoding.terminator?_eq_none_of_append hfree
  | @whole contentEnd stop hreads hfound =>
    have hlt := Encoding.contentEnd_lt_terminator? hfound
    have hle := Encoding.terminator?_le_length hfound
    rw [hreads, if_neg Bool.false_ne_true] at hbound
    refine ⟨stop, hle, rfl, rfl, by simp [ReadEvent.skips]; omega, ?_⟩
    rw [ReadEvent.record?, ReadEvent.skips, ← record_eq content (by omega)]
    refine .whole hreads ?_
    simp only [cursor, ReaderOptions.splitter]
    rw [List.take_append, List.take_of_length_le hbound]
    exact Encoding.terminator?_append hfound _
  | cut hreads hfree hlong =>
    have hle := r.options.encoding.alignDown_le r.options.maxRecordSize
    have hlt := r.options.encoding.sub_alignDown_lt r.options.maxRecordSize
    rw [hreads, if_neg Bool.false_ne_true] at hbound
    refine ⟨_, Nat.le_trans hle hlong, rfl, rfl, by simp [ReadEvent.skips]; omega, ?_⟩
    show r.options.splitter.Step false _ (some ⟨r.start, r.start + _, r.content _, true⟩) _
    rw [← record_eq content (Nat.le_trans hle hlong)]
    refine .cut hreads ?_ ?_
    · simp only [cursor, ReaderOptions.splitter]
      rw [List.take_append_of_le_length hlong, List.take_of_length_le hbound, hfree]
    · simp only [cursor, ReaderOptions.splitter, List.length_append]
      omega

theorem take?_none (h : r.take? = none) :
    r.options.encoding.terminator? r.window = none ∧
      r.window.length < if r.skipping then r.options.encoding.unit else r.options.maxRecordSize := by
  unfold take? at h
  rcases hfound : r.options.encoding.terminator? r.window with _ | ⟨contentEnd, stop⟩
  · simp only [hfound] at h
    by_cases hskip : r.skipping = true
    · have halign := r.options.encoding.sub_alignDown_lt r.window.length
      simp only [hskip, if_true, ite_eq_right_iff] at h
      simp [hskip]
      grind
    · simp [hskip] at h
      simp [hskip, h]
  · simp only [hfound] at h
    split at h <;> cases h

theorem take?_eq_none (hfree : r.options.encoding.terminator? r.window = none)
    (hshort : r.window.length < if r.skipping then r.options.encoding.unit else r.options.maxRecordSize) :
    r.take? = none := by
  unfold take?
  simp only [hfree]
  by_cases hskip : r.skipping = true
  · rw [if_pos hskip] at hshort ⊢
    simp [Encoding.alignDown_eq_zero.2 hshort]
  · rw [if_neg hskip] at hshort ⊢
    simp [Nat.not_le.2 hshort]

end window

/-! ## Reading more -/

theorem take_append_missing (bs : Bytes) {m n : Nat} (h : m ≤ n) :
    bs.take m ++ (bs.drop (bs.take m).length).take (n - (bs.take m).length) = bs.take n := by
  rw [List.length_take]
  rcases Nat.le_total m bs.length with hle | hle
  · rw [Nat.min_eq_left hle, ← List.take_add, Nat.add_sub_cancel' h]
  · rw [Nat.min_eq_right hle, List.drop_length, List.take_nil, List.append_nil,
      List.take_of_length_le hle, List.take_of_length_le (Nat.le_trans hle h)]

theorem readFull_spec {d : Disk} {number : Nat} {content : Bytes} (hfile : d.HasFile number content)
    (fuel : Nat) {w : World} (hw : w.Still d) (offset count : Nat) (hfuel : count ≤ fuel) :
    ∃ w', w'.Still d ∧
      readFull number fuel w offset count = (.ok ((content.drop offset).take count), w') := by
  induction fuel generalizing w offset count with
  | zero =>
    obtain rfl : count = 0 := by omega
    exact ⟨w, hw, rfl⟩
  | succ fuel ih =>
    unfold readFull
    by_cases hcount : count = 0
    · subst hcount
      exact ⟨w, hw, rfl⟩
    obtain ⟨w₁, hw₁, hlook⟩ := hw.look fun d => d.readAt number offset count
    simp only [if_neg hcount, hlook, hfile.readAt]
    by_cases hempty : (content.drop offset).take count = []
    · exact ⟨w₁, hw₁, by rw [hempty]; rfl⟩
    obtain ⟨w₂, hw₂, hmore⟩ := ih hw₁ (offset + ((content.drop offset).take count).length)
      (count - ((content.drop offset).take count).length)
      (by have := List.length_pos_iff.2 hempty; omega)
    refine ⟨w₂, hw₂, ?_⟩
    rw [if_neg (by rwa [List.isEmpty_iff]), hmore]
    simp only [← List.drop_drop, take_append_missing _ (Nat.le_refl count)]

theorem wanted_le (r : Reader) : r.wanted ≤ r.limit - r.position := by
  simp only [wanted]
  omega

theorem wanted_pos {r : Reader} (hchunk : 0 < r.options.chunkSize) (hnone : r.take? = none)
    (hlimit : r.position < r.limit) : 0 < r.wanted := by
  have hshort := (take?_none hnone).2
  by_cases hskip : r.skipping = true
  · simp only [wanted, if_pos hskip]
    omega
  · simp only [wanted, if_neg hskip] at hshort ⊢
    omega

theorem window_add_wanted_le {r : Reader} (hnone : r.take? = none) : r.window.length + r.wanted ≤
    if r.skipping then r.options.encoding.unit - 1 + r.options.chunkSize else r.options.maxRecordSize := by
  have hshort := (take?_none hnone).2
  by_cases hskip : r.skipping = true
  · simp only [wanted, if_pos hskip] at hshort ⊢
    omega
  · simp only [wanted, if_neg hskip] at hshort ⊢
    omega

/-- **To read more bytes leaves the cursor where it is.** When there are none, the window holds all bytes
ahead. -/
theorem fill_spec {d : Disk} {content : Bytes} {r : Reader} {w : World}
    (hfile : r.Covered d content) (hw : w.Still d) (hr : r.Fits) (hnone : r.take? = none) :
    ∃ r' more w', r.fill w = (.ok (r', more), w') ∧ w'.Still d ∧ r'.Fits ∧ r.SameFile r' ∧
      r'.cursor content = r.cursor content ∧
      if more then r'.limit - r'.position < r.limit - r.position
      else r'.window = r.window ∧ r.window = (r.cursor content).rest := by
  unfold fill
  by_cases hlimit : r.limit ≤ r.position
  · have hzero : r.limit - r.position = 0 := by omega
    exact ⟨r, false, w, by rw [if_pos hlimit], hw, hr, .refl r, rfl, by simp [cursor, hzero]⟩
  have hpos := wanted_pos hr.chunk_pos hnone (Nat.not_le.1 hlimit)
  have hle := r.wanted_le
  have hfits := window_add_wanted_le hnone
  have hfile := hfile.resolve_right hlimit
  obtain ⟨w', hw', hread⟩ := readFull_spec hfile r.wanted hw r.position r.wanted (Nat.le_refl _)
  rw [if_neg hlimit, hread]
  generalize hbytes : (content.drop r.position).take r.wanted = bytes
  have hlen : bytes.length = min r.wanted (content.drop r.position).length := by
    rw [← hbytes, List.length_take]
  refine ⟨r.extend r.wanted bytes, !bytes.isEmpty, w', rfl, hw', ?_, ⟨rfl, rfl, fun h => absurd h hlimit⟩,
    ?_, ?_⟩
  · refine ⟨hr.chunk_pos, hr.chunk_le, reaches_extend hr.reaches _ _, Nat.le_trans ?_ hfits⟩
    simp only [extend, List.length_append]
    omega
  · -- the bytes that were read stood in front of those that were not
    simp only [extend, cursor, Cursor.mk.injEq, true_and, List.append_assoc, List.append_cancel_left_eq]
    by_cases hend : bytes.length < r.wanted
    · have hall : bytes = content.drop r.position := by
        rw [← hbytes, List.take_of_length_le (by omega)]
      rw [if_pos hend, Nat.sub_self, List.take_zero, List.append_nil, hall, List.take_of_length_le]
      omega
    · rw [if_neg hend, ← List.drop_drop, show bytes.length = r.wanted by omega, ← hbytes,
        show r.limit - (r.position + r.wanted) = r.limit - r.position - r.wanted by omega,
        ← List.take_add, Nat.add_sub_cancel' hle]
  · rcases bytes with _ | ⟨b, bytes⟩
    · -- nothing came although something was wanted: the content ends here
      have hall : content.drop r.position = [] := by
        rw [List.length_nil] at hlen
        exact List.eq_nil_of_length_eq_zero (by omega)
      simp [cursor, hall, extend]
    · simp only [List.isEmpty_cons, Bool.not_false, if_true, extend, List.length_cons] at hlen ⊢
      split <;> omega

/-! ## Events -/

/-- What the next event of a reader may be: a move of its cursor, or none where nothing can come next. -/
inductive Answers (content : Bytes) (r : Reader) : Option ReadEvent → Reader → Prop
  | event {event : ReadEvent} {r' : Reader}
    (step : r.options.splitter.Step false (r.cursor content) event.record? (r'.cursor content))
    (stop : event.stop = r'.start) (skips : event.skips = r'.skipping) :
    Answers content r (some event) r'
  | ended {r' : Reader} (stays : r'.cursor content = r.cursor content)
    (all : r'.window = (r.cursor content).rest)
    (last : r.options.splitter.next? false (r.cursor content) = none) : Answers content r none r'

theorem next?_of_take?_none {content : Bytes} {r : Reader} (hnone : r.take? = none)
    (hall : r.window = (r.cursor content).rest) :
    r.options.splitter.next? false (r.cursor content) = none := by
  obtain ⟨hfree, hshort⟩ := take?_none hnone
  rw [hall] at hfree hshort
  exact Splitter.next?_eq_none hfree hshort

theorem nextFrom_spec {d : Disk} {content : Bytes} (fuel : Nat) {r : Reader} {w : World}
    (hfile : r.Covered d content) (hw : w.Still d) (hr : r.Fits)
    (hfuel : r.limit - r.position < fuel) :
    ∃ event? r' w', nextFrom fuel r w = (.ok event?, r', w') ∧ w'.Still d ∧ r'.Fits ∧ r.SameFile r' ∧
      r.Answers content event? r' := by
  induction fuel generalizing r w with
  | zero => omega
  | succ fuel ih =>
    rw [nextFrom]
    rcases htake : r.take? with _ | ⟨event, r'⟩
    · obtain ⟨r₁, more, w₁, hfill, hw₁, hr₁, hsame, hcursor, hmore⟩ := fill_spec hfile hw hr htake
      simp only [hfill]
      cases more with
      | false =>
        rw [if_neg Bool.false_ne_true] at hmore
        obtain ⟨hwindow, hall⟩ := hmore
        exact ⟨none, r₁, w₁, rfl, hw₁, hr₁, hsame,
          .ended hcursor (hwindow.trans hall) (next?_of_take?_none htake hall)⟩
      | true =>
        rw [if_pos rfl] at hmore
        obtain ⟨event?, r₂, w₂, hnext, hw₂, hr₂, hsame₂, hanswer⟩ :=
          ih (hfile.same hsame) hw₁ hr₁ (by omega)
        refine ⟨event?, r₂, w₂, hnext, hw₂, hr₂, hsame.trans hsame₂, ?_⟩
        cases hanswer with
        | event hstep hstop hskips =>
          rw [hsame.options, hcursor] at hstep
          exact .event hstep hstop hskips
        | ended hstays hall hlast =>
          rw [hsame.options, hcursor] at hlast
          rw [hcursor] at hstays hall
          exact .ended hstays hall hlast
    · obtain ⟨n, hn, rfl, hstop, hbound, hstep⟩ := take?_some content hr htake
      refine ⟨some event, _, w, rfl, hw, ?_, ⟨rfl, rfl, id⟩, .event ?_ hstop rfl⟩
      · refine ⟨hr.chunk_pos, hr.chunk_le, reaches_behind hr.reaches hn _, ?_⟩
        rw [behind, List.length_drop]
        exact Nat.sub_le_of_le_add (Nat.add_comm n _ ▸ hbound)
      · rwa [cursor_behind hn]

/-- **The next event of a reader is one move of its cursor**; there is none only where nothing can come
next, and then the window holds all bytes ahead. -/
theorem next_spec {d : Disk} {content : Bytes} {r : Reader} {w : World}
    (hfile : r.Covered d content) (hw : w.Still d) (hr : r.Fits) :
    ∃ event? r' w', r.next w = (.ok event?, r', w') ∧ w'.Still d ∧ r'.Fits ∧ r.SameFile r' ∧
      r.Answers content event? r' :=
  nextFrom_spec _ hfile hw hr (Nat.lt_succ_self _)

end Reader

end LogTail
