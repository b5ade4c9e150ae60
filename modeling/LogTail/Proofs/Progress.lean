import LogTail.Proofs.Reading
import LogTail.Delivery.Tracker

/-!
# The progress of a tracked file

What is remembered of a file between two readings, its offset, its tail and whether it skips, as a cursor
in the file. Two updates keep it in step with the reader: the offset passes an event
(`Sound.cursor_passed`), and what is left in the window becomes the tail (`Sound.cursor_kept`).

* The first needs that a cut ends behind the tail (`Splitter.CutsBehindTails`): the offset never goes back,
  and after a cut inside the tail it would stand too far on.
-/

namespace LogTail

theorem Reader.weight_lt_eventBound (content : Bytes) {r : Reader} (hr : r.Fits) :
    (r.cursor content).weight < r.eventBound := by
  have hreach := hr.reaches
  have hlen : (r.cursor content).rest.length ≤ r.window.length + (r.limit - r.position) := by
    simp only [Reader.cursor, List.length_append, List.length_take]
    omega
  unfold Cursor.weight Reader.eventBound
  split <;> omega

def Disk.bytesAt (d : Disk) (path : Path) : Bytes :=
  match d.numberOf path with
  | .error _ => []
  | .ok n => if (d.node n).isDirectory then [] else (d.node n).content

theorem Disk.HasFile.bytesAt {d : Disk} {n : Nat} {content : Bytes} {path : Path}
    (h : d.HasFile n content) (hn : d.numberOf path = .ok n) : d.bytesAt path = content := by
  simp [Disk.bytesAt, hn, h.regular, h.content]

namespace LogFile

/-- Where the reading of a tracked file stands in its content, up to a limit. -/
def cursor (content : Bytes) (limit : Nat) (f : LogFile) : Cursor :=
  ⟨f.tailStart, f.skipping, f.tail ++ (content.drop f.processed).take (limit - f.processed)⟩

/-- Where the reading of a tracked file stands on a disk. -/
def ahead (d : Disk) (f : LogFile) : Cursor := f.cursor (d.bytesAt f.path) f.size

/-- The tail of a tracked file is one that reading leaves: it lies before the offset, holds no terminator,
and is shorter than the longest record, or than a unit where the rest of a record is skipped. -/
structure Sound (s : Splitter) (f : LogFile) : Prop where
  inside : f.tail.length ≤ f.processed
  free : s.encoding.terminator? f.tail = none
  short : f.tail.length < if f.skipping then s.encoding.unit else s.longest

def passed (f : LogFile) (stop : Nat) (skipping : Bool) : LogFile :=
  { f with processed := max f.processed stop, tail := [], incomplete := false, skipping := skipping }

def kept (f : LogFile) (stop : Nat) (tail : Bytes) (skipping : Bool) : LogFile :=
  { f with processed := max f.processed stop, tail := tail, incomplete := !tail.isEmpty,
           skipping := skipping }

section progress
variable {s : Splitter} {content : Bytes} {limit : Nat} {f : LogFile}

theorem Sound.congr {f' : LogFile} (h : f.Sound s) (hprocessed : f'.processed = f.processed)
    (htail : f'.tail = f.tail) (hskip : f'.skipping = f.skipping) : f'.Sound s where
  inside := by rw [hprocessed, htail]; exact h.inside
  free := by rw [htail]; exact h.free
  short := by rw [htail, hskip]; exact h.short

theorem Sound.tailStart_add (h : f.Sound s) : f.tailStart + f.tail.length = f.processed :=
  Nat.sub_add_cancel h.inside

theorem exists_cursor_append {limit' : Nat} (h : limit ≤ limit') :
    ∃ more, f.cursor content limit' = (f.cursor content limit).append more := by
  refine ⟨((content.drop f.processed).drop (limit - f.processed)).take
    ((limit' - f.processed) - (limit - f.processed)), ?_⟩
  rw [cursor, cursor, Cursor.append, List.append_assoc, ← List.take_add,
    Nat.add_sub_cancel' (by omega)]

theorem drop_tail {n : Nat} (h : f.tail.length ≤ n) (hf : f.Sound s) :
    (f.tail ++ (content.drop f.processed).take (limit - f.processed)).drop n =
      (content.drop (f.tailStart + n)).take (limit - (f.tailStart + n)) := by
  have hstart := hf.tailStart_add
  obtain ⟨k, rfl⟩ := Nat.exists_eq_add_of_le h
  rw [← List.drop_drop, List.drop_left, List.drop_take, List.drop_drop, ← Nat.add_assoc, hstart,
    Nat.sub_sub]

/-- **The offset passes an event**: where a move of the cursor ends, the file stands. -/
theorem Sound.cursor_passed (hf : f.Sound s) {finished : Bool} {r : Option Record} {c : Cursor}
    (hs : s.CutsBehind (f.cursor content limit) f.tail)
    (h : s.Step finished (f.cursor content limit) r c) :
    (f.passed c.offset c.skipping).cursor content limit = c := by
  have hle : f.tailStart + f.tail.length ≤ c.offset := h.tail_le hs rfl hf.free hf.short
  obtain ⟨n, _, hc⟩ := h.move
  have hoffset : c.offset = f.tailStart + n := by rw [hc]; rfl
  have hstart := hf.tailStart_add
  have hmax : max f.processed c.offset = c.offset := by omega
  rw [hc, cursor, tailStart, passed, List.length_nil, Nat.sub_zero, ← hc, hmax]
  rw [hc, Cursor.move, cursor]
  simp only [drop_tail (show f.tail.length ≤ n by omega) hf, List.nil_append]

theorem Sound.passed (f : LogFile) (hpos : 0 < s.longest) (stop : Nat) (skipping : Bool) :
    (f.passed stop skipping).Sound s where
  inside := Nat.zero_le _
  free := Encoding.terminator?_nil _
  short := by
    have := s.encoding.unit_pos
    cases skipping with
    | false => exact hpos
    | true => exact this

/-- **What is left in the window becomes the tail**, and the cursor stays. -/
theorem Sound.cursor_kept (hf : f.Sound s) (content : Bytes) {limit' : Nat} (h : limit ≤ limit') :
    (f.kept (f.tailStart + (f.cursor content limit).rest.length) (f.cursor content limit).rest
      f.skipping).cursor content limit' = f.cursor content limit' := by
  have hstart := hf.tailStart_add
  generalize hahead : (content.drop f.processed).take (limit - f.processed) = ahead
  have hlen : (f.cursor content limit).rest.length = f.tail.length + ahead.length := by
    rw [cursor, hahead, List.length_append]
  have hmax : max f.processed (f.tailStart + (f.cursor content limit).rest.length) =
      f.processed + ahead.length := by omega
  have hrest : (f.cursor content limit).rest = f.tail ++ ahead := by rw [cursor, hahead]
  rw [kept, hmax, hrest]
  simp only [cursor, tailStart, List.length_append, List.append_assoc, Cursor.mk.injEq, true_and,
    List.append_cancel_left_eq]
  refine ⟨by omega, ?_⟩
  rw [← Nat.sub_sub, ← List.drop_drop, ← hahead]
  exact Reader.take_append_missing _ (by omega)

theorem Sound.kept {finished : Bool} (hlast : s.next? finished (f.cursor content limit) = none)
    {stop : Nat} (hstop : (f.cursor content limit).rest.length ≤ stop) :
    (f.kept stop (f.cursor content limit).rest f.skipping).Sound s where
  inside := Nat.le_trans hstop (Nat.le_max_right ..)
  free := (Splitter.next?_none hlast).1
  short := (Splitter.next?_none hlast).2

end progress

/-- The path of a tracked file leads to the file that it was, and that has a content. -/
def Opens (d : Disk) (verify : Bool) (content : Bytes) (f : LogFile) : Prop :=
  ∃ number, d.numberOf f.path = .ok number ∧ d.HasFile number content ∧
    (verify = true → FileId.ofNumber number = f.id)

/-- The path of a tracked file leads to something with its identity, whose bytes can be read if any are
to be read. -/
def Readable (d : Disk) (verify : Bool) (content : Bytes) (f : LogFile) : Prop :=
  ∃ number, d.numberOf f.path = .ok number ∧ (d.HasFile number content ∨ f.size ≤ f.processed) ∧
    (verify = true → FileId.ofNumber number = f.id)

theorem Opens.readable {d : Disk} {verify : Bool} {content : Bytes} {f : LogFile}
    (h : f.Opens d verify content) : f.Readable d verify content := by
  obtain ⟨number, hnumber, hfile, hid⟩ := h
  exact ⟨number, hnumber, .inl hfile, hid⟩

theorem Readable.openFile {d : Disk} {o : ReaderOptions} {content : Bytes} {f : LogFile} {w : World}
    (h : f.Readable d o.verifyIdentity content) (hw : w.Still d) :
    ∃ number w', Reader.openFile o f w = (.ok (Reader.ofFile o f number), w') ∧ w'.Still d ∧
      (Reader.ofFile o f number).Covered d content := by
  obtain ⟨number, hnumber, hfile, hid⟩ := h
  obtain ⟨w', hw', hlook⟩ := hw.look fun d => d.numberOf f.path
  refine ⟨number, w', ?_, hw', hfile⟩
  rw [Reader.openFile, hlook, hnumber]
  by_cases hverify : o.verifyIdentity = true
  · simp [hid hverify]
  · simp [hverify]

theorem Sound.fits {o : ReaderOptions} {f : LogFile} (hf : f.Sound o.splitter)
    (hchunk : 0 < o.chunkSize) (hmax : o.chunkSize ≤ o.maxRecordSize) (number : Nat) :
    (Reader.ofFile o f number).Fits where
  chunk_pos := hchunk
  chunk_le := hmax
  reaches := hf.tailStart_add.symm
  bounded := by
    have hshort := hf.short
    show f.tail.length ≤ if f.skipping then o.encoding.unit - 1 + o.chunkSize else o.maxRecordSize
    by_cases hskip : f.skipping = true
    · rw [if_pos hskip] at hshort ⊢
      change _ < o.encoding.unit at hshort
      omega
    · rw [if_neg hskip] at hshort ⊢
      exact Nat.le_of_lt hshort

end LogFile

end LogTail
