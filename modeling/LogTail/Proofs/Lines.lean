import LogTail.Proofs.Division

/-!
# Files made of lines

A file whose records all end, each with a line feed or with a carriage return and a line feed. A reader gives one
record for each line (`Reader.yields_lines`). A line counts with its terminator: one that fits the longest record so is
kept whole, and one that is longer is cut, even where its content alone would fit (`Line.exists_cut`).

* `Line.terminator?_bytes`: the terminator of a line is its end, and the content in front of it is that of the line.
* `Line.leads`: a reading of a line meets its record and stands behind it, however much of it was skipped.
-/

namespace LogTail

/-- A line of a file: its content, and whether it ends with a carriage return in front of the line feed. -/
structure Line where
  content : Bytes
  returns : Bool

namespace Line

def ending (e : Encoding) (l : Line) : Bytes := if l.returns then e.carriageReturn ++ e.lineFeed else e.lineFeed

def bytes (e : Encoding) (l : Line) : Bytes := l.content ++ l.ending e

/-- The content of a line fills whole units, none of which is a line feed; and what ends it is all of its
terminator. -/
structure Proper (e : Encoding) (l : Line) : Prop where
  units : e.unit ∣ l.content.length
  free : e.terminator? l.content = none
  bare : l.returns = false → ¬ e.carriageReturn <:+ l.content

/-- The record of a line that begins at an offset. The line is kept whole if the longest record holds it with its
terminator; else it is cut to whole units. A byte order mark at the start of the file is no part of it. -/
def record (s : Splitter) (start : Nat) (l : Line) : Record :=
  let e := s.encoding
  let fits := (l.bytes e).length ≤ s.longest
  let kept := if fits then l.content else (l.bytes e).take (e.alignDown s.longest)
  { start := start
    stop := start + if fits then (l.bytes e).length else e.alignDown s.longest
    bytes := if start = 0 then e.stripBom kept else kept
    truncated := !decide fits }

def records (s : Splitter) (start : Nat) : List Line → List Record
  | [] => []
  | l :: lines => l.record s start :: records s (start + (l.bytes s.encoding).length) lines

/-! ## One line -/

variable {e : Encoding} {s : Splitter} {l : Line} {lines : List Line} {start : Nat}

/-- **A line ends with its terminator**, and its content is what stands in front of it. -/
theorem terminator?_bytes (h : l.Proper e) :
    e.terminator? (l.bytes e) = some (l.content.length, (l.bytes e).length) := by
  obtain ⟨m, hm⟩ := h.units
  rw [Nat.mul_comm] at hm
  rw [Encoding.terminator?_eq_some_iff, bytes, ending]
  rcases hreturns : l.returns with _ | _
  · refine ⟨m, Encoding.firstFeed_append hm h.free (Encoding.firstFeed_lineFeed e), ?_, ?_⟩
    · rw [if_neg Bool.false_ne_true, List.length_append, e.lineFeed_length, hm, Nat.succ_mul]
    · -- no carriage return stands in front of the line feed
      have hbare : ¬ (0 < m ∧ e.unitAt (l.content ++ e.lineFeed) (m - 1) = e.carriageReturn) := by
        rintro ⟨hpos, hunit⟩
        obtain ⟨m, rfl⟩ := Nat.exists_eq_add_one_of_ne_zero (Nat.ne_of_gt hpos)
        rw [Nat.add_sub_cancel, Encoding.unitAt_append _ (Nat.le_of_eq hm.symm)] at hunit
        exact h.bare hreturns (Encoding.suffix_of_unitAt hm hunit)
      rw [if_neg Bool.false_ne_true, Encoding.contentEnd, if_neg hbare, hm]
  · have hreturn := Encoding.unitAt_zero_append (Encoding.carriageReturn_length e) e.lineFeed
    have hfeed : e.FirstFeed (e.carriageReturn ++ e.lineFeed) 1 := by
      refine Encoding.firstFeed_succ.2 ⟨?_, ?_⟩
      · rw [hreturn]
        exact Encoding.carriageReturn_ne_lineFeed e
      · rw [← Encoding.carriageReturn_length e, List.drop_left]
        exact Encoding.firstFeed_lineFeed e
    refine ⟨m + 1, Encoding.firstFeed_append hm h.free hfeed, ?_, ?_⟩
    · rw [if_pos rfl, List.length_append, List.length_append, Encoding.carriageReturn_length, e.lineFeed_length, hm,
        Nat.succ_mul, Nat.succ_mul]
      omega
    · have hunit : e.unitAt (l.content ++ (e.carriageReturn ++ e.lineFeed)) (m + 1 - 1) = e.carriageReturn :=
        (Encoding.unitAt_append_right hm _ 0).trans hreturn
      rw [if_pos rfl, Encoding.contentEnd, if_pos ⟨Nat.succ_pos m, hunit⟩, hm]
      rfl

/-! ## A reading of lines -/

/-- A line that is longer than a number of bytes has no terminator in them. -/
theorem terminator?_take (h : l.Proper e) {n : Nat} (hlong : n < (l.bytes e).length) :
    e.terminator? ((l.bytes e).take n) = none := by
  rcases hfound : e.terminator? ((l.bytes e).take n) with _ | ⟨contentEnd, stop⟩
  · rfl
  · have hwhole := Encoding.terminator?_append hfound ((l.bytes e).drop n)
    rw [List.take_append_drop, terminator?_bytes h] at hwhole
    have hinside := Encoding.terminator?_le_length hfound
    have hless := List.length_take_le n (l.bytes e)
    cases hwhole
    omega

theorem skipped (h : l.Proper s.encoding) (start : Nat) (more : Bytes) {n : Nat} (hunits : s.encoding.unit ∣ n)
    (hlong : n < (l.bytes s.encoding).length) :
    s.Step false ⟨start + n, true, (l.bytes s.encoding ++ more).drop n⟩ none
      ⟨start + (l.bytes s.encoding).length, false, more⟩ := by
  have hle : n ≤ (l.bytes s.encoding ++ more).length := by
    rw [List.length_append]
    omega
  have hfree : s.encoding.terminator? ((l.bytes s.encoding ++ more).take n) = none := by
    rw [List.take_append_of_le_length (Nat.le_of_lt hlong)]
    exact terminator?_take h hlong
  have hdrop := Encoding.terminator?_drop hfree hle hunits
  rw [Encoding.terminator?_append (terminator?_bytes h) more, Option.map_some, Option.map_eq_some_iff] at hdrop
  obtain ⟨⟨contentEnd, stop⟩, hfound, hstop⟩ := hdrop
  have hstep : s.Step false ⟨start + n, true, (l.bytes s.encoding ++ more).drop n⟩ none _ := .skipped rfl hfound
  rw [Cursor.move, List.drop_drop, Nat.add_assoc, show n + stop = (l.bytes s.encoding).length from hstop,
    List.drop_left] at hstep
  exact hstep

/-- **A reading of a line meets its record**, and stands behind the line then. -/
theorem leads (h : l.Proper s.encoding) (start : Nat) (more : Bytes) :
    s.Leads false ⟨start, false, l.bytes s.encoding ++ more⟩ [l.record s start]
      ⟨start + (l.bytes s.encoding).length, false, more⟩ := by
  by_cases hfits : (l.bytes s.encoding).length ≤ s.longest
  · have hfound : s.encoding.terminator? ((l.bytes s.encoding ++ more).take s.longest) =
        some (l.content.length, (l.bytes s.encoding).length) := by
      rw [List.take_append, List.take_of_length_le hfits]
      exact Encoding.terminator?_append (terminator?_bytes h) _
    have hstep : s.Step false ⟨start, false, l.bytes s.encoding ++ more⟩ _ _ := .whole rfl hfound
    have hcontent : (l.bytes s.encoding ++ more).take l.content.length = l.content := by
      rw [bytes, List.append_assoc, List.take_left]
    rw [Cursor.record, Cursor.move, List.drop_left, hcontent] at hstep
    rw [record]
    simp only [hfits, decide_true, Bool.not_true]
    exact .single hstep
  · have hlong : s.longest < (l.bytes s.encoding).length := Nat.not_le.1 hfits
    have hcut := s.encoding.alignDown_le s.longest
    have hfree : s.encoding.terminator? ((l.bytes s.encoding ++ more).take s.longest) = none := by
      rw [List.take_append_of_le_length (Nat.le_of_lt hlong)]
      exact terminator?_take h hlong
    -- the record is cut off, and the rest of the line is skipped through its terminator
    have hstep : s.Step false ⟨start, false, l.bytes s.encoding ++ more⟩ _ _ :=
      .cut rfl hfree (by rw [List.length_append]; omega)
    rw [Cursor.record, Cursor.move, List.take_append_of_le_length (by omega)] at hstep
    rw [record]
    simp only [hfits, decide_false, Bool.not_false]
    exact .step hstep (.single (skipped h start more (s.encoding.unit_dvd_alignDown _) (by omega)))

theorem leads_records (h : ∀ l ∈ lines, l.Proper s.encoding) (start : Nat) :
    ∃ stop, s.Leads false ⟨start, false, lines.flatMap (bytes s.encoding)⟩ (records s start lines)
      ⟨stop, false, []⟩ := by
  induction lines generalizing start with
  | nil => exact ⟨start, .refl _⟩
  | cons l lines ih =>
    obtain ⟨stop, hlines⟩ := ih (fun l' hl' => h l' (List.mem_cons_of_mem l hl')) _
    exact ⟨stop, (leads (h l List.mem_cons_self) start _).trans hlines⟩

theorem split_records (hpos : 0 < s.longest) (h : ∀ l ∈ lines, l.Proper s.encoding) (start : Nat) :
    ∃ stop, s.split false ⟨start, false, lines.flatMap (bytes s.encoding)⟩ =
      (records s start lines, ⟨stop, false, []⟩) := by
  obtain ⟨stop, hleads⟩ := leads_records h start
  have hend : s.next? false ⟨stop, false, []⟩ = none := Splitter.next?_eq_none (Encoding.terminator?_nil _) hpos
  obtain ⟨hrecords, hlast⟩ := hleads.eq_of_next?_none hend
  exact ⟨stop, Prod.ext hrecords hlast⟩

/-- **There is always a line that is cut although its content fits.** -/
theorem exists_cut (s : Splitter) (start : Nat) : ∃ l : Line, l.Proper s.encoding ∧ l.content.length ≤ s.longest ∧
    (l.record s start).truncated = true := by
  have hreturn (e : Encoding) : (0x0d : UInt8) ∈ e.carriageReturn := by cases e <;> decide
  have hcut := s.encoding.alignDown_le s.longest
  have hless := s.encoding.sub_alignDown_lt s.longest
  refine ⟨⟨List.replicate (s.encoding.alignDown s.longest) 0, false⟩, ⟨?_, Encoding.terminator?_zeros .., ?_⟩, ?_, ?_⟩
  · rw [List.length_replicate]
    exact s.encoding.unit_dvd_alignDown _
  · intro _ hsuffix
    exact absurd (List.mem_replicate.1 (hsuffix.subset (hreturn _))).2 (by decide)
  · rw [List.length_replicate]
    exact hcut
  · have hlong : ¬ (List.replicate (s.encoding.alignDown s.longest) 0 ++ s.encoding.lineFeed).length ≤ s.longest := by
      rw [List.length_append, List.length_replicate, s.encoding.lineFeed_length]
      omega
    rw [record, bytes, ending, if_neg Bool.false_ne_true, decide_eq_false hlong]
    rfl

end Line

/-- **A reader gives one record for each line** of a file, whatever its chunks are, and leaves nothing. A line is kept
whole if and only if the longest record holds it with its terminator. -/
theorem Reader.yields_lines {o : ReaderOptions} (hchunk : 0 < o.chunkSize) (hmax : o.chunkSize ≤ o.maxRecordSize)
    {lines : List Line} (hlines : ∀ l ∈ lines, l.Proper o.encoding) {d : Disk} {w : World} (hw : w.Still d)
    {f : LogFile} (hopens : f.Opens d o.verifyIdentity (lines.flatMap (Line.bytes o.encoding)))
    (hsize : f.size = (lines.flatMap (Line.bytes o.encoding)).length) (hprocessed : f.processed = 0)
    (htail : f.tail = []) (hreads : f.skipping = false) :
    ∃ r w₁ events r' w₂, openFile o f w = (.ok r, w₁) ∧ r.Yields w₁ events r' w₂ ∧
      events.filterMap ReadEvent.record? = Line.records o.splitter 0 lines ∧ r'.window = [] ∧
      r'.skipping = false ∧ r'.position = f.size := by
  have hpos : 0 < o.maxRecordSize := Nat.lt_of_lt_of_le hchunk hmax
  have hsound : f.Sound o.splitter := by
    refine ⟨?_, ?_, ?_⟩
    · rw [htail, hprocessed]
      exact Nat.le_refl 0
    · rw [htail]
      exact Encoding.terminator?_nil _
    · rw [htail, hreads]
      exact hpos
  have hcursor : f.cursor (lines.flatMap (Line.bytes o.encoding)) f.size =
      ⟨0, false, lines.flatMap (Line.bytes o.encoding)⟩ := by
    rw [LogFile.cursor, LogFile.tailStart, htail, hprocessed, hreads, hsize, List.drop_zero, Nat.sub_zero,
      List.take_length]
    rfl
  obtain ⟨r, w₁, events, r', w₂, hopen, hyields, _, hposition, hsplit⟩ :=
    yields_split hchunk hmax hw hopens hsound
  obtain ⟨stop, hrecords⟩ : ∃ stop, o.splitter.split false ⟨0, false, lines.flatMap (Line.bytes o.encoding)⟩ =
      (Line.records o.splitter 0 lines, ⟨stop, false, []⟩) := Line.split_records hpos hlines 0
  rw [hcursor, hrecords, Prod.mk.injEq, Cursor.mk.injEq] at hsplit
  obtain ⟨hsame, _, hskip, hwindow⟩ := hsplit
  refine ⟨r, w₁, events, r', w₂, hopen, hyields, hsame.symm, hwindow.symm, hskip.symm, ?_⟩
  rw [hposition, hprocessed, hsize]
  omega

def fittingLines : List Line :=
  [⟨[0x31, 0x32, 0x33, 0x34, 0x35, 0x36], true⟩, ⟨[0x31, 0x32, 0x33, 0x34, 0x35, 0x36, 0x37], true⟩]

def fittingFile : LogFile :=
  { path := ⟨[0x2f, 0x61]⟩, mtime := 0, id := .ofNumber 1, size := 17, processed := 0, digest := .empty, seq := 0 }

/-- The contents of both lines fit a longest record of eight bytes. But the terminator of the second one does not, so
it is cut, and its carriage return is taken for content. -/
theorem Reader.yields_lines_fitting :
    let o : ReaderOptions := ⟨.utf8, 4, 8, true⟩
    let d := Interruption.oneFile (fittingLines.flatMap (Line.bytes .utf8))
    (∀ l ∈ fittingLines, l.Proper .utf8 ∧ l.content.length ≤ o.maxRecordSize) ∧
      fittingFile.Opens d true (fittingLines.flatMap (Line.bytes .utf8)) ∧
      ∃ r w₁ events r' w₂, openFile o fittingFile (.quiet d) = (.ok r, w₁) ∧ r.Yields w₁ events r' w₂ ∧
        events.filterMap ReadEvent.record? = [⟨0, 8, [0x31, 0x32, 0x33, 0x34, 0x35, 0x36], false⟩,
          ⟨8, 16, [0x31, 0x32, 0x33, 0x34, 0x35, 0x36, 0x37, 0x0d], true⟩] := by
  intro o d
  have hproper : ∀ l ∈ fittingLines, l.Proper .utf8 := by
    intro l hl
    rw [fittingLines, List.mem_cons, List.mem_singleton] at hl
    rcases hl with rfl | rfl
    · exact ⟨by decide, by decide, by decide⟩
    · exact ⟨by decide, by decide, by decide⟩
  have hopens : fittingFile.Opens d true (fittingLines.flatMap (Line.bytes .utf8)) :=
    ⟨1, rfl, ⟨rfl, rfl⟩, fun _ => rfl⟩
  obtain ⟨r, w₁, events, r', w₂, hopen, hyields, hrecords, _⟩ :=
    yields_lines (o := o) (by decide) (by decide) hproper (World.still_quiet d) hopens rfl rfl rfl rfl
  have hfit : ∀ l ∈ fittingLines, l.content.length ≤ o.maxRecordSize := by decide
  exact ⟨fun l hl => ⟨hproper l hl, hfit l hl⟩, hopens, r, w₁, events, r', w₂, hopen, hyields,
    hrecords.trans (by decide +kernel)⟩

end LogTail
