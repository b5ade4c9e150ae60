import LogTail.Proofs.CodeUnits
import LogTail.Proofs.Lines

/-!
# Files of text

A file that was written as lines of text is read as these lines, in every encoding and whatever the chunks are
(`Reader.readsTexts_written`): the records of a reader, decoded, are the texts of the lines.

* `TextLine.proper_line`: what is written for a text is the content of a line, also behind a byte order mark.
* `TextLine.texts_records`: the records of such lines are decoded to the texts.
* A byte order mark goes with the first line. In a file without lines it is the beginning of a record that has not
  ended, and is left (`Reader.not_readsTexts_mark`).
-/

namespace LogTail

/-- A line of text, and whether it ends with a carriage return in front of the line feed. -/
structure TextLine where
  text : String
  returns : Bool

namespace TextLine

def whole (l : TextLine) : String := l.text ++ if l.returns then "\r\n" else "\n"

/-- A text that an encoding can write and that is one line: it has no line feed, and does not end with a carriage
return. -/
structure Proper (e : Encoding) (l : TextLine) : Prop where
  represents : ∀ c ∈ l.text.toList, e.Represents c
  free : '\n' ∉ l.text.toList
  bare : l.text.toList.getLast? ≠ some '\r'

def mark (e : Encoding) (marked : Bool) : Bytes := if marked then e.bom else []

def written (e : Encoding) (marked : Bool) (lines : List TextLine) : Bytes :=
  mark e marked ++ lines.flatMap fun l => e.encode l.whole

def longest (e : Encoding) (lines : List TextLine) : Nat := (lines.map fun l => (e.encode l.text).length).foldr max 0

def line (e : Encoding) (l : TextLine) : Line := ⟨e.encode l.text, l.returns⟩

/-- The lines of a file as bytes. A byte order mark belongs to the first of them. -/
def markedLines (e : Encoding) (marked : Bool) : List TextLine → List Line
  | [] => []
  | l :: lines => ⟨mark e marked ++ e.encode l.text, l.returns⟩ :: lines.map (line e)

variable {e : Encoding} {s : Splitter} {l : TextLine} {lines : List TextLine} {marked : Bool}

theorem encode_ending (e : Encoding) (returns : Bool) :
    e.encode (if returns then "\r\n" else "\n") = if returns then e.carriageReturn ++ e.lineFeed else e.lineFeed := by
  cases e <;> cases returns <;> decide

theorem encode_whole (e : Encoding) (l : TextLine) : e.encode l.whole = (l.line e).bytes e := by
  rw [whole, Encoding.encode_append, encode_ending]
  rfl

theorem le_longest (h : l ∈ lines) : (e.encode l.text).length ≤ longest e lines := by
  induction lines with
  | nil => cases h
  | cons l' lines ih =>
    rw [longest, List.map_cons, List.foldr_cons]
    rcases List.mem_cons.1 h with rfl | h
    · exact Nat.le_max_left ..
    · exact Nat.le_trans (ih h) (Nat.le_max_right ..)

theorem written_eq (hne : lines ≠ []) :
    written e marked lines = (markedLines e marked lines).flatMap (Line.bytes e) := by
  obtain ⟨l, lines, rfl⟩ := List.exists_cons_of_ne_nil hne
  have hlines : lines.flatMap (fun l => e.encode l.whole) = (lines.map (line e)).flatMap (Line.bytes e) := by
    rw [List.flatMap_map]
    exact congrArg (lines.flatMap ·) (funext (encode_whole e))
  rw [written, markedLines, List.flatMap_cons, List.flatMap_cons, encode_whole, hlines, Line.bytes, Line.bytes, line]
  simp [Line.ending]

/-! ## Lines as bytes -/

theorem proper_line {text : String} {returns : Bool} (hrep : ∀ c ∈ text.toList, e.Represents c)
    (hfree : '\n' ∉ text.toList) (hbare : text.toList.getLast? ≠ some '\r') :
    Line.Proper e ⟨e.encode text, returns⟩ :=
  ⟨e.unit_dvd_encode text, Encoding.terminator?_encode hrep hfree, fun _ h => hbare (Encoding.last_encode hrep h)⟩

theorem exists_marked (e : Encoding) (marked : Bool) :
    ∃ front : String, mark e marked = e.encode front ∧ (∀ c ∈ front.toList, e.Represents c) ∧ '\n' ∉ front.toList ∧
      '\r' ∉ front.toList := by
  rcases marked with _ | _
  · exact ⟨"", rfl, by simp, by simp, by simp⟩
  · rcases e.bom_eq with ⟨-, hnone⟩ | ⟨hunicode, hbom⟩
    · exact ⟨"", hnone, by simp, by simp, by simp⟩
    · exact ⟨"\ufeff", hbom, fun c _ hlatin => absurd hlatin hunicode, by decide, by decide⟩

theorem proper_markedLines (h : ∀ l ∈ lines, l.Proper e) : ∀ l ∈ markedLines e marked lines, l.Proper e := by
  intro l' hl'
  rcases lines with _ | ⟨l, lines⟩
  · cases hl'
  rcases List.mem_cons.1 hl' with rfl | hl'
  · obtain ⟨front, hmark, hrep, hfree, hbare⟩ := exists_marked e marked
    have hl := h l List.mem_cons_self
    rw [hmark, ← Encoding.encode_append]
    refine proper_line ?_ ?_ ?_
    · intro c hc
      rw [String.toList_append, List.mem_append] at hc
      exact hc.elim (hrep c) (hl.represents c)
    · rw [String.toList_append, List.mem_append]
      exact fun hin => hin.elim hfree hl.free
    · rw [String.toList_append, List.getLast?_append]
      intro hlast
      rcases hend : l.text.toList.getLast? with _ | c
      · rw [hend, Option.none_or] at hlast
        exact hbare (List.mem_of_getLast? hlast)
      · rw [hend, Option.some_or] at hlast
        exact hl.bare (hend.trans hlast)
  · obtain ⟨l, hl, rfl⟩ := List.mem_map.1 hl'
    have hl := h l (List.mem_cons_of_mem _ hl)
    exact proper_line hl.represents hl.free hl.bare

/-! ## Records as texts -/

theorem length_ending (e : Encoding) (l : Line) : e.unit ≤ (l.ending e).length ∧ (l.ending e).length ≤ 2 * e.unit := by
  have hfeed := e.lineFeed_length
  have hreturn := e.carriageReturn_length
  unfold Line.ending
  split
  · rw [List.length_append]
    omega
  · omega

theorem bytes_record {l : Line} (h : l.content.length + 2 * s.encoding.unit ≤ s.longest) (start : Nat) :
    (l.record s start).bytes = if start = 0 then s.encoding.stripBom l.content else l.content := by
  have hfits : (l.bytes s.encoding).length ≤ s.longest := by
    have hending := (length_ending s.encoding l).2
    rw [Line.bytes, List.length_append]
    omega
  simp only [Line.record, if_pos hfits]

theorem texts_records (h : ∀ l ∈ lines, l.Proper s.encoding)
    (hlong : longest s.encoding lines + 2 * s.encoding.unit ≤ s.longest) {start : Nat} (hstart : start ≠ 0) :
    (Line.records s start (lines.map (line s.encoding))).map (fun r => s.encoding.decode r.bytes) =
      lines.map TextLine.text := by
  induction lines generalizing start with
  | nil => rfl
  | cons l lines ih =>
    have hl : (s.encoding.encode l.text).length ≤ longest s.encoding (l :: lines) := le_longest List.mem_cons_self
    have hrest : longest s.encoding lines ≤ longest s.encoding (l :: lines) := Nat.le_max_right ..
    have hbytes : ((l.line s.encoding).record s start).bytes = s.encoding.encode l.text := by
      rw [bytes_record (Nat.le_trans (Nat.add_le_add_right hl _) hlong), if_neg hstart]
      rfl
    rw [List.map_cons, Line.records, List.map_cons, List.map_cons, hbytes,
      Encoding.decode_encode (h l List.mem_cons_self).represents,
      ih (fun l' hl' => h l' (List.mem_cons_of_mem l hl')) (by omega) (by omega)]

/-- **The records of a file of text are decoded to its lines.** -/
theorem texts_markedRecords (h : ∀ l ∈ lines, l.Proper s.encoding)
    (hfirst : ∀ l ∈ lines.head?, l.text.toList.head? ≠ some '\ufeff')
    (hlong : (mark s.encoding marked).length + longest s.encoding lines + 2 * s.encoding.unit ≤ s.longest) :
    (Line.records s 0 (markedLines s.encoding marked lines)).map (fun r => s.encoding.decode r.bytes) =
      lines.map TextLine.text := by
  rcases lines with _ | ⟨l, lines⟩
  · rfl
  have hl : (s.encoding.encode l.text).length ≤ longest s.encoding (l :: lines) := le_longest List.mem_cons_self
  have hrest : longest s.encoding lines ≤ longest s.encoding (l :: lines) := Nat.le_max_right ..
  have hrep := (h l List.mem_cons_self).represents
  have hbytes : ((⟨mark s.encoding marked ++ s.encoding.encode l.text, l.returns⟩ : Line).record s 0).bytes =
      s.encoding.encode l.text := by
    rw [bytes_record (by rw [List.length_append]; omega), if_pos rfl]
    cases marked with
    | false => exact Encoding.stripBom_encode hrep (hfirst l rfl)
    | true => exact s.encoding.stripBom_mark _
  rw [markedLines, Line.records, List.map_cons, hbytes, Encoding.decode_encode hrep, List.map_cons, texts_records]
  · exact fun l' hl' => h l' (List.mem_cons_of_mem l hl')
  · omega
  · have hending := (length_ending s.encoding ⟨mark s.encoding marked ++ s.encoding.encode l.text, l.returns⟩).1
    have hunit := s.encoding.unit_pos
    rw [Line.bytes, List.length_append]
    omega

/-- A reading of a file of text meets the records of its lines. Nothing is left but the byte order mark of a file without
lines. -/
theorem split_written (h : ∀ l ∈ lines, l.Proper s.encoding)
    (hlong : (mark s.encoding marked).length + longest s.encoding lines + 2 * s.encoding.unit ≤ s.longest) :
    ∃ stop, s.split false ⟨0, false, written s.encoding marked lines⟩ =
      (Line.records s 0 (markedLines s.encoding marked lines),
        ⟨stop, false, if lines = [] then mark s.encoding marked else []⟩) := by
  have hunit := s.encoding.unit_pos
  by_cases hne : lines = []
  · subst hne
    obtain ⟨front, hmark, hrep, hfree, -⟩ := exists_marked s.encoding marked
    have hwritten : written s.encoding marked [] = mark s.encoding marked := List.append_nil _
    have hnone : s.encoding.terminator? (mark s.encoding marked) = none := by
      rw [hmark]
      exact Encoding.terminator?_encode hrep hfree
    refine ⟨0, ?_⟩
    rw [hwritten, Splitter.split_none (Splitter.next?_eq_none hnone ?_)]
    · rfl
    · show (mark s.encoding marked).length < s.longest
      omega
  · rw [written_eq hne, if_neg hne]
    exact Line.split_records (by omega) (proper_markedLines h) 0

end TextLine

namespace Reader

open TextLine (mark longest written)

/-- A reader on a tracked file gives records that are decoded to texts, and leaves some bytes. -/
def ReadsTexts (o : ReaderOptions) (f : LogFile) (w : World) (texts : List String) (left : Bytes) : Prop :=
  ∃ r w₁ events r' w₂, openFile o f w = (.ok r, w₁) ∧ r.Yields w₁ events r' w₂ ∧
    (events.filterMap ReadEvent.record?).map (fun rec => o.encoding.decode rec.bytes) = texts ∧ r'.window = left

variable {o : ReaderOptions} {d : Disk} {w : World} {f : LogFile}

theorem readsTexts_of_split (hchunk : 0 < o.chunkSize) (hmax : o.chunkSize ≤ o.maxRecordSize) (hw : w.Still d)
    {content : Bytes} (hopens : f.Opens d o.verifyIdentity content) (hsize : f.size = content.length)
    (hprocessed : f.processed = 0) (htail : f.tail = []) (hreads : f.skipping = false) {records : List Record}
    {stop : Nat} {left : Bytes} (hsplit : o.splitter.split false ⟨0, false, content⟩ = (records, ⟨stop, false, left⟩)) :
    ReadsTexts o f w (records.map fun rec => o.encoding.decode rec.bytes) left := by
  have hsound : f.Sound o.splitter := by
    refine ⟨?_, ?_, ?_⟩
    · rw [htail]
      exact Nat.zero_le _
    · rw [htail]
      exact Encoding.terminator?_nil _
    · rw [htail, hreads]
      exact Nat.lt_of_lt_of_le hchunk hmax
  have hcursor : f.cursor content f.size = ⟨0, false, content⟩ := by
    rw [LogFile.cursor, LogFile.tailStart, htail, hprocessed, hreads, hsize, List.drop_zero, Nat.sub_zero,
      List.take_length]
    rfl
  obtain ⟨r, w₁, events, r', w₂, hopen, hyields, -, -, hevents⟩ := yields_split hchunk hmax hw hopens hsound
  rw [hcursor, hsplit, Prod.mk.injEq, Cursor.mk.injEq] at hevents
  obtain ⟨hrecords, -, -, hwindow⟩ := hevents
  exact ⟨r, w₁, events, r', w₂, hopen, hyields, by rw [hrecords], hwindow.symm⟩

/-- **A file that was written as lines of text is read as these lines**, in every encoding and whatever the chunks are.
Nothing is left, but for a byte order mark that has no line behind it. -/
theorem readsTexts_written (hchunk : 0 < o.chunkSize) (hmax : o.chunkSize ≤ o.maxRecordSize) {lines : List TextLine}
    {marked : Bool} (hlines : ∀ l ∈ lines, l.Proper o.encoding)
    (hfirst : ∀ l ∈ lines.head?, l.text.toList.head? ≠ some '\ufeff')
    (hlong : (mark o.encoding marked).length + longest o.encoding lines + 2 * o.encoding.unit ≤ o.maxRecordSize)
    (hw : w.Still d) (hopens : f.Opens d o.verifyIdentity (written o.encoding marked lines))
    (hsize : f.size = (written o.encoding marked lines).length) (hprocessed : f.processed = 0) (htail : f.tail = [])
    (hreads : f.skipping = false) :
    ReadsTexts o f w (lines.map TextLine.text) (if lines = [] then mark o.encoding marked else []) := by
  obtain ⟨stop, hsplit⟩ : ∃ stop, o.splitter.split false ⟨0, false, written o.encoding marked lines⟩ = _ :=
    TextLine.split_written hlines hlong
  have htexts : (Line.records o.splitter 0 (TextLine.markedLines o.encoding marked lines)).map
      (fun rec => o.encoding.decode rec.bytes) = lines.map TextLine.text :=
    TextLine.texts_markedRecords (s := o.splitter) hlines hfirst hlong
  rw [← htexts]
  exact readsTexts_of_split hchunk hmax hw hopens hsize hprocessed htail hreads hsplit

/-- A line in whose 16-bit units bytes 0x0a and 0x0d stand on either side, with a character beyond the first plane; an
empty line; and one that begins with U+FEFF. -/
def scatteredLines : List TextLine := [⟨"\u0a00\u0a0d😀", true⟩, ⟨"", false⟩, ⟨"\ufeffx", true⟩]

def unreadFile (size : Nat) : LogFile :=
  { path := ⟨[0x2f, 0x61]⟩, mtime := 0, id := .ofNumber 1, size := size, processed := 0, digest := .empty, seq := 0 }

theorem readsTexts_written_scattered :
    let o : ReaderOptions := ⟨.utf16be, 3, 14, true⟩
    let content := written .utf16be true scatteredLines
    (∀ l ∈ scatteredLines, l.Proper .utf16be) ∧
      (mark .utf16be true).length + longest .utf16be scatteredLines + 2 * Encoding.utf16be.unit = o.maxRecordSize ∧
      (unreadFile 24).Opens (Interruption.oneFile content) true content ∧ (unreadFile 24).size = content.length ∧
      ReadsTexts o (unreadFile 24) (.quiet (Interruption.oneFile content)) ["\u0a00\u0a0d😀", "", "\ufeffx"] [] := by
  intro o content
  have hproper : ∀ l ∈ scatteredLines, l.Proper .utf16be := by
    intro l hl
    simp only [scatteredLines, List.mem_cons, List.not_mem_nil, or_false] at hl
    rcases hl with rfl | rfl | rfl <;> exact ⟨fun _ _ h => (nomatch h), by decide, by decide⟩
  have hlong : (mark .utf16be true).length + longest .utf16be scatteredLines + 2 * Encoding.utf16be.unit =
      o.maxRecordSize := by decide
  have hopens : (unreadFile 24).Opens (Interruption.oneFile content) true content :=
    ⟨1, rfl, ⟨rfl, rfl⟩, fun _ => rfl⟩
  have hsize : (unreadFile 24).size = content.length := by decide
  exact ⟨hproper, hlong, hopens, hsize, readsTexts_written (o := o) (by decide) (by decide) hproper
    (by decide) (Nat.le_of_eq hlong) (World.still_quiet _) hopens hsize rfl rfl rfl⟩

/-- **A file that holds a byte order mark and no line** leaves it, however long records may be. -/
theorem not_readsTexts_mark :
    let o : ReaderOptions := ⟨.utf8, 3, 5, true⟩
    let content := written .utf8 true []
    (mark .utf8 true).length + longest .utf8 [] + 2 * Encoding.utf8.unit = o.maxRecordSize ∧
      (unreadFile 3).Opens (Interruption.oneFile content) true content ∧ (unreadFile 3).size = content.length ∧
      ¬ ReadsTexts o (unreadFile 3) (.quiet (Interruption.oneFile content)) [] [] := by
  intro o content
  refine ⟨by decide, ⟨1, rfl, ⟨rfl, rfl⟩, fun _ => rfl⟩, by decide, ?_⟩
  rintro ⟨r, w₁, events, r', w₂, hopen, hyields, htexts, hleft⟩
  have hends : (r.next w₁).1 = .ok none ∧ (r.next w₁).2.1.window = [0xef, 0xbb, 0xbf] := by
    cases hopen
    exact ⟨rfl, rfl⟩
  cases hyields with
  | ended hlast =>
    have hmark := hends.2
    rw [hlast, hleft] at hmark
    cases hmark
  | event hfirst hothers =>
    have hnone := hends.1
    rw [hfirst] at hnone
    cases hnone

end Reader

end LogTail
