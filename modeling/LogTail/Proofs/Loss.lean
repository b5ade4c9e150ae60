import LogTail.Proofs.Progress

/-!
# A record that is lost

Where a cut may end inside a tail, units have four bytes and the longest record leaves two or three bytes
over. All but one byte of it may be read as tail, and be cut when the file has grown: the offset then stands
behind the cut, in the middle of a unit, and no line feed is found from there.

* `Splitter.lost_leads`: the content `Splitter.lostContent` has two records.
* `Splitter.leads_misaligned`: none of them is found from the byte behind the tail on.
-/

namespace LogTail

namespace Encoding

def feeds (e : Encoding) : Bytes := e.lineFeed ++ (e.lineFeed ++ e.lineFeed)

theorem terminator?_zeros (e : Encoding) (n : Nat) : e.terminator? (List.replicate n 0) = none := by
  refine terminator?_eq_none_iff.2 fun k hk => ?_
  have hmem : (0x0a : UInt8) ∈ e.lineFeed := by cases e <;> decide
  rw [← hk.feed, unitAt, List.drop_replicate, List.take_replicate, List.mem_replicate] at hmem
  exact absurd hmem.2 (by decide)

variable {e : Encoding}

theorem length_feeds (h : e.unit = 4) : e.feeds.length = 12 := by
  simp [feeds, lineFeed_length, h]

theorem terminator?_aligned (h : e.unit = 4) :
    e.terminator? (List.replicate 4 0 ++ e.feeds) = some (4, 8) ∧ e.terminator? e.lineFeed = some (0, 4) := by
  cases e with
  | utf32le | utf32be => decide
  | utf8 | latin1 | utf16le | utf16be => exact absurd h (by decide)

/-- The same units, read from inside the zeros on. -/
theorem terminator?_misaligned (h : e.unit = 4) {n : Nat} (hn : n = 3 ∨ n = 2) :
    e.terminator? (List.replicate n 0 ++ e.feeds) = none := by
  cases e with
  | utf32le | utf32be => rcases hn with rfl | rfl <;> decide
  | utf8 | latin1 | utf16le | utf16be => exact absurd h (by decide)

end Encoding

namespace Splitter

/-- A record of zeros that is cut four bytes before its end, and two empty records. -/
def lostContent (s : Splitter) : Bytes :=
  List.replicate (s.encoding.alignDown s.longest + 4) 0 ++ s.encoding.feeds

section lost
variable {s : Splitter}

theorem unit_of_not_cutsBehindTails (h : ¬ s.CutsBehindTails) :
    s.encoding.unit = 4 ∧ ∃ k, (k = 2 ∨ k = 3) ∧ s.longest = s.encoding.alignDown s.longest + k := by
  have hmod : ¬ s.longest % s.encoding.unit ≤ 1 := h
  have hlt := Nat.mod_lt s.longest s.encoding.unit_pos
  have hunit : s.encoding.unit = 4 := by
    rcases s with ⟨e, _⟩
    cases e <;> simp only [Encoding.unit] at hlt hmod ⊢ <;> omega
  refine ⟨hunit, s.longest % s.encoding.unit, by omega, ?_⟩
  have := Nat.mod_le s.longest s.encoding.unit
  rw [Encoding.alignDown]
  omega

theorem lostContent_drop {n : Nat} (h : n ≤ s.encoding.alignDown s.longest + 4) :
    s.lostContent.drop n =
      List.replicate (s.encoding.alignDown s.longest + 4 - n) 0 ++ s.encoding.feeds := by
  rw [lostContent, List.drop_append_of_le_length (by rwa [List.length_replicate]), List.drop_replicate]

theorem lostContent_take {n : Nat} (h : n ≤ s.encoding.alignDown s.longest + 4) :
    s.lostContent.take n = List.replicate n 0 := by
  rw [lostContent, List.take_append_of_le_length (by rwa [List.length_replicate]), List.take_replicate,
    Nat.min_eq_left h]

variable (h : ¬ s.CutsBehindTails)
include h

theorem length_lostContent : s.lostContent.length = s.encoding.alignDown s.longest + 16 := by
  rw [lostContent, List.length_append, List.length_replicate,
    Encoding.length_feeds (unit_of_not_cutsBehindTails h).1]

theorem zeros_prefix : List.replicate (s.longest - 1) 0 <+: s.lostContent := by
  obtain ⟨_, k, hk, hlen⟩ := unit_of_not_cutsBehindTails h
  rw [← lostContent_take (s := s) (n := s.longest - 1) (by omega)]
  exact List.take_prefix ..

theorem lostContent_cut :
    s.encoding.terminator? (s.lostContent.take s.longest) = none ∧ s.longest ≤ s.lostContent.length := by
  obtain ⟨_, k, hk, hlen⟩ := unit_of_not_cutsBehindTails h
  constructor
  · rw [lostContent_take (by omega), Encoding.terminator?_zeros]
  · rw [length_lostContent h]
    omega

theorem cut_of_step {finished : Bool} {r : Option Record} {c : Cursor}
    (hstep : s.Step finished (.start s.lostContent) r c) :
    c = (Cursor.start s.lostContent).move (s.encoding.alignDown s.longest) true ∧
      ∃ rec, r = some rec := by
  obtain ⟨hfree, hlong⟩ := lostContent_cut h
  cases hstep with
  | skipped hskip => cases hskip
  | dropped hskip => cases hskip
  | whole _ hfound =>
    simp only [Cursor.start] at hfound
    rw [hfree] at hfound
    cases hfound
  | cut => exact ⟨rfl, _, rfl⟩
  | remainder _ _ hshort => exact absurd hshort (Nat.not_lt.2 hlong)

/-- **Two records stand in the content**, the one that is cut and the next. -/
theorem lost_leads : ∃ r₁ r₂ c, s.Leads false (.start s.lostContent) [r₁, r₂] c ∧
    c.offset ≤ s.encoding.alignDown s.longest + 12 := by
  obtain ⟨hunit, _⟩ := unit_of_not_cutsBehindTails h
  obtain ⟨hfree, hlong⟩ := lostContent_cut h
  obtain ⟨hfirst, hsecond⟩ := Encoding.terminator?_aligned hunit
  have hcut : s.Step false (.start s.lostContent) _ _ := .cut rfl hfree hlong
  generalize hc₁ : (Cursor.start s.lostContent).move (s.encoding.alignDown s.longest) true = c₁ at hcut
  have hoffset : c₁.offset = s.encoding.alignDown s.longest := by
    rw [← hc₁]
    exact Nat.zero_add _
  have hrest : c₁.rest = List.replicate 4 0 ++ s.encoding.feeds := by
    rw [← hc₁]
    apply (lostContent_drop (s := s) (Nat.le_add_right ..)).trans
    rw [Nat.add_sub_cancel_left]
  have hskipped : s.Step false c₁ none (c₁.move 8 false) :=
    .skipped (by rw [← hc₁]; rfl) (by rw [hrest]; exact hfirst)
  have hrest₂ : (c₁.move 8 false).rest = s.encoding.lineFeed ++ s.encoding.lineFeed := by
    have hdrop : (List.replicate 4 0 ++ s.encoding.lineFeed).length = 8 := by
      simp [Encoding.lineFeed_length, hunit]
    rw [Cursor.move_rest, hrest, Encoding.feeds, ← List.append_assoc, ← hdrop, List.drop_left]
  by_cases hfits : 4 ≤ s.longest
  · have hfound : s.encoding.terminator? ((c₁.move 8 false).rest.take s.longest) = some (0, 4) := by
      rw [hrest₂, List.take_append, List.take_of_length_le (by rw [Encoding.lineFeed_length]; omega)]
      exact Encoding.terminator?_append hsecond _
    refine ⟨_, _, _, .step hcut (.step hskipped (.single (.whole rfl hfound))), ?_⟩
    simp only [Cursor.move_offset]
    omega
  · have hzero : s.encoding.alignDown s.longest = 0 :=
      Encoding.alignDown_eq_zero.2 (by rw [hunit]; omega)
    have hlength : (c₁.move 8 false).rest.length = 8 := by
      rw [hrest₂]
      simp [Encoding.lineFeed_length, hunit]
    have hnone : s.encoding.terminator? ((c₁.move 8 false).rest.take s.longest) = none :=
      Encoding.terminator?_eq_none_of_length_lt (by rw [List.length_take, hunit]; omega)
    refine ⟨_, _, _, .step hcut (.step hskipped (.single (.cut rfl hnone (by omega)))), ?_⟩
    simp only [Cursor.move_offset]
    omega

/-- **From the byte behind the tail on there is no record**, however far the reading goes. -/
theorem leads_misaligned {rs : List Record} {c : Cursor}
    (hleads : s.Leads false ⟨s.longest - 1, true, s.lostContent.drop (s.longest - 1)⟩ rs c) :
    rs = [] ∧ c.skipping = true := by
  obtain ⟨hunit, k, hk, hlen⟩ := unit_of_not_cutsBehindTails h
  apply hleads.eq_nil rfl
  show s.encoding.terminator? (s.lostContent.drop (s.longest - 1)) = none
  rw [lostContent_drop (by omega)]
  exact Encoding.terminator?_misaligned hunit (by omega)

end lost

end Splitter

namespace LogFile

/-- All but one byte of the longest record was read of a file, and is its tail. -/
structure AlmostRead (longest : Nat) (f : LogFile) : Prop where
  processed : f.processed = longest - 1
  tail : f.tail = List.replicate (longest - 1) 0
  skipping : f.skipping = false

/-- A record was cut inside that tail, and the offset stands behind the tail. -/
structure CutInside (longest : Nat) (f : LogFile) : Prop where
  processed : f.processed = longest - 1
  tail : f.tail = []
  skipping : f.skipping = true

section lost
variable {s : Splitter} {f : LogFile}

theorem AlmostRead.sound (h : ¬ s.CutsBehindTails) (hf : f.AlmostRead s.longest) : f.Sound s := by
  obtain ⟨_, k, hk, hlen⟩ := Splitter.unit_of_not_cutsBehindTails h
  refine ⟨?_, ?_, ?_⟩
  · rw [hf.tail, hf.processed]
    exact Nat.le_of_eq List.length_replicate
  · rw [hf.tail, Encoding.terminator?_zeros]
  · rw [hf.tail, hf.skipping, if_neg Bool.false_ne_true, List.length_replicate]
    omega

theorem AlmostRead.tailStart (hf : f.AlmostRead s.longest) : f.tailStart = 0 := by
  rw [LogFile.tailStart, hf.processed, hf.tail, List.length_replicate, Nat.sub_self]

theorem AlmostRead.cursor (h : ¬ s.CutsBehindTails) (hf : f.AlmostRead s.longest) :
    f.cursor s.lostContent s.lostContent.length = .start s.lostContent := by
  obtain ⟨_, k, hk, hlen⟩ := Splitter.unit_of_not_cutsBehindTails h
  have htake := Splitter.lostContent_take (s := s) (n := s.longest - 1) (by omega)
  rw [LogFile.cursor, hf.tailStart, hf.skipping, hf.tail, hf.processed, ← htake,
    List.take_of_length_le (Nat.le_of_eq List.length_drop), List.take_append_drop]
  rfl

theorem AlmostRead.cut (h : ¬ s.CutsBehindTails) (hf : f.AlmostRead s.longest) :
    (f.passed (s.encoding.alignDown s.longest) true).CutInside s.longest := by
  obtain ⟨_, k, hk, hlen⟩ := Splitter.unit_of_not_cutsBehindTails h
  refine ⟨?_, rfl, rfl⟩
  show max f.processed _ = _
  rw [hf.processed]
  omega

theorem CutInside.sound (hf : f.CutInside s.longest) : f.Sound s := by
  refine ⟨?_, ?_, ?_⟩
  · rw [hf.tail]
    exact Nat.zero_le _
  · rw [hf.tail, Encoding.terminator?_nil]
  · rw [hf.tail, hf.skipping]
    exact s.encoding.unit_pos

theorem CutInside.cursor (hf : f.CutInside s.longest) :
    f.cursor s.lostContent s.lostContent.length =
      ⟨s.longest - 1, true, s.lostContent.drop (s.longest - 1)⟩ := by
  rw [LogFile.cursor, LogFile.tailStart, hf.tail, hf.processed, hf.skipping,
    List.take_of_length_le (Nat.le_of_eq List.length_drop)]
  rfl

end lost

end LogFile

/-- **A reader at the start of the content cuts its first record.** -/
theorem Reader.next_lost {d : Disk} {w : World} {r : Reader} (h : ¬ r.options.splitter.CutsBehindTails)
    (hfile : r.Covered d r.options.splitter.lostContent) (hw : w.Still d) (hr : r.Fits)
    (hstart : r.cursor r.options.splitter.lostContent = .start r.options.splitter.lostContent) :
    ∃ start bytes r' w', w'.Still d ∧ r.next w = (.ok (some (.record start
      (r.options.encoding.alignDown r.options.maxRecordSize) bytes true)), r', w') := by
  obtain ⟨event?, r', w', hnext, hw', _, _, hanswer⟩ := Reader.next_spec hfile hw hr
  cases hanswer with
  | ended _ _ hlast =>
    rw [hstart] at hlast
    obtain ⟨_, _, _, hleads, _⟩ := Splitter.lost_leads h
    have hrecords := hleads.records_eq
    rw [Splitter.records, Splitter.split_none hlast] at hrecords
    cases hrecords
  | @event event _ hstep hstop hskips =>
    rw [hstart] at hstep
    obtain ⟨hr', rec, hrec⟩ := Splitter.cut_of_step h hstep
    cases event with
    | skipped => cases hrec
    | record start stop bytes truncated =>
      obtain rfl : stop = r.options.encoding.alignDown r.options.maxRecordSize :=
        (hstop.trans (congrArg Cursor.offset hr')).trans (Nat.zero_add _)
      obtain rfl : truncated = true := hskips.trans (congrArg Cursor.skipping hr')
      exact ⟨start, bytes, r', w', hw', hnext⟩

end LogTail
