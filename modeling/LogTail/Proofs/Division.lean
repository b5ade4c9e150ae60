import LogTail.Proofs.Interruption

/-!
# Division by line feeds

What the records of a byte string are, said by its units alone: the first line feed that ends within the longest
record ends a record; without one, the longest record that fills whole units is cut off, and all through the next
line feed is skipped; what ends nowhere is left (`Splitter.divide`). A reader gives these records, whatever its
chunks are (`Reader.yields_division`).

* `Encoding.terminator?_eq_feed?`: the search byte by byte finds the first unit that is a line feed.
* `Splitter.divide_eq_split`: the moves of a cursor come to the same records and the same rest.
* `Reader.Yields` are the events of a reader up to the one that does not come, and `Reader.exists_yields` says, by
  induction on what is ahead, that they lie next to each other and what they move over.
-/

namespace LogTail

/-! ## Line feeds by units -/

namespace Encoding

def feed? (e : Encoding) (bs : Bytes) : Option Nat :=
  (List.range (bs.length / e.unit)).find? fun k => e.unitAt bs k = e.lineFeed

variable {e : Encoding} {bs : Bytes} {k : Nat}

theorem feed?_eq_some_iff : e.feed? bs = some k ↔ e.FirstFeed bs k := by
  have hinside : k < bs.length / e.unit ↔ (k + 1) * e.unit ≤ bs.length := Nat.le_div_iff_mul_le e.unit_pos
  rw [feed?, List.find?_range_eq_some, List.mem_range, hinside]
  simp only [decide_eq_true_eq, Bool.not_eq_true', decide_eq_false_iff_not]
  exact ⟨fun ⟨hfeed, hin, hbefore⟩ => ⟨hin, hfeed, hbefore⟩, fun h => ⟨h.feed, h.inside, h.before⟩⟩

theorem terminator?_eq_feed? (e : Encoding) (bs : Bytes) :
    e.terminator? bs = (e.feed? bs).map fun k => (e.contentEnd bs k, (k + 1) * e.unit) := by
  rcases hfeed : e.feed? bs with _ | k
  · rw [Option.map_none, terminator?_eq_none_iff]
    intro k hk
    rw [← feed?_eq_some_iff, hfeed] at hk
    cases hk
  · exact terminator?_eq_some_iff.2 ⟨k, feed?_eq_some_iff.1 hfeed, rfl, rfl⟩

theorem feed?_inside (h : e.feed? bs = some k) : 0 < (k + 1) * e.unit ∧ (k + 1) * e.unit ≤ bs.length :=
  ⟨Nat.mul_pos (Nat.succ_pos k) e.unit_pos, (feed?_eq_some_iff.1 h).inside⟩

theorem feed?_take_inside {n : Nat} (h : e.feed? (bs.take n) = some k) :
    0 < (k + 1) * e.unit ∧ (k + 1) * e.unit ≤ bs.length :=
  ⟨(feed?_inside h).1, Nat.le_trans (feed?_inside h).2 (List.length_take_le' ..)⟩

theorem contentEnd_take {n : Nat} (h : e.feed? (bs.take n) = some k) :
    e.contentEnd (bs.take n) k = e.contentEnd bs k := by
  have hsame := contentEnd_append (bs.drop n) (feed?_inside h).2
  rw [List.take_append_drop] at hsame
  exact hsame.symm

end Encoding

namespace Cursor

theorem weight_move_lt {c : Cursor} {n : Nat} (h : 0 < n ∧ n ≤ c.rest.length) (b : Bool) :
    (c.move n b).weight < c.weight := by
  simp only [weight, move_rest, move_skipping, List.length_drop]
  grind

theorem weight_cut_lt {c : Cursor} (h : ¬ c.skipping = true) (n : Nat) : (c.move n true).weight < c.weight := by
  simp only [weight, move_rest, move_skipping, List.length_drop, if_neg h, if_pos]
  omega

end Cursor

/-! ## The division -/

namespace Splitter

/-- The records from a cursor on, and the cursor at what is left behind them. -/
def divide (s : Splitter) (c : Cursor) : List Record × Cursor :=
  let e := s.encoding
  if c.skipping then
    match hfeed : e.feed? c.rest with
    | some k =>
      have : (c.move ((k + 1) * e.unit) false).weight < c.weight :=
        Cursor.weight_move_lt (Encoding.feed?_inside hfeed) false
      s.divide (c.move ((k + 1) * e.unit) false)
    | none => ([], c.move (e.alignDown c.rest.length) true)
  else
    match hfeed : e.feed? (c.rest.take s.longest) with
    | some k =>
      have : (c.move ((k + 1) * e.unit) false).weight < c.weight :=
        Cursor.weight_move_lt (Encoding.feed?_take_inside hfeed) false
      let (rs, left) := s.divide (c.move ((k + 1) * e.unit) false)
      (c.record e (e.contentEnd c.rest k) ((k + 1) * e.unit) false :: rs, left)
    | none =>
      if s.longest ≤ c.rest.length then
        let (rs, left) := s.divide (c.move (e.alignDown s.longest) true)
        (c.record e (e.alignDown s.longest) (e.alignDown s.longest) true :: rs, left)
      else ([], c)
termination_by c.weight
decreasing_by
  · assumption
  · assumption
  · exact Cursor.weight_cut_lt ‹_› _

/-- Of a record that is skipped and has no end, a fragment of a unit is left. -/
theorem split_skipped {s : Splitter} {c : Cursor} (hskip : c.skipping = true)
    (hfree : s.encoding.terminator? c.rest = none) :
    s.split false c = ([], c.move (s.encoding.alignDown c.rest.length) true) := by
  have hshort : (c.rest.drop (s.encoding.alignDown c.rest.length)).length < s.encoding.unit := by
    rw [List.length_drop]
    exact s.encoding.sub_alignDown_lt _
  have hend : s.next? false (c.move (s.encoding.alignDown c.rest.length) true) = none :=
    next?_eq_none (Encoding.terminator?_eq_none_of_length_lt hshort) hshort
  have hleads : s.Leads false c [] (c.move (s.encoding.alignDown c.rest.length) true) := by
    rcases Nat.eq_zero_or_pos (s.encoding.alignDown c.rest.length) with hzero | hpos
    · rw [hzero, ← hskip, Cursor.move_zero]
      exact .refl c
    · refine .single (.dropped hskip hpos (Encoding.alignDown_le _ _) (Encoding.unit_dvd_alignDown _ _) ?_)
      rw [← List.take_append_drop (s.encoding.alignDown c.rest.length) c.rest] at hfree
      exact Encoding.terminator?_eq_none_of_append hfree
  obtain ⟨hrecords, hlast⟩ := hleads.eq_of_next?_none hend
  exact Prod.ext hrecords hlast

/-- **The moves of a cursor come to the same records**, and leave the same rest. -/
theorem divide_eq_split (s : Splitter) (c : Cursor) : s.divide c = s.split false c := by
  have hfree {bs : Bytes} (h : s.encoding.feed? bs = none) : s.encoding.terminator? bs = none := by
    rw [Encoding.terminator?_eq_feed?, h, Option.map_none]
  have hfound {bs : Bytes} {k : Nat} (h : s.encoding.feed? bs = some k) :
      s.encoding.terminator? bs = some (s.encoding.contentEnd bs k, (k + 1) * s.encoding.unit) := by
    rw [Encoding.terminator?_eq_feed?, h, Option.map_some]
  fun_induction divide s c with
  | case1 c e hskip k hfeed _ ih =>
    rw [(Step.skipped hskip (hfound hfeed)).split_eq, ih]
    rfl
  | case2 c e hskip hfeed => exact (split_skipped hskip (hfree hfeed)).symm
  | case3 c e hskip k hfeed _ rs left hrest ih =>
    rw [Bool.not_eq_true] at hskip
    rw [(Step.whole hskip (hfound hfeed)).split_eq, Encoding.contentEnd_take hfeed, records, last, ← ih, hrest]
    rfl
  | case4 c e hskip hfeed hlong rs left hrest ih =>
    rw [Bool.not_eq_true] at hskip
    rw [(Step.cut hskip (hfree hfeed) hlong).split_eq, records, last, ← ih, hrest]
    rfl
  | case5 c e hskip hfeed hshort =>
    have hless : c.rest.length < s.longest := Nat.not_le.1 hshort
    rw [List.take_of_length_le (Nat.le_of_lt hless)] at hfeed
    exact (split_none (next?_eq_none (hfree hfeed) (by rwa [if_neg hskip]))).symm

end Splitter

/-! ## The bytes of a tracked file -/

theorem Splitter.divide_eq_nil {s : Splitter} {c : Cursor} (hfree : s.encoding.terminator? c.rest = none)
    (hshort : c.rest.length < if c.skipping then s.encoding.unit else s.longest) : s.divide c = ([], c) := by
  rw [divide_eq_split, split_none (next?_eq_none hfree hshort)]

namespace LogFile.Sound

variable {s : Splitter} {f : LogFile} {content : Bytes}

theorem stop_eq (hf : f.Sound s) : (f.cursor content f.size).offset + (f.cursor content f.size).rest.length =
    max f.processed (min f.size content.length) := by
  have hstart := hf.tailStart_add
  simp only [cursor, List.length_append, List.length_take, List.length_drop]
  omega

theorem divide_own (hf : f.Sound s) (htail : f.tail = (content.drop f.tailStart).take f.tail.length) :
    (s.divide ⟨f.tailStart, f.skipping, (content.take f.size).drop f.tailStart⟩).1 =
      (s.divide (f.cursor content f.size)).1 := by
  have hstart := hf.tailStart_add
  rw [List.drop_take]
  rcases Nat.le_total f.processed f.size with hle | hle
  · have hbytes : (content.drop f.tailStart).take (f.size - f.tailStart) =
        f.tail ++ (content.drop f.processed).take (f.size - f.processed) := by
      rw [show f.size - f.tailStart = f.tail.length + (f.size - f.processed) by omega, List.take_add, List.drop_drop,
        hstart, ← htail]
    rw [hbytes]
    rfl
  · -- a file that is smaller by now than what was read of it
    have hbytes : (content.drop f.tailStart).take (f.size - f.tailStart) = f.tail.take (f.size - f.tailStart) := by
      rw [htail, List.take_take, Nat.min_eq_left (by omega)]
    have hrest : f.cursor content f.size = ⟨f.tailStart, f.skipping, f.tail⟩ := by
      rw [cursor, Nat.sub_eq_zero_of_le hle, List.take_zero, List.append_nil]
    have hfree := hf.free
    rw [← List.take_append_drop (f.size - f.tailStart) f.tail] at hfree
    have hless : (f.tail.take (f.size - f.tailStart)).length < if f.skipping then s.encoding.unit else s.longest :=
      Nat.lt_of_le_of_lt (List.length_take_le' ..) hf.short
    rw [hbytes, hrest, Splitter.divide_eq_nil (Encoding.terminator?_eq_none_of_append hfree) hless,
      Splitter.divide_eq_nil hf.free hf.short]

end LogFile.Sound

/-! ## The events of a reader -/

/-- A record begins at an offset, or the bytes that are skipped are those behind it. -/
def ReadEvent.BeginsAt (offset : Nat) : ReadEvent → Prop
  | record start stop _ _ => start = offset ∧ offset ≤ stop
  | skipped stop _ => offset < stop

/-- Events lie next to each other from one offset to another. -/
def Adjoin (first : Nat) : List ReadEvent → Nat → Prop
  | [], last => last = first
  | event :: events, last => event.BeginsAt first ∧ Adjoin event.stop events last

theorem Splitter.Step.beginsAt {s : Splitter} {finished : Bool} {c c' : Cursor} {event : ReadEvent}
    (h : s.Step finished c event.record? c') (hstop : event.stop = c'.offset) : event.BeginsAt c.offset := by
  cases event with
  | record start stop bytes truncated =>
    obtain ⟨hstart, hend, _⟩ := h.record
    refine ⟨hstart, ?_⟩
    rw [show stop = c'.offset from hend]
    exact h.offset_le
  | skipped stop ended =>
    have hforward := h.rank_lt
    have hskip : c.skipping = true := by
      cases h with
      | skipped hskip => exact hskip
      | dropped hskip => exact hskip
    rw [rank, rank, if_pos hskip, ← hstop] at hforward
    show c.offset < stop
    rw [ReadEvent.stop] at hforward
    split at hforward <;> omega

namespace Reader

/-- A reader gives events until there are none, and is left behind them. -/
inductive Yields : Reader → World → List ReadEvent → Reader → World → Prop
  | ended {r r' : Reader} {w w' : World} (last : r.next w = (.ok none, r', w')) : Yields r w [] r' w'
  | event {r r₁ r₂ : Reader} {w w₁ w₂ : World} {event : ReadEvent} {events : List ReadEvent}
    (first : r.next w = (.ok (some event), r₁, w₁)) (others : Yields r₁ w₁ events r₂ w₂) :
    Yields r w (event :: events) r₂ w₂

variable {o : ReaderOptions} {d : Disk} {content : Bytes} {w : World}

/-- **A reader comes to its end**: its events lie next to each other, its cursor moves over their records, and what
is left in its window is what is ahead where nothing comes next. -/
theorem exists_yields {r : Reader} (ho : r.options = o) (hfile : r.Covered d content) (hr : r.Fits)
    (hw : w.Still d) : ∃ events r' w', r.Yields w events r' w' ∧ r'.Fits ∧ Adjoin r.start events r'.start ∧
      o.splitter.Leads false (r.cursor content) (events.filterMap ReadEvent.record?) (r'.cursor content) ∧
      o.splitter.next? false (r'.cursor content) = none ∧ r'.window = (r'.cursor content).rest := by
  induction hweight : (r.cursor content).weight using Nat.strongRecOn generalizing r w with
  | ind weight ih =>
    obtain ⟨event?, r₁, w₁, hnext, hw₁, hr₁, hsame, hanswer⟩ := next_spec hfile hw hr
    cases hanswer with
    | ended hstays hall hlast =>
      rw [← hstays, ho] at hlast
      rw [← hstays] at hall
      refine ⟨[], r₁, w₁, .ended hnext, hr₁, congrArg Cursor.offset hstays, ?_, hlast, hall⟩
      rw [hstays]
      exact .refl _
    | @event event _ hstep hstop hskips =>
      rw [ho] at hstep
      have hless := hstep.weight_lt
      obtain ⟨events, r₂, w₂, hyields, hr₂, hadjoin, hleads, hlast, hall⟩ :=
        ih _ (hweight ▸ hless) (hsame.options.trans ho) (hfile.same hsame) hr₁ hw₁ rfl
      refine ⟨event :: events, r₂, w₂, .event hnext hyields, hr₂, ⟨hstep.beginsAt hstop, hstop ▸ hadjoin⟩, ?_, hlast, hall⟩
      have hevents : (event :: events).filterMap ReadEvent.record? =
          event.record?.toList ++ events.filterMap ReadEvent.record? := by
        cases hrecord : event.record? <;> simp [hrecord]
      rw [hevents]
      exact .step hstep hleads

/-- A reader on a tracked file gives the records from its cursor on, and is left behind them. -/
theorem yields_split (hchunk : 0 < o.chunkSize) (hmax : o.chunkSize ≤ o.maxRecordSize) {f : LogFile}
    (hw : w.Still d) (hopens : f.Opens d o.verifyIdentity content) (hsound : f.Sound o.splitter) :
    ∃ r w₁ events r' w₂, openFile o f w = (.ok r, w₁) ∧ r.Yields w₁ events r' w₂ ∧
      Adjoin f.tailStart events r'.start ∧ r'.position = max f.processed (min f.size content.length) ∧
      o.splitter.split false (f.cursor content f.size) =
        (events.filterMap ReadEvent.record?, ⟨r'.start, r'.skipping, r'.window⟩) := by
  obtain ⟨number, w₁, hopen, hw₁, hfile⟩ := hopens.readable.openFile hw
  have hfits := hsound.fits hchunk hmax number
  obtain ⟨events, r', w₂, hyields, hfits', hadjoin, hleads, hlast, hall⟩ := exists_yields rfl hfile hfits hw₁
  obtain ⟨hrecords, hend⟩ := hleads.eq_of_next?_none hlast
  refine ⟨_, w₁, events, r', w₂, hopen, hyields, hadjoin, ?_, Prod.ext hrecords (hend.trans ?_)⟩
  · rw [hfits'.reaches, hall]
    exact hleads.stop_eq.trans hsound.stop_eq
  · rw [hall]
    rfl

/-- **A reader divides a file by its line feeds**, whatever its chunks are. Its events lie next to each other; their
records are those of the bytes from the start of the tail up to the size or the end of the file, and what is left of
the bytes is left in the window. -/
theorem yields_division (hchunk : 0 < o.chunkSize) (hmax : o.chunkSize ≤ o.maxRecordSize) {f : LogFile}
    (hw : w.Still d) (hopens : f.Opens d o.verifyIdentity content) (hsound : f.Sound o.splitter) :
    ∃ r w₁ events r' w₂, openFile o f w = (.ok r, w₁) ∧ r.Yields w₁ events r' w₂ ∧
      Adjoin f.tailStart events r'.start ∧ r'.position = max f.processed (min f.size content.length) ∧
      o.splitter.divide (f.cursor content f.size) =
        (events.filterMap ReadEvent.record?, ⟨r'.start, r'.skipping, r'.window⟩) ∧
      (f.tail = (content.drop f.tailStart).take f.tail.length →
        (o.splitter.divide ⟨f.tailStart, f.skipping, (content.take f.size).drop f.tailStart⟩).1 =
          events.filterMap ReadEvent.record?) := by
  obtain ⟨r, w₁, events, r', w₂, hopen, hyields, hadjoin, hposition, hsplit⟩ :=
    yields_split hchunk hmax hw hopens hsound
  rw [← Splitter.divide_eq_split] at hsplit
  refine ⟨r, w₁, events, r', w₂, hopen, hyields, hadjoin, hposition, hsplit, fun htail => ?_⟩
  rw [hsound.divide_own htail, hsplit]

def unevenOptions : ReaderOptions := ⟨.utf16le, 3, 8, true⟩

/-- A record that fills the limit with its terminator, one that is cut, and a unit that is left. -/
def unevenContent : Bytes :=
  [0xff, 0xfe, 0x61, 0, 0x0d, 0, 0x0a, 0] ++ [0x62, 0, 0x62, 0, 0x62, 0, 0x62, 0, 0x62, 0, 0x0a, 0] ++ [0x63, 0]

/-- Of the file one and a half units were read. -/
def unevenFile : LogFile :=
  { path := ⟨[0x2f, 0x61]⟩, mtime := 0, id := .ofNumber 1, size := 22, processed := 3, digest := .empty, seq := 0,
    tail := [0xff, 0xfe, 0x61] }

theorem yields_division_uneven :
    let w : World := .quiet (Interruption.oneFile unevenContent)
    w.Still (Interruption.oneFile unevenContent) ∧
      unevenFile.Opens (Interruption.oneFile unevenContent) unevenOptions.verifyIdentity unevenContent ∧
      unevenFile.Sound unevenOptions.splitter ∧
      ∃ r w₁ events r' w₂, openFile unevenOptions unevenFile w = (.ok r, w₁) ∧ r.Yields w₁ events r' w₂ ∧
        events.filterMap ReadEvent.record? =
          [⟨0, 8, [0x61, 0], false⟩, ⟨8, 16, [0x62, 0, 0x62, 0, 0x62, 0, 0x62, 0], true⟩] ∧
        r'.start = 20 ∧ r'.window = [0x63, 0] ∧ r'.position = 22 := by
  intro w
  have hw : w.Still (Interruption.oneFile unevenContent) := World.still_quiet _
  have hopens : unevenFile.Opens (Interruption.oneFile unevenContent) unevenOptions.verifyIdentity unevenContent :=
    ⟨1, rfl, ⟨rfl, rfl⟩, fun _ => rfl⟩
  have hsound : unevenFile.Sound unevenOptions.splitter := ⟨by decide, by decide, by decide⟩
  obtain ⟨r, w₁, events, r', w₂, hopen, hyields, _, hposition, hdivide, _⟩ :=
    yields_division (by decide) (by decide) hw hopens hsound
  have hvalue : unevenOptions.splitter.divide (unevenFile.cursor unevenContent unevenFile.size) =
      ([⟨0, 8, [0x61, 0], false⟩, ⟨8, 16, [0x62, 0, 0x62, 0, 0x62, 0, 0x62, 0], true⟩], ⟨20, false, [0x63, 0]⟩) := by
    decide +kernel
  rw [hvalue, Prod.mk.injEq, Cursor.mk.injEq] at hdivide
  obtain ⟨hrecords, hstart, _, hwindow⟩ := hdivide
  exact ⟨hw, hopens, hsound, r, w₁, events, r', w₂, hopen, hyields, hrecords.symm, hstart.symm, hwindow.symm,
    hposition⟩

end Reader

end LogTail
