import LogTail.Proofs.Boundaries
import LogTail.Proofs.Growth
import LogTail.Proofs.Interruption

/-!
# Reading a copy of a tracked file

Where a producer copies and truncates, the copy is read on with the progress of its source, no further than the
first bytes that are known to be shared. No record is lost or split that way if and only if units are bytes, or the
first bytes that are looked at are whole units and fewer than a cut leaves of a record
(`CopyTruncate.readsWhole_iff`).

* `Reader.readToEnd` gives all records of a reader: those of the splitter (`Reader.readToEnd_spec`).
* `Resolution.copyFile_cursor`: in those cases a copy stands where its records can be met, or skips to there.
* Else a shared part that ends inside a unit is read on from there (`CopyTruncate.unit_dvd_of_readsWhole`), and a
  tail of a record that is skipped is taken for the beginning of one (`CopyTruncate.lt_cut_of_readsWhole`).
-/

namespace LogTail

theorem Encoding.terminator?_shifted {e : Encoding} {r : Nat} (hpos : 0 < r) (hr : r < e.unit) :
    e.terminator? (List.replicate (e.unit - r) 0 ++ (e.lineFeed ++ e.lineFeed)) = none := by
  have hfew : r = 1 ∨ r = 2 ∨ r = 3 := by
    have : e.unit ≤ 4 := by cases e <;> decide
    omega
  cases e <;> rcases hfew with rfl | rfl | rfl <;> first | decide | exact absurd hr (by decide)

theorem Encoding.endsWithTerminator_zeros (e : Encoding) (n : Nat) :
    e.endsWithTerminator (List.replicate n 0) = false := by
  rw [endsWithTerminator, Bool.and_eq_false_iff, decide_eq_false_iff_not, decide_eq_false_iff_not]
  refine .inr fun h => ?_
  have hmem : (0x0a : UInt8) ∈ e.lineFeed := by cases e <;> decide
  rw [← h, List.drop_replicate, List.mem_replicate] at hmem
  exact absurd hmem.2 (by decide)

/-! ## All records of a reader -/

namespace Reader

/-- The records that come, with a number of events that may come; what is left at the end is a record if the file
is finished. -/
def readAll (finished : Bool) : Nat → Reader → World → Except Cause (List Record)
  | 0, _, _ => .ok []
  | n + 1, r, w =>
    match r.next w with
    | (.error c, _, _) => .error c
    | (.ok none, r, _) => .ok (if finished then (r.takeRemainder.1.bind ReadEvent.record?).toList else [])
    | (.ok (some event), r, w) => (readAll finished n r w).map (event.record?.toList ++ ·)

def readToEnd (o : ReaderOptions) (finished : Bool) (f : LogFile) (w : World) : Except Cause (List Record) :=
  match openFile o f w with
  | (.error c, _) => .error c
  | (.ok r, w) => r.readAll finished (r.eventBound + 1) w

variable {o : ReaderOptions} {d : Disk} {content : Bytes} {w : World} {finished : Bool}

theorem takeRemainder_records {r : Reader} (hwindow : r.window = (r.cursor content).rest)
    (hlast : r.options.splitter.next? false (r.cursor content) = none) :
    r.options.splitter.records true (r.cursor content) = (r.takeRemainder.1.bind ReadEvent.record?).toList := by
  have hskip : (r.cursor content).skipping = r.skipping := rfl
  obtain ⟨hfree, hshort⟩ := Splitter.next?_none hlast
  by_cases hnothing : (r.window.isEmpty || r.skipping) = true
  · have hleft : (r.cursor content).skipping = true ∨ (r.cursor content).rest = [] := by
      rw [← hwindow, hskip]
      simpa [or_comm] using hnothing
    rw [takeRemainder, if_pos hnothing, Splitter.records,
      Splitter.split_none (Splitter.next?_finished_none hlast hleft)]
    rfl
  · rw [takeRemainder, if_neg hnothing]
    rw [Bool.or_eq_true, not_or, List.isEmpty_iff, Bool.not_eq_true, hwindow] at hnothing
    obtain ⟨hne, hreads⟩ := hnothing
    rw [hskip, hreads, if_neg Bool.false_ne_true] at hshort
    have hstep : r.options.splitter.Step true (r.cursor content) _ _ :=
      .remainder hreads (by rwa [List.take_of_length_le (Nat.le_of_lt hshort)]) hshort rfl hne
    have hrest : ((r.cursor content).move (r.cursor content).rest.length false).rest = [] := by simp
    have hend : r.options.splitter.records true ((r.cursor content).move (r.cursor content).rest.length false) =
        [] := by
      have hnone : r.options.splitter.next? true
          ((r.cursor content).move (r.cursor content).rest.length false) = none :=
        Splitter.next?_finished_none (Splitter.next?_eq_none (by simp)
          (by rw [hrest]; exact Nat.lt_of_le_of_lt (Nat.zero_le _) hshort)) (.inr hrest)
      rw [Splitter.records, Splitter.split_none hnone]
    have hrecord := record_eq content (Nat.le_refl r.window.length) r.window.length false
    rw [hwindow] at hrecord
    rw [Splitter.records, hstep.split_eq, hend, List.append_nil]
    simp only [emit, hwindow, Option.bind_some, ReadEvent.record?]
    exact congrArg (fun r => [r]) hrecord

theorem readAll_spec (n : Nat) {r : Reader} (ho : r.options = o) (hfile : r.Covered d content) (hr : r.Fits)
    (hw : w.Still d) (hfuel : (r.cursor content).weight < n) :
    r.readAll finished n w = .ok (o.splitter.records finished (r.cursor content)) := by
  induction n generalizing r w with
  | zero => omega
  | succ n ih =>
    obtain ⟨event?, r', w', hnext, hw', hr', hsame, hanswer⟩ := next_spec hfile hw hr
    rw [readAll, hnext]
    cases hanswer with
    | @event event _ hstep =>
      have hless := hstep.weight_lt
      rw [ho] at hstep
      have hrest := ih (hsame.options.trans ho) (hfile.same hsame) hr' hw' (by omega)
      have hrecords : o.splitter.records finished (r.cursor content) = _ :=
        congrArg Prod.fst (hstep.finish finished).split_eq
      rw [hrecords]
      simp only [hrest]
      rfl
    | ended hstays hall hlast =>
      rw [← hstays] at hall hlast ⊢
      rw [← hsame.options] at hlast ho
      cases finished with
      | true => simp only [if_true, ← takeRemainder_records hall hlast, ho]
      | false =>
        rw [ho] at hlast
        simp only [Bool.false_eq_true, if_false, Splitter.records, Splitter.split_none hlast]

/-- **A reader gives the records from the cursor of its file on.** -/
theorem readToEnd_spec (hchunk : 0 < o.chunkSize) (hmax : o.chunkSize ≤ o.maxRecordSize) (finished : Bool)
    {f : LogFile} (hw : w.Still d) (hopens : f.Opens d o.verifyIdentity content) (hsound : f.Sound o.splitter) :
    readToEnd o finished f w = .ok (o.splitter.records finished (f.cursor content f.size)) := by
  obtain ⟨number, w', hopen, hw', hfile⟩ := hopens.readable.openFile hw
  have hfits := hsound.fits hchunk hmax number
  rw [readToEnd, hopen]
  exact readAll_spec _ rfl hfile hfits hw' (Nat.lt_succ_of_lt (weight_lt_eventBound content hfits))

end Reader

/-! ## Sources -/

/-- A place behind the cut of a record that is longer than the longest, at a multiple of the unit and before the
end of the record. -/
def Splitter.Overlong (s : Splitter) (bs : Bytes) (n : Nat) : Prop :=
  ∃ first, s.encoding.Boundary bs first ∧ first + s.longest ≤ bs.length ∧
    first + s.encoding.alignDown s.longest ≤ n ∧ s.encoding.unit ∣ n ∧
    s.encoding.terminator? ((bs.drop first).take (n - first)) = none

/-- A tracked file of a content, with the bytes before its offset as tail, which begins with a record, or lies
inside one that was too long if the rest of that is skipped. -/
structure LogFile.Source (s : Splitter) (window : Nat) (content : Bytes) (f : LogFile) : Prop
    extends f.Seen window content where
  sound : f.Sound s
  tail : f.tail = (content.drop f.tailStart).take f.tail.length
  begins : f.skipping = false → s.encoding.Boundary content f.tailStart
  lies : f.skipping = true → s.Overlong content f.tailStart

/-- Where the first record begins that is to be read of a copy: at the tail of the source, or behind the record
that the source skips. -/
def Splitter.resumesAt? (s : Splitter) (copy : Bytes) (f : LogFile) : Option Nat :=
  if f.skipping then (s.encoding.terminator? (copy.drop f.tailStart)).map (f.tailStart + ·.2) else some f.tailStart

/-- Records of a copy, none of them a part of one, and among them all that are not behind the source. -/
structure Splitter.Whole (s : Splitter) (finished : Bool) (copy : Bytes) (f : LogFile) (rs : List Record) :
    Prop where
  whole : ∀ r ∈ rs, r ∈ s.records finished (.start copy)
  all : ∀ first ∈ s.resumesAt? copy f, ∀ r ∈ s.records finished (.start copy), first ≤ r.start → r ∈ rs

namespace LogFile

variable {s : Splitter} {window : Nat} {content copy : Bytes} {f : LogFile}

/-- A copy that begins with what was processed of its source holds the tail of the source in its place. -/
theorem Source.shared (h : f.Source s window content) (hstarts : content.take f.processed <+: copy) :
    f.processed ≤ copy.length ∧ f.tail ++ copy.drop f.processed = copy.drop f.tailStart := by
  have hstart := h.sound.tailStart_add
  have hlength : (content.take f.processed).length = f.processed := by
    rw [List.length_take, Nat.min_eq_left h.processed_le]
  have hsame : copy.take f.processed = content.take f.processed := by
    rw [List.prefix_iff_eq_take.1 hstarts, hlength]
  refine ⟨hlength ▸ hstarts.length_le, ?_⟩
  have htail : f.tail = (copy.drop f.tailStart).take f.tail.length := by
    have hboth := congrArg (List.drop f.tailStart) hsame
    rw [List.drop_take, List.drop_take, ← hstart, Nat.add_sub_cancel_left] at hboth
    rw [hboth, ← h.tail]
  rw [htail, ← hstart, ← List.drop_drop, List.take_append_drop]

theorem Source.shared_eq (h : f.Source s window content) (hle : f.processed ≤ copy.length)
    (hless : min f.digest.length copy.length < f.processed) : min f.digest.length copy.length = window := by
  obtain ⟨old, _, hsize, hdigest⟩ := h.seen
  have hlength : f.digest.length = min window old.length := by rw [hdigest, Digest.of, List.length_take]
  have := h.within
  omega

end LogFile

namespace CopyTruncate

/-- Whatever a resolution takes for a copy of a tracked file, and that begins with what was processed of it, is
read whole. -/
def ReadsWhole (o : ReaderOptions) (window : Nat) : Prop :=
  ∀ (policy : RotationPolicy) (state : WatchState) (candidates : List Candidate) (i j : Nat) (f g : LogFile)
    (c : Candidate) (content copy : Bytes),
    state.files[i]? = some f → f.Source o.splitter window content →
    candidates[j]? = some c → c.size = copy.length → c.head = copy.take window →
    content.take f.processed <+: copy →
    (Resolution.resolve policy o.encoding state candidates).files[j]? = some g →
    (Resolution.resolve policy o.encoding state candidates).transitions[j]? = some .rotatedCopy →
    g.copyOf = some i →
    ∀ (finished : Bool) (d : Disk) (w : World), w.Still d → g.Opens d o.verifyIdentity copy →
      ∃ rs, Reader.readToEnd o finished g w = .ok rs ∧ o.splitter.Whole finished copy f rs

end CopyTruncate

/-! ## A copy of a source -/

namespace Resolution

section copies
variable {s : Splitter} {window place seq : Nat} {content copy : Bytes} {f : LogFile} {c : Candidate}
  {first : Nat}

theorem copyFile_sound (hpos : 0 < s.longest) (hf : f.Sound s) :
    (copyFile s.encoding f place c seq).Sound s := by
  have hunit := s.encoding.unit_pos
  have hbare (g : LogFile) (h : g.tail = []) : g.Sound s := by
    refine ⟨by simp [h], by simp [h], ?_⟩
    rw [h, List.length_nil]
    split <;> assumption
  unfold copyFile
  dsimp only
  split_ifs
  · exact hf.congr rfl rfl rfl
  · exact hbare _ rfl
  · exact hbare _ rfl

theorem copied_of_copyOf {policy : RotationPolicy} {encoding : Encoding} {state : WatchState}
    {candidates : List Candidate} {i j : Nat} {g : LogFile} (hf : state.files[i]? = some f)
    (hc : candidates[j]? = some c) (hg : (resolve policy encoding state candidates).files[j]? = some g)
    (hcopy : g.copyOf = some i) : ∃ seq, g = copyFile encoding f i c seq := by
  obtain ⟨c', t, hc', _, hentry⟩ := exists_entry_of_files hg
  obtain rfl : c = c' := Option.some.inj (hc.symm.trans hc')
  have hsource := hentry.copyOf_eq_some.1 hcopy
  cases hentry with
  | continued hchosen =>
    rw [linkOf?_eq_none_of_claimed hsource] at hchosen
    cases hchosen
  | copied _ hclaimed htracked =>
    obtain rfl := Option.some.inj (Option.some.inj (hclaimed.symm.trans hsource))
    obtain rfl := Option.some.inj (hf.symm.trans htracked)
    exact ⟨_, rfl⟩
  | new _ hunclaimed =>
    rw [hunclaimed] at hsource
    cases hsource

theorem resolve_copy (encoding : Encoding) (hid : f.id ≠ c.id) (hshares : Link.sharesPrefix f c = true) :
    ∃ seq, (resolve .copyTruncate encoding { useIdentity := true, files := [f] } [c]).files[0]? =
        some (copyFile encoding f 0 c seq) ∧
      (resolve .copyTruncate encoding { useIdentity := true, files := [f] } [c]).transitions[0]? =
        some .rotatedCopy := by
  obtain ⟨g, t, hg, ht, hentry⟩ := exists_entry .copyTruncate encoding { useIdentity := true, files := [f] }
    (show [c][0]? = some c from rfl)
  have hlinks : matching .copyTruncate { useIdentity := true, files := [f] } [c] = Matching.ofLinks [] := by
    simp [matching, Link.all, Link.relate, Link.base?, hid]
  have hsource : (copies .copyTruncate { useIdentity := true, files := [f] } [c]).sources[0]? = some (some 0) := by
    refine sources_eq_some.2 ⟨rfl, ⟨c, rfl, ?_, ?_⟩, fun k hclaim => ?_⟩
    · rw [hlinks]
      decide
    · simp [Copies.judge, Copies.sourcesOf, hshares]
    · obtain ⟨_, hk, _⟩ := hclaim
      have hlt := (List.getElem?_eq_some_iff.1 hk).1
      simpa using hlt
  have hcopy := hentry.copyOf_eq_some.2 hsource
  obtain ⟨seq, rfl⟩ := copied_of_copyOf rfl rfl hg hcopy
  obtain rfl := hentry.copies_iff.2 ⟨0, hsource⟩
  exact ⟨seq, hg, ht⟩

section cursor
variable (hsize : c.size = copy.length)
include hsize

theorem cursor_of_shared (place seq : Nat) (hshared : f.processed ≤ min f.digest.length copy.length) :
    (copyFile s.encoding f place c seq).cursor copy copy.length =
      ⟨f.tailStart, f.skipping, f.tail ++ copy.drop f.processed⟩ := by
  unfold copyFile
  dsimp only
  rw [hsize, if_pos hshared]
  exact LogFile.cursor_length copy _

theorem cursor_of_inside (place seq : Nat) (hless : min f.digest.length copy.length < f.processed)
    (hinside : f.tailStart ≤ min f.digest.length copy.length) :
    (copyFile s.encoding f place c seq).cursor copy copy.length =
      ⟨f.tailStart, false, copy.drop f.tailStart⟩ := by
  unfold copyFile
  dsimp only
  rw [hsize, if_neg (Nat.not_le.2 hless), if_pos hinside]
  exact LogFile.cursor_length copy _

theorem cursor_of_behind (place seq : Nat) (hbehind : min f.digest.length copy.length < f.tailStart) :
    (copyFile s.encoding f place c seq).cursor copy copy.length =
      ⟨min f.digest.length copy.length, !(decide (min f.digest.length copy.length = 0) ||
        s.encoding.endsWithTerminator (c.head.take (min f.digest.length copy.length))),
        copy.drop (min f.digest.length copy.length)⟩ := by
  have hless : ¬ f.processed ≤ min f.digest.length copy.length :=
    Nat.not_le.2 (Nat.lt_of_lt_of_le hbehind (Nat.sub_le ..))
  unfold copyFile
  dsimp only
  rw [hsize, if_neg hless, if_neg (Nat.not_le.2 hbehind)]
  exact LogFile.cursor_length copy _

end cursor

/-- A place in a copy to read on from: a boundary that is not behind the source, or a multiple of the unit to skip
from, which is before it unless the source skips itself. -/
def Resumes (e : Encoding) (copy : Bytes) (f : LogFile) (n : Nat) (skipping : Bool) : Prop :=
  if skipping then e.unit ∣ n ∧ (n < f.tailStart ∨ n = f.tailStart ∧ f.skipping = true)
  else e.Boundary copy n ∧ n ≤ f.tailStart

/-- **A copy stands where its records can be met**, if the bytes that are looked at are whole units and fewer than a
cut leaves of a record. -/
theorem copyFile_cursor (place seq : Nat) (hsource : f.Source s window content) (hsize : c.size = copy.length)
    (hhead : c.head = copy.take window) (hstarts : content.take f.processed <+: copy)
    (hfits : s.encoding.unit = 1 ∨ s.encoding.unit ∣ window ∧ window < s.encoding.alignDown s.longest) :
    ∃ n skipping, (copyFile s.encoding f place c seq).cursor copy copy.length = ⟨n, skipping, copy.drop n⟩ ∧
      Resumes s.encoding copy f n skipping := by
  obtain ⟨hle, htail⟩ := hsource.shared hstarts
  have hbegins (h : f.skipping = false) : s.encoding.Boundary copy f.tailStart :=
    (hsource.begins h).of_take hstarts (Nat.sub_le ..)
  rcases Nat.lt_or_ge (min f.digest.length copy.length) f.processed with hless | hread
  · have hshared := hsource.shared_eq hle hless
    rcases Nat.lt_or_ge window f.tailStart with hbehind | hinside
    · -- the shared part ends behind a record, or inside one that was delivered
      have hwindow : s.encoding.unit ∣ window := hfits.elim (fun h => h ▸ Nat.one_dvd _) And.left
      refine ⟨window, _, hshared ▸ cursor_of_behind hsize place seq (hshared ▸ hbehind), ?_⟩
      rw [hhead, List.take_take, Nat.min_self]
      cases hat : decide (window = 0) || s.encoding.endsWithTerminator (copy.take window) with
      | true =>
        refine ⟨?_, Nat.le_of_lt hbehind⟩
        rcases Bool.or_eq_true_iff.1 hat with hzero | hends
        · rw [of_decide_eq_true hzero]
          exact s.encoding.boundary_zero copy
        · exact Encoding.boundary_of_endsWithTerminator hwindow (by omega) hends
      | false => exact ⟨hwindow, .inl hbehind⟩
    · -- it ends inside the tail, which is then no rest of a record that is skipped
      have hskip : f.skipping = false := by
        by_contra hskip
        rw [Bool.not_eq_false] at hskip
        have hstart := hsource.sound.tailStart_add
        have hshort := hsource.sound.short
        rw [if_pos hskip] at hshort
        obtain ⟨_, _, _, hcut, _⟩ := hsource.lies hskip
        rcases hfits with hunit | ⟨_, hless⟩ <;> omega
      exact ⟨f.tailStart, false, cursor_of_inside hsize place seq hless (hshared ▸ hinside), hbegins hskip,
        Nat.le_refl _⟩
  · -- all that was processed is shared: the copy goes on as its source
    refine ⟨f.tailStart, f.skipping, htail ▸ cursor_of_shared hsize place seq hread, ?_⟩
    cases hskip : f.skipping with
    | true =>
      obtain ⟨_, _, _, _, hunits, _⟩ := hsource.lies hskip
      exact ⟨hunits, .inr ⟨rfl, hskip⟩⟩
    | false => exact ⟨hbegins hskip, Nat.le_refl _⟩

theorem le_of_resumesAt? (h : first ∈ s.resumesAt? copy f) :
    f.tailStart ≤ first ∧ (f.skipping = true → f.tailStart < first) := by
  rw [Splitter.resumesAt?, Option.mem_def] at h
  split at h
  · obtain ⟨t, ht, rfl⟩ := Option.map_eq_some_iff.1 h
    have := Encoding.terminator?_pos ht
    omega
  · next hskip =>
    obtain rfl := Option.some.inj h
    exact ⟨Nat.le_refl _, fun hyes => absurd hyes hskip⟩

theorem whole_of_resumes {n : Nat} {skipping : Bool} (hpos : 0 < s.longest)
    (h : Resumes s.encoding copy f n skipping) (finished : Bool) :
    s.Whole finished copy f (s.records finished ⟨n, skipping, copy.drop n⟩) := by
  cases skipping with
  | true =>
    obtain ⟨hunits, hbefore⟩ := h
    refine ⟨fun r hr => ((Splitter.mem_records_of_skipping hpos hunits).1 hr).1, fun first hfirst r hr hle => ?_⟩
    obtain ⟨htail, hbehind⟩ := le_of_resumesAt? hfirst
    refine (Splitter.mem_records_of_skipping hpos hunits).2 ⟨hr, ?_⟩
    rcases hbefore with hless | ⟨rfl, hskip⟩
    · omega
    · exact Nat.lt_of_lt_of_le (hbehind hskip) hle
  | false =>
    obtain ⟨hboundary, hbefore⟩ := h
    refine ⟨fun r hr => ((Splitter.mem_records_of_boundary hboundary).1 hr).1, fun first hfirst r hr hle => ?_⟩
    obtain ⟨htail, _⟩ := le_of_resumesAt? hfirst
    exact (Splitter.mem_records_of_boundary hboundary).2 ⟨hr, by omega⟩

end copies

end Resolution

namespace CopyTruncate

section reads
variable {o : ReaderOptions} {window : Nat}

theorem readsWhole (hchunk : 0 < o.chunkSize) (hmax : o.chunkSize ≤ o.maxRecordSize)
    (hfits : o.encoding.unit = 1 ∨ o.encoding.unit ∣ window ∧ window < o.encoding.alignDown o.maxRecordSize) :
    ReadsWhole o window := by
  intro policy state candidates i j f g c content copy hf hsource hc hsize hhead hstarts hg _ hcopy finished d w hw
    hopens
  have hpos : 0 < o.splitter.longest := Nat.lt_of_lt_of_le hchunk hmax
  obtain ⟨seq, rfl⟩ := Resolution.copied_of_copyOf hf hc hg hcopy
  obtain ⟨n, skipping, hcursor, hresumes⟩ :=
    Resolution.copyFile_cursor i seq hsource hsize hhead hstarts hfits
  refine ⟨_, Reader.readToEnd_spec hchunk hmax finished hw hopens (Resolution.copyFile_sound hpos hsource.sound), ?_⟩
  rw [(Resolution.copyFile_describes o.encoding f i c seq).size, hsize,
    show (Resolution.copyFile o.encoding f i c seq).cursor copy copy.length = _ from hcursor]
  exact Resolution.whole_of_resumes hpos hresumes finished

/-! ## Records that are lost or split -/

def candidate (window : Nat) (copy : Bytes) : Candidate :=
  ⟨⟨[0x2f, 0x61]⟩, copy.length, 0, .ofNumber 1, copy.take window⟩

def source (window : Nat) (content tail : Bytes) (skipping : Bool) : LogFile :=
  { path := ⟨[0x2f, 0x62]⟩, mtime := 0, id := .ofNumber 2, size := content.length, processed := content.length,
    digest := .of (content.take window), seq := 0, tail := tail, skipping := skipping }

theorem ReadsWhole.whole (h : ReadsWhole o window) (hchunk : 0 < o.chunkSize) (hmax : o.chunkSize ≤ o.maxRecordSize)
    {content copy tail : Bytes} {skipping : Bool} (hwindow : 0 < window) (hcontent : content ≠ [])
    (hstarts : content <+: copy) (hsource : (source window content tail skipping).Source o.splitter window content) :
    ∃ seq, o.splitter.Whole false copy (source window content tail skipping)
      (o.splitter.records false ((Resolution.copyFile o.encoding (source window content tail skipping) 0
        (candidate window copy) seq).cursor copy copy.length)) := by
  have hpos : 0 < o.splitter.longest := Nat.lt_of_lt_of_le hchunk hmax
  generalize hf : source window content tail skipping = f at hsource ⊢
  generalize hc : candidate window copy = c
  have hshares : Link.sharesPrefix f c = true := by
    have hlength : (content.take window).length ≠ 0 := by
      have := List.length_pos_iff.2 hcontent
      rw [List.length_take]
      omega
    rw [← hf, ← hc, Link.sharesPrefix, Bool.and_eq_true, Bool.not_eq_true', Digest.isEmpty, beq_eq_false_iff_ne]
    exact ⟨hlength, Digest.matchesHead_of_prefix hstarts window⟩
  have hid : f.id ≠ c.id := by
    rw [← hf, ← hc]
    show FileId.ofNumber 2 ≠ FileId.ofNumber 1
    decide
  obtain ⟨seq, hfiles, htransitions⟩ := Resolution.resolve_copy o.encoding hid hshares
  have hdescribes := Resolution.copyFile_describes o.encoding f 0 c seq
  have hopens : (Resolution.copyFile o.encoding f 0 c seq).Opens (Interruption.oneFile copy) o.verifyIdentity copy :=
    ⟨1, by rw [hdescribes.path, ← hc]; rfl, ⟨rfl, rfl⟩, fun _ => by rw [hdescribes.id, ← hc]; rfl⟩
  obtain ⟨rs, hread, hwhole⟩ := h _ _ _ 0 0 f _ c content copy rfl hsource rfl (hc ▸ rfl) (hc ▸ rfl)
    (by rwa [← hf, source, List.take_length]) hfiles htransitions (Resolution.copyFile_copyOf ..) false
    (Interruption.oneFile copy) _ (World.still_quiet _) hopens
  rw [Reader.readToEnd_spec hchunk hmax false (World.still_quiet _) hopens
    (Resolution.copyFile_sound hpos hsource.sound)] at hread
  obtain rfl := Except.ok.inj hread
  have hsize : (Resolution.copyFile o.encoding f 0 c seq).size = copy.length := by rw [hdescribes.size, ← hc]; rfl
  rw [hsize] at hwhole
  exact ⟨seq, hwhole⟩

/-- A record of whole units, the first that ends behind a number of bytes. -/
def recordPast (e : Encoding) (n : Nat) : Bytes := List.replicate (e.alignDown n + e.unit) 0 ++ e.lineFeed

theorem length_recordPast (e : Encoding) (n : Nat) :
    (recordPast e n).length = e.alignDown n + e.unit + e.unit := by
  rw [recordPast, List.length_append, List.length_replicate, e.lineFeed_length]

theorem lt_length_recordPast (e : Encoding) (n : Nat) : n < (recordPast e n).length := by
  have := e.sub_alignDown_lt n
  rw [length_recordPast]
  omega

theorem boundary_recordPast (e : Encoding) (n : Nat) (more : Bytes) :
    e.Boundary (recordPast e n ++ more) (recordPast e n).length := by
  have hunits : e.unit ∣ (List.replicate (e.alignDown n + e.unit) (0 : UInt8)).length := by
    rw [List.length_replicate]
    exact Nat.dvd_add (e.unit_dvd_alignDown n) (Nat.dvd_refl _)
  have hboundary := Encoding.boundary_append_lineFeed hunits more
  rw [List.length_replicate] at hboundary
  rwa [length_recordPast, recordPast, List.append_assoc]

theorem recordPast_take (e : Encoding) (n : Nat) (more : Bytes) :
    (recordPast e n ++ more).take n = List.replicate n 0 := by
  have := e.sub_alignDown_lt n
  rw [recordPast, List.append_assoc, List.take_append_of_le_length (by rw [List.length_replicate]; omega),
    List.take_replicate, Nat.min_eq_left (by omega)]

/-- From inside a unit of it on, neither its line feed nor the next is found. -/
theorem recordPast_drop {e : Encoding} {n : Nat} (hunits : ¬ e.unit ∣ n) :
    e.terminator? ((recordPast e n ++ e.lineFeed).drop n) = none := by
  have hrest : 0 < n % e.unit := Nat.pos_of_ne_zero fun h => hunits (Nat.dvd_of_mod_eq_zero h)
  have hless := Nat.mod_lt n e.unit_pos
  have hmod := Nat.mod_le n e.unit
  have hover : e.alignDown n + e.unit = n + (e.unit - n % e.unit) := by
    rw [Encoding.alignDown]
    omega
  rw [recordPast, List.append_assoc, List.drop_append_of_le_length (by rw [List.length_replicate]; omega),
    List.drop_replicate, hover, Nat.add_sub_cancel_left]
  exact Encoding.terminator?_shifted hrest hless

theorem unit_dvd_of_readsWhole (h : ReadsWhole o window) (hchunk : 0 < o.chunkSize)
    (hmax : o.chunkSize ≤ o.maxRecordSize) (hwindow : 0 < window) : o.encoding.unit ∣ window := by
  by_contra hunits
  have hlt := lt_length_recordPast o.encoding window
  obtain ⟨content, hcontent⟩ : ∃ content, content = recordPast o.encoding window := ⟨_, rfl⟩
  obtain ⟨f, hf⟩ : ∃ f, f = source window content [] false := ⟨_, rfl⟩
  rw [← hcontent] at hlt
  have hstart : f.tailStart = content.length := by rw [hf]; rfl
  have hsource : f.Source o.splitter window content := by
    rw [hf]
    refine ⟨⟨Nat.le_refl _, content, List.prefix_refl _, rfl, rfl⟩, ⟨Nat.zero_le _, Encoding.terminator?_nil _, ?_⟩,
      rfl, fun _ => ?_, nofun⟩
    · exact Nat.lt_of_lt_of_le hchunk hmax
    · have hend := boundary_recordPast o.encoding window []
      rwa [List.append_nil, ← hcontent] at hend
  -- the copy has an empty record more
  obtain ⟨copy, hcopy⟩ : ∃ copy, copy = content ++ o.encoding.lineFeed := ⟨_, rfl⟩
  obtain ⟨seq, hwhole⟩ := h.whole hchunk hmax hwindow (List.ne_nil_of_length_pos (by omega))
    (hcopy ▸ List.prefix_append ..) (hf ▸ hsource)
  rw [← hf] at hwhole
  have hdigest : f.digest.length = min window content.length := by
    rw [hf]
    exact List.length_take
  have hshared : min f.digest.length copy.length = window := by
    rw [hdigest, hcopy, List.length_append]
    omega
  have hskips : (decide (window = 0) || o.encoding.endsWithTerminator ((candidate window copy).head.take window)) =
      false := by
    rw [candidate, List.take_take, Nat.min_self, hcopy, hcontent, recordPast_take, Encoding.endsWithTerminator_zeros,
      decide_eq_false (Nat.ne_of_gt hwindow), Bool.or_false]
  have hcursor := Resolution.cursor_of_behind (s := o.splitter) (f := f) (c := candidate window copy) rfl 0 seq
    (by omega)
  rw [hshared, show (_ || o.splitter.encoding.endsWithTerminator _) = _ from hskips] at hcursor
  have hfree : o.encoding.terminator? (copy.drop window) = none := by
    rw [hcopy, hcontent]
    exact recordPast_drop hunits
  have hnone := ((Splitter.leads_last o.splitter false ⟨window, true, copy.drop window⟩).1.eq_nil rfl hfree).1
  rw [show (Resolution.copyFile o.encoding f 0 (candidate window copy) seq).cursor copy copy.length = _ from hcursor,
    Bool.not_false, hnone] at hwhole
  have hfeed : o.encoding.terminator? (copy.drop content.length) ≠ none := by
    rw [hcopy, List.drop_left]
    cases o.encoding <;> decide
  obtain ⟨r, hr, hbegin⟩ := o.splitter.exists_record_at false
    (c := ⟨content.length, false, copy.drop content.length⟩) rfl hfeed
  have hboundary : o.encoding.Boundary copy content.length := by
    rw [hcopy, hcontent]
    exact boundary_recordPast ..
  have hmem := ((Splitter.mem_records_of_boundary hboundary).1 hr).1
  refine List.not_mem_nil (hwhole.all content.length ?_ r hmem (Nat.le_of_eq hbegin.symm))
  rw [Splitter.resumesAt?, hstart, hf]
  rfl

/-- A source that skips the rest of a record of zeros, and has a part of a unit of it as tail. -/
theorem source_skipping {n : Nat} (hcut : o.encoding.alignDown o.maxRecordSize ≤ window) (hless : window < n)
    (hlong : o.maxRecordSize ≤ n) (hshort : n < window + o.encoding.unit) (hunits : o.encoding.unit ∣ window) :
    (source window (List.replicate n 0) (List.replicate (n - window) 0) true).Source o.splitter window
      (List.replicate n 0) := by
  have hstart : (source window (List.replicate n 0) (List.replicate (n - window) 0) true).tailStart = window := by
    simp only [LogFile.tailStart, source, List.length_replicate]
    omega
  refine ⟨⟨Nat.le_refl _, _, List.prefix_refl _, rfl, rfl⟩, ⟨?_, Encoding.terminator?_zeros .., ?_⟩, ?_,
    fun hreads => Bool.noConfusion hreads, fun _ => ?_⟩
  · simp [source]
  · simp only [source, List.length_replicate, if_true]
    show n - window < o.encoding.unit
    omega
  · rw [hstart]
    simp [source]
  · rw [hstart]
    refine ⟨0, .inl rfl, ?_, ?_, hunits, ?_⟩
    · rwa [List.length_replicate, Nat.zero_add]
    · rwa [Nat.zero_add]
    · rw [List.drop_zero, List.take_replicate]
      exact Encoding.terminator?_zeros ..

theorem lt_cut_of_readsWhole (h : ReadsWhole o window) (hchunk : 0 < o.chunkSize)
    (hmax : o.chunkSize ≤ o.maxRecordSize) (hwindow : 0 < window) (hunit : o.encoding.unit ≠ 1)
    (hunits : o.encoding.unit ∣ window) : window < o.encoding.alignDown o.maxRecordSize := by
  by_contra hcut
  have hpos := o.encoding.unit_pos
  have hrest := o.encoding.sub_alignDown_lt o.maxRecordSize
  obtain ⟨n, hn⟩ : ∃ n, n = max (window + 1) o.maxRecordSize := ⟨_, rfl⟩
  have hsource : LogFile.Source _ _ _ _ :=
    source_skipping (n := n) (Nat.le_of_not_lt hcut) (by omega) (by omega) (by omega) hunits
  obtain ⟨f, hf⟩ : ∃ f, f = source window (List.replicate n 0) (List.replicate (n - window) 0) true := ⟨_, rfl⟩
  have hstart : f.tailStart = window := by
    simp only [hf, LogFile.tailStart, source, List.length_replicate]
    omega
  -- in the copy the record ends a unit further on
  obtain ⟨zeros, hzeros⟩ : ∃ zeros : Bytes, zeros = List.replicate (window + o.encoding.unit) 0 := ⟨_, rfl⟩
  have hlength : zeros.length = window + o.encoding.unit := by rw [hzeros, List.length_replicate]
  have hstarts : List.replicate n 0 <+: zeros ++ o.encoding.lineFeed := by
    have hsplit : window + o.encoding.unit = n + (window + o.encoding.unit - n) := by omega
    rw [hzeros, hsplit, List.replicate_add, List.append_assoc]
    exact List.prefix_append ..
  obtain ⟨copy, hcopy⟩ : ∃ copy, copy = zeros ++ o.encoding.lineFeed := ⟨_, rfl⟩
  rw [← hcopy] at hstarts
  obtain ⟨seq, hwhole⟩ := h.whole hchunk hmax hwindow
    (List.ne_nil_of_length_pos (by rw [List.length_replicate]; omega)) hstarts hsource
  rw [← hf] at hwhole
  have hle := hstarts.length_le
  rw [List.length_replicate] at hle
  have hdigest : f.digest.length = min window n := by
    rw [hf]
    exact List.length_take.trans (by rw [List.length_replicate])
  have hshared : min f.digest.length copy.length = window := by omega
  have hprocessed : f.processed = n := by rw [hf, source, List.length_replicate]
  have hcursor := Resolution.cursor_of_inside (s := o.splitter) (f := f) (c := candidate window copy) rfl 0 seq
    (by omega) (by omega)
  rw [hstart] at hcursor
  rw [show (Resolution.copyFile o.encoding f 0 (candidate window copy) seq).cursor copy copy.length = _ from hcursor]
    at hwhole
  have hfeed : o.encoding.terminator? (copy.drop window) ≠ none := by
    rw [hcopy, hzeros, List.drop_append_of_le_length (by rw [List.length_replicate]; omega), List.drop_replicate,
      Nat.add_sub_cancel_left]
    cases o.encoding <;> decide
  obtain ⟨r, hr, hbegin⟩ := o.splitter.exists_record_at false (c := ⟨window, false, copy.drop window⟩) rfl hfeed
  -- but no record of the copy begins there
  have hboundary := (Splitter.boundary_of_mem_records (Nat.lt_of_lt_of_le hchunk hmax) (hwhole.whole r hr)).1
  rw [show r.start = window from hbegin] at hboundary
  have hbefore : copy.take window <+: zeros := by
    rw [hcopy, List.take_append_of_le_length (by omega)]
    exact List.take_prefix ..
  obtain ⟨k, _, hin, hzero⟩ :=
    (hboundary.of_take hbefore (Nat.le_refl window)).exists_feed (Nat.dvd_zero _) hwindow
  rw [List.drop_zero] at hin hzero
  exact Encoding.unitAt_ne_lineFeed (hzeros ▸ Encoding.terminator?_zeros ..) hin hzero

/-- **Copies are read whole, if and only if** units are bytes, or the first bytes that are looked at are whole units
and fewer than a cut leaves of a record. -/
theorem readsWhole_iff (o : ReaderOptions) {window : Nat} (hchunk : 0 < o.chunkSize)
    (hmax : o.chunkSize ≤ o.maxRecordSize) (hwindow : 0 < window) : ReadsWhole o window ↔
      o.encoding.unit = 1 ∨ o.encoding.unit ∣ window ∧ window < o.encoding.alignDown o.maxRecordSize := by
  refine ⟨fun h => ?_, readsWhole hchunk hmax⟩
  by_cases hunit : o.encoding.unit = 1
  · exact .inl hunit
  · have hdvd := unit_dvd_of_readsWhole h hchunk hmax hwindow
    exact .inr ⟨hdvd, lt_cut_of_readsWhole h hchunk hmax hwindow hunit hdvd⟩

/-- With the sizes that are the default, copies in UTF-16 are read whole, but not with an odd number of bytes that
are looked at. -/
theorem readsWhole_even_not_odd :
    ReadsWhole ⟨.utf16le, 65536, 262144, true⟩ 512 ∧ ¬ ReadsWhole ⟨.utf16le, 65536, 262144, true⟩ 17 :=
  ⟨(readsWhole_iff _ (by decide) (by decide) (by decide)).2 (by decide),
    fun h => absurd ((readsWhole_iff _ (by decide) (by decide) (by decide)).1 h) (by decide)⟩

end reads

end CopyTruncate

end LogTail
