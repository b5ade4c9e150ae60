import LogTail.Proofs.Growth
import LogTail.Proofs.Offering
import Mathlib.Data.Nat.ModEq

/-!
# The events of a reading

The reading of a file as a chain of events, whatever others do to the disk in the middle of it. Each event is taken
from the reader and consumed (`Watcher.Takes`), until the reading stops (`Watcher.Stops`,
`Watcher.readEvents_traced`).

* `LogFile.Poised`: how the file that is read stands to its reader between two events. As long as no event was taken
  it is the file that was opened; then it has no tail, and stands where the reader does, or a little further while
  the rest of a record is skipped.
* `World.GrowsInto`: what others may do to a file that is only appended to. Then the reader moves by steps in what
  the file comes to hold, and so does the file (`Watcher.Along`).
-/

namespace LogTail

/-! ## Files that others append to -/

/-- At every later moment the file of a number holds a beginning of a content. -/
def World.GrowsInto (w : World) (number : Nat) (content : Bytes) : Prop :=
  ∀ w', w.Later w' → (w'.disk.node number).isDirectory = false → (w'.disk.node number).content <+: content

theorem World.GrowsInto.later {w w' : World} {number : Nat} {content : Bytes} (h : w.GrowsInto number content)
    (hlater : w.Later w') : w'.GrowsInto number content :=
  fun w₁ hto => h w₁ (hlater.trans hto)

theorem Disk.prefix_of_readAt {d : Disk} {number offset count : Nat} {bytes content : Bytes}
    (hcontent : (d.node number).isDirectory = false → (d.node number).content <+: content)
    (h : d.readAt number offset count = .ok bytes) : bytes <+: content.drop offset := by
  unfold readAt at h
  by_cases hcount : count = 0
  · simp only [hcount, if_true, Except.ok.injEq] at h
    exact h ▸ List.nil_prefix
  by_cases hdir : (d.node number).isDirectory = true
  · simp [hcount, hdir] at h
  · simp only [hcount, hdir, if_false, Bool.false_eq_true, Except.ok.injEq] at h
    obtain ⟨rest, hrest⟩ := hcontent (by simpa using hdir)
    rw [← h, ← hrest, List.drop_append]
    exact (List.take_prefix ..).trans (List.prefix_append ..)

namespace Reader

def ahead (content : Bytes) (r : Reader) : Cursor :=
  ⟨r.start, r.skipping, r.window ++ content.drop r.position⟩

theorem prefix_append_drop {front more bytes : Bytes} (hfront : front <+: bytes)
    (hmore : more <+: bytes.drop front.length) : front ++ more <+: bytes := by
  obtain ⟨rest, rfl⟩ := hfront
  rw [List.drop_left] at hmore
  exact (List.prefix_append_right_inj front).2 hmore

theorem ReadsFull.prefix_drop {number offset count : Nat} {w : World} {content : Bytes}
    {answer : Except Cause Bytes × World} (h : ReadsFull number w offset count answer)
    (hgrows : w.GrowsInto number content) : ∀ bytes, answer.1 = .ok bytes → bytes <+: content.drop offset := by
  induction h with
  | full => rintro _ ⟨⟩; exact List.nil_prefix
  | failed => nofun
  | ended => rintro _ ⟨⟩; exact List.nil_prefix
  | @more w w₁ w₂ offset count front answer _ call _ _ ih =>
    have hlater := World.later_look call
    have hdisk : w.others (.call w.calls) w.disk = w₁.disk := congrArg (fun answer => answer.2.disk) call
    have hfront : front <+: content.drop offset :=
      Disk.prefix_of_readAt (hgrows w₁ hlater) (hdisk ▸ World.look_ok call)
    rcases answer with _ | back
    · nofun
    · rintro _ ⟨⟩
      refine prefix_append_drop hfront ?_
      rw [List.drop_drop]
      exact ih (hgrows.later hlater) back rfl

theorem Fills.prefix_drop {r r' : Reader} {w w' : World} {more : Bool} (h : Fills r w (.ok (r', more), w')) :
    ∃ bytes limit, r' = r.filled bytes limit ∧
      ∀ content, w.GrowsInto r.number content → bytes <+: content.drop r.position := by
  cases h with
  | limit => exact ⟨[], r.limit, by simp [filled], fun _ _ => List.nil_prefix⟩
  | @read _ bytes _ reads => exact ⟨bytes, _, rfl, fun _ hgrows => reads.prefix_drop hgrows bytes rfl⟩

theorem filled_filled (r : Reader) (front more : Bytes) (limit limit' : Nat) :
    (r.filled front limit).filled more limit' = r.filled (front ++ more) limit' := by
  simp only [filled, List.append_assoc, List.length_append, Nat.add_assoc]

theorem Finds.filled {r : Reader} {w : World} {found : Except Cause (Option ReadEvent) × Reader × World} {bound : Nat}
    (h : Finds r w found) (hr : r.Within bound) :
    ∃ more limit, (∀ content, w.GrowsInto r.number content → more <+: content.drop r.position) ∧
      (r.filled more limit).Within bound ∧ (found.1 = .ok none → found.2.1 = r.filled more limit) ∧
      ∀ event, found.1 = .ok (some event) → (r.filled more limit).take? = some (event, found.2.1) := by
  induction h with
  | @event r _ _ _ takes =>
    have hnothing : r.filled [] r.limit = r := by simp [Reader.filled]
    refine ⟨[], r.limit, fun _ _ => List.nil_prefix, hnothing.symm ▸ hr, (fun hnone => by cases hnone), ?_⟩
    rintro _ ⟨⟩
    rw [hnothing]
    exact takes
  | @failed r _ _ _ lacks fills =>
    have hnothing : r.filled [] r.limit = r := by simp [Reader.filled]
    exact ⟨[], r.limit, fun _ _ => List.nil_prefix, hnothing.symm ▸ hr, (fun hnone => by cases hnone),
      fun _ hevent => by cases hevent⟩
  | ended lacks fills =>
    have hwithin := hr.of_fills lacks fills
    obtain ⟨bytes, limit, rfl, hpart⟩ := fills.prefix_drop
    exact ⟨bytes, limit, hpart, hwithin, fun _ => rfl, fun _ hevent => by cases hevent⟩
  | again lacks fills _ ih =>
    have hwithin := hr.of_fills lacks fills
    have hlater := fills.later.1
    obtain ⟨bytes, limit, rfl, hpart⟩ := fills.prefix_drop
    obtain ⟨more, limit', hmore, hfits, hnone, hsome⟩ := ih hwithin
    rw [filled_filled] at hfits hnone hsome
    refine ⟨_, limit', fun content hgrows => prefix_append_drop (hpart content hgrows) ?_, hfits, hnone, hsome⟩
    rw [List.drop_drop]
    exact hmore content (hgrows.later hlater)

/-- **An event is a step**, from the window with the bytes that were read for it. -/
theorem next_step {r r' : Reader} {w w' : World} {event : ReadEvent} {bound : Nat} (hr : r.Within bound)
    (h : r.next w = (.ok (some event), r', w')) :
    ∃ more, (∀ content, w.GrowsInto r.number content → more <+: content.drop r.position) ∧
      r'.position = r.position + more.length ∧ event.stop = r'.start ∧ event.skips = r'.skipping ∧
      r.options.splitter.Step false ⟨r.start, r.skipping, r.window ++ more⟩ event.record?
        ⟨r'.start, r'.skipping, r'.window⟩ := by
  obtain ⟨more, limit, hmore, hfits, -, hsome⟩ := (finds_of_next h).filled hr
  obtain ⟨n, hn, rfl, hstop, -, hstep⟩ := take?_some [] hfits.toFits (hsome event rfl)
  refine ⟨more, hmore, rfl, hstop, rfl, ?_⟩
  simpa [cursor, Cursor.move, filled, behind] using hstep

/-- In a file that grows the reader moves by that step. -/
theorem next_ahead {r r' : Reader} {w w' : World} {event : ReadEvent} {bound : Nat} {content : Bytes}
    (hr : r.Within bound) (h : r.next w = (.ok (some event), r', w')) (hgrows : w.GrowsInto r.number content) :
    r.options.splitter.Step false (r.ahead content) event.record? (r'.ahead content) := by
  obtain ⟨more, hmore, hposition, -, -, hstep⟩ := next_step hr h
  obtain ⟨rest, hrest⟩ := hmore content hgrows
  have hahead : r.ahead content = Cursor.append ⟨r.start, r.skipping, r.window ++ more⟩ rest := by
    rw [ahead, Cursor.append, List.append_assoc, hrest]
  have hahead' : r'.ahead content = Cursor.append ⟨r'.start, r'.skipping, r'.window⟩ rest := by
    rw [ahead, Cursor.append, hposition, ← List.drop_drop, ← hrest, List.drop_left]
  rw [hahead, hahead']
  exact hstep.append rest

theorem next_rest {r r' : Reader} {w w' : World} {bound : Nat} (hr : r.Within bound)
    (h : r.next w = (.ok none, r', w')) : ∃ more limit, r' = r.filled more limit := by
  obtain ⟨more, limit, -, -, hnone, -⟩ := (finds_of_next h).filled hr
  exact ⟨more, limit, hnone rfl⟩

end Reader

/-- An event ends behind a tail, or less than a unit before its end where a record is cut. -/
theorem Splitter.Step.tail_lt {s : Splitter} {c c' : Cursor} {r : Option Record} {tail more : Bytes}
    (h : s.Step false c r c') (hrest : c.rest = tail ++ more) (hfree : s.encoding.terminator? tail = none)
    (hshort : tail.length < if c.skipping then s.encoding.unit else s.longest) :
    c.offset + tail.length < c'.offset + if c'.skipping then s.encoding.unit else 1 := by
  have hunit := s.encoding.unit_pos
  by_cases hbehind : s.CutsBehind c tail
  · have hle := h.tail_le hbehind hrest hfree hshort
    split <;> omega
  · -- then the record is cut, inside the tail
    rw [Splitter.CutsBehind, Classical.not_imp, not_or, Nat.not_le] at hbehind
    cases h with
    | skipped hskip => rw [hbehind.1] at hskip; cases hskip
    | dropped hskip => rw [hbehind.1] at hskip; cases hskip
    | whole hreads hfound =>
      rw [hreads, if_neg Bool.false_ne_true] at hshort
      rw [hrest, List.take_append, List.take_of_length_le (by omega)] at hfound
      have := Encoding.length_lt_terminator? hfree hfound
      simp only [Cursor.move_offset, Cursor.move_skipping, Bool.false_eq_true, if_false]
      omega
    | cut hreads =>
      rw [hreads, if_neg Bool.false_ne_true] at hshort
      have := s.encoding.sub_alignDown_lt s.longest
      simp only [Cursor.move_offset, Cursor.move_skipping, if_true]
      omega
    | remainder _ _ _ hended => cases hended

theorem Splitter.Step.unit_le {s : Splitter} {c c' : Cursor} {r : Option Record} (h : s.Step false c r c')
    (hskips : c.skipping = true) : c.offset + s.encoding.unit ≤ c'.offset := by
  cases h with
  | skipped _ hfound => exact Nat.add_le_add_left (Encoding.unit_le_terminator? hfound) _
  | dropped _ hpos _ hunit => exact Nat.add_le_add_left (Nat.le_of_dvd hpos hunit) _
  | whole hreads => rw [hskips] at hreads; cases hreads
  | cut hreads => rw [hskips] at hreads; cases hreads
  | remainder hreads => rw [hskips] at hreads; cases hreads

theorem Splitter.Step.modEq {s : Splitter} {c c' : Cursor} {r : Option Record} (h : s.Step false c r c') :
    c'.offset ≡ c.offset [MOD s.encoding.unit] := by
  have hmove {n : Nat} (skipping : Bool) (hn : s.encoding.unit ∣ n) :
      (c.move n skipping).offset ≡ c.offset [MOD s.encoding.unit] := by
    obtain ⟨m, rfl⟩ := hn
    exact Nat.add_mul_mod_self_left ..
  have hfound {bs : Bytes} {contentEnd stop : Nat} (h : s.encoding.terminator? bs = some (contentEnd, stop)) :
      s.encoding.unit ∣ stop := by
    obtain ⟨k, -, rfl, -⟩ := Encoding.terminator?_eq_some_iff.1 h
    exact Nat.dvd_mul_left _ _
  cases h with
  | skipped _ h => exact hmove _ (hfound h)
  | dropped _ _ _ hunits => exact hmove _ hunits
  | whole _ h => exact hmove _ (hfound h)
  | cut => exact hmove _ (s.encoding.unit_dvd_alignDown _)
  | remainder _ _ _ hended => cases hended

/-! ## The file between two events -/

/-- How a file stands to its reader between two events: no event was taken of the file that was opened, or it has
no tail, and stands where the reader does, or less than a unit behind it while the rest of a record is skipped. -/
inductive LogFile.Poised (s : Splitter) (f : LogFile) : LogFile → Reader → Prop
  | opened {r : Reader} (window : r.window = f.tail) (start : r.start = f.tailStart)
    (position : r.position = f.processed) (skipping : r.skipping = f.skipping) : Poised s f f r
  | moved {g : LogFile} {r : Reader} (tail : g.tail = []) (skipping : g.skipping = r.skipping)
    (onward : f.processed ≤ g.processed) (start_le : r.start ≤ g.processed) (inside : g.processed ≤ r.position)
    (near : g.processed < r.start + if r.skipping then s.encoding.unit else 1)
    (behind : s.CutsBehindTails → g.processed = r.start) : Poised s f g r

namespace LogFile.Poised

variable {s : Splitter} {f g : LogFile} {r r' : Reader} {bound : Nat}

theorem skips (h : f.Poised s g r) : g.skipping = r.skipping := by
  cases h with
  | opened _ _ _ hskip => exact hskip.symm
  | moved _ hskip => exact hskip

theorem inside (h : f.Poised s g r) : g.processed ≤ r.position := by
  cases h with
  | opened _ _ hposition => exact Nat.le_of_eq hposition.symm
  | moved _ _ _ _ hinside => exact hinside

theorem tailStart (h : f.Poised s g r) (hstands : r.skipping = false ∨ s.CutsBehindTails) :
    g.tailStart = r.start := by
  cases h with
  | opened _ hstart => exact hstart.symm
  | moved htail _ _ hle _ hnear hbehind =>
    rw [LogFile.tailStart, htail, List.length_nil, Nat.sub_zero]
    rcases hstands with hreads | hcuts
    · rw [hreads, if_neg Bool.false_ne_true] at hnear
      omega
    · exact hbehind hcuts

theorem tail (h : f.Poised s g r) (hinside : f.tail.length ≤ f.processed) (hreads : r.skipping = false) :
    g.tail = if r.start < f.processed then f.tail else [] := by
  cases h with
  | opened _ hstart =>
    rw [hstart]
    split_ifs with hless
    · rfl
    · rw [LogFile.tailStart] at hless
      exact List.eq_nil_of_length_eq_zero (by omega)
  | moved htail _ honward _ _ hnear =>
    rw [hreads, if_neg Bool.false_ne_true] at hnear
    rw [htail, if_neg (by omega)]

theorem passed (h : f.Poised s g r) (hsound : f.Sound s) (hr : r'.Within bound) {more : Bytes}
    {record? : Option Record} (hposition : r'.position = r.position + more.length)
    (hstep : s.Step false ⟨r.start, r.skipping, r.window ++ more⟩ record? ⟨r'.start, r'.skipping, r'.window⟩)
    (retry : Nat) : f.Poised s { g.passed r'.start r'.skipping with retry := retry } r' := by
  have hle := hstep.offset_le
  have hreaches := hr.reaches
  dsimp only at hle
  have hnear : g.processed < r'.start + (if r'.skipping then s.encoding.unit else 1) ∧
      (s.CutsBehindTails → g.processed ≤ r'.start) ∧ f.processed ≤ g.processed := by
    cases h with
    | opened hwindow hstart hpos hskip =>
      have hprocessed := hsound.tailStart_add
      have hshort := hsound.short
      rw [← hskip] at hshort
      rw [hwindow] at hstep
      have hlt := hstep.tail_lt rfl hsound.free hshort
      refine ⟨by rw [hstart] at hlt; dsimp only at hlt; omega, fun hcuts => ?_, Nat.le_refl _⟩
      have hbehind := hstep.tail_le (hcuts.behind hshort) rfl hsound.free hshort
      dsimp only at hbehind
      omega
    | moved _ _ honward hstart _ hnear hbehind =>
      refine ⟨?_, fun hcuts => by have := hbehind hcuts; omega, honward⟩
      have hunit := s.encoding.unit_pos
      rcases hskip : r.skipping with _ | _
      · rw [hskip, if_neg Bool.false_ne_true] at hnear
        split <;> omega
      · have := hstep.unit_le hskip
        rw [hskip, if_pos rfl] at hnear
        dsimp only at this
        split <;> omega
  have hprocessed := h.inside
  refine .moved rfl rfl (Nat.le_trans hnear.2.2 (Nat.le_max_left ..)) (Nat.le_max_right ..)
    (Nat.max_le.2 ⟨by omega, by omega⟩) (Nat.max_lt.2 ⟨hnear.1, ?_⟩) fun hcuts => ?_
  · have hunit := s.encoding.unit_pos
    split <;> omega
  · exact Nat.max_eq_right (hnear.2.1 hcuts)

end LogFile.Poised

/-! ## Chains of events -/

namespace Watcher

/-- The reading of a file takes an event of its reader, which is consumed, and goes on with what is left. -/
inductive Takes (watch : Watcher) (sink : Sink) : Reading × Reader → Reading × Reader → Prop
  | skipped {s : Reading} {r r' : Reader} {w : World} {stop : Nat} {ended : Bool}
    (room : s.tracker.budget.exhausted = false)
    (next : r.next s.world = (.ok (some (.skipped stop ended)), r', w)) :
    Takes watch sink (s, r) (skipTo { s.tested with world := w } stop ended, r')
  | record {s s' : Reading} {r r' : Reader} {w : World} {start stop : Nat} {bytes : Bytes} {truncated : Bool}
    (room : s.tracker.budget.exhausted = false)
    (next : r.next s.world = (.ok (some (.record start stop bytes truncated)), r', w))
    (consumed : watch.consume sink { s.tested with world := w } bytes stop = (.consumed, s')) :
    Takes watch sink (s, r)
      (if truncated then { s' with file := { s'.file with skipping := true } } else s', r')

/-- A record comes next of a reader, and the receiver refuses it. -/
def Refuses (watch : Watcher) (sink : Sink) (s : Reading) (r : Reader) (record : Record) (s' : Reading) : Prop :=
  ∃ r' w, r.next s.world =
      (.ok (some (.record record.start record.stop record.bytes record.truncated)), r', w) ∧
    watch.consume sink { s.tested with world := w } record.bytes record.stop = (.rejected, s')

/-- Where the reading of a file stops taking events, and what it comes to: the budget is spent, a call fails, there
are no more events, or a record is refused. -/
inductive Stops (watch : Watcher) (sink : Sink) (finished : Bool) (s : Reading) (r : Reader) :
    FileOutcome × Reading → Prop
  | spent (spent : s.tracker.budget.exhausted = true) : Stops watch sink finished s r (.budget, s)
  | failed {cause : Cause} {r' : Reader} {w : World} (next : r.next s.world = (.error cause, r', w)) :
    Stops watch sink finished s r (.failed cause, { s.tested with world := w })
  | ended {r' : Reader} {w : World} (unfinished : finished = false) (next : r.next s.world = (.ok none, r', w)) :
    Stops watch sink finished s r (.done, keepTail { s.tested with world := w } r')
  | flushed {r' : Reader} {w : World} (finishes : finished = true) (next : r.next s.world = (.ok none, r', w)) :
    Stops watch sink finished s r (watch.flush sink (keepTail { s.tested with world := w } r') r')
  | refused {record : Record} {s' : Reading} (refuses : watch.Refuses sink s r record s') :
    Stops watch sink finished s r (.rejected, s')

section traced
variable {watch : Watcher} {sink : Sink} {bound : Nat} {s s' before : Reading} {r r' : Reader}

/-- **The reading of a file takes events until it stops.** -/
theorem readEvents_traced (watch : Watcher) (sink : Sink) (finished : Bool) (fuel : Nat) (hr : r.Placed bound)
    (hfuel : r.work bound < fuel) :
    ∃ s₁ r₁, Relation.ReflTransGen (watch.Takes sink) (s, r) (s₁, r₁) ∧
      watch.Stops sink finished s₁ r₁ (watch.readEvents sink finished fuel s r) := by
  induction fuel generalizing s r with
  | zero => omega
  | succ fuel ih =>
    rw [readEvents]
    rcases hspent : s.tracker.budget.exhausted with _ | _
    swap
    · exact ⟨s, r, .refl, .spent hspent⟩
    rw [if_neg Bool.false_ne_true]
    rcases hnext : r.next s.world with ⟨answer, r', w⟩
    have hfollows := Reader.next_follows hr hnext
    rcases answer with c | _ | event
    · exact ⟨s, r, .refl, .failed hnext⟩
    · rcases finished with _ | _
      · exact ⟨s, r, .refl, .ended rfl hnext⟩
      · exact ⟨s, r, .refl, .flushed rfl hnext⟩
    · have hless : r'.work bound < fuel := by
        cases hfollows.replies with
        | event _ _ _ _ _ _ hwork => omega
      rcases event with ⟨start, stop, bytes, truncated⟩ | ⟨stop, ended⟩
      · rcases hconsume : watch.consume sink { s.tested with world := w } bytes stop with ⟨_ | _, s'⟩
        · simp only [hconsume]
          obtain ⟨s₁, r₁, htrace, hstops⟩ := ih hfollows.placed hless
          exact ⟨s₁, r₁, .head (.record hspent hnext hconsume) htrace, hstops⟩
        · simp only [hconsume]
          have hrefuses : watch.Refuses sink s r ⟨start, stop, bytes, truncated⟩ s' := ⟨r', w, hnext, hconsume⟩
          exact ⟨s, r, .refl, .refused hrefuses⟩
      · obtain ⟨s₁, r₁, htrace, hstops⟩ := ih hfollows.placed hless
        exact ⟨s₁, r₁, .head (.skipped hspent hnext) htrace, hstops⟩

theorem Takes.event (h : watch.Takes sink (s, r) (s', r')) :
    ∃ event w offers, r.next s.world = (.ok (some event), r', w) ∧ w.Later s'.world ∧
      s'.tracker.offers = offers.reverse ++ s.tracker.offers ∧ (∀ o ∈ offers, o.accepted = true) ∧
      ((event.record?.isSome = true → s.file.skipping = false) →
        s'.file = { s.file.passed event.stop event.skips with
          retry := if offers = [] then s.file.retry else 0 }) := by
  cases h with
  | @skipped _ _ _ w stop ended _ hnext =>
    exact ⟨_, w, [], hnext, .refl, rfl, by simp, fun _ => rfl⟩
  | @record _ s₁ _ _ w start stop bytes truncated _ hnext hconsume =>
    rcases watch.consume_offers sink { s.tested with world := w } bytes stop with
      ⟨offers, s₂, hconsume', hlater, hfile, hoffers, -, hoffered, -⟩ | ⟨value, w₁, hconsume', -⟩
    swap
    · rw [hconsume] at hconsume'
      cases hconsume'
    obtain rfl : s₁ = s₂ := (Prod.mk.inj (hconsume.symm.trans hconsume')).2
    have haccepted : ∀ o ∈ offers, o.accepted = true := by
      intro o ho
      rcases hoffers with rfl | ⟨value, rfl⟩
      · cases ho
      · rw [List.mem_singleton.1 ho]
    refine ⟨_, w, offers, hnext, ?_, ?_, haccepted, fun hrecord => ?_⟩
    · cases truncated <;> exact hlater
    · cases truncated <;> exact hoffered
    · have hreads : s.file.skipping = false := hrecord rfl
      cases truncated with
      | true => simp [hfile, LogFile.passed, ReadEvent.skips, ReadEvent.stop]
      | false => simp [hfile, LogFile.passed, ReadEvent.skips, ReadEvent.stop, hreads]

theorem Refuses.after_eq {record : Record} (h : watch.Refuses sink s r record s') :
    ∃ r' w value w₁, r.next s.world =
        (.ok (some (.record record.start record.stop record.bytes record.truncated)), r', w) ∧
      watch.value? record = some value ∧ s' = refuse { s.tested with world := w } value record.stop w₁ := by
  obtain ⟨r', w, hnext, hconsume⟩ := h
  rcases watch.consume_offers sink { s.tested with world := w } record.bytes record.stop with
    ⟨_, _, hconsume', -⟩ | ⟨value, w₁, hconsume', -, hvalue⟩
  · rw [hconsume] at hconsume'
    cases hconsume'
  · exact ⟨r', w, value, w₁, hnext, hvalue, (Prod.mk.inj (hconsume.symm.trans hconsume')).2⟩

/-- How a reading stands between two events to the one that opened the file under a number. -/
structure Along (watch : Watcher) (bound number : Nat) (before : Reading) (s : Reading) (r : Reader) : Prop where
  within : r.Within bound
  splits : r.options.splitter = watch.splitter
  opened : r.number = number
  later : before.world.Later s.world
  same : before.file.SameAs s.file
  poised : before.file.Poised watch.splitter s.file r
  accepted : ∃ offers, s.tracker.offers = offers.reverse ++ before.tracker.offers ∧
    (∀ o ∈ offers, o.accepted = true) ∧ s.file.retry = if offers = [] then before.file.retry else 0
  aligned : r.start ≡ before.file.tailStart [MOD watch.splitter.encoding.unit]
  leads : ∀ content, before.world.GrowsInto number content →
    ∃ rs, watch.splitter.Leads false (before.file.cursor content content.length) rs (r.ahead content)

theorem along_ofFile (useIdentity : Bool) (hchunk : 0 < watch.config.chunkSize)
    (hmax : watch.config.chunkSize ≤ watch.config.maxRecordSize) (hsound : before.file.Sound watch.splitter)
    (number : Nat) (w : World) :
    watch.Along (max before.file.processed before.file.size) number { before.tested with world := w }
      { before.tested with world := w }
      (Reader.ofFile (readerOptions watch.config useIdentity) before.file number) where
  within := ⟨hsound.fits (o := readerOptions watch.config useIdentity) hchunk hmax number, Nat.le_max_left ..,
    Nat.le_max_right ..⟩
  splits := rfl
  opened := rfl
  later := .refl
  same := rfl
  poised := .opened rfl rfl rfl rfl
  accepted := ⟨[], rfl, by simp, rfl⟩
  aligned := rfl
  leads content _ := by
    rw [LogFile.cursor_length]
    exact ⟨[], .refl _⟩

/-- **Taking an event keeps a reading along.** -/
theorem Along.takes {number : Nat} (h : watch.Along bound number before s r)
    (hsound : before.file.Sound watch.splitter) (ht : watch.Takes sink (s, r) (s', r')) :
    watch.Along bound number before s' r' := by
  obtain ⟨event, w, offers, hnext, hanswered, hoffered, haccepted, hfile⟩ := ht.event
  obtain ⟨more, hmore, hposition, hstop, hskips, hstep⟩ := Reader.next_step h.within hnext
  obtain ⟨hwithin, hoptions, -, -⟩ := Reader.next_within h.within hnext
  have hfollows := Reader.next_follows
    ⟨h.within.chunk_pos, h.within.reaches, h.within.position_le, h.within.limit_le⟩ hnext
  rw [h.splits] at hstep
  have hfile := hfile fun hrecord => by
    obtain ⟨record, hrecord⟩ := Option.isSome_iff_exists.1 hrecord
    rw [hrecord] at hstep
    exact h.poised.skips.trans hstep.record.2.2.2
  rw [hstop, hskips] at hfile
  refine ⟨hwithin, hoptions ▸ h.splits, hfollows.number.trans h.opened,
    (h.later.trans hfollows.later).trans hanswered, ?_, ?_, ?_, hstep.modEq.trans h.aligned,
    fun content hgrows => ?_⟩
  · exact h.same.trans (by rw [LogFile.SameAs, hfile]; rfl)
  · rw [hfile]
    exact h.poised.passed hsound hwithin hposition hstep _
  · obtain ⟨front, hfront, hall, hretry⟩ := h.accepted
    refine ⟨front ++ offers, ?_, ?_, ?_⟩
    · rw [hoffered, hfront, List.reverse_append, List.append_assoc]
    · intro o ho
      exact (List.mem_append.1 ho).elim (hall o) (haccepted o)
    · rw [hfile]
      show (if offers = [] then s.file.retry else 0) = _
      rw [hretry]
      by_cases hoffers : offers = [] <;> by_cases hfront : front = [] <;> simp [hoffers, hfront]
  · obtain ⟨rs, hleads⟩ := h.leads content hgrows
    have hahead := Reader.next_ahead h.within hnext (h.opened ▸ hgrows.later h.later)
    rw [h.splits] at hahead
    exact ⟨_, hleads.trans (.single hahead)⟩

theorem Along.traced {number : Nat} (h : watch.Along bound number before s r)
    (hsound : before.file.Sound watch.splitter)
    (ht : Relation.ReflTransGen (watch.Takes sink) (s, r) (s', r')) :
    watch.Along bound number before s' r' := by
  generalize hp : (s', r') = p at ht
  induction ht generalizing s' r' with
  | refl =>
    cases hp
    exact h
  | @tail p q _ hlast ih =>
    obtain ⟨s₁, r₁⟩ := p
    subst hp
    exact (ih rfl).takes hsound hlast

/-- In a file that grows, the file of the reading stands where its reader does, if no record is skipped. -/
theorem Along.cursor {number : Nat} (h : watch.Along bound number before s r)
    (hsound : before.file.Sound watch.splitter) (hreads : r.skipping = false) {content : Bytes}
    (hgrows : before.world.GrowsInto number content) :
    s.file.cursor content content.length = r.ahead content := by
  obtain ⟨rs, hleads⟩ := h.leads content hgrows
  have hstart := h.poised.tailStart (.inl hreads)
  have hpoised := h.poised
  generalize s.file = g at hpoised hstart ⊢
  cases hpoised with
  | opened hwindow _ hposition hskip =>
    rw [LogFile.cursor_length, Reader.ahead, hstart, hwindow, hposition, hskip]
  | moved htail hskip honward _ _ hnear =>
    obtain ⟨n, -, hmove⟩ := hleads.move
    have hadd := hsound.tailStart_add
    have hoffset : r.start = before.file.tailStart + n := congrArg Cursor.offset hmove
    rw [hreads, if_neg Bool.false_ne_true] at hnear
    have hprocessed : g.processed = r.start := by
      rw [LogFile.tailStart, htail, List.length_nil, Nat.sub_zero] at hstart
      exact hstart
    -- what is ahead of the reader lies behind the tail that it was opened with
    have hrest : (r.ahead content).rest = content.drop r.start := by
      rw [hmove, Cursor.move_rest, LogFile.cursor, LogFile.drop_tail (by omega) hsound, ← hoffset]
      exact List.take_of_length_le (Nat.le_of_eq List.length_drop)
    rw [LogFile.cursor_length, hstart, htail, hprocessed, hskip, List.nil_append, ← hrest]
    rfl

/-! ## The reading of a file -/

/-- The course of the reading of a file: there is nothing to read, the budget is spent before, the file cannot be
opened, or it is opened and events are taken until the reading stops. -/
inductive Course (watch : Watcher) (sink : Sink) (useIdentity finished : Bool) (before : Reading) :
    FileOutcome × Reading → Prop
  | idle (unread : before.file.unread = 0) : Course watch sink useIdentity finished before (.idle, before)
  | spent (spent : before.tracker.budget.exhausted = true) :
    Course watch sink useIdentity finished before (.budget, before)
  | unopened (cause : Cause) (w : World) :
    Course watch sink useIdentity finished before (.failed cause, { before.tested with world := w })
  | opened {number : Nat} {w : World} {s : Reading} {r : Reader} {result : FileOutcome × Reading}
    (found : before.world.look (fun d => d.numberOf before.file.path) = (.ok number, w))
    (trace : Relation.ReflTransGen (watch.Takes sink)
      ({ before.tested with world := w }, .ofFile (readerOptions watch.config useIdentity) before.file number) (s, r))
    (stops : watch.Stops sink finished s r result) : Course watch sink useIdentity finished before result

theorem readFile_course (watch : Watcher) (sink : Sink) (useIdentity finished : Bool)
    (hchunk : 0 < watch.config.chunkSize) (hinside : before.file.tail.length ≤ before.file.processed) :
    watch.Course sink useIdentity finished before (watch.readFile sink useIdentity finished before) := by
  unfold readFile
  by_cases hidle : (before.file.unread = 0 && !(finished && before.file.hasFinalTail)) = true
  · rw [if_pos hidle]
    exact .idle (of_decide_eq_true (Bool.and_eq_true_iff.1 hidle).1)
  rw [if_neg hidle]
  by_cases hspent : before.tracker.budget.exhausted = true
  · rw [if_pos hspent]
    exact .spent hspent
  rw [if_neg hspent]
  unfold Reader.openFile
  rcases hlook : before.world.look fun d => d.numberOf before.file.path with ⟨c | number, w⟩
  · exact .unopened c w
  dsimp only
  by_cases hother : ((readerOptions watch.config useIdentity).verifyIdentity &&
      decide (FileId.ofNumber number ≠ before.file.id)) = true
  · rw [if_pos hother]
    exact .unopened _ w
  · rw [if_neg hother]
    obtain ⟨s, r, htrace, hstops⟩ := watch.readEvents_traced (s := { before.tested with world := w }) sink finished _
      (together_ofFile (s := before.tested) (readerOptions watch.config useIdentity) hchunk hinside number w).placed
      (work_lt_eventBound (readerOptions watch.config useIdentity) before.file number)
    exact .opened hlook htrace hstops

end traced

end Watcher

end LogTail
