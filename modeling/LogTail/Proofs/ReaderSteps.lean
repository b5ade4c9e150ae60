import LogTail.Proofs.AnyWorld

/-!
# The answers of a reader in a world that changes

What a reader answers, whatever others do to the disk in the middle of it, and from whatever state it was opened:
of the bytes it holds only the length counts here. Each event ends behind the one before, or turns the skipping of
a record on, so the `Reader.work` that is left goes down; and a reader without an event is at the end of what is to
be read, or its file ended there at some moment (`Reader.next_follows`).
-/

namespace LogTail

/-! ## Later worlds -/

namespace World

/-- A world after one call, or after one answer to an offer. -/
inductive Next (w : World) : World → Prop
  | called : Next w { w with disk := w.others (.call w.calls) w.disk, calls := w.calls + 1 }
  | answered (n : Nat) : Next w (w.atOffer n)

abbrev Later : World → World → Prop := Relation.ReflTransGen Next

theorem later_look {α : Type} {w w' : World} {f : Disk → Except Cause α} {answer : Except Cause α}
    (h : w.look f = (answer, w')) : w.Later w' := by
  cases h
  exact .single .called

theorem Later.still {d : Disk} {w w' : World} (h : w.Later w') (hw : w.Still d) : w'.Still d := by
  induction h with
  | refl => exact hw
  | tail _ hnext ih =>
    cases hnext with
    | called => exact ⟨(ih.others _ _).trans ih.disk, ih.others, ih.faults⟩
    | answered n => exact ih.atOffer n

/-- At some moment from one world to another, the file of a number has no byte from an offset on. -/
def EndsBy (w w' : World) (number offset : Nat) : Prop :=
  ∃ w₁, w.Later w₁ ∧ w₁.Later w' ∧ (w₁.disk.node number).isDirectory = false ∧
    (w₁.disk.node number).content.length ≤ offset

theorem EndsBy.extend {w₀ w w' w₁ : World} {number offset : Nat} (h : w.EndsBy w' number offset)
    (hbefore : w₀.Later w) (hafter : w'.Later w₁) : w₀.EndsBy w₁ number offset := by
  obtain ⟨w₂, hto, hfrom, hfile, hend⟩ := h
  exact ⟨w₂, hbefore.trans hto, hfrom.trans hafter, hfile, hend⟩

end World

theorem Disk.length_le_of_readAt_nil {d : Disk} {number offset count : Nat} (hcount : count ≠ 0)
    (h : d.readAt number offset count = .ok []) :
    (d.node number).isDirectory = false ∧ (d.node number).content.length ≤ offset := by
  unfold Disk.readAt at h
  by_cases hdir : (d.node number).isDirectory = true
  · simp [hcount, hdir] at h
  · simp only [hcount, hdir, if_false, Bool.false_eq_true, Except.ok.injEq, List.take_eq_nil_iff,
      List.drop_eq_nil_iff, false_or] at h
    exact ⟨by simpa using hdir, h⟩

namespace Reader

/-- Reading in several calls stops early only where the file ends at that moment. -/
theorem ReadsFull.later {number offset count : Nat} {w : World} {answer : Except Cause Bytes × World}
    (h : ReadsFull number w offset count answer) :
    w.Later answer.2 ∧ ∀ bytes, answer.1 = .ok bytes → bytes.length < count →
      w.EndsBy answer.2 number (offset + bytes.length) := by
  induction h with
  | full => exact ⟨.refl, fun _ _ hshort => absurd hshort (Nat.not_lt_zero _)⟩
  | failed _ call => exact ⟨World.later_look call, fun _ hok => by cases hok⟩
  | @ended w w' offset count missing call =>
    -- nothing came: on this disk the file has no byte there
    have hlater := World.later_look call
    refine ⟨hlater, ?_⟩
    rintro _ ⟨⟩ _
    have hdisk : w.others (.call w.calls) w.disk = w'.disk := congrArg (fun a => a.2.disk) call
    obtain ⟨hfile, hend⟩ := Disk.length_le_of_readAt_nil missing (World.look_ok call)
    rw [hdisk] at hfile hend
    exact ⟨w', hlater, .refl, hfile, hend⟩
  | @more w w₁ w₂ offset count front answer _ call _ _ ih =>
    have hlater := World.later_look call
    obtain ⟨hlater₂, hends⟩ := ih
    refine ⟨hlater.trans hlater₂, ?_⟩
    rcases answer with _ | back
    · exact fun _ hok => by cases hok
    · rintro _ ⟨⟩ hshort
      rw [List.length_append] at hshort ⊢
      rw [← Nat.add_assoc]
      exact (hends back rfl (by omega)).extend hlater .refl

/-- The limit moves only to where the file ends at some moment. -/
theorem Fills.later {r : Reader} {w : World} {answer : Except Cause (Reader × Bool) × World} (h : Fills r w answer) :
    w.Later answer.2 ∧ ∀ r' more, answer.1 = .ok (r', more) →
      r'.limit = r.limit ∨ w.EndsBy answer.2 r.number r'.limit := by
  cases h with
  | limit =>
    refine ⟨.refl, ?_⟩
    rintro _ _ ⟨⟩
    exact .inl rfl
  | failed _ reads => exact ⟨reads.later.1, fun _ _ hok => by cases hok⟩
  | @read w' bytes _ reads =>
    obtain ⟨hlater, hends⟩ := reads.later
    refine ⟨hlater, ?_⟩
    rintro _ _ ⟨⟩
    by_cases hshort : bytes.length < r.wanted
    · refine .inr ?_
      simp only [extend, if_pos hshort]
      exact hends bytes rfl hshort
    · exact .inl (if_neg hshort)

/-! ## The next answer of a reader -/

/-- The window of a reader reaches to its position, and the reader reads no further than a bound. -/
structure Placed (bound : Nat) (r : Reader) : Prop where
  chunk_pos : 0 < r.options.chunkSize
  reaches : r.position = r.start + r.window.length
  position_le : r.position ≤ bound
  limit_le : r.limit ≤ bound

def work (bound : Nat) (r : Reader) : Nat := 2 * (bound - r.start) + if r.skipping then 0 else 1

/-- What a reader answers next, up to a bound: nothing more before its limit, or an event that takes it on. -/
inductive Replies (bound : Nat) (r : Reader) : Except Cause (Option ReadEvent) → Reader → Prop
  | failed (cause : Cause) (r' : Reader) : Replies bound r (.error cause) r'
  | ended {r' : Reader} (start : r'.start = r.start) (skipping : r'.skipping = r.skipping)
    (limit : r'.limit ≤ r'.position) : Replies bound r (.ok none) r'
  | event {event : ReadEvent} {r' : Reader} (start : r'.start = event.stop)
    (skipping : r'.skipping = event.skips) (stop_le : event.stop ≤ bound) (start_le : r.start ≤ event.stop)
    (start_lt : r.options.encoding.unit ≤ r.options.maxRecordSize → r.start < event.stop)
    (reads : event.record?.isSome = true → r.skipping = false) (work_lt : r'.work bound < r.work bound) :
    Replies bound r (.ok (some event)) r'

/-- What a call for the next event does. The limit moves only to where the file ends at some moment. -/
structure Follows (bound : Nat) (r : Reader) (w : World) (answer : Except Cause (Option ReadEvent))
    (r' : Reader) (w' : World) : Prop where
  later : w.Later w'
  placed : r'.Placed bound
  options : r'.options = r.options
  number : r'.number = r.number
  limit : r'.limit = r.limit ∨ w.EndsBy w' r.number r'.limit
  replies : r.Replies bound answer r'

section window
variable {r r' : Reader} {bound : Nat} {event : ReadEvent}

/-- An event takes bytes off the front of the window; none only where it turns the skipping of a record on.
While a record is skipped no other comes. -/
theorem take?_event (h : r.take? = some (event, r')) :
    ∃ n ≤ r.window.length, r' = r.behind n event.skips ∧ event.stop = r.start + n ∧
      (0 < n ∨ r.skipping = false ∧ event.skips = true) ∧
      (r.options.encoding.unit ≤ r.options.maxRecordSize → 0 < n) ∧
      (event.record?.isSome = true → r.skipping = false) := by
  cases takes_of_take? h with
  | skipped hskip hfound =>
    have hpos := Encoding.terminator?_pos hfound
    exact ⟨_, Encoding.terminator?_le_length hfound, rfl, rfl, .inl hpos, fun _ => hpos, fun hrecord => by cases hrecord⟩
  | dropped _ _ hpos =>
    exact ⟨_, r.options.encoding.alignDown_le _, rfl, rfl, .inl hpos, fun _ => hpos, fun hrecord => by cases hrecord⟩
  | whole hreads hfound =>
    have hpos := Encoding.terminator?_pos hfound
    exact ⟨_, Encoding.terminator?_le_length hfound, rfl, rfl, .inl hpos, fun _ => hpos, fun _ => hreads⟩
  | cut hreads _ hlong =>
    refine ⟨_, Nat.le_trans (r.options.encoding.alignDown_le _) hlong, rfl, rfl, .inr ⟨hreads, rfl⟩, fun hunit => ?_,
      fun _ => hreads⟩
    exact Nat.pos_of_ne_zero fun hzero => absurd hunit (Nat.not_le.2 (Encoding.alignDown_eq_zero.1 hzero))

theorem Placed.take? (hr : r.Placed bound) (h : r.take? = some (event, r')) (w : World) :
    r.Follows bound w (.ok (some event)) r' w := by
  obtain ⟨n, hn, rfl, hstop, hmoves, hunit, hreads⟩ := take?_event h
  have hreaches := hr.reaches
  have hposition := hr.position_le
  refine ⟨.refl, ⟨hr.chunk_pos, reaches_behind hreaches hn _, hposition, hr.limit_le⟩, rfl, rfl, .inl rfl,
    .event hstop.symm rfl (by omega) (by omega) (fun h => by have := hunit h; omega) hreads ?_⟩
  show 2 * (bound - (r.start + n)) + (if event.skips then 0 else 1) <
    2 * (bound - r.start) + if r.skipping then 0 else 1
  rcases hmoves with hpos | ⟨hreads, hskips⟩
  · split <;> split <;> omega
  · rw [hreads, hskips, if_pos rfl, if_neg Bool.false_ne_true]
    omega

theorem Placed.extend (hr : r.Placed bound) {wanted : Nat} (hwanted : wanted ≤ r.limit - r.position)
    (hlimit : r.position < r.limit) {bytes : Bytes} (hbytes : bytes.length ≤ wanted) :
    (r.extend wanted bytes).Placed bound := by
  have hbound := hr.limit_le
  refine ⟨hr.chunk_pos, reaches_extend hr.reaches _ _, ?_, ?_⟩
  · simp only [Reader.extend]
    omega
  · simp only [Reader.extend]
    split <;> omega

theorem Placed.of_fills (hr : r.Placed bound) {w w' : World} {more : Bool} (h : Fills r w (.ok (r', more), w')) :
    r'.Placed bound := by
  cases h with
  | limit => exact hr
  | read ahead reads => exact hr.extend r.wanted_le ahead (reads.length_le _ rfl)

theorem Finds.follows {w : World} {found : Except Cause (Option ReadEvent) × Reader × World} (h : Finds r w found)
    (hr : r.Placed bound) : r.Follows bound w found.1 found.2.1 found.2.2 := by
  induction h with
  | event takes => exact hr.take? takes _
  | failed _ fills => exact ⟨fills.later.1, hr, rfl, rfl, .inl rfl, .failed _ _⟩
  | ended lacks fills =>
    have hplaced := hr.of_fills fills
    have hended := fills.exhausted rfl hr.chunk_pos lacks
    obtain ⟨hlater, hlimit⟩ := fills.later
    obtain ⟨bytes, limit, rfl, -⟩ := fills.spec
    exact ⟨hlater, hplaced, rfl, rfl, hlimit _ _ rfl, .ended rfl rfl hended.reached⟩
  | @again r _ _ w₁ found lacks fills _ ih =>
    have hplaced := hr.of_fills fills
    obtain ⟨hlater, hlimit⟩ := fills.later
    obtain ⟨bytes, limit, rfl, -⟩ := fills.spec
    obtain ⟨answer, r', w'⟩ := found
    have hrest : (r.filled bytes limit).Follows bound w₁ answer r' w' := ih hplaced
    refine ⟨hlater.trans hrest.later, hrest.placed, hrest.options, hrest.number, ?_, ?_⟩
    · rcases hrest.limit with hsame | hends
      · rw [hsame]
        exact (hlimit _ _ rfl).imp_right fun hends => hends.extend .refl hrest.later
      · exact .inr (hends.extend hlater .refl)
    · cases hrest.replies with
      | failed c => exact .failed c _
      | ended hstart hskip hlimit => exact .ended hstart hskip hlimit
      | event hstart hskip hstop hle hlt hreads hwork => exact .event hstart hskip hstop hle hlt hreads hwork

/-- **Whatever the world does**, a reader answers with an event further on, or that it is at its limit. -/
theorem next_follows {w w' : World} {answer : Except Cause (Option ReadEvent)} (hr : r.Placed bound)
    (h : r.next w = (answer, r', w')) : r.Follows bound w answer r' w' :=
  (finds_of_next h).follows hr

end window

end Reader

end LogTail
