import LogTail.Proofs.Guards

/-!
# Reading a file ends

What is left to do of a file. Bytes that were not passed count twice, in the window or ahead of it, and one counts the
record that is not skipped: a cut may take no byte, but then it turns skipping on, and what is skipped has bytes. So
requests bring only so many events, whatever the world does (`Reader.run_exhaustible`).

* `Reader.Moves`: each event takes off what is left to do, and leaves the reader elsewhere, or in the other mode.
* `Reader.exists_last`: where no call fails, there is a last event.
* `Reader.Exhausted.run`: a reader that has no event once has none ever after. Of what is left it makes one record.
-/

namespace LogTail

/-- No call fails, and a number goes on to stand for a file, whatever others write into it. -/
structure World.Readable (w : World) (number : Nat) : Prop where
  faults : ∀ n, w.faults n = none
  regular : (w.disk.node number).isDirectory = false
  others : ∀ m d, (d.node number).isDirectory = false → ((w.others m d).node number).isDirectory = false

theorem World.Readable.look {w : World} {number : Nat} (h : w.Readable number) (offset count : Nat) :
    ∃ bytes w', w.look (fun d => d.readAt number offset count) = (.ok bytes, w') ∧ w'.Readable number := by
  have hregular := h.others (.call w.calls) w.disk h.regular
  refine ⟨if count = 0 then [] else (((w.others (.call w.calls) w.disk).node number).content.drop offset).take count,
    { w with disk := w.others (.call w.calls) w.disk, calls := w.calls + 1 }, ?_, ⟨h.faults, hregular, h.others⟩⟩
  simp only [World.look, h.faults, Disk.readAt, hregular]
  split <;> rfl

namespace Reader

/-! ## What is left to do -/

/-- What is left to do of a file: its bytes count twice, and one counts the record that is not skipped. -/
def left (r : Reader) : Nat := 2 * (r.window.length + (r.limit - r.position)) + if r.skipping then 0 else 1

def event? : Except Cause (Option ReadEvent) → Option ReadEvent
  | .ok event? => event?
  | .error _ => none

/-- A reader goes on. An event takes off what is left to do, and the reader stands elsewhere or is in the other mode;
without one it is no further from its end. -/
structure Moves (r : Reader) (event? : Option ReadEvent) (r' : Reader) : Prop where
  options : r'.options = r.options
  number : r'.number = r.number
  left_le : r'.left + event?.toList.length ≤ r.left
  changes : event?.isSome = true → (r'.start, r'.skipping) ≠ (r.start, r.skipping)

section moves
variable {r r' : Reader} {w w' : World} {event : ReadEvent}

theorem Moves.refl (r : Reader) : r.Moves none r := ⟨rfl, rfl, Nat.le_refl _, nofun⟩

/-- A cut may take no byte, but then it turns skipping on. -/
theorem moves_take? (h : r.take? = some (event, r')) : r.Moves (some event) r' := by
  obtain ⟨n, hn, rfl, -, hmoves, -, -⟩ := take?_event h
  refine ⟨rfl, rfl, ?_, fun _ hsame => ?_⟩
  · show 2 * ((r.window.drop n).length + (r.limit - r.position)) + (if event.skips then 0 else 1) + 1 ≤
      2 * (r.window.length + (r.limit - r.position)) + if r.skipping then 0 else 1
    rw [List.length_drop]
    rcases hmoves with hpos | ⟨hreads, hskips⟩
    · split <;> split <;> omega
    · rw [hreads, hskips, if_pos rfl, if_neg Bool.false_ne_true]
      omega
  · simp only [behind, Prod.mk.injEq] at hsame
    rcases hmoves with hpos | ⟨hreads, hskips⟩
    · omega
    · rw [hreads, hskips] at hsame
      cases hsame.2

theorem moves_takeRemainder (r : Reader) : r.Moves r.takeRemainder.1 r.takeRemainder.2 := by
  unfold takeRemainder
  by_cases hnone : (r.window.isEmpty || r.skipping) = true
  · rw [if_pos hnone]
    exact .refl r
  rw [if_neg hnone]
  simp only [Bool.or_eq_true, not_or, Bool.not_eq_true, List.isEmpty_eq_false_iff] at hnone
  have hpos := List.length_pos_iff.2 hnone.1
  refine ⟨rfl, rfl, ?_, fun _ hsame => ?_⟩
  · simp only [emit, drop, left, List.length_drop, hnone.2, Option.toList_some, List.length_singleton]
    omega
  · simp only [emit, drop, Prod.mk.injEq] at hsame
    omega

theorem Fills.left_le {more : Bool} (h : Fills r w (.ok (r', more), w')) : r'.left ≤ r.left := by
  obtain ⟨bytes, limit, rfl, hahead, -⟩ := h.spec
  refine Nat.add_le_add_right ?_ (if r.skipping then 0 else 1)
  simp only [filled, List.length_append]
  omega

theorem Finds.moves {found : Except Cause (Option ReadEvent) × Reader × World} (h : Finds r w found) :
    r.Moves (event? found.1) found.2.1 := by
  induction h with
  | event takes => exact moves_take? takes
  | failed => exact .refl _
  | ended _ fills =>
    have hleft := fills.left_le
    obtain ⟨bytes, limit, rfl, -⟩ := fills.spec
    exact ⟨rfl, rfl, hleft, nofun⟩
  | again _ fills _ ih =>
    have hleft := fills.left_le
    obtain ⟨bytes, limit, rfl, -⟩ := fills.spec
    exact ⟨ih.options, ih.number, Nat.le_trans ih.left_le hleft, ih.changes⟩

theorem moves_answer (request : Request) (r : Reader) (w : World) :
    r.Moves (event? (r.answer request w).1) (r.answer request w).2.1 := by
  cases request with
  | next => exact (finds_next r w).moves
  | remainder => exact moves_takeRemainder r

/-- **Requests bring no more events than there is left to do.** -/
theorem run_moves (requests : List Request) (r : Reader) (w : World) :
    (run requests r w).2.1.options = r.options ∧
      (run requests r w).2.1.left + ((run requests r w).1.filterMap event?).length ≤ r.left := by
  induction requests generalizing r w with
  | nil => exact ⟨rfl, Nat.le_refl _⟩
  | cons request requests ih =>
    have hmoves := moves_answer request r w
    rcases hfirst : r.answer request w with ⟨first, r₁, w₁⟩
    rw [hfirst] at hmoves
    obtain ⟨hoptions, hleft⟩ := ih r₁ w₁
    rw [run_cons _ _ hfirst]
    refine ⟨hoptions.trans hmoves.options, ?_⟩
    have hevents : ((first :: (run requests r₁ w₁).1).filterMap event?).length =
        (event? first).toList.length + ((run requests r₁ w₁).1.filterMap event?).length := by
      cases hevent : event? first <;> simp [hevent, Nat.add_comm]
    calc (run requests r₁ w₁).2.1.left + ((first :: (run requests r₁ w₁).1).filterMap event?).length
        ≤ r₁.left + (event? first).toList.length := by omega
      _ ≤ r.left := hmoves.left_le

end moves

/-! ## Readers without an event -/

/-- The answers of a reader that is exhausted, with the record of what is left in its window. -/
def closing (left : Option ReadEvent) : List Request → List (Except Cause (Option ReadEvent))
  | [] => []
  | .next :: requests => .ok none :: closing left requests
  | .remainder :: requests => .ok left :: closing none requests

section exhausted
variable {r r' : Reader} {w w' : World}

theorem Exhausted.next (h : r.Exhausted) (w : World) : r.next w = (.ok none, r, w) := by
  rw [Reader.next, nextFrom, h.lacks, fill, if_pos h.reached]

theorem Exhausted.takeRemainder (h : r.Exhausted) (hmax : 0 < r.options.maxRecordSize) :
    r.takeRemainder.2.Exhausted ∧ r.takeRemainder.2.takeRemainder.1 = none := by
  unfold Reader.takeRemainder
  by_cases hnone : (r.window.isEmpty || r.skipping) = true
  · simp [hnone, h]
  · have hempty : (r.emit r.window.length r.window.length false).2.window = [] := by simp [emit, drop]
    have hskip : r.skipping = false := by simp at hnone; exact hnone.2
    simp only [if_neg hnone, hempty, List.isEmpty_nil, Bool.true_or, if_true, and_true]
    refine ⟨h.reached, take?_eq_none ?_ ?_⟩
    · rw [hempty]
      exact Encoding.terminator?_nil _
    · rw [hempty]
      simpa [emit, drop, hskip] using hmax

/-- **A reader that is exhausted stays so**, and makes one record at most. -/
theorem Exhausted.run (h : r.Exhausted) (hmax : 0 < r.options.maxRecordSize) (requests : List Request) (w : World) :
    (Reader.run requests r w).1 = closing r.takeRemainder.1 requests := by
  induction requests generalizing r w with
  | nil => rfl
  | cons request requests ih =>
    cases request with
    | next =>
      rw [run_cons .next _ (h.next w), ih h hmax w]
      rfl
    | remainder =>
      obtain ⟨hafter, hnone⟩ := h.takeRemainder hmax
      have hoptions := (moves_takeRemainder r).options
      have hrest := ih hafter (hoptions ▸ hmax) w
      rw [run_cons .remainder _ rfl, hrest, hnone]
      rfl

end exhausted

/-! ## The last event -/

section last
variable {number : Nat} {r : Reader} {w : World}

theorem ReadsFull.readable {offset count : Nat} {answer : Except Cause Bytes × World}
    (h : ReadsFull number w offset count answer) (hw : w.Readable number) :
    (∃ bytes, answer.1 = .ok bytes) ∧ answer.2.Readable number := by
  induction h with
  | full => exact ⟨⟨_, rfl⟩, hw⟩
  | @failed _ _ offset count _ _ call =>
    obtain ⟨_, _, hlook, _⟩ := hw.look offset count
    rw [hlook] at call
    cases call
  | @ended _ _ offset count _ call =>
    obtain ⟨_, _, hlook, hw'⟩ := hw.look offset count
    rw [hlook] at call
    cases call
    exact ⟨⟨_, rfl⟩, hw'⟩
  | @more _ _ _ offset count front _ _ call _ _ ih =>
    obtain ⟨_, _, hlook, hw'⟩ := hw.look offset count
    rw [hlook] at call
    cases call
    obtain ⟨⟨back, hback⟩, hlast⟩ := ih hw'
    exact ⟨⟨front ++ back, congrArg (Except.map (front ++ ·)) hback⟩, hlast⟩

theorem Fills.readable {answer : Except Cause (Reader × Bool) × World} (h : Fills r w answer)
    (hw : w.Readable r.number) : (∃ filled, answer.1 = .ok filled) ∧ answer.2.Readable r.number := by
  cases h with
  | limit => exact ⟨⟨_, rfl⟩, hw⟩
  | failed _ reads =>
    obtain ⟨⟨_, hbytes⟩, _⟩ := reads.readable hw
    cases hbytes
  | read _ reads => exact ⟨⟨_, rfl⟩, (reads.readable hw).2⟩

theorem Finds.readable {found : Except Cause (Option ReadEvent) × Reader × World} (h : Finds r w found)
    (hw : w.Readable r.number) : (∃ event?, found.1 = .ok event?) ∧ found.2.2.Readable r.number := by
  induction h with
  | event => exact ⟨⟨_, rfl⟩, hw⟩
  | failed _ fills =>
    obtain ⟨⟨_, hfilled⟩, _⟩ := fills.readable hw
    cases hfilled
  | ended _ fills => exact ⟨⟨_, rfl⟩, (fills.readable hw).2⟩
  | again _ fills _ ih =>
    have hw' := (fills.readable hw).2
    obtain ⟨bytes, limit, rfl, -⟩ := fills.spec
    exact ih hw'

theorem exists_last (r : Reader) (w : World) (hw : w.Readable r.number) :
    ∃ (events : List ReadEvent) (r' : Reader) (w' : World), run (List.replicate (events.length + 1) .next) r w =
      (events.map (fun event => .ok (some event)) ++ [.ok none], r', w') := by
  induction hleft : r.left using Nat.strongRecOn generalizing r w with
  | ind n ih =>
    have hfinds := finds_next r w
    have hmoves := hfinds.moves
    obtain ⟨⟨event?, hanswer⟩, hw'⟩ := hfinds.readable hw
    rcases hnext : r.next w with ⟨answer, r₁, w₁⟩
    rw [hnext] at hmoves hanswer hw'
    obtain rfl : answer = .ok event? := hanswer
    cases event? with
    | none =>
      exact ⟨[], r₁, w₁, run_cons .next [] hnext⟩
    | some event =>
      obtain ⟨events, r₂, w₂, hrun⟩ := ih r₁.left (hleft ▸ hmoves.left_le) r₁ w₁ (hmoves.number ▸ hw') rfl
      refine ⟨event :: events, r₂, w₂, (run_cons .next _ hnext).trans ?_⟩
      rw [List.length_cons, hrun]
      rfl

end last

/-- What holds of a reader wherever it stands, in whatever world. -/
structure Exhaustible (r : Reader) (w : World) : Prop where
  /-- The search for the next event ends. -/
  returns : r.Finds w (r.next w)
  /-- With an event it stands elsewhere, or is in the other mode. -/
  changes : ∀ request event r' w', r.answer request w = (.ok (some event), r', w') →
    (r'.start, r'.skipping) ≠ (r.start, r.skipping)
  /-- Where no call fails, there is a last event. -/
  ends : w.Readable r.number → ∃ (events : List ReadEvent) (r' : Reader) (w' : World),
    run (List.replicate (events.length + 1) .next) r w =
      (events.map (fun event => .ok (some event)) ++ [.ok none], r', w')
  /-- After none there is none, and at most one record of what is left. -/
  closes : ∀ r' w', r.next w = (.ok none, r', w') → ∀ requests,
    (run requests r' w').1 = closing r'.takeRemainder.1 requests

theorem exhaustible {r : Reader} (hchunk : 0 < r.options.chunkSize) (hmax : 0 < r.options.maxRecordSize) (w : World) :
    r.Exhaustible w where
  returns := finds_next r w
  changes request event r' w' h := by
    have hmoves := moves_answer request r w
    rw [h] at hmoves
    exact hmoves.changes rfl
  ends := exists_last r w
  closes r' w' h requests := by
    have hfinds := finds_next r w
    have hmoves := hfinds.moves
    have hended := hfinds.exhausted hchunk
    rw [h] at hmoves hended
    exact (hended rfl).run (hmoves.options ▸ hmax) requests w'

/-- **The reading of a file ends**, whatever was requested before, and whatever the world does. Of a tracked file come
no more events than its tail and its unread bytes allow for, and none after the last. -/
theorem run_exhaustible {o : ReaderOptions} (hchunk : 0 < o.chunkSize) (hmax : 0 < o.maxRecordSize) {f : LogFile}
    {w₀ w : World} {r : Reader} (hopen : openFile o f w₀ = (.ok r, w)) (requests : List Request) :
    ((run requests r w).1.filterMap event?).length ≤ 2 * (f.tail.length + f.unread) + 1 ∧
      (run requests r w).2.1.Exhaustible (run requests r w).2.2 := by
  rw [openFile_ok hopen]
  obtain ⟨hoptions, hleft⟩ := run_moves requests (ofFile o f r.number) w
  refine ⟨?_, exhaustible ?_ ?_ _⟩
  · have hfile : (ofFile o f r.number).left ≤ 2 * (f.tail.length + f.unread) + 1 :=
      Nat.add_le_add_left (by split <;> omega) _
    omega
  · rwa [hoptions]
  · rwa [hoptions]

theorem readable_shrinking : shrinking.Readable 1 where
  faults _ := rfl
  regular := rfl
  others m d h := by
    simp only [shrinking]
    split
    · simpa [Disk.setContent, Disk.setNode, Disk.node] using h
    · exact h

/-- Units do not fit into a record: cuts take no byte. -/
theorem run_exhaustible_narrow :
    0 < narrowOptions.chunkSize ∧ 0 < narrowOptions.maxRecordSize ∧
      ∃ r w, openFile narrowOptions narrowFile shrinking = (.ok r, w) ∧ w.Readable r.number ∧
        (run (List.replicate 6 .next) r w).1 =
          [.ok (some (.record 0 0 [] true)), .ok (some (.skipped 4 false)), .ok (some (.skipped 12 true)),
            .ok (some (.record 12 12 [] true)), .ok (some (.skipped 20 true)), .ok none] ∧
        ∀ requests, ((run requests r w).1.filterMap event?).length ≤ 49 ∧
          (run requests r w).2.1.Exhaustible (run requests r w).2.2 := by
  have hchunk : 0 < narrowOptions.chunkSize := by decide
  have hmax : 0 < narrowOptions.maxRecordSize := by decide
  have hopen : openFile narrowOptions narrowFile shrinking =
      (.ok (ofFile narrowOptions narrowFile 1), { shrinking with calls := 1 }) := rfl
  have hreadable : World.Readable { shrinking with calls := 1 } 1 :=
    ⟨readable_shrinking.faults, readable_shrinking.regular, readable_shrinking.others⟩
  exact ⟨hchunk, hmax, _, _, hopen, hreadable, rfl, fun requests => run_exhaustible hchunk hmax hopen requests⟩

end Reader

end LogTail
