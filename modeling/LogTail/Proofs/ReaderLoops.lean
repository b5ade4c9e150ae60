import LogTail.Proofs.Reading

/-!
# The loops of a reader

A reader calls until it has read in full, and reads until its window holds an event. These loops are relations here,
with one rule for each way that a round may go, and without a bound on their rounds. They hold of what the functions
compute (`Reader.finds_next`): the bounds of the functions are never met.

* `Reader.Fills.spec`: to read more bytes adds them to the window, and takes them off what is ahead.
* `Reader.Finds.exhausted`: a reader that found no event came to its limit, or to the end of the file, which is its
  limit then.
-/

namespace LogTail

theorem Disk.length_readAt {d : Disk} {number offset count : Nat} {bytes : Bytes}
    (h : d.readAt number offset count = .ok bytes) : bytes.length ≤ count := by
  unfold readAt at h
  by_cases hcount : count = 0
  · simp only [hcount, if_true, Except.ok.injEq] at h
    simp [← h]
  by_cases hdir : (d.node number).isDirectory = true
  · simp [hcount, hdir] at h
  · simp only [hcount, hdir, if_false, Bool.false_eq_true, Except.ok.injEq] at h
    rw [← h]
    exact List.length_take_le ..

namespace Reader

/-- Bytes are read in full, in as many calls as it takes. -/
inductive ReadsFull (number : Nat) : World → Nat → Nat → Except Cause Bytes × World → Prop
  | full {w : World} {offset : Nat} : ReadsFull number w offset 0 (.ok [], w)
  | failed {w w' : World} {offset count : Nat} {c : Cause} (missing : count ≠ 0)
    (call : w.look (fun d => d.readAt number offset count) = (.error c, w')) :
    ReadsFull number w offset count (.error c, w')
  | ended {w w' : World} {offset count : Nat} (missing : count ≠ 0)
    (call : w.look (fun d => d.readAt number offset count) = (.ok [], w')) :
    ReadsFull number w offset count (.ok [], w')
  | more {w w₁ w₂ : World} {offset count : Nat} {bytes : Bytes} {answer : Except Cause Bytes} (missing : count ≠ 0)
    (call : w.look (fun d => d.readAt number offset count) = (.ok bytes, w₁)) (nonempty : bytes ≠ [])
    (rest : ReadsFull number w₁ (offset + bytes.length) (count - bytes.length) (answer, w₂)) :
    ReadsFull number w offset count (answer.map (bytes ++ ·), w₂)

/-- More bytes are read, up to the limit. -/
inductive Fills (r : Reader) (w : World) : Except Cause (Reader × Bool) × World → Prop
  | limit (reached : r.limit ≤ r.position) : Fills r w (.ok (r, false), w)
  | failed {w' : World} {c : Cause} (ahead : r.position < r.limit)
    (reads : ReadsFull r.number w r.position r.wanted (.error c, w')) : Fills r w (.error c, w')
  | read {w' : World} {bytes : Bytes} (ahead : r.position < r.limit)
    (reads : ReadsFull r.number w r.position r.wanted (.ok bytes, w')) :
    Fills r w (.ok (r.extend r.wanted bytes, !bytes.isEmpty), w')

/-- The next event is searched for, in as many rounds as it takes. -/
inductive Finds : Reader → World → Except Cause (Option ReadEvent) × Reader × World → Prop
  | event {r r' : Reader} {w : World} {event : ReadEvent} (takes : r.take? = some (event, r')) :
    Finds r w (.ok (some event), r', w)
  | failed {r : Reader} {w w' : World} {c : Cause} (lacks : r.take? = none) (fills : Fills r w (.error c, w')) :
    Finds r w (.error c, r, w')
  | ended {r r' : Reader} {w w' : World} (lacks : r.take? = none) (fills : Fills r w (.ok (r', false), w')) :
    Finds r w (.ok none, r', w')
  | again {r r' : Reader} {w w' : World} {found : Except Cause (Option ReadEvent) × Reader × World}
    (lacks : r.take? = none) (fills : Fills r w (.ok (r', true), w')) (rest : Finds r' w' found) : Finds r w found

def filled (r : Reader) (more : Bytes) (limit : Nat) : Reader :=
  { r with window := r.window ++ more, position := r.position + more.length, limit := limit }

/-- A reader that has read all, and whose window holds no event. -/
structure Exhausted (r : Reader) : Prop where
  reached : r.limit ≤ r.position
  lacks : r.take? = none

variable {number : Nat} {r r' : Reader} {w w' : World} {found : Except Cause (Option ReadEvent) × Reader × World}

/-! ## What is computed -/

theorem readsFull_readFull (number fuel : Nat) (w : World) (offset count : Nat) (hfuel : count ≤ fuel) :
    ReadsFull number w offset count (readFull number fuel w offset count) := by
  induction fuel generalizing w offset count with
  | zero =>
    obtain rfl := Nat.le_zero.1 hfuel
    exact .full
  | succ fuel ih =>
    unfold readFull
    by_cases hcount : count = 0
    · subst hcount
      exact .full
    rw [if_neg hcount]
    rcases hlook : w.look fun d => d.readAt number offset count with ⟨c | _ | ⟨b, front⟩, w₁⟩
    · exact .failed hcount hlook
    · exact .ended hcount hlook
    · have hrest := ih w₁ (offset + (b :: front).length) (count - (b :: front).length)
        (by rw [List.length_cons]; omega)
      simp only [List.isEmpty_cons, if_false, Bool.false_eq_true]
      rcases hmore : readFull number fuel w₁ (offset + (b :: front).length) (count - (b :: front).length) with
        ⟨_ | _, _⟩ <;> rw [hmore] at hrest <;> exact .more hcount hlook (List.cons_ne_nil b front) hrest

theorem ReadsFull.length_le {offset count : Nat} {answer : Except Cause Bytes × World}
    (h : ReadsFull number w offset count answer) : ∀ bytes, answer.1 = .ok bytes → bytes.length ≤ count := by
  induction h with
  | full => rintro _ ⟨⟩; exact Nat.le_refl _
  | failed => nofun
  | ended => rintro _ ⟨⟩; exact Nat.zero_le _
  | @more w w₁ w₂ offset count front answer _ call _ _ ih =>
    have hfront := Disk.length_readAt (World.look_ok call)
    rcases answer with _ | back
    · nofun
    · rintro _ ⟨⟩
      have hback := ih back rfl
      rw [List.length_append]
      omega

theorem fills_fill (r : Reader) (w : World) : Fills r w (r.fill w) := by
  unfold fill
  by_cases hlimit : r.limit ≤ r.position
  · rw [if_pos hlimit]
    exact .limit hlimit
  have hreads := readsFull_readFull r.number r.wanted w r.position r.wanted (Nat.le_refl _)
  rw [if_neg hlimit]
  rcases hread : readFull r.number r.wanted w r.position r.wanted with ⟨_ | _, _⟩ <;> rw [hread] at hreads
  · exact .failed (Nat.not_le.1 hlimit) hreads
  · exact .read (Nat.not_le.1 hlimit) hreads

theorem Fills.spec {more : Bool} (h : Fills r w (.ok (r', more), w')) : ∃ bytes limit, r' = r.filled bytes limit ∧
    bytes.length + (limit - (r.position + bytes.length)) ≤ r.limit - r.position ∧ more = !bytes.isEmpty := by
  cases h with
  | limit => exact ⟨[], r.limit, by simp [filled], by simp, rfl⟩
  | @read _ bytes ahead reads =>
    have hbytes := reads.length_le bytes rfl
    have hwanted := r.wanted_le
    refine ⟨bytes, _, rfl, ?_, rfl⟩
    split <;> omega

/-- Each round but the last reads a byte below the limit. -/
theorem finds_nextFrom (fuel : Nat) (r : Reader) (w : World) (hfuel : r.limit - r.position < fuel) :
    Finds r w (r.nextFrom fuel w) := by
  induction fuel generalizing r w with
  | zero => omega
  | succ fuel ih =>
    unfold nextFrom
    rcases htake : r.take? with _ | ⟨event, r₁⟩
    · have hfills := fills_fill r w
      rcases hfill : r.fill w with ⟨c | ⟨r₁, _ | _⟩, w₁⟩ <;> rw [hfill] at hfills
      · exact .failed htake hfills
      · exact .ended htake hfills
      · obtain ⟨bytes, limit, rfl, hahead, hmore⟩ := hfills.spec
        have hpos : 0 < bytes.length := List.length_pos_iff.2 fun hnil => by rw [hnil] at hmore; cases hmore
        exact .again htake hfills (ih _ _ (by simp only [filled]; omega))
    · exact .event htake

/-- **The search for an event ends**, with what it found. -/
theorem finds_next (r : Reader) (w : World) : Finds r w (r.next w) := finds_nextFrom _ r w (Nat.lt_succ_self _)

theorem finds_of_next (h : r.next w = found) : Finds r w found := h ▸ finds_next r w

/-! ## Where there is no event -/

theorem Fills.exhausted {more : Bool} (h : Fills r w (.ok (r', more), w')) (hnone : more = false)
    (hchunk : 0 < r.options.chunkSize) (lacks : r.take? = none) : r'.Exhausted := by
  cases h with
  | limit reached => exact ⟨reached, lacks⟩
  | @read _ bytes ahead =>
    obtain rfl : bytes = [] := by simpa using hnone
    have hpos := wanted_pos hchunk lacks ahead
    obtain ⟨hfree, hshort⟩ := take?_none lacks
    refine ⟨by simp [extend, hpos], take?_eq_none ?_ ?_⟩
    · simpa [extend] using hfree
    · simpa [extend] using hshort

theorem Finds.exhausted (h : Finds r w found) (hchunk : 0 < r.options.chunkSize) (hnone : found.1 = .ok none) :
    found.2.1.Exhausted := by
  induction h with
  | event => cases hnone
  | failed => cases hnone
  | ended lacks fills => exact fills.exhausted rfl hchunk lacks
  | again _ fills _ ih =>
    obtain ⟨bytes, limit, rfl, -⟩ := fills.spec
    exact ih hchunk hnone

end Reader

end LogTail
