import LogTail.Proofs.Splitting

/-!
# Where records begin

A record of a byte string begins at a boundary: at the start, or behind a line feed at a multiple of the unit
(`Splitter.Leads.boundary`). From any boundary on a reading meets the records that begin there or later, and so it
does from any multiple of the unit on, if it skips to the next boundary first (`Splitter.mem_records_iff`).
-/

namespace LogTail

namespace Encoding

/-- A place where a record may begin: the start, or one behind a line feed. -/
def Boundary (e : Encoding) (bs : Bytes) (n : Nat) : Prop :=
  n = 0 ∨ ∃ k, n = (k + 1) * e.unit ∧ n ≤ bs.length ∧ e.unitAt bs k = e.lineFeed

variable {e : Encoding} {bs bs' : Bytes} {k m n : Nat}

theorem boundary_zero (e : Encoding) (bs : Bytes) : e.Boundary bs 0 := .inl rfl

theorem Boundary.units (h : e.Boundary bs n) : e.unit ∣ n := by
  obtain rfl | ⟨k, rfl, _⟩ := h
  · exact Nat.dvd_zero _
  · exact Nat.dvd_mul_left _ _

theorem Boundary.of_take (h : e.Boundary bs n) (hshared : bs.take m <+: bs') (hn : n ≤ m) :
    e.Boundary bs' n := by
  obtain ⟨more, rfl⟩ := hshared
  obtain rfl | ⟨k, rfl, hle, hfeed⟩ := h
  · exact .inl rfl
  · have hin : (k + 1) * e.unit ≤ (bs.take m).length := by
      rw [List.length_take]
      omega
    refine .inr ⟨k, rfl, ?_, ?_⟩
    · rw [List.length_append]
      omega
    · rw [unitAt_append more hin, ← hfeed, ← unitAt_append (bs.drop m) hin, List.take_append_drop]

theorem boundary_of_feed (hunits : e.unit ∣ n) (hin : (k + 1) * e.unit ≤ (bs.drop n).length)
    (hfeed : e.unitAt (bs.drop n) k = e.lineFeed) : e.Boundary bs (n + (k + 1) * e.unit) := by
  obtain ⟨m, rfl⟩ := hunits
  rw [Nat.mul_comm e.unit m] at hin hfeed ⊢
  rw [List.length_drop] at hin
  have hpos : 0 < (k + 1) * e.unit := Nat.mul_pos (Nat.succ_pos k) e.unit_pos
  refine .inr ⟨m + k, ?_, by omega, ?_⟩
  · rw [Nat.add_assoc, Nat.add_mul m]
  · rw [← unitAt_drop, hfeed]

theorem boundary_append_lineFeed (hunits : e.unit ∣ bs.length) (more : Bytes) :
    e.Boundary (bs ++ (e.lineFeed ++ more)) (bs.length + e.unit) := by
  have hdrop : (bs ++ (e.lineFeed ++ more)).drop bs.length = e.lineFeed ++ more := List.drop_left
  have hin : (0 + 1) * e.unit ≤ ((bs ++ (e.lineFeed ++ more)).drop bs.length).length := by
    rw [hdrop, List.length_append, lineFeed_length]
    omega
  have hfeed : e.unitAt ((bs ++ (e.lineFeed ++ more)).drop bs.length) 0 = e.lineFeed := by
    rw [hdrop, unitAt_zero_append e.lineFeed_length]
  have hboundary := boundary_of_feed hunits hin hfeed
  rwa [Nat.zero_add, Nat.one_mul] at hboundary

theorem boundary_of_endsWithTerminator (hunits : e.unit ∣ n) (hn : n ≤ bs.length)
    (h : e.endsWithTerminator (bs.take n) = true) : e.Boundary bs n := by
  rw [endsWithTerminator, Bool.and_eq_true, decide_eq_true_eq, decide_eq_true_eq, List.length_take,
    Nat.min_eq_left hn, List.drop_take] at h
  obtain ⟨hle, hfeed⟩ := h
  rw [Nat.sub_sub_self hle] at hfeed
  have hin : (0 + 1) * e.unit ≤ (bs.drop (n - e.unit)).length := by
    rw [List.length_drop]
    omega
  have hfeed' : e.unitAt (bs.drop (n - e.unit)) 0 = e.lineFeed := by
    rw [unitAt, Nat.zero_mul, List.drop_zero, hfeed]
  have hboundary := boundary_of_feed (Nat.dvd_sub hunits (Nat.dvd_refl e.unit)) hin hfeed'
  rwa [Nat.zero_add, Nat.one_mul, Nat.sub_add_cancel hle] at hboundary

theorem Boundary.exists_feed (h : e.Boundary bs n) (hunits : e.unit ∣ m) (hm : m < n) :
    ∃ k, n = m + (k + 1) * e.unit ∧ (k + 1) * e.unit ≤ (bs.drop m).length ∧
      e.unitAt (bs.drop m) k = e.lineFeed := by
  obtain ⟨j, rfl⟩ := hunits
  rw [Nat.mul_comm e.unit j] at hm ⊢
  obtain rfl | ⟨k, rfl, hle, hfeed⟩ := h
  · omega
  · have hj : j < k + 1 := Nat.lt_of_mul_lt_mul_right hm
    obtain ⟨i, rfl⟩ := Nat.exists_eq_add_of_le (Nat.le_of_lt_succ hj)
    rw [show j + i + 1 = j + (i + 1) by omega, Nat.add_mul] at hle ⊢
    refine ⟨i, rfl, ?_, ?_⟩
    · rw [List.length_drop]
      omega
    · rw [unitAt_drop, hfeed]

theorem FirstFeed.le (h : e.FirstFeed bs k) (hfeed : e.unitAt bs n = e.lineFeed) : k ≤ n := by
  rcases Nat.lt_or_ge n k with hlt | hge
  · exact absurd hfeed (h.before n hlt)
  · exact hge

theorem lt_of_free (hfree : e.terminator? (bs.take n) = none) (hin : (k + 1) * e.unit ≤ bs.length)
    (hfeed : e.unitAt bs k = e.lineFeed) : n < (k + 1) * e.unit := by
  rcases Nat.lt_or_ge n ((k + 1) * e.unit) with hlt | hge
  · exact hlt
  · have hle : (k + 1) * e.unit ≤ (bs.take n).length := by
      rw [List.length_take]
      omega
    refine absurd ?_ (unitAt_ne_lineFeed hfree hle)
    rw [← hfeed, ← unitAt_append (bs.drop n) hle, List.take_append_drop]

end Encoding

namespace Splitter

variable {s : Splitter} {finished : Bool} {bs : Bytes} {c c' : Cursor} {r : Option Record} {rec : Record}
  {rs : List Record} {k n : Nat}

/-! ## To a boundary -/

theorem Step.units_of_feed (h : s.Step finished c r c') (hin : (k + 1) * s.encoding.unit ≤ c.rest.length)
    (hfeed : s.encoding.unitAt c.rest k = s.encoding.lineFeed) :
    ∃ m ≤ k + 1, c' = c.move (m * s.encoding.unit) c'.skipping ∧ (m = k + 1 → c'.skipping = false) := by
  have hfound {bs : Bytes} {contentEnd stop : Nat} (h : s.encoding.terminator? bs = some (contentEnd, stop))
      (hbegins : bs <+: c.rest) : ∃ m ≤ k + 1, stop = m * s.encoding.unit := by
    obtain ⟨more, hmore⟩ := hbegins
    obtain ⟨i, hfirst, rfl, _⟩ := Encoding.terminator?_eq_some_iff.1 h
    exact ⟨i + 1, Nat.succ_le_succ ((hfirst.append more).le (hmore ▸ hfeed)), rfl⟩
  have hshort {m : Nat} (hfree : s.encoding.terminator? (c.rest.take (m * s.encoding.unit)) = none) : m ≤ k :=
    Nat.le_of_lt_succ (Nat.lt_of_mul_lt_mul_right (Encoding.lt_of_free hfree hin hfeed))
  cases h with
  | skipped _ h =>
    obtain ⟨m, hm, rfl⟩ := hfound h (List.prefix_refl _)
    exact ⟨m, hm, rfl, fun _ => rfl⟩
  | dropped _ _ _ hunits hfree =>
    obtain ⟨m, rfl⟩ := hunits
    rw [Nat.mul_comm] at hfree ⊢
    have hm := hshort hfree
    exact ⟨m, by omega, rfl, fun _ => by omega⟩
  | whole _ h =>
    obtain ⟨m, hm, rfl⟩ := hfound h (List.take_prefix ..)
    exact ⟨m, hm, rfl, fun _ => rfl⟩
  | cut _ hfree hlong =>
    obtain ⟨m, hm⟩ := s.encoding.unit_dvd_alignDown s.longest
    have hle := s.encoding.alignDown_le s.longest
    rw [Nat.mul_comm] at hm
    rw [hm] at hle
    have hm' : m ≤ k := hshort (by
      rw [← List.take_append_drop (m * s.encoding.unit) (c.rest.take s.longest), List.take_take,
        Nat.min_eq_left hle] at hfree
      exact Encoding.terminator?_eq_none_of_append hfree)
    exact ⟨m, by omega, by rw [hm]; rfl, fun _ => by omega⟩
  | remainder _ hfree hshort =>
    rw [List.take_of_length_le (Nat.le_of_lt hshort)] at hfree
    exact absurd hfeed (Encoding.unitAt_ne_lineFeed hfree hin)

/-- **A reading does not miss a line feed**: it comes to the place behind every one that is ahead. -/
theorem exists_leads_of_feed (s : Splitter) (finished : Bool) {c : Cursor} {k : Nat}
    (hin : (k + 1) * s.encoding.unit ≤ c.rest.length) (hfeed : s.encoding.unitAt c.rest k = s.encoding.lineFeed) :
    ∃ rs, s.Leads finished c rs (c.move ((k + 1) * s.encoding.unit) false) := by
  induction hw : c.weight using Nat.strongRecOn generalizing c k with
  | ind w ih =>
    rcases hnext : s.next? finished c with _ | ⟨r, c'⟩
    · exact absurd hfeed (Encoding.unitAt_ne_lineFeed (next?_none hnext).1 hin)
    have hstep := step_of_next? hnext
    have hlt := hstep.weight_lt
    obtain ⟨m, hm, hc', hend⟩ := hstep.units_of_feed hin hfeed
    rcases Nat.eq_or_lt_of_le hm with rfl | hm
    · rw [hend rfl] at hc'
      exact ⟨r.toList, hc' ▸ .single hstep⟩
    · obtain ⟨i, rfl⟩ := Nat.exists_eq_add_of_le (Nat.le_of_lt_succ hm)
      rw [show m + i + 1 = m + (i + 1) by omega, Nat.add_mul] at hin ⊢
      have hrest : c'.rest = c.rest.drop (m * s.encoding.unit) := by rw [hc']; rfl
      have hin' : (i + 1) * s.encoding.unit ≤ c'.rest.length := by
        rw [hrest, List.length_drop]
        omega
      obtain ⟨rs, hleads⟩ := ih c'.weight (by omega) hin' (by rw [hrest, Encoding.unitAt_drop, hfeed]) rfl
      rw [← Cursor.move_move c _ _ c'.skipping, ← hc']
      exact ⟨_, .step hstep hleads⟩

theorem exists_leads_of_boundary (s : Splitter) (finished : Bool) (h : s.encoding.Boundary bs n) :
    ∃ rs, s.Leads finished (.start bs) rs ⟨n, false, bs.drop n⟩ := by
  obtain rfl | ⟨k, rfl, hle, hfeed⟩ := h
  · exact ⟨[], .refl _⟩
  · obtain ⟨rs, hleads⟩ := s.exists_leads_of_feed finished (c := .start bs) hle hfeed
    rw [Cursor.move, Cursor.start, Nat.zero_add] at hleads
    exact ⟨rs, hleads⟩

/-! ## From a boundary -/

/-- A cursor in a byte string stands at a boundary, or skips, at a multiple of the unit; at the end of the byte
string it may be anywhere. -/
structure Anchored (s : Splitter) (bs : Bytes) (c : Cursor) : Prop where
  rest : c.rest = bs.drop c.offset
  units : c.rest ≠ [] → s.encoding.unit ∣ c.offset
  boundary : c.skipping = false → c.rest ≠ [] → s.encoding.Boundary bs c.offset

theorem anchored_start (s : Splitter) (bs : Bytes) : s.Anchored bs (.start bs) :=
  ⟨rfl, fun _ => Nat.dvd_zero _, fun _ _ => s.encoding.boundary_zero bs⟩

theorem Step.rest_ne_nil (h : s.Step finished c r c') (hpos : 0 < s.longest) : c.rest ≠ [] := by
  intro hnil
  cases h with
  | skipped _ hfound => simp [hnil] at hfound
  | dropped _ hpositive hle =>
    rw [hnil, List.length_nil] at hle
    omega
  | whole _ hfound => simp [hnil] at hfound
  | cut _ _ hlong =>
    rw [hnil, List.length_nil] at hlong
    omega
  | remainder _ _ _ _ hleft => exact hleft hnil

theorem Step.anchored (h : s.Step finished c r c') (hpos : 0 < s.longest) (hc : s.Anchored bs c) :
    s.Anchored bs c' := by
  have hunits := hc.units (h.rest_ne_nil hpos)
  have hrest (m : Nat) (b : Bool) : (c.move m b).rest = bs.drop (c.move m b).offset := by
    rw [Cursor.move_rest, hc.rest, List.drop_drop, Cursor.move_offset]
  have hfound {contentEnd stop : Nat} (h : s.encoding.terminator? c.rest = some (contentEnd, stop)) :
      s.Anchored bs (c.move stop false) := by
    obtain ⟨k, hfirst, rfl, _⟩ := Encoding.terminator?_eq_some_iff.1 h
    have hboundary := Encoding.boundary_of_feed hunits (hc.rest ▸ hfirst.inside) (hc.rest ▸ hfirst.feed)
    exact ⟨hrest _ _, fun _ => hboundary.units, fun _ _ => hboundary⟩
  cases h with
  | skipped _ h => exact hfound h
  | dropped _ _ _ hn => exact ⟨hrest _ _, fun _ => Nat.dvd_add hunits hn, nofun⟩
  | whole _ h =>
    rw [← List.take_append_drop s.longest c.rest] at hfound
    exact hfound (Encoding.terminator?_append h _)
  | cut =>
    exact ⟨hrest _ _, fun _ => Nat.dvd_add hunits (s.encoding.unit_dvd_alignDown _), nofun⟩
  | remainder => exact ⟨hrest _ _, fun hne => absurd (by simp) hne, fun _ hne => absurd (by simp) hne⟩

/-- **Records begin at boundaries.** -/
theorem Leads.boundary (h : s.Leads finished c rs c') (hpos : 0 < s.longest) (hc : s.Anchored bs c)
    (hrec : rec ∈ rs) : s.encoding.Boundary bs rec.start ∧ rec.start < bs.length := by
  induction h with
  | refl => cases hrec
  | step first others ih =>
    rcases List.mem_append.1 hrec with hrec | hrec
    · rw [Option.mem_toList] at hrec
      subst hrec
      have hne := first.rest_ne_nil hpos
      obtain ⟨hstart, _, _, hreads⟩ := first.record
      rw [hstart]
      refine ⟨hc.boundary hreads hne, ?_⟩
      rw [hc.rest, ne_eq, List.drop_eq_nil_iff] at hne
      omega
    · exact ih (first.anchored hpos hc) hrec

theorem boundary_of_mem_records (hpos : 0 < s.longest) (hrec : rec ∈ s.records finished (.start bs)) :
    s.encoding.Boundary bs rec.start ∧ rec.start < bs.length :=
  (leads_last s finished (.start bs)).1.boundary hpos (s.anchored_start bs) hrec

/-- From a boundary on a reading meets the records that begin there or later. -/
theorem mem_records_of_boundary (h : s.encoding.Boundary bs n) :
    rec ∈ s.records finished ⟨n, false, bs.drop n⟩ ↔
      rec ∈ s.records finished (.start bs) ∧ n ≤ rec.start := by
  obtain ⟨rs, hleads⟩ := s.exists_leads_of_boundary finished h
  have hrank : rank ⟨n, false, bs.drop n⟩ = 2 * n := rfl
  rw [hleads.records_eq, List.mem_append]
  constructor
  · intro hrec
    have hstart := ((leads_last s finished ⟨n, false, bs.drop n⟩).1.bounds hrec).1
    exact ⟨.inr hrec, by omega⟩
  · rintro ⟨hbefore | hrec, hstart⟩
    · obtain ⟨_, _, hlt, _⟩ := hleads.bounds hbefore
      omega
    · exact hrec

theorem exists_record_at (s : Splitter) (finished : Bool) {c : Cursor} (hreads : c.skipping = false)
    (hfeed : s.encoding.terminator? c.rest ≠ none) :
    ∃ rec ∈ s.records finished c, rec.start = c.offset := by
  rcases hnext : s.next? finished c with _ | ⟨r, c'⟩
  · exact absurd (next?_none hnext).1 hfeed
  have hstep := step_of_next? hnext
  obtain ⟨rec, rfl⟩ : ∃ rec, r = some rec := by
    cases hstep with
    | skipped hskip | dropped hskip =>
      rw [hreads] at hskip
      cases hskip
    | whole | cut | remainder => exact ⟨_, rfl⟩
  refine ⟨rec, ?_, hstep.record.1⟩
  rw [records, split_some hnext]
  simp

/-- While a record is skipped, a reading meets nothing but what comes behind its end. -/
theorem mem_records_of_skipping (hpos : 0 < s.longest) (hunits : s.encoding.unit ∣ n) :
    rec ∈ s.records finished ⟨n, true, bs.drop n⟩ ↔
      rec ∈ s.records finished (.start bs) ∧ n < rec.start := by
  rcases hfound : s.encoding.terminator? (bs.drop n) with _ | ⟨contentEnd, stop⟩
  · have hnone := ((leads_last s finished ⟨n, true, bs.drop n⟩).1.eq_nil rfl hfound).1
    rw [hnone]
    refine iff_of_false List.not_mem_nil fun ⟨hrec, hstart⟩ => ?_
    obtain ⟨k, _, hin, hfeed⟩ := (boundary_of_mem_records hpos hrec).1.exists_feed hunits hstart
    exact Encoding.unitAt_ne_lineFeed hfound hin hfeed
  · obtain ⟨k, hfirst, rfl, _⟩ := Encoding.terminator?_eq_some_iff.1 hfound
    have hstep : s.Leads finished ⟨n, true, bs.drop n⟩ [] ⟨n + (k + 1) * s.encoding.unit, false, _⟩ :=
      .single (.skipped rfl hfound)
    rw [hstep.records_eq, List.nil_append, List.drop_drop,
      mem_records_of_boundary (Encoding.boundary_of_feed hunits hfirst.inside hfirst.feed)]
    refine and_congr_right fun hrec => ⟨fun hle => ?_, fun hlt => ?_⟩
    · have hstop : 0 < (k + 1) * s.encoding.unit := Nat.mul_pos (Nat.succ_pos k) s.encoding.unit_pos
      omega
    · obtain ⟨i, hi, _, hfeed⟩ := (boundary_of_mem_records hpos hrec).1.exists_feed hunits hlt
      rw [hi]
      exact Nat.add_le_add_left (Nat.mul_le_mul_right _ (Nat.succ_le_succ (hfirst.le hfeed))) n

end Splitter

end LogTail
