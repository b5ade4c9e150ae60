import LogTail.Proofs.Scanning
import Mathlib.Data.List.Sort

/-!
# The order of reading

A scan gives its candidates by time and then by descending name, and this is an order in which any two can be
compared (`Matcher.precedes_total`, `Matcher.precedes_trans`); so no candidate stands before an older one
(`Matcher.found_ordered`), and as no two have the same name, the order is strict (`Matcher.scan_before`). A stable sort
by such an order is an insertion sort, which computes.
-/

namespace LogTail

/-- Where any two can be compared, a stable sort inserts one after the other. -/
theorem mergeSort_eq_insertionSort {α : Type} {le : α → α → Bool}
    (htrans : ∀ a b c, le a b = true → le b c = true → le a c = true)
    (htotal : ∀ a b, (le a b || le b a) = true) (xs : List α) :
    xs.mergeSort le = xs.insertionSort fun a b => le a b = true := by
  induction xs with
  | nil => simp
  | cons x xs ih =>
    obtain ⟨front, back, hsorted, hrest, hfront⟩ := List.mergeSort_cons htrans htotal x xs
    have hpairwise := List.pairwise_mergeSort htrans htotal (x :: xs)
    rw [hsorted, List.pairwise_append, List.pairwise_cons] at hpairwise
    have hgo : ∀ b ∈ front, decide (¬ le x b = true) = true := fun b hb => by simpa using hfront b hb
    have hstop : back.takeWhile (fun b => decide ¬ le x b = true) = [] ∧
        back.dropWhile (fun b => decide ¬ le x b = true) = back := by
      rcases back with _ | ⟨b, back⟩
      · exact ⟨rfl, rfl⟩
      · have hle := hpairwise.2.1.1 b (by simp)
        exact ⟨List.takeWhile_cons_of_neg (by simpa using hle), List.dropWhile_cons_of_neg (by simpa using hle)⟩
    rw [List.insertionSort_cons, ← ih, hsorted, hrest, List.orderedInsert_eq_take_drop,
      List.takeWhile_append_of_pos hgo, List.dropWhile_append_of_pos hgo, hstop.1, hstop.2, List.append_nil]

namespace Path

theorem nameLe_iff {a b : Bytes} : nameLe a b = true ↔ a ≤ b := by
  induction a generalizing b with
  | nil => simp [nameLe]
  | cons x a ih =>
    cases b with
    | nil => simp [nameLe]
    | cons y b =>
      rw [nameLe, List.cons_le_cons_iff]
      by_cases heq : x = y
      · subst heq
        simpa [UInt8.lt_irrefl] using ih
      · simp [heq]

end Path

namespace Matcher

theorem nameAtLeast_total (a b : Path) : (nameAtLeast a b || nameAtLeast b a) = true := by
  unfold nameAtLeast
  rcases a.fileName? with _ | x <;> rcases b.fileName? with _ | y <;>
    simp only [Bool.or_true, Bool.true_or, Bool.or_eq_true, Path.nameLe_iff]
  exact List.le_total y x

theorem nameAtLeast_trans {a b c : Path} (hab : nameAtLeast a b = true) (hbc : nameAtLeast b c = true) :
    nameAtLeast a c = true := by
  unfold nameAtLeast at *
  rcases ha : a.fileName? with _ | x <;> rcases hb : b.fileName? with _ | y <;>
    rcases hc : c.fileName? with _ | z <;>
    simp only [ha, hb, hc, Bool.false_eq_true, Path.nameLe_iff] at hab hbc ⊢
  exact List.le_trans hbc hab

theorem precedes_total (a b : Candidate) : (precedes a b || precedes b a) = true := by
  have hnames := nameAtLeast_total a.path b.path
  simp only [precedes, Bool.or_eq_true, Bool.and_eq_true, decide_eq_true_eq] at hnames ⊢
  rcases Int.lt_trichotomy a.mtime b.mtime with hlt | heq | hgt
  · exact .inl (.inl hlt)
  · exact hnames.imp (fun h => .inr ⟨heq, h⟩) (fun h => .inr ⟨heq.symm, h⟩)
  · exact .inr (.inl hgt)

theorem precedes_trans (a b c : Candidate) (hab : precedes a b = true) (hbc : precedes b c = true) :
    precedes a c = true := by
  simp only [precedes, Bool.or_eq_true, Bool.and_eq_true, decide_eq_true_eq] at hab hbc ⊢
  rcases hab with hab | ⟨hab, hnames⟩ <;> rcases hbc with hbc | ⟨hbc, hnames'⟩
  · exact .inl (Int.lt_trans hab hbc)
  · exact .inl (hbc ▸ hab)
  · exact .inl (hab ▸ hbc)
  · exact .inr ⟨hab.trans hbc, nameAtLeast_trans hnames hnames'⟩

/-- The order of the candidates of a scan, in a form that computes. -/
theorem inOrder_eq_insertionSort (scan : Scan) :
    inOrder scan = { scan with candidates := scan.candidates.insertionSort fun a b => precedes a b = true } := by
  rw [inOrder, mergeSort_eq_insertionSort precedes_trans precedes_total]

/-- **Candidates are read by time**, the oldest first. -/
theorem found_ordered {m : Matcher} {d : Disk} {candidates : List Candidate} (h : m.found d = .ok candidates) :
    candidates.Pairwise fun a b => a.mtime ≤ b.mtime := by
  rcases of_found h with ⟨path, rfl⟩ | ⟨directory, name, names, -, rfl⟩
  · rcases d.candidate? m.window path with _ | c
    · exact .nil
    · exact List.pairwise_singleton ..
  · refine (List.pairwise_mergeSort precedes_trans precedes_total _).imp fun {a b} hab => ?_
    simp only [precedes, Bool.or_eq_true, Bool.and_eq_true, decide_eq_true_eq] at hab
    omega

end Matcher

/-! ## The strict order -/

/-- One candidate is read before another: it is older, or of the same time and has the greater name in the order of
bytes. -/
inductive Candidate.Before (a b : Candidate) : Prop where
  | older (h : a.mtime < b.mtime)
  | named {x y : Bytes} (h : a.mtime = b.mtime) (first : a.path.fileName? = some x)
      (second : b.path.fileName? = some y) (greater : y < x)

theorem Candidate.Before.asymm {a b : Candidate} (h : a.Before b) (h' : b.Before a) : False := by
  cases h with
  | older h =>
    cases h' with
    | older h' => exact Int.lt_asymm h h'
    | named heq => exact Int.ne_of_lt h heq.symm
  | named heq hx hy hlt =>
    cases h' with
    | older h' => exact Int.ne_of_lt h' heq.symm
    | named _ hy' hx' hlt' =>
      cases hx.symm.trans hx'
      cases hy.symm.trans hy'
      exact List.lt_asymm hlt hlt'

namespace Matcher

theorem before_of_precedes {a b : Candidate} {x y : Bytes} (h : precedes a b = true)
    (hx : a.path.fileName? = some x) (hy : b.path.fileName? = some y) (hne : x ≠ y) : a.Before b := by
  simp only [precedes, nameAtLeast, hx, hy, Bool.or_eq_true, Bool.and_eq_true, decide_eq_true_eq, Path.nameLe_iff] at h
  rcases h with hlt | ⟨heq, hle⟩
  · exact .older hlt
  · exact .named heq hx hy (Std.lt_of_le_of_ne hle hne.symm)

/-- **Candidates are in strict order**, by time and then by descending name, whatever the world does during the
scan. -/
theorem scan_before {m : Matcher} {directory : Path} {name : Pattern} {w w' : World} {scan : Scan}
    (htarget : m.target = .rotated directory name) (hw : w.Proper) (h : m.scan w = (.ok scan, w')) :
    scan.candidates.Pairwise Candidate.Before := by
  obtain ⟨found, -, hperm⟩ := scan_names htarget hw h
  have hnamed : ∀ c ∈ scan.candidates, ∃ x, c.path.fileName? = some x := fun c hc => by
    obtain ⟨x, -, hx⟩ := List.mem_map.1 (hperm.subset (List.mem_map_of_mem hc))
    exact ⟨x, hx.symm⟩
  have hsorted : scan.candidates.Pairwise fun a b => precedes a b = true := by
    obtain ⟨names, w₁, -, rfl⟩ := of_scan htarget h
    exact List.pairwise_mergeSort precedes_trans precedes_total _
  refine (hsorted.and (List.pairwise_map.1 (nodup_names hw h))).imp_of_mem fun {a b} ha hb hab => ?_
  obtain ⟨x, hx⟩ := hnamed a ha
  obtain ⟨y, hy⟩ := hnamed b hb
  exact before_of_precedes hab.1 hx hy fun heq => hab.2 (by rw [hx, hy, heq])

end Matcher

end LogTail
