import LogTail.Proofs.Growth
import LogTail.Proofs.Justification

/-!
# Growth under another digest window

A digest stands for the first bytes of a file, as many as the window of the scan that took it. After the window
was made narrower, the beginning that a scan reads has no room for all of them, and the digest does not match it
although the file begins with those very bytes (`Digest.matchesHead_take_iff`). So a file that only grew is taken
for one that was written anew, and is read again from its start; but not where nothing calls for a look at its
first bytes, as it has the size that it had, and the time too if the policy minds it (`Resolution.resolve_grown`).
-/

namespace LogTail

theorem Digest.matchesHead_take_iff {old content : Bytes} (h : old <+: content) (window window' : Nat) :
    (of (old.take window)).matchesHead (content.take window') = true ↔ min old.length window ≤ window' := by
  have hlength : (old.take window).length = min old.length window := by
    rw [List.length_take, Nat.min_comm]
  constructor
  · intro hmatches
    have hle : (old.take window).length ≤ (content.take window').length := length_le_of_matchesHead hmatches
    rw [hlength] at hle
    exact Nat.le_trans hle (List.length_take_le ..)
  · intro hroom
    have hbegins : old.take window <+: content.take window' :=
      List.prefix_take_iff.2 ⟨(List.take_prefix ..).trans h, hlength ▸ hroom⟩
    exact matchesHead_iff.2 ⟨_, hbegins, rfl⟩

/-- A tracked file that grew is taken for a truncated one unless the window has room for the bytes of its digest,
or nothing calls for a look at them. -/
theorem LogFile.Seen.isTruncated_iff {window window' : Nat} {content : Bytes} {f : LogFile} {c : Candidate}
    (h : f.Seen window content) (policy : RotationPolicy) (hsize : c.size = content.length)
    (hhead : c.head = content.take window') :
    Link.isTruncated policy f c = true ↔
      ¬ (min f.size window ≤ window' ∨ c.size = f.size ∧ (policy = .noReread ∨ c.mtime = f.mtime)) := by
  have hnotless : ¬ c.size < f.processed := by
    rw [hsize]
    exact Nat.not_lt.2 h.processed_le
  obtain ⟨old, hold, hlength, hdigest⟩ := h.seen
  rw [Link.isTruncated_iff, or_iff_right hnotless, hdigest, hhead, Digest.matchesHead_take_iff hold, hlength,
    not_or, not_and_or, not_or, and_comm]

namespace Resolution

/-- **What becomes of a tracked file that only grew**, for all policies, whichever way files are told, and all
windows of the two scans. -/
theorem resolve_grown {policy : RotationPolicy} (encoding : Encoding) {state : WatchState}
    {candidates : List Candidate} {i j : Nat} {f : LogFile} {c : Candidate} {window window' : Nat}
    {content : Bytes} (hf : state.files[i]? = some f) (hc : candidates[j]? = some c)
    (hseen : f.Seen window content) (hsize : c.size = content.length) (hhead : c.head = content.take window')
    (hcontinues : Continues policy state candidates i j) :
    ∃ g, (resolve policy encoding state candidates).files[j]? = some g ∧
      if min f.size window ≤ window' ∨ c.size = f.size ∧ (policy = .noReread ∨ c.mtime = f.mtime) then
        (resolve policy encoding state candidates).transitions[j]? = some .unchanged ∧
          g.processed = f.processed ∧ g.tail = f.tail ∧ g.skipping = f.skipping
      else
        (resolve policy encoding state candidates).transitions[j]? = some .truncated ∧
          g.processed = 0 ∧ g.tail = [] ∧ g.skipping = false := by
  obtain ⟨l, hl, rfl, rfl⟩ := hcontinues
  obtain ⟨old, c', hold, hc', hfile, ht⟩ := exists_of_mem_chosen encoding hl
  obtain rfl : old = f := Option.some.inj (hold.symm.trans hf)
  obtain rfl : c' = c := Option.some.inj (hc'.symm.trans hc)
  have hcut := truncated_of_linkOf? (linkOf?_of_mem_chosen hl) hold hc
  have hiff := hseen.isTruncated_iff policy hsize hhead
  rw [← hcut] at hiff
  refine ⟨_, hfile, ?_⟩
  rw [ht]
  by_cases hkept : min old.size window ≤ window' ∨
      c'.size = old.size ∧ (policy = .noReread ∨ c'.mtime = old.mtime)
  · have htruncated : l.truncated = false := Bool.eq_false_iff.2 fun h => hiff.1 h hkept
    rw [if_pos hkept, htruncated]
    exact ⟨rfl, rfl, rfl, rfl⟩
  · rw [if_neg hkept, hiff.2 hkept]
    exact ⟨rfl, rfl, rfl, rfl⟩

/-! A file of 19 bytes, of which the digest covers all, grows to 24 bytes. -/

def grownContent (length : Nat) : Bytes := (List.range length).map UInt8.ofNat

/-- The file as it was tracked by a watch with a window of 64 bytes. -/
def grownState : WatchState :=
  { useIdentity := true
    files := [{ path := .ofText "/log", mtime := 1, id := .ofNumber 1, size := 19, processed := 19,
                digest := .of ((grownContent 19).take 64), seq := 0 }] }

def grownCandidates (window : Nat) : List Candidate :=
  [⟨.ofText "/log", 24, 2, .ofNumber 1, (grownContent 24).take window⟩]

/-- It goes on under a window of 32 bytes, and is read again under one of 16. -/
theorem resolve_grown_narrowed :
    (∃ g, (resolve .rename .utf8 grownState (grownCandidates 32)).files[0]? = some g ∧
      (resolve .rename .utf8 grownState (grownCandidates 32)).transitions[0]? = some .unchanged ∧
      g.processed = 19 ∧ g.tail = [] ∧ g.skipping = false) ∧
    ∃ g, (resolve .rename .utf8 grownState (grownCandidates 16)).files[0]? = some g ∧
      (resolve .rename .utf8 grownState (grownCandidates 16)).transitions[0]? = some .truncated ∧
      g.processed = 0 ∧ g.tail = [] ∧ g.skipping = false := by
  have hseen : LogFile.Seen 64 (grownContent 24) (grownState.files.headI) :=
    ⟨by decide, grownContent 19, by decide, rfl, rfl⟩
  have hwide : Continues .rename grownState (grownCandidates 32) 0 0 :=
    ⟨⟨0, 0, false, 6⟩, by decide +kernel, rfl, rfl⟩
  have hnarrow : Continues .rename grownState (grownCandidates 16) 0 0 :=
    ⟨⟨0, 0, true, 6⟩, by decide +kernel, rfl, rfl⟩
  constructor
  · obtain ⟨g, hg, hrest⟩ := resolve_grown .utf8 rfl rfl hseen rfl rfl hwide
    rw [if_pos (by decide)] at hrest
    exact ⟨g, hg, hrest⟩
  · obtain ⟨g, hg, hrest⟩ := resolve_grown .utf8 rfl rfl hseen rfl rfl hnarrow
    rw [if_neg (by decide)] at hrest
    exact ⟨g, hg, hrest⟩

end Resolution

end LogTail
