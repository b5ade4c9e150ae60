import LogTail.Proofs.Continuation
import LogTail.Proofs.Processing

/-!
# Files that only grow

Where files are appended to, renamed and made, and nothing else happens to them, a tracked file is found
again under its identity, and what was read of it is the beginning of what it holds now.

* `LogFile.Stands`: a tracked file stands behind some of the records of a content. It does so in every
  longer content (`LogFile.Stands.grow`), where it is not taken for a truncated file
  (`LogFile.Seen.not_truncated`).
* `Resolution.resolve_growing`: a resolution continues the tracked files with their progress, and all other
  files are new.
-/

namespace LogTail

def Matcher.files (m : Matcher) (d : Disk) : List Candidate :=
  match m.found d with
  | .ok candidates => candidates
  | .error _ => []

/-- The disk after some files were appended to or renamed, and others were made: each file that was found
is found still, and begins with the bytes that it held. -/
def Matcher.Grows (m : Matcher) (d d' : Disk) : Prop :=
  ∀ c ∈ m.files d, ∃ c' ∈ m.files d', c'.id = c.id ∧ d.bytesAt c.path <+: d'.bytesAt c'.path

theorem Matcher.regular_of_mem_files {m : Matcher} {d : Disk} {c : Candidate} (h : c ∈ m.files d) :
    ∃ n, d.numberOf c.path = .ok n ∧ c.id = .ofNumber n ∧ d.bytesAt c.path = (d.node n).content ∧
      c.size = (d.bytesAt c.path).length ∧ c.head = (d.bytesAt c.path).take m.window := by
  unfold Matcher.files at h
  rcases hfound : m.found d with e | candidates
  · simp [hfound] at h
  · rw [hfound] at h
    obtain ⟨n, hn, hfile, _, hid, hsize, hhead⟩ := Disk.candidate?_eq_some (candidate?_of_found hfound h)
    rw [hfile.bytesAt hn]
    exact ⟨n, hn, hid, rfl, hsize, hhead⟩

theorem Digest.matchesHead_of_prefix {old content : Bytes} (h : old <+: content) (window : Nat) :
    (Digest.of (old.take window)).matchesHead (content.take window) = true := by
  obtain ⟨more, rfl⟩ := h
  have hlength : (old.take window).length ≤ ((old ++ more).take window).length := by
    rw [List.length_take, List.length_take, List.length_append]
    omega
  have htake : ((old ++ more).take window).take (old.take window).length = old.take window := by
    rw [List.length_take, List.take_take, Nat.min_eq_left (Nat.min_le_left ..),
      List.take_append_of_le_length (Nat.min_le_right ..)]
    exact List.take_eq_take_iff.2 (by omega)
  rw [matchesHead, if_neg (by exact Nat.not_lt.2 hlength)]
  exact decide_eq_true (congrArg Digest.of htake)

namespace LogFile

/-- A tracked file was last seen with a beginning of a content, and no more of it was processed. -/
structure Seen (window : Nat) (content : Bytes) (f : LogFile) : Prop where
  within : f.processed ≤ f.size
  seen : ∃ old, old <+: content ∧ f.size = old.length ∧ f.digest = Digest.of (old.take window)

/-- A tracked file stands in a content behind some of its records. -/
structure Stands (s : Splitter) (window : Nat) (content : Bytes) (rs : List Record) (f : LogFile) :
    Prop extends f.Seen window content where
  sound : f.Sound s
  leads : s.Leads false (.start content) rs (f.cursor content content.length)

section stands
variable {s : Splitter} {window : Nat} {content content' : Bytes} {rs : List Record} {f : LogFile}

theorem cursor_length (content : Bytes) (f : LogFile) :
    f.cursor content content.length = ⟨f.tailStart, f.skipping, f.tail ++ content.drop f.processed⟩ := by
  rw [cursor, List.take_of_length_le (Nat.le_of_eq List.length_drop)]

theorem Seen.processed_le (h : f.Seen window content) : f.processed ≤ content.length := by
  obtain ⟨old, hold, hsize, _⟩ := h.seen
  have := h.within
  have := hold.length_le
  omega

theorem Seen.grow (h : f.Seen window content) (hgrows : content <+: content') : f.Seen window content' := by
  obtain ⟨old, hold, hrest⟩ := h.seen
  exact ⟨h.within, old, hold.trans hgrows, hrest⟩

theorem Seen.not_truncated (h : f.Seen window content) (policy : RotationPolicy) {c : Candidate}
    (hsize : c.size = content.length) (hhead : c.head = content.take window) :
    Link.isTruncated policy f c = false := by
  obtain ⟨old, hold, _, hdigest⟩ := h.seen
  have hmatches : f.digest.matchesHead c.head = true := by
    rw [hdigest, hhead]
    exact Digest.matchesHead_of_prefix hold window
  have hnotless : ¬ c.size < f.processed := by
    rw [hsize]
    exact Nat.not_lt.2 h.processed_le
  rw [Link.isTruncated, if_neg hnotless, hmatches]
  simp

theorem Stands.grow (h : f.Stands s window content rs) (hgrows : content <+: content') :
    f.Stands s window content' rs := by
  refine ⟨h.toSeen.grow hgrows, h.sound, ?_⟩
  obtain ⟨more, rfl⟩ := hgrows
  have hleads := h.leads.append more
  rw [cursor_length] at hleads ⊢
  rw [List.drop_append_of_le_length h.processed_le, ← List.append_assoc]
  exact hleads

theorem Stands.continueFile (h : f.Stands s window content rs) {c : Candidate}
    (hsize : c.size = content.length) (hhead : c.head = content.take window) (seq : Nat) :
    (Resolution.continueFile f c seq false).Stands s window content rs where
  sound := h.sound.congr rfl rfl rfl
  within := by
    show f.processed ≤ c.size
    rw [hsize]
    exact h.processed_le
  leads := h.leads
  seen := ⟨content, List.prefix_refl content, hsize, congrArg Digest.of hhead⟩

theorem stands_track (hpos : 0 < s.longest) {c : Candidate} (hsize : c.size = content.length)
    (hhead : c.head = content.take window) (seq : Nat) :
    (Resolution.track c seq).Stands s window content [] where
  sound := ⟨Nat.le_refl _, Encoding.terminator?_nil _, hpos⟩
  within := Nat.zero_le _
  leads := by
    rw [cursor_length]
    exact .refl _
  seen := ⟨content, List.prefix_refl content, hsize, congrArg Digest.of hhead⟩

end stands

end LogFile

/-! ## Resolutions -/

namespace Resolution

section growing
variable {policy : RotationPolicy} {encoding : Encoding} {state : WatchState}
  {candidates : List Candidate}

/-- A state that tells files by identity, starts them at their beginning, and does not resume at a saved
position. -/
structure Plain (state : WatchState) : Prop where
  identity : state.useIdentity = true
  fromStart : state.skipOldData = false
  running : isResuming state = false

theorem Plain.startOf (h : Plain state) (c : Candidate) (place : Nat) :
    startOf state (resumedAt? state candidates) c place = 0 := by
  simp [Resolution.startOf, resumedAt?, h.fromStart, h.running]

theorem Plain.nextState (h : Plain state) {c : Cycle}
    (hkept : c.kept = [] → state.files = [] ∧ c.lastProcessed = none) : Plain (c.nextState state) := by
  refine ⟨h.identity, rfl, ?_⟩
  have hrunning := h.running
  rcases hfiles : c.kept with _ | ⟨f, files⟩
  · obtain ⟨hnone, hlast⟩ := hkept hfiles
    simpa [isResuming, Cycle.nextState, hfiles, hnone, hlast, renumber] using hrunning
  · simp [isResuming, Cycle.nextState, hfiles, renumber]

/-- What a resolution makes of files of which none is gone or was truncated. -/
structure Growing (policy : RotationPolicy) (state : WatchState) (candidates : List Candidate) : Prop where
  plain : Plain state
  apart : (state.files.map (·.id)).Nodup
  distinct : (candidates.map (·.id)).Nodup
  found : ∀ f ∈ state.files, ∃ c ∈ candidates, f.id = c.id
  whole : ∀ f ∈ state.files, ∀ c ∈ candidates, f.id = c.id → Link.isTruncated policy f c = false

theorem Growing.linkOf? (h : Growing policy state candidates) {i j : Nat} {f : LogFile} {c : Candidate}
    (hf : state.files[i]? = some f) (hc : candidates[j]? = some c) (hsame : f.id = c.id) :
    ∃ l, (matching policy state candidates).linkOf? j = some l ∧
      (matching policy state candidates).matchedOld i = true := by
  obtain ⟨l, rfl, rfl, hscore, hdominant⟩ :=
    dominant_of_id policy h.plain.identity h.apart h.distinct hf hc hsame
  obtain ⟨hlink, hmatched, _⟩ := linkOf?_of_dominant hscore hdominant
  exact ⟨l, hlink, hmatched⟩

theorem Growing.rotatedAway (h : Growing policy state candidates) (encoding : Encoding) :
    (resolve policy encoding state candidates).rotatedAway = [] := by
  apply List.eq_nil_iff_forall_not_mem.2
  intro f hf
  obtain ⟨i, old, _, hold, hgone, _⟩ := gone_of_mem_rotatedAway hf
  obtain ⟨c, hc, hsame⟩ := h.found old (List.mem_of_getElem? hold)
  obtain ⟨j, hj⟩ := List.getElem?_of_mem hc
  obtain ⟨_, _, hmatched⟩ := h.linkOf? hold hj hsame
  rw [hgone] at hmatched
  cases hmatched

/-- **A tracked file goes on under its identity, and every other file is new.** -/
theorem resolve_growing (h : Growing policy state candidates) (hcopies : policy.detectsCopies = false)
    {i : Nat} {f : LogFile} {c : Candidate}
    (hf : (resolve policy encoding state candidates).files[i]? = some f) (hc : candidates[i]? = some c) :
    (∃ old ∈ state.files, old.id = c.id ∧ ∃ seq, f = continueFile old c seq false) ∨
      ((∀ old ∈ state.files, old.id ≠ c.id) ∧ ∃ seq, f = track c seq) := by
  cases origin_of_getElem? hf hc with
  | @continued l old seq hchosen htracked =>
    obtain ⟨hl, hcand⟩ := mem_links_of_linkOf? hchosen
    rw [h.plain.identity] at hl
    obtain ⟨old', c', hold', hc'', hrelate⟩ := Link.mem_all.1 hl
    obtain ⟨hsame, htruncated, _⟩ := Link.relate_identity hrelate
    obtain rfl : old' = old := Option.some.inj (hold'.symm.trans htracked)
    obtain rfl : c' = c := Option.some.inj (hc''.symm.trans (hcand ▸ hc))
    have hmem := List.mem_of_getElem? htracked
    refine .inl ⟨old', hmem, hsame, seq, ?_⟩
    rw [htruncated, h.whole old' hmem c' (List.mem_of_getElem? hc) hsame]
  | copied _ _ hlooks =>
    rw [hcopies] at hlooks
    cases hlooks
  | new seq hunlinked =>
    refine .inr ⟨?_, seq, ?_⟩
    · intro old hold hsame
      obtain ⟨k, hk⟩ := List.getElem?_of_mem hold
      obtain ⟨l, hlink, _⟩ := h.linkOf? hk hc hsame
      rw [hunlinked] at hlink
      cases hlink
    · rw [h.plain.startOf]
      rfl

end growing

end Resolution

end LogTail
