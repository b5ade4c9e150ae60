import LogTail.Proofs.Accounting

/-!
# Progress that a resolution can justify

A resolution claims no progress that it cannot justify (`Resolution.resolve_justified`): a file keeps what
was read of the one that it continues, unless it was truncated, and then nothing; a copy begins with the bytes
that it counts as read, and they were read from its source; of a new file nothing was read. A file was
truncated if it is smaller than what was read, or changed and no longer begins with the bytes of its digest.

Digests compare hashes, so what they say of bytes holds among strings without collisions (`hashed`).
-/

namespace LogTail

/-! ## Digests and beginnings -/

theorem Digest.matchesHead_iff {d : Digest} {head : Bytes} :
    d.matchesHead head = true ↔ ∃ bs, bs <+: head ∧ d = of bs := by
  unfold matchesHead
  constructor
  · intro h
    by_cases hshort : head.length < d.length
    · simp [hshort] at h
    · rw [if_neg hshort, decide_eq_true_eq] at h
      exact ⟨_, List.take_prefix .., h.symm⟩
  · rintro ⟨bs, ⟨rest, rfl⟩, rfl⟩
    simp [of]

theorem Digest.length_le_of_matchesHead {d : Digest} {head : Bytes} (h : d.matchesHead head = true) :
    d.length ≤ head.length := by
  obtain ⟨bs, hprefix, rfl⟩ := matchesHead_iff.1 h
  exact hprefix.length_le

theorem Digest.eq_of_take {d : Digest} {head : Bytes} (h : d.matchesHead head = true) :
    d = of (head.take d.length) := by
  obtain ⟨bs, hprefix, rfl⟩ := matchesHead_iff.1 h
  rw [show (of bs).length = bs.length from rfl, ← List.prefix_iff_eq_take.1 hprefix]

/-- Among strings without collisions, a digest tells the bytes that it stands for. -/
theorem Digest.prefix_iff {hashed : Set Bytes} (hhash : Set.InjOn Hash.sha256 hashed) {bs head : Bytes}
    (hbs : bs ∈ hashed) (hhead : ∀ start, start <+: head → start ∈ hashed) :
    (of bs).matchesHead head = true ↔ bs <+: head := by
  rw [matchesHead_iff]
  constructor
  · rintro ⟨start, hstart, heq⟩
    obtain rfl : bs = start := hhash hbs (hhead start hstart) (congrArg Digest.sum heq)
    exact hstart
  · exact fun h => ⟨bs, h, rfl⟩

theorem Link.isTruncated_iff {policy : RotationPolicy} {f : LogFile} {c : Candidate} :
    isTruncated policy f c = true ↔ c.size < f.processed ∨
      (c.size ≠ f.size ∨ policy ≠ .noReread ∧ c.mtime ≠ f.mtime) ∧ ¬ f.digest.matchesHead c.head = true := by
  have hrechecks : policy.rechecksOnTime = true ↔ policy ≠ .noReread := by cases policy <;> decide
  unfold isTruncated
  by_cases hless : c.size < f.processed
  · simp [hless]
  · rw [if_neg hless, or_iff_right hless]
    by_cases hchanged : c.size ≠ f.size ∨ policy ≠ .noReread ∧ c.mtime ≠ f.mtime
    · rw [if_pos (by simpa [hrechecks, and_comm] using hchanged), and_iff_right hchanged, Bool.not_eq_true',
        Bool.not_eq_true]
    · rw [if_neg (by simpa [hrechecks, and_comm] using hchanged)]
      simp [hchanged]

namespace Resolution

/-! ## What a copy takes over -/

theorem copyFile_bounds (encoding : Encoding) {source : LogFile} (place : Nat) (c : Candidate) (seq : Nat)
    (h : source.tail.length ≤ source.processed) :
    (copyFile encoding source place c seq).tail.length ≤ (copyFile encoding source place c seq).processed ∧
      (copyFile encoding source place c seq).processed ≤ source.processed ∧
      (copyFile encoding source place c seq).processed ≤ min source.digest.length c.size := by
  unfold copyFile
  dsimp only
  by_cases hread : source.processed ≤ min source.digest.length c.size
  · rw [if_pos hread]
    exact ⟨h, Nat.le_refl _, hread⟩
  · rw [if_neg hread]
    by_cases htail : source.tailStart ≤ min source.digest.length c.size
    · rw [if_pos htail]
      exact ⟨Nat.zero_le _, Nat.sub_le .., htail⟩
    · rw [if_neg htail]
      exact ⟨Nat.zero_le _, Nat.le_of_not_le hread, Nat.le_refl _⟩

/-! ## What all files claim -/

/-- What the files of a resolution claim to have been read. -/
structure Justified (hashed : Set Bytes) (policy : RotationPolicy) (state : WatchState)
    (candidates : List Candidate) (r : Resolution) : Prop where
  within : ∀ f ∈ r.rotatedAway ++ r.files, f.tail.length ≤ f.processed ∧ f.processed ≤ f.size
  /-- A file that is continued keeps its progress. -/
  unchanged : ∀ (j : Nat) (f : LogFile), r.files[j]? = some f → r.transitions[j]? = some .unchanged →
    ∃ i old, Continues policy state candidates i j ∧ (∀ i', Continues policy state candidates i' j → i' = i) ∧
      state.files[i]? = some old ∧ f.processed = old.processed ∧ f.tail = old.tail ∧
      f.incomplete = old.incomplete ∧ f.skipping = old.skipping ∧ f.retry = old.retry
  /-- A truncated one starts again. -/
  truncated : ∀ (j : Nat) (f : LogFile), r.files[j]? = some f → r.transitions[j]? = some .truncated →
    f.processed = 0 ∧ f.tail = [] ∧ f.incomplete = false ∧ f.skipping = false ∧ f.retry = 0
  /-- And it is truncated if it is smaller than what was read, or changed and does not begin with the bytes of
  its digest. -/
  truncated_iff : ∀ (i j : Nat) (old : LogFile) (c : Candidate), Continues policy state candidates i j →
    state.files[i]? = some old → candidates[j]? = some c → ∀ bs ∈ hashed, old.digest = Digest.of bs →
      (r.transitions[j]? = some .truncated ↔ c.size < old.processed ∨
        (c.size ≠ old.size ∨ policy ≠ .noReread ∧ c.mtime ≠ old.mtime) ∧ ¬ bs <+: c.head)
  /-- A copy takes over progress of its source, as far as it begins with bytes of the digest. The bytes that
  are looked at are among the first ones that a scan has read. -/
  copied : ∀ (j : Nat) (f : LogFile) (c : Candidate), r.files[j]? = some f → candidates[j]? = some c →
    r.transitions[j]? = some .rotatedCopy →
      ∃ i source, f.copyOf = some i ∧ state.files[i]? = some source ∧ f.processed ≤ source.processed ∧
        min source.digest.length c.size ≤ c.head.length ∧
        source.digest = Digest.of (c.head.take source.digest.length) ∧
        f.processed ≤ source.digest.length ∧
        ∀ bs ∈ hashed, source.digest = Digest.of bs → c.head.take f.processed = bs.take f.processed
  new : ∀ (j : Nat) (f : LogFile), r.files[j]? = some f → r.transitions[j]? = some .new → f.processed = 0

section justified
variable {policy : RotationPolicy} {encoding : Encoding} {state : WatchState} {candidates : List Candidate}
  {c : Candidate} {j : Nat} {f : LogFile} {t : Transition}

theorem startOf_eq_zero (hstart : state.skipOldData = false) (hwarm : state.files ≠ [] ∨ state.lastMtime ≤ 0)
    (c : Candidate) (place : Nat) : startOf state (resumedAt? state candidates) c place = 0 := by
  have hrunning : isResuming state = false := by
    rcases hwarm with hfiles | htime
    · simp [isResuming, hfiles]
    · simp [isResuming, Int.not_lt.2 htime]
  simp [startOf, resumedAt?, hstart, hrunning]

theorem Entry.tail_le (hfiles : ∀ f ∈ state.files, f.tail.length ≤ f.processed)
    (h : Entry policy encoding state candidates c j f t) : f.tail.length ≤ f.processed := by
  cases h with
  | @continued l old _ hold =>
    unfold continueFile
    cases l.truncated
    · exact hfiles old (List.mem_of_getElem? hold)
    · exact Nat.zero_le _
  | copied _ _ hsource => exact (copyFile_bounds _ _ _ _ (hfiles _ (List.mem_of_getElem? hsource))).1
  | new => exact Nat.zero_le _

theorem resolve_inside (policy : RotationPolicy) (encoding : Encoding) (candidates : List Candidate)
    (hfiles : ∀ f ∈ state.files, f.tail.length ≤ f.processed) :
    ∀ f ∈ (resolve policy encoding state candidates).rotatedAway ++
      (resolve policy encoding state candidates).files, f.tail.length ≤ f.processed := by
  intro f hf
  rcases List.mem_append.1 hf with hf | hf
  · obtain ⟨i, old, seq, hold, _, rfl⟩ := gone_of_mem_rotatedAway hf
    exact hfiles old (List.mem_of_getElem? hold)
  · obtain ⟨j, hj⟩ := List.getElem?_of_mem hf
    obtain ⟨c, t, _, _, hentry⟩ := exists_entry_of_files hj
    exact hentry.tail_le hfiles

theorem Entry.progress_of_unchanged (h : Entry policy encoding state candidates c j f .unchanged) :
    ∃ i old, Continues policy state candidates i j ∧ state.files[i]? = some old ∧
      f.processed = old.processed ∧ f.tail = old.tail ∧ f.incomplete = old.incomplete ∧
      f.skipping = old.skipping ∧ f.retry = old.retry := by
  generalize ht : Transition.unchanged = t at h
  cases h with
  | @continued l old hchosen hold =>
    obtain ⟨hl, hcand⟩ := Matching.linkOf?_eq_some hchosen
    refine ⟨l.old, old, ⟨l, hl, rfl, hcand⟩, hold, ?_⟩
    cases hcut : l.truncated
    · exact ⟨rfl, rfl, rfl, rfl, rfl⟩
    · simp [hcut] at ht
  | copied => cases ht
  | new => cases ht

theorem Entry.progress_of_truncated (h : Entry policy encoding state candidates c j f .truncated) :
    f.processed = 0 ∧ f.tail = [] ∧ f.incomplete = false ∧ f.skipping = false ∧ f.retry = 0 := by
  generalize ht : Transition.truncated = t at h
  cases h with
  | @continued l old hchosen hold =>
    cases hcut : l.truncated
    · simp [hcut] at ht
    · exact ⟨rfl, rfl, rfl, rfl, rfl⟩
  | copied => cases ht
  | new => cases ht

theorem matchesHead_of_claimed {i : Nat} {source : LogFile}
    (hclaimed : (copies policy state candidates).sources[j]? = some (some i)) (hc : candidates[j]? = some c)
    (hsource : state.files[i]? = some source) :
    policy.detectsCopies = true ∧ source.digest.matchesHead c.head = true := by
  obtain ⟨hlooks, ⟨c', hc', _, hjudge⟩, _⟩ := sources_eq_some.1 hclaimed
  obtain rfl : c' = c := Option.some.inj (hc'.symm.trans hc)
  obtain ⟨source', hsource', hshares⟩ := Copies.exists_of_judge hjudge
  obtain rfl : source' = source := Option.some.inj (hsource'.symm.trans hsource)
  exact ⟨hlooks, (Bool.and_eq_true_iff.1 hshares).2⟩

theorem Entry.progress_of_copy (hfiles : ∀ f ∈ state.files, f.tail.length ≤ f.processed)
    (h : Entry policy encoding state candidates c j f .rotatedCopy) (hc : candidates[j]? = some c) :
    ∃ i source, f.copyOf = some i ∧ state.files[i]? = some source ∧ f.processed ≤ source.processed ∧
      f.processed ≤ min source.digest.length c.size ∧ source.digest.matchesHead c.head = true := by
  generalize ht : Transition.rotatedCopy = t at h
  cases h with
  | @continued l => cases hcut : l.truncated <;> simp [hcut] at ht
  | @copied i source _ hclaimed hsource =>
    obtain ⟨_, hread, hshared⟩ :=
      copyFile_bounds encoding i c ((resolve policy encoding state candidates).rotatedAway.length + j)
        (hfiles source (List.mem_of_getElem? hsource))
    exact ⟨i, source, copyFile_copyOf .., hsource, hread, hshared, (matchesHead_of_claimed hclaimed hc hsource).2⟩
  | new => cases ht

theorem transitions_truncated_iff {i : Nat} {old : LogFile} (h : Continues policy state candidates i j)
    (hold : state.files[i]? = some old) (hc : candidates[j]? = some c) :
    (resolve policy encoding state candidates).transitions[j]? = some .truncated ↔
      Link.isTruncated policy old c = true := by
  obtain ⟨l, hl, rfl, rfl⟩ := h
  obtain ⟨_, _, _, _, _, ht⟩ := exists_of_mem_chosen encoding hl
  rw [ht, truncated_of_linkOf? (linkOf?_of_mem_chosen hl) hold hc]
  cases Link.isTruncated policy old c <;> simp

end justified

/-- **A resolution claims no progress that it cannot justify.** -/
theorem resolve_justified {hashed : Set Bytes} (hhash : Set.InjOn Hash.sha256 hashed)
    (policy : RotationPolicy) (encoding : Encoding) {state : WatchState} {candidates : List Candidate}
    (hheads : ∀ c ∈ candidates, ∀ bs, bs <+: c.head → bs ∈ hashed) (hstart : state.skipOldData = false)
    (hwarm : state.files ≠ [] ∨ state.lastMtime ≤ 0)
    (hfiles : ∀ f ∈ state.files, f.tail.length ≤ f.processed ∧ f.processed ≤ f.size) :
    Justified hashed policy state candidates (resolve policy encoding state candidates) where
  within := by
    intro f hf
    exact ⟨resolve_inside policy encoding candidates (fun f hf => (hfiles f hf).1) f hf,
      resolve_within (fun f hf => (hfiles f hf).2) f hf⟩
  unchanged := by
    intro j f hf ht
    obtain ⟨c, t, _, ht', hentry⟩ := exists_entry_of_files hf
    obtain rfl := Option.some.inj (ht'.symm.trans ht)
    obtain ⟨i, old, hcontinues, hold, hkeeps⟩ := hentry.progress_of_unchanged
    exact ⟨i, old, hcontinues, fun i' h => h.eq_old hcontinues, hold, hkeeps⟩
  truncated := by
    intro j f hf ht
    obtain ⟨c, t, _, ht', hentry⟩ := exists_entry_of_files hf
    obtain rfl := Option.some.inj (ht'.symm.trans ht)
    exact hentry.progress_of_truncated
  truncated_iff := by
    intro i j old c hcontinues hold hc bs hbs hdigest
    rw [transitions_truncated_iff hcontinues hold hc, Link.isTruncated_iff, hdigest,
      Digest.prefix_iff hhash hbs (hheads c (List.mem_of_getElem? hc))]
  copied := by
    intro j f c hf hc ht
    obtain ⟨c', t, hc', ht', hentry⟩ := exists_entry_of_files hf
    obtain rfl := Option.some.inj (ht'.symm.trans ht)
    obtain rfl : c' = c := Option.some.inj (hc'.symm.trans hc)
    obtain ⟨i, source, hcopy, hsource, hread, hshared, hmatches⟩ :=
      hentry.progress_of_copy (fun f hf => (hfiles f hf).1) hc'
    have hwithin : f.processed ≤ source.digest.length := Nat.le_trans hshared (Nat.min_le_left ..)
    refine ⟨i, source, hcopy, hsource, hread,
      Nat.le_trans (Nat.min_le_left ..) (Digest.length_le_of_matchesHead hmatches), Digest.eq_of_take hmatches,
      hwithin, fun bs hbs hdigest => ?_⟩
    rw [hdigest, Digest.prefix_iff hhash hbs (hheads c' (List.mem_of_getElem? hc))] at hmatches
    rw [hdigest] at hwithin
    obtain ⟨rest, hrest⟩ := hmatches
    rw [← hrest, List.take_append_of_le_length hwithin]
  new := by
    intro j f hf ht
    obtain ⟨c, t, _, ht', hentry⟩ := exists_entry_of_files hf
    obtain rfl := Option.some.inj (ht'.symm.trans ht)
    generalize htransition : Transition.new = t at hentry
    cases hentry with
    | @continued l => cases hcut : l.truncated <;> simp [hcut] at htransition
    | copied => cases htransition
    | new => exact startOf_eq_zero hstart hwarm ..

/-! A file that was copied and cut. -/

def wholeState : WatchState :=
  { useIdentity := true
    files := [{ path := .ofText "/log", mtime := 5, id := .ofNumber 1, size := 2, processed := 2,
                digest := .of [0x61, 0x0a], seq := 0 }] }

/-- A copy of it, and the file with nothing in it. -/
def cutCandidates : List Candidate :=
  [⟨.ofText "/log.1", 2, 6, .ofNumber 2, [0x61, 0x0a]⟩, ⟨.ofText "/log", 0, 6, .ofNumber 1, []⟩]

theorem resolve_justified_cut :
    Justified {bs | bs <+: [0x61, 0x0a]} .copyTruncate wholeState cutCandidates
      (resolve .copyTruncate .utf8 wholeState cutCandidates) ∧
    (resolve .copyTruncate .utf8 wholeState cutCandidates).transitions = [.rotatedCopy, .truncated] := by
  have hhash : Set.InjOn Hash.sha256 {bs | bs <+: [0x61, 0x0a]} := by
    have hinits : ∀ bs ∈ ([0x61, 0x0a] : Bytes).inits, ∀ bs' ∈ ([0x61, 0x0a] : Bytes).inits,
        Hash.sha256 bs = Hash.sha256 bs' → bs = bs' := by decide +kernel
    intro bs hbs bs' hbs'
    exact hinits bs ((List.mem_inits ..).2 hbs) bs' ((List.mem_inits ..).2 hbs')
  have hheads : ∀ c ∈ cutCandidates, c.head <+: [0x61, 0x0a] := by decide +kernel
  exact ⟨resolve_justified hhash .copyTruncate .utf8 (fun c hc bs hbs => hbs.trans (hheads c hc)) rfl
    (.inl (by decide)) (by decide), by decide +kernel⟩

end Resolution

end LogTail
