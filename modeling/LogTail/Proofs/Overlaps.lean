import LogTail.Proofs.Names
import LogTail.Proofs.Reference
import LogTail.Proofs.Retrying

/-!
# No bytes are offered twice

The offers of a cycle are made of parts of the files on the disk. On a disk without links, which stays as it is, and
when nothing is tied, parts of one file do not overlap (`Watcher.offers_apart`), unless two entries are doubled.

What rotated away is looked for under its last path by its identity or its first bytes alone, and the file that stands
there may be one of the scan. Then the resolution has passed that candidate over, for which there are three reasons
and no others (`Resolution.passedOver_iff`): it is older than the tracked file, or another tracked file is continued
there, because this one was empty or has not the candidate's size and time.

* `Span`: a part of a file that is read for an entry; parts that are read for one entry follow each other
  (`Watcher.spans_of_entry`).
* `Watcher.doubled_of_same`: why one file is read for two entries.
-/

namespace LogTail

/-! ## Files that are passed over -/

namespace Link

variable {policy : RotationPolicy} {useIdentity : Bool} {previous : List LogFile} {f : LogFile} {c : Candidate}
  {base : Nat}

theorem base?_cases (h : base? policy useIdentity previous f c = some base) :
    base = 4 ∧ (useIdentity = true ∨ policy.detectsCopies = false ∧ sharesPrefix f c = true) ∨
      base = 0 ∧ useIdentity = false ∧ sameName f c = true ∧
        (policy.detectsCopies = true ∨ f.digest.isEmpty = true) := by
  unfold base? at h
  unfold sharesPrefix
  grind

theorem exists_base? (hname : sameName f c = true)
    (hknown : if useIdentity then f.id = c.id else f.digest.matchesHead c.head = true) :
    (∃ base, base? policy useIdentity previous f c = some base) ∨
      useIdentity = false ∧ policy.detectsCopies = false ∧ f.digest.isEmpty = false ∧ c.mtime < f.mtime := by
  by_cases huse : useIdentity = true
  · rw [if_pos huse] at hknown
    exact .inl ⟨4, by rw [base?, if_pos huse, if_pos hknown]⟩
  rw [if_neg huse] at hknown
  by_cases hcopies : policy.detectsCopies = true
  · exact .inl ⟨0, by simp [base?, huse, hcopies, hname, hknown]⟩
  by_cases hempty : f.digest.isEmpty = true
  · exact .inl ⟨0, by simp [base?, huse, hcopies, hempty, hname]⟩
  by_cases holder : c.mtime < f.mtime
  · exact .inr ⟨by simpa using huse, by simpa using hcopies, by simpa using hempty, holder⟩
  · exact .inl ⟨4, by simp [base?, huse, hcopies, hempty, holder, hknown]⟩

theorem score_of_relate {i j : Nat} {l : Link} (h : relate policy useIdentity previous (f, i) (c, j) = some l) :
    ∃ base, base? policy useIdentity previous f c = some base ∧
      l.score = base + (if sameName f c then 2 else 0) + (if sameStat f c then 1 else 0) := by
  obtain ⟨base, hbase, rfl⟩ := Option.map_eq_some_iff.1 h
  exact ⟨base, hbase, rfl⟩

end Link

namespace Resolution

/-- Why a candidate is not taken for a tracked file, though it stands under the path of that file and is recognized
by its identity or its first bytes. -/
inductive PassedOver (policy : RotationPolicy) (state : WatchState) (candidates : List Candidate) (f : LogFile)
    (c : Candidate) (place : Nat) : Prop
  /-- Told by content, it is not as new as the tracked file was. -/
  | backwards (content : state.useIdentity = false) (plain : policy.detectsCopies = false)
    (known : f.digest.isEmpty = false) (older : c.mtime < f.mtime)
  /-- It continues another tracked file of the same name, with the size and the time that this one had. -/
  | outdone {i : Nat} {g : LogFile} (tracked : state.files[i]? = some g)
    (continues : Continues policy state candidates i place) (name : Link.sameName g c = true)
    (stat : Link.sameStat g c = true) (changed : Link.sameStat f c = false)
  /-- Told by content, the tracked file had none yet, and the candidate continues another one that had. -/
  | blank {i : Nat} {g : LogFile} (content : state.useIdentity = false) (plain : policy.detectsCopies = false)
    (unknown : f.digest.isEmpty = true) (tracked : state.files[i]? = some g)
    (continues : Continues policy state candidates i place) (shares : Link.sharesPrefix g c = true)

section passed
variable {policy : RotationPolicy} {encoding : Encoding} {state : WatchState} {candidates : List Candidate}
  {f : LogFile} {c : Candidate} {i j : Nat}

theorem PassedOver.not_continues (h : PassedOver policy state candidates f c j) (hf : state.files[i]? = some f)
    (hc : candidates[j]? = some c) : ¬ Continues policy state candidates i j := by
  intro hcontinues
  have hsame {i' : Nat} {g : LogFile} (hg : state.files[i']? = some g)
      (hcontinues' : Continues policy state candidates i' j) : g = f := by
    obtain rfl := hcontinues'.eq_old hcontinues
    exact Option.some.inj (hg.symm.trans hf)
  cases h with
  | backwards huse hplain hfull holder =>
    obtain ⟨l, hl, rfl, rfl⟩ := hcontinues
    obtain ⟨hmem, -⟩ := mem_links_of_linkOf? (linkOf?_of_mem_chosen hl)
    obtain ⟨f', c', hf', hc', hrelate⟩ := Link.mem_all.1 hmem
    obtain rfl := Option.some.inj (hf'.symm.trans hf)
    obtain rfl := Option.some.inj (hc'.symm.trans hc)
    simp [Link.relate, Link.base?, huse, hplain, hfull, holder] at hrelate
  | outdone hg hcontinues' _ hstat hchanged =>
    rw [hsame hg hcontinues', hchanged] at hstat
    cases hstat
  | blank _ _ hempty hg hcontinues' hshares =>
    rw [hsame hg hcontinues', Link.sharesPrefix, hempty] at hshares
    cases hshares

/-- Where nothing is tied, a link of a tracked file that is not continued gives way to a link of the same candidate
that scores more. -/
theorem exists_rival {l : Link} (hclear : (resolve policy encoding state candidates).ambiguous = [])
    (hf : state.files[i]? = some f) (hno : ∀ k, ¬ Continues policy state candidates i k)
    (hc : candidates[j]? = some c)
    (hl : Link.relate policy state.useIdentity state.files (f, i) (c, j) = some l) :
    ∃ (i' : Nat) (g : LogFile) (l' : Link), state.files[i']? = some g ∧ Continues policy state candidates i' j ∧
      Link.relate policy state.useIdentity state.files (g, i') (c, j) = some l' ∧ l.score < l'.score := by
  obtain ⟨hold, hcand⟩ := Link.relate_ends hl
  have hnotChosen : ∀ l' ∈ (matching policy state candidates).chosen, l'.old ≠ l.old := fun l' hl' heq =>
    hno l'.cand ⟨l', hl', heq.trans hold, rfl⟩
  have hmem : l ∈ Link.all policy state.useIdentity state.files candidates :=
    Link.mem_all.2 ⟨f, c, by rwa [hold], by rwa [hcand], by rw [hold, hcand]; exact hl⟩
  have hclear' (k s : Nat) :
      ¬ (Matching.assignment (Link.all policy state.useIdentity state.files candidates)).TiedCand
        (Link.all policy state.useIdentity state.files candidates) k s := by
    intro htied
    obtain ⟨_, -, hambiguous, -⟩ := new_of_tied encoding (mem_tied.2 ⟨s, htied⟩)
    rw [hclear] at hambiguous
    cases hambiguous
  have hlevels := Matching.byLevels score_le_of_mem_all
    (Link.nodup_all policy state.useIdentity state.files candidates)
  rcases hlevels.outdone hmem (fun h => hnotChosen l h rfl) with ⟨l', hl', hless, hends⟩ | ⟨s, -, htied | htied⟩
  · have hends := (hends.resolve_left (hnotChosen l' hl')).trans hcand
    obtain ⟨hmem', -⟩ := mem_links_of_linkOf? (linkOf?_of_mem_chosen hl')
    obtain ⟨g, c', hg, hc', hrelate⟩ := Link.mem_all.1 hmem'
    rw [hends] at hc' hrelate
    obtain rfl := Option.some.inj (hc'.symm.trans hc)
    exact ⟨l'.old, g, l', hg, ⟨l', hl', rfl, hends⟩, hrelate, hless⟩
  · obtain ⟨l', hl', -, hrest⟩ := htied
    exact absurd ⟨l', hl', rfl, hrest⟩ (hclear' l'.cand s)
  · exact absurd htied (hclear' l.cand s)

/-- **A tracked file of which a candidate is recognized under its path is continued there, or passed over**, if
nothing is tied and it is not continued elsewhere. -/
theorem passedOver_iff (hclear : (resolve policy encoding state candidates).ambiguous = [])
    (hf : state.files[i]? = some f) (helse : ∀ k, Continues policy state candidates i k → k = j)
    (hc : candidates[j]? = some c) (hname : Link.sameName f c = true)
    (hknown : if state.useIdentity then f.id = c.id else f.digest.matchesHead c.head = true) :
    PassedOver policy state candidates f c j ↔ ¬ Continues policy state candidates i j := by
  refine ⟨fun h => h.not_continues hf hc, fun hno => ?_⟩
  have hlinked : (∃ base, Link.base? policy state.useIdentity state.files f c = some base) ∨ _ :=
    Link.exists_base? hname hknown
  rcases hlinked with ⟨base, hbase⟩ | ⟨huse, hplain, hfull, holder⟩
  rotate_left
  · exact .backwards huse hplain hfull holder
  obtain ⟨l, hl⟩ : ∃ l, Link.relate policy state.useIdentity state.files (f, i) (c, j) = some l := by
    simp [Link.relate, hbase]
  obtain ⟨i', g, l', hg, hcontinues, hl', hless⟩ :=
    exists_rival hclear hf (fun k hk => hno (helse k hk ▸ hk)) hc hl
  -- the names being the same, the other scores more for its content, or for its size and time
  obtain ⟨base₁, hbase₁, hscore⟩ := Link.score_of_relate hl
  obtain rfl := Option.some.inj (hbase.symm.trans hbase₁)
  obtain ⟨base', hbase', hscore'⟩ := Link.score_of_relate hl'
  rw [hscore, hscore', if_pos hname] at hless
  by_cases hsame : base' = base
  · refine .outdone hg hcontinues ?_ ?_ ?_ <;> grind
  · rcases Link.base?_cases hbase with ⟨rfl, hwhy⟩ | ⟨rfl, huse, -, hwhy⟩ <;>
      rcases Link.base?_cases hbase' with ⟨rfl, hwhy'⟩ | ⟨rfl, huse', hname', hwhy'⟩
    · exact absurd rfl hsame
    · grind
    · refine .blank huse ?_ ?_ hg hcontinues ?_ <;> grind
    · exact absurd rfl hsame

end passed

end Resolution

/-! ## Records of one reading -/

namespace Watcher

/-- An offer is made of what the filter leaves of a record, and ends where the record does. -/
structure MadeOf (watch : Watcher) (o : Offer) (r : Record) : Prop where
  value : watch.value? r = some o.delivery.value
  stop : r.stop = o.delivery.stop

section reading
variable {watch : Watcher} {sink : Sink} {d : Disk} {content : Bytes} {finished : Bool} {c : Cursor}
  {s s' : Reading} {outcome : FileOutcome}

theorem made_leftOf (watch : Watcher) (rs : List Record) : ∃ made : List Record, made.Sublist rs ∧
    List.Forall₂ (fun left r => watch.value? r = some left.1 ∧ r.stop = left.2) (watch.leftOf rs) made := by
  induction rs with
  | nil => exact ⟨[], .slnil, .nil⟩
  | cons r rs ih =>
    obtain ⟨made, hsub, hmade⟩ := ih
    rcases hvalue : watch.value? r with _ | value
    · refine ⟨made, hsub.cons r, ?_⟩
      rwa [leftOf, List.filterMap_cons_none (by rw [hvalue]; rfl)]
    · refine ⟨r :: made, hsub.cons_cons r, ?_⟩
      rw [leftOf, List.filterMap_cons_some (by rw [hvalue]; rfl)]
      exact .cons ⟨hvalue, rfl⟩ hmade

theorem made_offersOf (watch : Watcher) (t : Tracker) (f : LogFile) (rs : List Record) :
    ∃ made : List Record, made.Sublist rs ∧ List.Forall₂ watch.MadeOf (watch.offersOf t f rs) made := by
  obtain ⟨made, hsub, hmade⟩ := watch.made_leftOf rs
  have hleft := watch.map_offersOf (g := fun o => (o.delivery.value, o.delivery.stop)) id t f (fun _ _ => rfl) rs
  rw [List.map_id] at hleft
  rw [← hleft, List.forall₂_map_left_iff] at hmade
  exact ⟨made, hsub, hmade.imp fun _ _ h => ⟨h.1, h.2⟩⟩

theorem Reads.made (h : watch.Reads sink d content finished c s (outcome, s')) :
    ∃ offers made, s'.tracker.offers = offers.reverse ++ s.tracker.offers ∧
      made.Sublist (watch.splitter.records finished c) ∧ List.Forall₂ watch.MadeOf offers made := by
  have htaken {rs : List Record} {c₁ : Cursor} {s₁ : Reading} (htook : watch.Took d content finished c s rs c₁ s₁) :
      ∃ offers made, s₁.tracker.offers = offers.reverse ++ s.tracker.offers ∧
        made.Sublist rs ∧ List.Forall₂ watch.MadeOf offers made := by
    obtain ⟨made, hsub, hmade⟩ := watch.made_offersOf s.tracker s.file rs
    exact ⟨_, made, htook.accounts.offers, hsub, hmade⟩
  cases h with
  | ended _ htook | budget htook =>
    obtain ⟨offers, made, hoffers, hsub, hmade⟩ := htaken htook
    refine ⟨offers, made, hoffers, ?_, hmade⟩
    rw [htook.leads.records_eq]
    exact hsub.trans (List.sublist_append_left ..)
  | @rejected rs c₁ c₂ s₁ r value w htook hnext hleft =>
    obtain ⟨offers, made, hoffers, hsub, hmade⟩ := htaken htook
    refine ⟨offers ++ [⟨s₁.tracker.delivery s₁.file value r.stop, false⟩], made ++ [r], ?_, ?_, ?_⟩
    · rw [refuse, hoffers]
      simp
    · rw [htook.leads.records_eq, (Splitter.Leads.single hnext).records_eq, ← List.append_assoc]
      exact (hsub.append (.refl _)).trans (List.sublist_append_left ..)
    · exact List.rel_append hmade (.cons ⟨hleft, rfl⟩ .nil)

end reading

end Watcher

/-! ## Cycles -/

def Entry.records (watch : Watcher) (d : Disk) (e : Entry) : List Record :=
  match e.turn.read? with
  | some (finished, _, before, _) => watch.splitter.records finished (before.file.ahead d)
  | none => []

theorem Entry.turn_of_mem_records {watch : Watcher} {d : Disk} {e : Entry} {r : Record} (h : r ∈ e.records watch d) :
    ∃ finished outcome before after, e.turn = .read finished outcome before after := by
  unfold records at h
  rcases hread : e.turn.read? with _ | ⟨finished, outcome, before, after⟩
  · rw [hread] at h
    cases h
  · exact ⟨finished, outcome, before, after, Turn.eq_of_read? hread⟩

/-- A part of a file, which a cycle reads for an entry. -/
structure Span where
  entry : Entry
  number : Nat
  record : Record

/-- The part is one of the records that are ahead of the entry in the file that its path leads to. -/
structure Span.Ahead (watch : Watcher) (d : Disk) (s : Span) : Prop where
  file : d.numberOf s.entry.resolved.path = .ok s.number
  record : s.record ∈ s.entry.records watch d

namespace Watcher

/-- A disk that is a tree, without links to the files that a state tracks and to those that a watch finds. -/
structure Linkless (watch : Watcher) (state : WatchState) (d : Disk) : Prop where
  proper : d.Proper
  tree : d.Tree
  kinds : d.Kinds
  tracked : ∀ f ∈ state.files, d.Unlinked f.path
  found : ∀ c ∈ watch.matcher.files d, d.Unlinked c.path

/-- Why a cycle reads one file for two of its entries. -/
inductive Doubled (watch : Watcher) (state : WatchState) (candidates : List Candidate) (d : Disk) (e e' : Entry) : Prop
  /-- The first rotated away, because the candidate that stands under its path was not taken for it. -/
  | passedOver {i j seq : Nat} {f : LogFile} {c : Candidate} (away : e.scanned = false) (scanned : e'.scanned = true)
    (tracked : state.files[i]? = some f) (left : e.resolved = { f with seq := seq, copyOf := none })
    (found : candidates[j]? = some c) (taken : (watch.resolution state candidates).files[j]? = some e'.resolved)
    (passed : Resolution.PassedOver watch.config.rotation state candidates f c j)
  /-- Both rotated away, and their paths are two spellings of one. -/
  | respelled (away : e.scanned = false) (away' : e'.scanned = false) (differ : e.resolved.path ≠ e'.resolved.path)
    (leads : d.walk true e.resolved.path = d.walk true e'.resolved.path)

/-- An offer is made of a part of a file that is read for the entry to which the offer belongs. -/
structure MadeIn (watch : Watcher) (d : Disk) (entries : List Entry) (o : Offer) (s : Span) : Prop
    extends watch.MadeOf o s.record, s.Ahead watch d where
  entry : entries[o.delivery.seq]? = some s.entry

section entries
variable {watch : Watcher} {sink : Sink} {time : CycleTime} {state : WatchState} {d : Disk} {w : World}
  {candidates : List Candidate} {e e' : Entry} {finished : Bool} {outcome : FileOutcome} {before after : Reading}
  {n : Nat} (hchunk : 0 < watch.config.chunkSize) (hmax : watch.config.chunkSize ≤ watch.config.maxRecordSize)
  (hfiles : ∀ f ∈ state.files, f.Tidy watch.splitter ∧ f.processed ≤ f.size) (hw : w.Still d)

section turn
variable (he : e ∈ watch.entries sink time state w)
include hchunk hmax hfiles hw he

theorem made_of_read (hturn : e.turn = .read finished outcome before after) :
    (∃ n, d.numberOf e.resolved.path = .ok n ∧ (e.scanned = false → (d.node n).isDirectory = false →
        watch.recognizes state.useIdentity d e.resolved n = true)) ∧
      ∃ offers made, after.tracker.offers = offers.reverse ++ before.tracker.offers ∧
        made.Sublist (watch.splitter.records finished (before.file.ahead d)) ∧
        List.Forall₂ watch.MadeOf offers made := by
  obtain ⟨hread, htidy, -⟩ := tidy_of_read hchunk hmax hfiles he hturn
  obtain ⟨_, c, -, hc, ⟨-, -, hdrain⟩ | ⟨j, hscanned, -, -⟩⟩ := exists_turn hchunk hmax hfiles hw he
  · obtain ⟨g, w', hprepare, rfl, rfl, -⟩ := Turn.read_ofDrain (hdrain.symm.trans hturn)
    obtain ⟨answer, w₁, hprepare', hw₁, hcases⟩ := watch.prepareDrain_spec state.useIdentity e.resolved hc
    obtain ⟨rfl, rfl⟩ := Prod.mk.inj (hprepare.symm.trans hprepare')
    rcases hcases with hdrains | ⟨_, cause, herror⟩ | ⟨_, g', hsome, hblocked, hsize⟩
    · have hdrains := (Except.ok.inj hdrains).symm
      have hrecognized := canRead_of_drainable? hdrains
      obtain ⟨n, hn, rfl, -, hreadable⟩ := drainable?_some hdrains
      rw [canRead, hn, Bool.and_eq_true] at hrecognized
      have hreads := watch.readFile_spec sink state.useIdentity true hchunk hmax hw₁ hreadable htidy.toSound
      rw [hread] at hreads
      exact ⟨⟨n, hn, fun _ _ => hrecognized.1⟩, hreads.made⟩
    · cases herror
    · obtain rfl : g = g' := Option.some.inj (Except.ok.inj hsome)
      obtain ⟨n, hn, hdirectory, -⟩ := id hblocked
      rw [hsize] at hn
      refine ⟨⟨n, hn, fun _ hfile => by rw [hdirectory] at hfile; cases hfile⟩, [], [], ?_, List.nil_sublist _, .nil⟩
      obtain ⟨_, t, _, hread', -, haccounts, -⟩ := watch.readFile_blocked sink hchunk hmax hw₁ hblocked htidy.toSound
      rw [hread] at hread'
      obtain ⟨-, rfl⟩ := Prod.mk.inj hread'
      exact haccounts.offers
  · obtain ⟨hstill, hbefore, candidates, hfound, hfile⟩ := still_of_read hchunk hmax hfiles he hturn hw hscanned
    have hopens := opens_of_mem_files hfound hfile state.useIdentity
    obtain ⟨n, hn, -⟩ := id hopens
    have hreads := watch.readFile_spec sink state.useIdentity finished hchunk hmax hstill
      (hbefore ▸ hopens.readable) htidy.toSound
    rw [hread] at hreads
    refine ⟨⟨n, hn, fun haway => by rw [haway] at hscanned; cases hscanned⟩, ?_⟩
    rw [LogFile.ahead, hbefore] at *
    exact hreads.made

end turn

section pair
variable (hfound : watch.matcher.found d = .ok candidates)
include hfound

theorem candidate_of_files {j : Nat} {f : LogFile} (hj : (watch.resolution state candidates).files[j]? = some f)
    (hn : d.numberOf f.path = .ok n) :
    ∃ c, candidates[j]? = some c ∧ c.path = f.path ∧ d.HasFile n (d.node n).content ∧ c.id = .ofNumber n ∧
      c.head = (d.node n).content.take watch.matcher.window ∧ c ∈ watch.matcher.files d := by
  obtain ⟨c, hc, horigin⟩ := Resolution.origin_of_files hj
  have hmem := List.mem_of_getElem? hc
  obtain ⟨m, hm, hfile, -, hid, -, hhead⟩ := Disk.candidate?_eq_some (Matcher.candidate?_of_found hfound hmem)
  have hpath := horigin.describes.path
  obtain rfl : n = m := Except.ok.inj (hn.symm.trans (hpath ▸ hm))
  exact ⟨c, hc, hpath.symm, hfile, hid, hhead, by rwa [Matcher.files, hfound]⟩

theorem eq_of_files (hdisk : watch.Linkless state d) {j j' : Nat} {f f' : LogFile}
    (hj : (watch.resolution state candidates).files[j]? = some f)
    (hj' : (watch.resolution state candidates).files[j']? = some f') (hn : d.numberOf f.path = .ok n)
    (hn' : d.numberOf f'.path = .ok n) : j = j' := by
  obtain ⟨c, hc, hpath, hfile, -, -, hmem⟩ := candidate_of_files hfound hj hn
  obtain ⟨c', hc', hpath', -, -, -, hmem'⟩ := candidate_of_files hfound hj' hn'
  exact index_eq (Matcher.nodup_names_of_found hdisk.proper hfound) hc hc' (hdisk.tree.fileName?_eq hdisk.kinds
    (hdisk.found c hmem) (hdisk.found c' hmem') (hpath ▸ hn) (hpath' ▸ hn') hfile.1)

omit hfound in
/-- One file is tracked twice among those that rotated away only under two spellings of its path. -/
theorem respelled_of_same (hpaths : (state.files.map (·.path)).Nodup) (hdisk : watch.Linkless state d) {k k' : Nat}
    {f f' : LogFile} (hk : (watch.resolution state candidates).rotatedAway[k]? = some f)
    (hk' : (watch.resolution state candidates).rotatedAway[k']? = some f') (hne : k ≠ k')
    (hn : d.numberOf f.path = .ok n) (hn' : d.numberOf f'.path = .ok n) :
    f.path ≠ f'.path ∧ d.walk true f.path = d.walk true f'.path := by
  rw [resolution, Resolution.getElem?_rotatedAway, Option.map_eq_some_iff] at hk hk'
  obtain ⟨g, hg, rfl⟩ := hk
  obtain ⟨g', hg', rfl⟩ := hk'
  obtain ⟨i, hi, hg⟩ := Option.bind_eq_some_iff.1 hg
  obtain ⟨i', hi', hg'⟩ := Option.bind_eq_some_iff.1 hg'
  refine ⟨fun hpath => ?_, Disk.Unlinked.walk_eq (hdisk.tracked g (List.mem_of_getElem? hg)) hn hn'⟩
  obtain rfl := index_eq hpaths hg hg' hpath
  exact hne ((List.getElem?_inj (List.getElem?_eq_some_iff.1 hi).1 Resolution.nodup_away).1 (hi.trans hi'.symm))

include hchunk hmax hfiles hw

theorem place_of_mem (he : e ∈ watch.entries sink time state w) :
    e.scanned = false ∧ (watch.resolution state candidates).rotatedAway[e.resolved.seq]? = some e.resolved ∨
      e.scanned = true ∧ ∃ j, e.resolved.seq = (watch.resolution state candidates).rotatedAway.length + j ∧
        (watch.resolution state candidates).files[j]? = some e.resolved := by
  obtain ⟨candidates', c, hfound', -, ⟨haway, hmem, -⟩ | ⟨j, hscanned, hj, -⟩⟩ :=
    exists_turn hchunk hmax hfiles hw he
  all_goals obtain rfl : candidates = candidates' := Except.ok.inj (hfound.symm.trans hfound')
  · obtain ⟨k, hk⟩ := List.getElem?_of_mem hmem
    have hlt := (List.getElem?_eq_some_iff.1 hk).1
    have hseq : e.resolved.seq = k := Resolution.seq_eq k _ ((List.getElem?_append_left hlt).trans hk)
    exact .inl ⟨haway, hseq ▸ hk⟩
  · obtain ⟨_, _, -, -, hentry⟩ := Resolution.exists_entry_of_files hj
    exact .inr ⟨hscanned, j, hentry.seq_eq, hj⟩

variable (hwindow : watch.matcher.window = watch.config.digestWindow)
  (hpaths : (state.files.map (·.path)).Nodup) (hdisk : watch.Linkless state d)
  (hclear : (watch.resolution state candidates).ambiguous = [])
include hwindow hpaths hdisk hclear

omit hpaths in
/-- What rotated away is read in a file of the scan only if that was passed over. -/
theorem passedOver_of_same {j : Nat} (he : e ∈ watch.entries sink time state w) (haway : e.scanned = false)
    (hmem : e.resolved ∈ (watch.resolution state candidates).rotatedAway) (hscanned : e'.scanned = true)
    (hj : (watch.resolution state candidates).files[j]? = some e'.resolved)
    (hturn : e.turn = .read finished outcome before after) (hn : d.numberOf e.resolved.path = .ok n)
    (hn' : d.numberOf e'.resolved.path = .ok n) : watch.Doubled state candidates d e e' := by
  obtain ⟨c, hc, hpath, hfile, hid, hhead, hcandidate⟩ := candidate_of_files hfound hj hn'
  obtain ⟨i, f, seq, hf, hgone, hleft⟩ := Resolution.gone_of_mem_rotatedAway hmem
  have hfpath : f.path = e.resolved.path := by rw [hleft]
  have hname : Link.sameName f c = true := by
    rw [Link.sameName, decide_eq_true_eq]
    exact hdisk.tree.fileName?_eq hdisk.kinds (hdisk.tracked f (List.mem_of_getElem? hf)) (hdisk.found c hcandidate)
      (hfpath ▸ hn) (hpath ▸ hn') hfile.1
  -- the drain recognized the file of the candidate, and so does the resolution
  have hknown : if state.useIdentity then f.id = c.id else f.digest.matchesHead c.head = true := by
    obtain ⟨⟨m, hm, hknown⟩, -⟩ := made_of_read hchunk hmax hfiles hw he hturn
    obtain rfl : n = m := Except.ok.inj (hn.symm.trans hm)
    have hknown := hknown haway hfile.1
    rw [recognizes_eq (f := f) (by rw [hleft]) (by rw [hleft]), recognizes] at hknown
    by_cases huse : state.useIdentity = true
    · rw [if_pos huse, decide_eq_true_eq] at hknown
      rw [if_pos huse, hid, hknown]
    · rw [if_neg huse, hfile.readAt, List.drop_zero, ← hwindow, ← hhead] at hknown
      rwa [if_neg huse]
  have hno (k : Nat) : ¬ Resolution.Continues watch.config.rotation state candidates i k := fun hk => by
    rw [Resolution.matchedOld_iff.2 ⟨k, hk⟩] at hgone
    cases hgone
  exact .passedOver haway hscanned hf hleft hc hj
    ((Resolution.passedOver_iff hclear hf (fun k hk => absurd hk (hno k)) hc hname hknown).2 (hno _))

/-- **One file is read for two entries only if they are doubled.** -/
theorem doubled_of_same (he : e ∈ watch.entries sink time state w) (he' : e' ∈ watch.entries sink time state w)
    (hlt : e.resolved.seq < e'.resolved.seq) (hturn : e.turn = .read finished outcome before after)
    (hn : d.numberOf e.resolved.path = .ok n) (hn' : d.numberOf e'.resolved.path = .ok n) :
    watch.Doubled state candidates d e e' := by
  rcases place_of_mem hchunk hmax hfiles hw hfound he with ⟨haway, hk⟩ | ⟨hscanned, j, hseq, hj⟩ <;>
    rcases place_of_mem hchunk hmax hfiles hw hfound he' with ⟨haway', hk'⟩ | ⟨hscanned', j', hseq', hj'⟩
  · obtain ⟨hne, hleads⟩ := respelled_of_same hpaths hdisk hk hk' (by omega) hn hn'
    exact .respelled haway haway' hne hleads
  · exact passedOver_of_same hchunk hmax hfiles hw hfound hwindow hdisk hclear he haway
      (List.mem_of_getElem? hk) hscanned' hj' hturn hn hn'
  · have := (List.getElem?_eq_some_iff.1 hk').1
    omega
  · obtain rfl := eq_of_files hfound hdisk hj hj' hn hn'
    omega

end pair

section spans
variable {entries : List Entry}
include hchunk hmax hfiles hw

theorem spans_of_entry (he : e ∈ watch.entries sink time state w) (hplace : entries[e.resolved.seq]? = some e)
    (hown : ∀ o ∈ e.turn.offers, o.delivery.seq = e.resolved.seq) :
    ∃ spans, List.Forall₂ (watch.MadeIn d entries) e.turn.offers spans ∧
      (spans.Pairwise fun s s' => s.record.stop ≤ s'.record.start) ∧
      ∀ s ∈ spans, s.entry = e ∧ s.Ahead watch d := by
  rcases hread : e.turn.read? with _ | ⟨finished, outcome, before, after⟩
  · have hnone : e.turn.offers = [] := by
      cases hturn : e.turn with
      | read => rw [hturn] at hread; cases hread
      | waits | gone | unreachable => rfl
    exact ⟨[], by rw [hnone]; exact .nil, .nil, by simp⟩
  have hturn := Turn.eq_of_read? hread
  obtain ⟨⟨n, hn, -⟩, offers, made, hoffered, hsub, hmade⟩ := made_of_read hchunk hmax hfiles hw he hturn
  have hoffers : e.turn.offers = offers := by rw [hturn]; exact Turn.offers_of_offered hoffered
  have hrecords : e.records watch d = watch.splitter.records finished (before.file.ahead d) := by
    rw [Entry.records, hread]
  rw [hoffers] at hown ⊢
  rw [← hrecords] at hsub
  refine ⟨made.map (⟨e, n, ·⟩), ?_, ?_, ?_⟩
  · rw [List.forall₂_map_right_iff]
    rw [List.forall₂_iff_zip] at hmade ⊢
    refine ⟨hmade.1, fun {o r} hmem => ?_⟩
    obtain ⟨ho, hr⟩ := List.of_mem_zip hmem
    exact ⟨hmade.2 hmem, ⟨hn, hsub.subset hr⟩, by rw [hown o ho]; exact hplace⟩
  · rw [List.pairwise_map]
    rw [hrecords] at hsub
    exact (Splitter.leads_last _ _ _).1.apart.sublist hsub
  · intro s hs
    obtain ⟨r, hr, rfl⟩ := List.mem_map.1 hs
    exact ⟨rfl, hn, hsub.subset hr⟩

variable (hfound : watch.matcher.found d = .ok candidates)
  (hwindow : watch.matcher.window = watch.config.digestWindow)
  (hpaths : (state.files.map (·.path)).Nodup) (hdisk : watch.Linkless state d)
  (hclear : (watch.resolution state candidates).ambiguous = [])
include hfound hwindow hpaths hdisk hclear

theorem exists_spans {es : List Entry} (hmem : ∀ e ∈ es, e ∈ watch.entries sink time state w)
    (hplace : ∀ e ∈ es, entries[e.resolved.seq]? = some e)
    (hown : ∀ e ∈ es, ∀ o ∈ e.turn.offers, o.delivery.seq = e.resolved.seq)
    (hsorted : es.Pairwise fun e e' => e.resolved.seq < e'.resolved.seq) :
    ∃ spans, List.Forall₂ (watch.MadeIn d entries) (es.flatMap (·.turn.offers)) spans ∧
      (spans.Pairwise fun s s' => s.number = s'.number →
        s.record.stop ≤ s'.record.start ∨ watch.Doubled state candidates d s.entry s'.entry) ∧
      ∀ s ∈ spans, s.entry ∈ es ∧ s.Ahead watch d := by
  induction es with
  | nil => exact ⟨[], .nil, .nil, by simp⟩
  | cons e es ih =>
    obtain ⟨hfirst, hsorted⟩ := List.pairwise_cons.1 hsorted
    obtain ⟨rest, hrest, hapart, hof⟩ := ih (fun e he => hmem e (by simp [he])) (fun e he => hplace e (by simp [he]))
      (fun e he => hown e (by simp [he])) hsorted
    have he := hmem e (by simp)
    obtain ⟨spans, hspans, hordered, hsame⟩ := spans_of_entry hchunk hmax hfiles hw he (hplace e (by simp))
      (hown e (by simp))
    refine ⟨spans ++ rest, List.rel_append hspans hrest, ?_, ?_⟩
    · refine List.pairwise_append.2 ⟨hordered.imp fun hle _ => .inl hle, hapart, fun s hs s' hs' hnumber => .inr ?_⟩
      obtain ⟨rfl, hahead⟩ := hsame s hs
      obtain ⟨hin, hahead'⟩ := hof s' hs'
      obtain ⟨_, _, _, _, hturn⟩ := Entry.turn_of_mem_records hahead.record
      exact doubled_of_same hchunk hmax hfiles hw hfound hwindow hpaths hdisk hclear he (hmem _ (by simp [hin]))
        (hfirst _ hin) hturn hahead.file (hnumber ▸ hahead'.file)
    · intro s hs
      rcases List.mem_append.1 hs with hs | hs
      · obtain ⟨rfl, hahead⟩ := hsame s hs
        exact ⟨List.mem_cons_self, hahead⟩
      · exact (hof s hs).imp_left (List.mem_cons_of_mem _)

end spans

end entries

section process
variable {config : WatchConfig} {watch : Watcher} {sink : Sink} {time : CycleTime} {state : WatchState} {d : Disk}
  {w : World} {result : CycleResult}

theorem lined_up (hprocess : watch.process sink time state w = .ok result) :
    ∃ scan w₁, watch.matcher.scan w = (.ok scan, w₁) ∧
      result.report.ambiguities = (watch.resolution state scan.candidates).ambiguous ∧
      result.offers = (watch.entries sink time state w).flatMap (·.turn.offers) ∧
      (∀ e ∈ watch.entries sink time state w, (watch.entries sink time state w)[e.resolved.seq]? = some e ∧
        ∀ o ∈ e.turn.offers, o.delivery.seq = e.resolved.seq) ∧
      (watch.entries sink time state w).Pairwise fun e e' => e.resolved.seq < e'.resolved.seq := by
  obtain ⟨scan, w₁, hscan, hreported⟩ := reported_of_process hprocess
  have hledger := Entry.ledger_ofRun watch sink state.useIdentity (watch.resolution state scan.candidates)
    { tracker := watch.opening time, world := w₁ }
  have hentries : watch.entries sink time state w = Entry.ofRun watch sink state.useIdentity
      (watch.resolution state scan.candidates) { tracker := watch.opening time, world := w₁ } := by
    rw [entries, hscan]
  rw [← hentries] at hledger
  generalize watch.entries sink time state w = entries at hentries hledger ⊢
  have hresolved : entries.map (·.resolved) = _ := hentries ▸ Entry.resolved_ofRun
  have hnumbered : ∀ (k : Nat) (f : LogFile), (entries.map (·.resolved))[k]? = some f → f.seq = k :=
    hresolved ▸ Resolution.seq_eq
  refine ⟨scan, w₁, hscan, ?_, ?_, fun e he => ?_, ?_⟩
  · rw [process, hscan] at hprocess
    cases hprocess
    rfl
  · rw [hreported.offers, hledger.offered, List.reverse_append, List.reverse_reverse]
    rfl
  · exact ⟨Entry.getElem?_seq rfl hnumbered he, fun o ho => (hledger.own e he o ho).1⟩
  · have hseq (k : Nat) (hk : k < entries.length) : entries[k].resolved.seq = k :=
      hnumbered k _ (by rw [List.getElem?_map, List.getElem?_eq_getElem hk]; rfl)
    refine List.pairwise_iff_getElem.2 fun i j hi hj hlt => ?_
    rwa [hseq i hi, hseq j hj]

/-- **No bytes are offered twice in a cycle** that reports no tie, on a disk without links that stays as it is, but
for files that are doubled. -/
theorem offers_apart (hconfig : Watcher.ofConfig config = .ok watch)
    (hvalid : ∀ (i : Nat) (f : LogFile), state.files[i]? = some f → f.Valid config i)
    (hpaths : (state.files.map (·.path)).Nodup) (hdisk : watch.Linkless state d) (hw : w.Still d)
    (hprocess : watch.process sink time state w = .ok result) (hclear : result.report.ambiguities = []) :
    ∃ candidates spans, watch.matcher.found d = .ok candidates ∧
      List.Forall₂ (watch.MadeIn d (watch.entries sink time state w)) result.offers spans ∧
      (spans.Pairwise fun s s' => s.number = s'.number →
        s.record.stop ≤ s'.record.start ∨ watch.Doubled state candidates d s.entry s'.entry) ∧
      ∀ e ∈ watch.entries sink time state w, ∀ e' ∈ watch.entries sink time state w, ∀ n,
        e.scanned = false → e'.scanned = true → e.turn.read? ≠ none → d.numberOf e.resolved.path = .ok n →
        d.numberOf e'.resolved.path = .ok n → watch.Doubled state candidates d e e' := by
  obtain ⟨rfl, hbounded, hwindow⟩ := ofConfig_ok hconfig
  have hchunk := hbounded.chunk_pos
  have hmax := hbounded.chunk_le
  have hfiles : ∀ f ∈ state.files, f.Tidy watch.splitter ∧ f.processed ≤ f.size := LogFile.tidy_of_valid hvalid
  obtain ⟨scan, w₁, hscan, hambiguous, hoffers, hplaces, hsorted⟩ := lined_up hprocess
  rw [hambiguous] at hclear
  obtain ⟨hfound, -⟩ := found_of_scan hw hscan
  obtain ⟨spans, hspans, hapart, -⟩ := exists_spans hchunk hmax hfiles hw hfound hwindow hpaths hdisk hclear
    (fun _ => id) (fun e he => (hplaces e he).1) (fun e he => (hplaces e he).2) hsorted
  refine ⟨scan.candidates, spans, hfound, hoffers ▸ hspans, hapart, ?_⟩
  intro e he e' he' n haway hscanned hread hn hn'
  obtain ⟨⟨finished, outcome, before, after⟩, hread⟩ := Option.ne_none_iff_exists'.1 hread
  refine doubled_of_same hchunk hmax hfiles hw hfound hwindow hpaths hdisk hclear he he' ?_ (Turn.eq_of_read? hread) hn
    hn'
  -- what rotated away stands before the files of the scan
  rcases place_of_mem hchunk hmax hfiles hw hfound he with ⟨-, hk⟩ | ⟨hno, -⟩
  · rcases place_of_mem hchunk hmax hfiles hw hfound he' with ⟨hno, -⟩ | ⟨-, j, hseq, -⟩
    · rw [hscanned] at hno
      cases hno
    · have := (List.getElem?_eq_some_iff.1 hk).1
      omega
  · rw [haway] at hno
    cases hno

end process

theorem linkless_logDisk {name : Bytes} (hname : Path.ProperName name) (content : Bytes) {watch : Watcher}
    {state : WatchState} (hsoft : ∀ p ∈ state.files.map (·.path) ++
      (watch.matcher.files (logDisk [(name, content)])).map (·.path),
        (logDisk [(name, content)]).walk false p = (logDisk [(name, content)]).walk true p) :
    watch.Linkless state (logDisk [(name, content)]) := by
  have hstands (place : Disk.Place) (n : Nat) (h : (logDisk [(name, content)]).Stands place n) :
      n = 0 ∧ place = [] ∨ n = 1 ∧ place = [[0x6c, 0x6f, 0x67]] ∨ n = 2 ∧ place = [[0x6c, 0x6f, 0x67], name] := by
    by_cases hroot : place = []
    · rw [hroot, Disk.Stands, Disk.entryAt_nil] at h
      rcases h with h | h <;> cases h
      exact .inl ⟨rfl, hroot⟩
    · rcases h with h | h <;> have hmem := Disk.entryAt_eq_some hroot h <;> simp [logDisk] at hmem <;> grind
  have hunlinked {p : Path} (hp : p ∈ state.files.map (·.path) ++
      (watch.matcher.files (logDisk [(name, content)])).map (·.path)) : (logDisk [(name, content)]).Unlinked p :=
    ⟨hsoft p hp, fun n place place' _ h h' => by
      have hplace := hstands place n h
      have hplace' := hstands place' n h'
      grind⟩
  refine ⟨logDisk_proper (by simp) (by simpa using hname), logDisk_tree _, fun place n h => ?_, fun f hf => ?_,
    fun c hc => ?_⟩
  · by_cases hroot : place = []
    · rw [hroot, Disk.entryAt_nil] at h
      cases h
      rfl
    · have hmem := Disk.entryAt_eq_some hroot h
      simp only [logDisk, List.zipIdx_singleton, List.map_cons, List.map_nil, List.mem_cons, Prod.mk.injEq,
        Disk.Entry.directory.injEq, reduceCtorEq, and_false, List.not_mem_nil, or_false] at hmem
      rw [hmem.2]
      rfl
  · exact hunlinked (List.mem_append_left _ (List.mem_map_of_mem hf))
  · exact hunlinked (List.mem_append_right _ (List.mem_map_of_mem hc))

/-- A file was tracked before it had any bytes, and another one was renamed over it: what that holds is read for both,
and what it has got since is offered twice. -/
theorem offers_apart_blank :
    let watch := logWatch "a" 100 5 rfl
    let d := logDisk [([0x61], [0x70, 0x0a, 0x71, 0x0a])]
    let state : WatchState := { files :=
      [⟨.ofText "/log/b", 0, .ofNumber 2, 2, 2, .of [0x70, 0x0a], 0, 0, false, [], false, none⟩,
        ⟨.ofText "/log/a", 0, .ofNumber 3, 0, 0, .of [], 1, 0, false, [], false, none⟩] }
    ∃ result candidates spans, watch.process .acceptAll {} state (.quiet d) = .ok result ∧
      result.offers.map (fun o => (o.delivery.seq, o.delivery.stop, o.delivery.value)) =
        [(0, 2, "p"), (0, 4, "q"), (1, 4, "q")] ∧
      watch.matcher.found d = .ok candidates ∧
      List.Forall₂ (watch.MadeIn d (watch.entries .acceptAll {} state (.quiet d))) result.offers spans ∧
      spans.Pairwise fun s s' => s.number = s'.number →
        s.record.stop ≤ s'.record.start ∨ watch.Doubled state candidates d s.entry s'.entry := by
  intro watch d state
  obtain ⟨result, hprocess, hresult⟩ : ∃ result, watch.process .acceptAll {} state (.quiet d) = .ok result ∧
      decide (result.report.ambiguities = [] ∧
        result.offers.map (fun o => (o.delivery.seq, o.delivery.stop, o.delivery.value)) =
          [(0, 2, "p"), (0, 4, "q"), (1, 4, "q")]) = true := ok_of_any (by decide +kernel)
  obtain ⟨hclear, hoffers⟩ := of_decide_eq_true hresult
  have hvalid (i : Nat) (f : LogFile) (hf : state.files[i]? = some f) : f.Valid (logConfig "a" 100 5) i := by
    have hunits (k : Nat) : Encoding.utf8.unitAt [] k ≠ Encoding.utf8.lineFeed := by
      rw [Encoding.unitAt, List.drop_nil, List.take_nil]
      decide
    rcases i with _ | _ | i <;> cases hf <;>
      exact ⟨by decide, by decide, by decide, hunits, .inl (by decide), by decide, rfl, rfl⟩
  have hconfig : Watcher.ofConfig (logConfig "a" 100 5) = .ok watch := rfl
  have hdisk : watch.Linkless state d :=
    linkless_logDisk ⟨by decide, by decide, by decide, by decide⟩ _ (by decide +kernel)
  obtain ⟨candidates, spans, hfound, hspans, hapart, -⟩ := offers_apart hconfig hvalid (by decide +kernel) hdisk
    (World.still_quiet d) hprocess hclear
  exact ⟨result, candidates, spans, hprocess, hoffers, hfound, hspans, hapart⟩

end Watcher

end LogTail
