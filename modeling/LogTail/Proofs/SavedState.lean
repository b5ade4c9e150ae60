import LogTail.Proofs.StateRecords
import LogTail.Saved.StateFile
import Mathlib

/-!
# Saved states survive

A document that is written is read as one that finds the same under every key, and a state that is saved is
loaded from it as it was, but for what its files are copies of.

* `Document.Holds` says of an entry that a document can hold it: its numbers are words or doubles, and it is not
  nested too deeply. `Document.Kept` is the invariant of a document: sorted keys, and entries it can hold. What
  is read from bytes has it, and what is put in or taken out keeps it.
* `Document.Kept.reopen`: such a document can be read from its bytes. Its entries are the same, up to the digits
  of doubles.
* `Document.entry_spec`: the entry that a watch writes.
* `Document.put_previous`: putting back what was under a key undoes a change, so that a change that cannot be written
  leaves the handle as it was (`StateFile.setEntry_of_error`).
* `StateFile.InUse` says of a handle that it was opened, and has seen saves and removals, wherever these ended.
* **`StateFile.InUse.save_survives`**: a save succeeds exactly if all paths are texts, what is saved is loaded
  after the file was opened again, and a save that fails for a path changes nothing.
-/

namespace LogTail

open Json (All Rewrites Sorted Written Number.Held Number.FitsWord)

namespace Document

/-! ## Entries -/

/-- An entry as a document holds it. -/
structure Holds (j : Json) : Prop where
  held : j.All Json.Number.Held False
  depth : j.depth ≤ depthLimit

theorem holds_of_held? {j j' : Json} (h : j.All Json.Number.FitsWord True) (hj : held? j = some j') :
    Holds j' := by
  unfold held? at hj
  split_ifs at hj with hdeep
  have hheld := h.held_canonical? hj
  exact ⟨hheld.1, hheld.2.trans (not_lt.1 hdeep)⟩

theorem Holds.rewrites {j j' : Json} (h : Holds j) (hr : Rewrites j j') : Holds j' :=
  have hheld := hr.held h.held
  ⟨hheld.1, hheld.2.trans h.depth⟩

theorem Holds.held?_reread {j : Json} (h : Holds j) : ∃ j', Rewrites j j' ∧ held? j.reread = some j' := by
  obtain ⟨j', hj'⟩ := h.held.exists_rewrites
  have hdepth : ¬ depthLimit < j.reread.depth := by
    rw [h.held.reread.2]
    exact not_lt.2 h.depth
  exact ⟨j', hj', by rw [held?, if_neg hdepth]; exact hj'⟩

def stateIn? (entry : Json) : Option WatchState := do
  let fs ← entry.toFields? ["version", "state"]
  let _ ← fs.required? "version" (Json.toNatUpTo? 255)
  fs.required? "state" WatchState.ofJson?

theorem keeps_stateIn? : Json.Keeps stateIn? :=
  .record <| .required? (by decide) (Json.keeps_toNatUpTo? (by decide)) fun _ _ _ _ hr h =>
    Json.Fields.required?_rewrites (by decide) WatchState.keeps_ofJson? hr h

theorem stateOf_eq_ok_iff {key : String} {entry : Json} {state : WatchState} :
    stateOf key entry = .ok state ↔
      ((entry.get? "version").bind Json.toWord?).filter (version < ·) = none ∧ stateIn? entry = some state := by
  unfold stateOf stateIn?
  dsimp only
  cases ((entry.get? "version").bind Json.toWord?).filter (version < ·) with
  | some v => simp
  | none =>
    dsimp only
    split
    · rename_i found hfound
      rw [hfound]
      simp
    · rename_i hnone
      rw [hnone]
      simp

theorem stateOf_rewrites {j j' : Json} (hr : Rewrites j j') {key : String} {state : WatchState}
    (h : stateOf key j = .ok state) : stateOf key j' = .ok state := by
  rw [stateOf_eq_ok_iff] at h ⊢
  have hversion : (j'.get? "version").bind Json.toWord? = (j.get? "version").bind Json.toWord? := by
    have hrel := Json.get?_rewrites hr "version"
    generalize j.get? "version" = found at hrel
    generalize j'.get? "version" = found' at hrel
    cases hrel with
    | none => rfl
    | some hr => exact Json.toWord?_rewrites hr
  exact ⟨hversion ▸ h.1, keeps_stateIn? _ _ _ hr h.2⟩

/-- The entry that a watch writes for its state: a document can hold it, and it is read as the state. -/
theorem entry_spec {state : WatchState} (hstate : state.InRange) {j : Json} (hj : state.toJson? = some j) :
    ∃ entry, entryOf? state = some entry ∧ Holds entry ∧ ∀ key, stateOf key entry = .ok state.withoutCopies := by
  have hversion : Written (Json.toNatUpTo? 255) 0 version (.ofNat version) := .ofNat (by decide) (by decide)
  have hform := WatchState.written hstate hj
  have hwritten : Written stateIn? 5 state.withoutCopies
      (.object [("version", .ofNat version), ("state", j)]) := by
    refine .record (by simp) (by simp) ?_ ?_
    · simp only [List.forall_mem_cons]
      exact ⟨hversion.part (by decide), hform.part le_rfl, List.forall_mem_nil _⟩
    · simp [Json.Fields.required?, Json.Fields.find?, hversion.reads, hform.reads]
  have hheld : Holds (.object [("version", .ofNat version), ("state", j)]) :=
    ⟨hwritten.integral.mono fun _ => .integral, hwritten.depth.trans (by decide)⟩
  -- what is written has no other digits when it is read, so that the entry is what becomes of it
  obtain ⟨entry, hentry⟩ := hheld.held.exists_rewrites
  have hcanonical : entryOf? state = some entry := by
    rw [entryOf?, hj, Option.bind_some]
    rwa [Rewrites, hwritten.integral.reread_eq] at hentry
  have hfound : (Json.object [("version", .ofNat version), ("state", j)]).get? "version" =
      some (.ofNat version) := by
    simp [Json.get?]
  refine ⟨entry, hcanonical, hheld.rewrites hentry, fun key => stateOf_rewrites hentry ?_⟩
  exact stateOf_eq_ok_iff.2 ⟨by rw [hfound]; rfl, hwritten.reads⟩

/-! ## Documents -/

/-- What is true of every document: keys increase, and its entries are held. -/
structure Kept (d : Document) : Prop where
  sorted : Sorted d.watches
  holds : ∀ e ∈ d.watches, Holds e.2

theorem kept_empty : empty.Kept := ⟨.nil, List.forall_mem_nil _⟩

theorem Kept.insert {d : Document} (h : d.Kept) (key : String) {j : Json} (hj : Holds j) :
    (d.insert key j).Kept where
  sorted := h.sorted.insertSorted key j
  holds e he := by
    rcases Json.mem_insertSorted he with rfl | he
    · exact hj
    · exact h.holds e he

theorem Kept.erase {d : Document} (h : d.Kept) (key : String) : (d.erase key).Kept where
  sorted := h.sorted.sublist List.filter_sublist
  holds e he := h.holds e (List.mem_of_mem_filter he)

theorem foldl_insert (es : List (String × Json)) (d : Document) :
    es.foldl (fun d e => d.insert e.1 e.2) d =
      ⟨es.foldl (fun sorted e => Json.insertSorted e.1 e.2 sorted) d.watches⟩ := by
  induction es generalizing d with
  | nil => rfl
  | cons e es ih => exact ih _

theorem kept_foldl {es es' : List (String × Json)}
    (h : List.Forall₂ (fun e e' => (held? e.2).map (e.1, ·) = some e') es es')
    (hword : ∀ e ∈ es, e.2.All Json.Number.FitsWord True) :
    (es'.foldl (fun d e => d.insert e.1 e.2) empty).Kept := by
  rw [foldl_insert]
  refine ⟨Json.sorted_foldl .nil, fun e' he' => ?_⟩
  have hmem := (Json.mem_foldl_insertSorted he').resolve_right List.not_mem_nil
  obtain ⟨e, he, heq⟩ := Json.exists_mem_of_forall₂ h hmem
  obtain ⟨j', hj', rfl⟩ := Option.map_eq_some_iff.1 heq
  exact holds_of_held? (hword e he) hj'

theorem kept_of_ofBytes? {bytes : Bytes} {d : Document} (h : ofBytes? bytes = some d) : d.Kept := by
  unfold ofBytes? at h
  split_ifs at h
  · obtain rfl := Option.some.inj h
    exact kept_empty
  · obtain ⟨j, hj, h⟩ := Option.bind_eq_some_iff.1 h
    obtain ⟨fs, hfs, h⟩ := Option.bind_eq_some_iff.1 h
    obtain ⟨es, hes, h⟩ := Option.bind_eq_some_iff.1 h
    obtain ⟨es', hes', h⟩ := Option.bind_eq_some_iff.1 h
    obtain rfl := Option.some.inj h
    refine kept_foldl (mapM_eq_some_iff.1 hes') ?_
    unfold Json.Fields.optional? at hes
    cases hwatches : fs.find? "watches" with
    | none =>
      rw [hwatches] at hes
      obtain rfl := Option.some.inj hes
      exact List.forall_mem_nil _
    | some v =>
      rw [hwatches] at hes
      have hv := (All.of_ofBytes? hj).find? hfs hwatches
      cases hv with
      | object hentries =>
        obtain rfl := Option.some.inj hes
        exact hentries
      | _ => exact absurd hes (Option.some_ne_none _).symm

/-- The bytes of a document are not blank: they begin with a brace. -/
theorem not_all_isBlankByte (d : Document) : d.toBytes.all isBlankByte = false := by
  have hbrace : ∃ cs, (Json.object [("watches", .object d.watches)]).pretty = String.ofList ('\x7b' :: cs) :=
    ⟨_, rfl⟩
  obtain ⟨cs, hcs⟩ := hbrace
  rw [toBytes, hcs, Text.Utf8.encode, String.toList_ofList, List.flatMap_cons, List.all_append,
    Bool.and_eq_false_iff]
  exact .inl (by decide)

theorem Kept.exists_held {d : Document} (h : d.Kept) : ∃ es,
    List.Forall₂ (fun e e' => Json.EntryRewrites e e' ∧ (held? e.2.reread).map (e.1, ·) = some e')
      d.watches es := by
  refine Json.exists_forall₂ fun e he => ?_
  obtain ⟨j', hrewrites, hj'⟩ := (h.holds e he).held?_reread
  exact ⟨(e.1, j'), ⟨rfl, hrewrites⟩, by rw [hj']; rfl⟩

/-- **A document that is kept can be read from its bytes**, and finds the same under every key then, up to the
digits of doubles. -/
theorem Kept.reopen {d : Document} (h : d.Kept) :
    ∃ d', ofBytes? d.toBytes = some d' ∧ d'.Kept ∧ ∀ key, Option.Rel Rewrites (d.find? key) (d'.find? key) := by
  obtain ⟨es, hes⟩ := h.exists_held
  have hrewrites : List.Forall₂ Json.EntryRewrites d.watches es := hes.imp fun _ _ => And.left
  have hheld : (d.watches.map fun e => (e.1, e.2.reread)).mapM (fun e => (held? e.2).map (e.1, ·)) = some es :=
    mapM_eq_some_iff.2 (List.forall₂_map_left_iff.2 (hes.imp fun _ _ => And.right))
  have hread : ofBytes? d.toBytes = some (es.foldl (fun d e => d.insert e.1 e.2) empty) := by
    rw [ofBytes?, not_all_isBlankByte, toBytes, Json.ofBytes?_encode_pretty]
    simp [Json.reread, Json.rereadEntries, Json.rereadEntries_eq, ofJson?, Json.toFields?, Json.Fields.optional?,
      Json.Fields.find?, Json.toObject?, hheld]
  refine ⟨_, hread, kept_of_ofBytes? hread, fun key => ?_⟩
  have hsorted : (es.map (·.1)).Nodup := Json.keys_eq_of_rewrites hrewrites ▸ h.sorted.nodup
  rw [foldl_insert, find?, find?, Json.find?_foldl_insertSorted, Json.find?_reverse_of_nodup hsorted]
  simpa [empty] using Json.find?_rewrites hrewrites key

theorem load_rewrites {d d' : Document} {key : String} (h : Option.Rel Rewrites (d.find? key) (d'.find? key))
    {state : Option WatchState} (hload : d.load key = .ok state) : d'.load key = .ok state := by
  unfold load at hload ⊢
  generalize d.find? key = found at h hload
  generalize d'.find? key = found' at h ⊢
  cases h with
  | none => exact hload
  | @some j j' hr =>
    dsimp only at hload ⊢
    cases hstate : stateOf key j with
    | error e => rw [hstate] at hload; cases hload
    | ok s =>
      rw [hstate] at hload
      rw [stateOf_rewrites hr hstate]
      exact hload

theorem find?_insert (d : Document) (key : String) (j : Json) : (d.insert key j).find? key = some j := by
  rw [find?, insert, Json.find?_insertSorted, if_pos rfl, Option.map_some]

theorem find?_insert_of_ne (d : Document) {key key' : String} (h : key' ≠ key) (j : Json) :
    (d.insert key j).find? key' = d.find? key' := by
  rw [find?, insert, Json.find?_insertSorted, if_neg (Ne.symm h), find?]

theorem find?_erase (d : Document) (key key' : String) :
    (d.erase key).find? key' = if key' = key then none else d.find? key' := by
  rw [find?, erase, List.find?_filter]
  by_cases hkey : key' = key
  · rw [if_pos hkey, hkey, Option.map_eq_none_iff, List.find?_eq_none]
    intro e _
    simp
  · rw [if_neg hkey, find?]
    refine congrArg (Option.map _) (congrArg (d.watches.find? ·) (funext fun e => ?_))
    by_cases he : e.1 = key'
    · simp [he, hkey]
    · simp [he]

theorem find?_put (d : Document) (key : String) (entry : Option Json) (key' : String) :
    (d.put key entry).find? key' = if key' = key then entry else d.find? key' := by
  cases entry with
  | none => exact find?_erase d key key'
  | some j =>
    by_cases hkey : key' = key
    · rw [if_pos hkey, hkey]
      exact find?_insert d key j
    · rw [if_neg hkey]
      exact find?_insert_of_ne d hkey j

theorem mem_of_find? {d : Document} {key : String} {j : Json} (h : d.find? key = some j) : (key, j) ∈ d.watches := by
  obtain ⟨e, hfind, rfl⟩ := Option.map_eq_some_iff.1 h
  have hkey := List.find?_some hfind
  rw [beq_iff_eq] at hkey
  exact hkey ▸ List.mem_of_find?_eq_some hfind

theorem find?_of_mem {d : Document} (h : Sorted d.watches) {key : String} {j : Json} (hmem : (key, j) ∈ d.watches) :
    d.find? key = some j := by
  obtain ⟨e, hfind⟩ : ∃ e, d.watches.find? (fun e => e.1 == key) = some e :=
    Option.isSome_iff_exists.1 (List.find?_isSome.2 ⟨(key, j), hmem, beq_self_eq_true key⟩)
  have hkey := List.find?_some hfind
  rw [beq_iff_eq] at hkey
  have heq : e = (key, j) := List.inj_on_of_nodup_map h.nodup (List.mem_of_find?_eq_some hfind) hmem hkey
  rw [find?, hfind, heq, Option.map_some]

/-- Documents with sorted keys that find the same are the same. -/
theorem eq_of_find? {d d' : Document} (h : Sorted d.watches) (h' : Sorted d'.watches)
    (hfind : ∀ key, d.find? key = d'.find? key) : d = d' := by
  have hmem (e : String × Json) : e ∈ d.watches ↔ e ∈ d'.watches :=
    ⟨fun he => mem_of_find? ((hfind e.1).symm.trans (find?_of_mem h he)),
      fun he => mem_of_find? ((hfind e.1).trans (find?_of_mem h' he))⟩
  have hperm : d.watches.Perm d'.watches := (List.perm_ext_iff_of_nodup h.nodup.of_map h'.nodup.of_map).2 hmem
  have heq := hperm.eq_of_pairwise (fun _ _ _ _ hlt hgt => absurd hgt (lt_asymm hlt)) h h'
  cases d
  cases d'
  exact congrArg _ heq

theorem sorted_put {d : Document} (h : Sorted d.watches) (key : String) (entry : Option Json) :
    Sorted (d.put key entry).watches := by
  cases entry with
  | none => exact h.sublist List.filter_sublist
  | some j => exact h.insertSorted key j

/-- **A change is undone** by putting back what was under its key before, or nothing. -/
theorem put_previous {d : Document} (h : Sorted d.watches) (key : String) (entry : Option Json) :
    (d.put key entry).put key (d.find? key) = d := by
  refine eq_of_find? (sorted_put (sorted_put h key entry) key _) h fun key' => ?_
  rw [find?_put, find?_put]
  by_cases hkey : key' = key
  · rw [if_pos hkey, hkey]
  · rw [if_neg hkey, if_neg hkey]

end Document

namespace StateFile

/-! ## Handles -/

/-- A handle that is in use: it was opened on a file or in memory, and states were saved and removed through it,
with success or without. -/
inductive InUse : StateFile → Prop
  | inMemory : InUse .inMemory
  | opened {path : Path} {w w' : World} {f : StateFile} (h : openAt path w = (.ok f, w')) : InUse f
  | saved {f : StateFile} (hf : InUse f) (key : String) {state : WatchState} (hstate : state.InRange) (w : World) :
      InUse (f.save key state w).2.1
  | removed {f : StateFile} (hf : InUse f) (key : String) (w : World) : InUse (f.remove key w).2.1

theorem openAt_eq_ok {path : Path} {w w' : World} {f : StateFile} (h : openAt path w = (.ok f, w')) :
    f = ⟨some path, .empty⟩ ∨
      ∃ bytes document, Document.ofBytes? bytes = some document ∧ f = ⟨some path, document⟩ := by
  unfold openAt at h
  split at h
  · cases h
    exact .inl rfl
  · cases h
  · split at h
    · rename_i document hdocument
      cases h
      exact .inr ⟨_, document, hdocument, rfl⟩
    · cases h

theorem openAt_of_look {path : Path} {w : World} {bytes : Bytes}
    (hread : (w.look fun d => d.readAll path).1 = .ok bytes) {document : Document}
    (hdocument : Document.ofBytes? bytes = some document) :
    ∃ w', openAt path w = (.ok ⟨some path, document⟩, w') := by
  have hlook : (w.look fun d => d.readAll path) = (.ok bytes, (w.look fun d => d.readAll path).2) := by
    rw [← hread]
  exact ⟨_, by rw [openAt, hlook]; dsimp only; rw [hdocument]⟩

theorem setEntry_of_ok {f : StateFile} {path : Path} (hpath : f.path = some path) {key : String} {entry : Option Json}
    {w w' : World} (h : replaceFile path (f.document.put key entry).toBytes w = (.ok (), w')) :
    f.setEntry key entry w = (.ok (), ⟨some path, f.document.put key entry⟩, w') := by
  rw [setEntry, hpath]
  dsimp only
  rw [h]

theorem setEntry_of_error {f : StateFile} (hsorted : Sorted f.document.watches) {path : Path} (hpath : f.path = some path)
    {key : String} {entry : Option Json} {w w' : World} {e : StateError}
    (h : replaceFile path (f.document.put key entry).toBytes w = (.error e, w')) :
    f.setEntry key entry w = (.error e, f, w') := by
  rw [setEntry, hpath]
  dsimp only
  rw [h]
  dsimp only
  rw [Document.put_previous hsorted, ← hpath]

theorem setEntry_cases {f : StateFile} (hsorted : Sorted f.document.watches) (key : String) (entry : Option Json)
    (w : World) : (f.setEntry key entry w).2.1 = f ∨
      (f.setEntry key entry w).2.1 = { f with document := f.document.put key entry } := by
  rcases hpath : f.path with _ | path
  · rw [setEntry, hpath]
    exact .inr rfl
  · rcases hreplace : replaceFile path (f.document.put key entry).toBytes w with ⟨e | _, w'⟩
    · rw [setEntry_of_error hsorted hpath hreplace]
      exact .inl rfl
    · rw [setEntry_of_ok hpath hreplace]
      exact .inr rfl

theorem InUse.kept {f : StateFile} (h : f.InUse) : f.document.Kept := by
  have hset {f : StateFile} (hf : f.document.Kept) (key : String) (entry : Option Json)
      (hput : (f.document.put key entry).Kept) (w : World) : (f.setEntry key entry w).2.1.document.Kept := by
    rcases setEntry_cases hf.sorted key entry w with h | h <;> rw [h]
    · exact hf
    · exact hput
  induction h with
  | inMemory => exact Document.kept_empty
  | opened h =>
    rcases openAt_eq_ok h with rfl | ⟨bytes, document, hdocument, rfl⟩
    · exact Document.kept_empty
    · exact Document.kept_of_ofBytes? hdocument
  | @saved f _ key state hstate w ih =>
    unfold save
    cases hentry : Document.entryOf? state with
    | none => exact ih
    | some entry =>
      obtain ⟨j, hj, -⟩ := Option.bind_eq_some_iff.1 hentry
      obtain ⟨entry', hentry', hholds, -⟩ := Document.entry_spec hstate hj
      obtain rfl := Option.some.inj (hentry.symm.trans hentry')
      exact hset ih key (some entry) (ih.insert key hholds) w
  | removed _ key w ih => exact hset ih key none (ih.erase key) w

/-- What a save writes for a state whose paths are texts: whoever reads it loads the state, but for what its files are
copies of. -/
theorem InUse.exists_written {f : StateFile} (hf : f.InUse) (key : String) {state : WatchState}
    (hstate : state.InRange) (htexts : ∀ file ∈ state.files, ∃ text, file.path = .ofText text) :
    ∃ entry document, Document.entryOf? state = some entry ∧
      Document.ofBytes? (f.document.insert key entry).toBytes = some document ∧
      document.load key = .ok (some state.withoutCopies) := by
  obtain ⟨j, hj⟩ := WatchState.toJson?_isSome_iff.2 htexts
  obtain ⟨entry, hentry, hholds, hstateOf⟩ := Document.entry_spec hstate hj
  obtain ⟨document, hdocument, -, hfind⟩ := (hf.kept.insert key hholds).reopen
  have hload : (f.document.insert key entry).load key = .ok (some state.withoutCopies) := by
    rw [Document.load, Document.find?_insert]
    dsimp only
    rw [hstateOf]
    rfl
  exact ⟨entry, document, hentry, hdocument, Document.load_rewrites (hfind key) hload⟩

/-- Writing the file succeeds. -/
def Writable (path : Path) (w : World) : Prop := ∀ bytes, (replaceFile path bytes w).1 = .ok ()

/-- What was put in place of the file is what is read from it next. -/
def Lasting (path : Path) (w : World) : Prop :=
  ∀ bytes w', replaceFile path bytes w = (.ok (), w') → (w'.look fun d => d.readAll path).1 = .ok bytes

/-- **A saved state survives.** Where writing succeeds, a save succeeds exactly if all paths are texts. Whoever
opens the file then loads the state, but for what its files are copies of. A save that fails for a path changes
neither the handle nor the disk. -/
theorem InUse.save_survives {f : StateFile} (hf : f.InUse) {path : Path} (hpath : f.path = some path) {w : World}
    (hw : Writable path w) (hlasting : Lasting path w) (key : String) {state : WatchState}
    (hstate : state.InRange) :
    ((f.save key state w).1 = .ok () ↔ ∀ file ∈ state.files, ∃ text, file.path = .ofText text) ∧
    ((f.save key state w).1 = .ok () → ∃ g w', openAt path (f.save key state w).2.2 = (.ok g, w') ∧
      g.load key = .ok (some state.withoutCopies)) ∧
    ((f.save key state w).1 ≠ .ok () → f.save key state w = (.error .pathNotText, f, w)) := by
  have htexts := WatchState.toJson?_isSome_iff (s := state)
  cases hj : state.toJson? with
  | none =>
    have hsave : f.save key state w = (.error .pathNotText, f, w) := by
      rw [save, Document.entryOf?, hj, Option.bind_none]
    rw [hj] at htexts
    rw [hsave]
    exact ⟨⟨nofun, fun h => absurd (htexts.2 h) (by simp)⟩, nofun, fun _ => rfl⟩
  | some j =>
    obtain ⟨entry, document, hentry, hdocument, hload⟩ := hf.exists_written key hstate (htexts.1 ⟨j, hj⟩)
    obtain ⟨w', hreplace⟩ : ∃ w', replaceFile path (f.document.insert key entry).toBytes w = (.ok (), w') :=
      ⟨_, Prod.ext (hw _) rfl⟩
    have hread := hlasting _ _ hreplace
    have hsave : f.save key state w = (.ok (), ⟨some path, f.document.insert key entry⟩, w') := by
      rw [save, hentry]
      exact setEntry_of_ok hpath hreplace
    obtain ⟨w'', hopen⟩ := openAt_of_look hread hdocument
    rw [hsave]
    exact ⟨⟨fun _ => htexts.1 ⟨j, hj⟩, fun _ => rfl⟩, fun _ => ⟨_, w'', hopen, hload⟩, fun h => absurd rfl h⟩

/-- A file whose path has quotes, changed before 1970, with a long number and a tail that is no text. -/
def oldFile : LogFile where
  path := .ofText "/var/log/\"app\".log"
  mtime := -1
  id := ⟨2049, 7, 1⟩
  size := 5
  processed := 3
  digest := ⟨3, List.replicate 32 0xff⟩
  seq := 1
  tail := [0x80, 0x0a]
  copyOf := some 0

/-- The state with this file survives in an empty directory. -/
theorem save_survives_oldFile :
    let path : Path := .ofText "state.json"
    let saved := save ⟨some path, .empty⟩ "logrt[\"app\"]" { lastMtime := -1, files := [oldFile] }
      (.quiet (.fresh "w"))
    saved.1 = .ok () ∧ ∃ g w', openAt path saved.2.2 = (.ok g, w') ∧
      g.load "logrt[\"app\"]" = .ok (some { lastMtime := -1, files := [oldFile.withoutCopy] }) := by
  have hopen : InUse ⟨some (.ofText "state.json"), .empty⟩ := by
    refine @InUse.opened (.ofText "state.json") (.quiet (.fresh "w"))
      { World.quiet (.fresh "w") with calls := 1 } _ ?_
    rfl
  have hwritable : Writable (.ofText "state.json") (.quiet (.fresh "w")) := by
    intro bytes
    rfl
  have hlasting : Lasting (.ofText "state.json") (.quiet (.fresh "w")) := by
    intro bytes w' h
    have hread : ((replaceFile (.ofText "state.json") bytes (.quiet (.fresh "w"))).2.look fun d =>
        d.readAll (.ofText "state.json")).1 = .ok bytes := by rfl
    rwa [h] at hread
  have hfile : oldFile.InRange :=
    ⟨by decide, by decide, ⟨by decide, by decide, by decide⟩, by decide, by decide, ⟨by decide, by decide⟩,
      by decide, by decide⟩
  have hstate : WatchState.InRange { lastMtime := -1, files := [oldFile] } :=
    ⟨by decide, by decide, by decide, by decide, by decide, by decide,
      List.forall_mem_singleton.2 hfile, by decide⟩
  have hpaths : ∀ file ∈ [oldFile], ∃ text, file.path = .ofText text :=
    List.forall_mem_singleton.2 ⟨"/var/log/\"app\".log", rfl⟩
  have hsurvives := hopen.save_survives rfl hwritable hlasting "logrt[\"app\"]" hstate
  exact ⟨hsurvives.1.2 hpaths, hsurvives.2.1 (hsurvives.1.2 hpaths)⟩

end StateFile

end LogTail
