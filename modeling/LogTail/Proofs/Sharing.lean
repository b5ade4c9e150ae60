import LogTail.Proofs.Handles

/-!
# Handles that share a file

Every handle writes the document it holds, as it was when the handle was opened and with its own calls since then.
The file therefore has what the last caller holds (`StateFile.Shared.filed_alike`): a handle that was opened before
others wrote takes their entries back (`StateFile.undone_stale`). Where nobody calls through a handle that has missed
a call, every key has what was last saved under it.

* `StateFile.Event` and `StateFile.Shared`: what happens to a file, and what this makes of its handles.
* `StateFile.filed` and `StateFile.held`: the entries of the file and of a handle, told from what has happened.
-/

namespace LogTail.StateFile

/-- What happens to a shared file: it is opened as a handle with a number, or a call through a handle succeeds. -/
inductive Event where
  | opened (handle : Nat)
  | served (handle : Nat) (r : Request)

/-- The handles that were opened on a file and the disk, after what has happened, the last of it first. Nobody else
writes the file, and at first it holds a document. -/
inductive Shared (path : Path) (first : Document) : List Event → (Nat → Option StateFile) → Disk → Prop
  | begun {d : Disk} (h : (openAt path (.quiet d)).1 = .ok ⟨some path, first⟩) : Shared path first [] (fun _ => none) d
  | opened {before : List Event} {handles : Nat → Option StateFile} {d : Disk} (h : Shared path first before handles d)
    (handle : Nat) {d' : Disk} (unwritten : d'.readAll path = d.readAll path) {f : StateFile}
    (opens : (openAt path (.quiet d')).1 = .ok f) :
    Shared path first (.opened handle :: before) (Function.update handles handle (some f)) d'
  | served {before : List Event} {handles : Nat → Option StateFile} {d : Disk} (h : Shared path first before handles d)
    (handle : Nat) {f : StateFile} (has : handles handle = some f) {w : World} (calm : Calm path w)
    (unwritten : w.disk.readAll path = d.readAll path) {r : Request} (range : r.InRange) {f' : StateFile} {w' : World}
    (serves : f.serve r w = (.ok (), f', w')) :
    Shared path first (.served handle r :: before) (Function.update handles handle (some f')) w'.disk

/-! ## What a history makes of the entries -/

mutual
/-- The entries of the file: those of the last caller. -/
def filed (first : Document) : List Event → String → Option Json
  | [] => first.find?
  | .opened _ :: before => filed first before
  | .served handle r :: before => r.put (held first handle before)
/-- The entries that a handle holds: those of the file when it was opened, with its own requests since then. -/
def held (first : Document) (handle : Nat) : List Event → String → Option Json
  | [] => fun _ => none
  | .opened other :: before => if other = handle then filed first before else held first handle before
  | .served other r :: before =>
    if other = handle then r.put (held first handle before) else held first handle before
end

def asked (first : Document) : List Event → String → Option Json
  | [] => first.find?
  | .opened _ :: before => asked first before
  | .served _ r :: before => r.put (asked first before)

/-- A handle has missed nothing: since it was opened nobody called through another. -/
def Current (handle : Nat) : List Event → Prop
  | [] => False
  | .opened other :: before => other = handle ∨ Current handle before
  | .served other _ :: before => other = handle ∧ Current handle before

def AllCurrent : List Event → Prop
  | [] => True
  | .opened _ :: before => AllCurrent before
  | .served handle _ :: before => Current handle before ∧ AllCurrent before

/-! ## The file and its handles -/

def SameEntries (entries entries' : String → Option Json) : Prop :=
  ∀ key, (entries' key).map Json.blurred = (entries key).map Json.blurred

theorem SameEntries.put {entries entries' : String → Option Json} (h : SameEntries entries entries') (r : Request) :
    SameEntries (r.put entries) (r.put entries') := by
  intro key
  unfold Request.put
  split
  · rfl
  · exact h key

section shared
variable {path : Path} {first : Document} {events : List Event} {handles : Nat → Option StateFile} {d : Disk}

/-- What a handle has of its file and of what has happened. -/
structure Holds (path : Path) (f : StateFile) (entries : String → Option Json) : Prop where
  on : f.path = some path
  sound : Sound f.document
  entries : SameEntries entries f.document.find?

/-- A history tells the entries of the file and of every handle. -/
structure Told (path : Path) (first : Document) (events : List Event) (handles : Nat → Option StateFile) (d : Disk) :
    Prop where
  file : ∃ f, (openAt path (.quiet d)).1 = .ok f ∧ Holds path f (filed first events)
  handles : ∀ handle f, handles handle = some f → Holds path f (held first handle events)

theorem openAt_congr {d' : Disk} (h : d'.readAll path = d.readAll path) :
    (openAt path (.quiet d')).1 = (openAt path (.quiet d)).1 := by
  rw [openAt_quiet, openAt_quiet, h]

theorem Shared.told (h : Shared path first events handles d) : Told path first events handles d := by
  induction h with
  | begun h =>
    have habreast := abreast_of_openAt h
    exact ⟨⟨_, h, habreast.on, habreast.sound, fun _ => rfl⟩, nofun⟩
  | @opened before handles d _ handle d' unwritten f opens ih =>
    obtain ⟨g, hopen, hholds⟩ := ih.file
    have hfile : Holds path f (filed first before) := by
      rw [openAt_congr unwritten, hopen] at opens
      exact Except.ok.inj opens ▸ hholds
    refine ⟨⟨f, opens, hfile⟩, fun other f' hother => ?_⟩
    rw [held]
    by_cases heq : other = handle
    · subst heq
      rw [Function.update_self] at hother
      rw [if_pos rfl]
      exact Option.some.inj hother ▸ hfile
    · rw [Function.update_of_ne heq] at hother
      rw [if_neg (Ne.symm heq)]
      exact ih.handles other f' hother
  | @served before handles d _ handle f has w calm unwritten r range f' w' serves ih =>
    have hf := ih.handles handle f has
    obtain ⟨habreast, hholds⟩ : Abreast path f' w'.disk ∧ Holds path f' (r.put (held first handle before)) := by
      rcases serve_spec hf.on hf.sound calm range with
        ⟨e, _, hserve, -⟩ | ⟨document, _, hserve, hsound, hread, hfind⟩ <;> rw [serves] at hserve <;> cases hserve
      refine ⟨abreast_of_written hsound hread, rfl, hsound, fun key => ?_⟩
      rw [hfind key]
      exact (hf.entries.put r) key
    refine ⟨?_, fun other g hother => ?_⟩
    · obtain ⟨g, hopen, halike⟩ := habreast.openAt
      have hg := abreast_of_openAt hopen
      exact ⟨g, hopen, hg.on, hg.sound, fun key => (halike key).trans (hholds.entries key)⟩
    · rw [held]
      by_cases heq : other = handle
      · subst heq
        rw [Function.update_self] at hother
        rw [if_pos rfl]
        exact Option.some.inj hother ▸ hholds
      · rw [Function.update_of_ne heq] at hother
        rw [if_neg (Ne.symm heq)]
        exact ih.handles other g hother

theorem held_of_current {handle : Nat} (h : Current handle events) :
    held first handle events = filed first events := by
  induction events with
  | nil => exact absurd h id
  | cons event before ih =>
    cases event with
    | opened other =>
      rw [held, filed]
      by_cases heq : other = handle
      · rw [if_pos heq]
      · rw [if_neg heq]
        exact ih (h.resolve_left heq)
    | served other r =>
      obtain ⟨rfl, -⟩ := h
      rw [held, filed, if_pos rfl]

theorem filed_of_allCurrent (h : AllCurrent events) : filed first events = asked first events := by
  induction events with
  | nil => rfl
  | cons event before ih =>
    cases event with
    | opened handle => exact ih h
    | served handle r => rw [filed, asked, held_of_current h.1, ih h.2]

/-- **Handles that share a file.** After every call the file has the entries of the last caller: those that the file
had when this handle was opened, with what was asked through it since then. So long as nobody calls through a handle
that has missed a call of another, the file has under every key what was asked last. Both hold up to digits of
doubles. -/
theorem Shared.filed_alike (h : Shared path first events handles d) :
    ∃ f, (openAt path (.quiet d)).1 = .ok f ∧ SameEntries (filed first events) f.document.find? ∧
      (AllCurrent events → SameEntries (asked first events) f.document.find?) := by
  obtain ⟨f, hopen, hholds⟩ := h.told.file
  refine ⟨f, hopen, hholds.entries, fun hcurrent => ?_⟩
  rw [← filed_of_allCurrent hcurrent]
  exact hholds.entries

end shared

/-! ## Two handles -/

def inTurn : List Event :=
  [.served 1 (.save "b" {}), .opened 1, .served 0 (.save "a" {}), .opened 0]

/-- Two handles are opened, and then both save. -/
def overlapping : List Event :=
  [.served 1 (.save "b" {}), .served 0 (.save "a" {}), .opened 1, .opened 0]

theorem begun_empty : Shared statePath .empty [] (fun _ => none) (stateDisk []) := .begun rfl

theorem readAll_stateDisk (content : Bytes) : (stateDisk content).readAll statePath = .ok content := rfl

/-- In turn, both states are in the file. -/
theorem filed_inTurn : AllCurrent inTurn ∧ ∃ handles d f, Shared statePath .empty inTurn handles d ∧
    (openAt statePath (.quiet d)).1 = .ok f ∧
      ∀ key ∈ ["a", "b"], (f.document.find? key).map Json.blurred = (Document.entryOf? {}).map Json.blurred := by
  have hcurrent : AllCurrent inTurn := ⟨.inl rfl, .inl rfl, trivial⟩
  refine ⟨hcurrent, ?_⟩
  obtain ⟨entry, wa, hentry, hserveA, hreadA⟩ := serve_fresh .empty [] "a"
  have hfirst := (begun_empty.opened 0 rfl rfl).served 0 rfl (stateDisk_calm []) rfl (inRange_fresh "a")
    hserveA
  obtain ⟨g, hopenB, hholds⟩ := hfirst.told.file
  have hsecond := hfirst.opened 1 rfl hopenB
  obtain ⟨_, wb, -, hserveB, -⟩ := serve_fresh g.document (Document.empty.insert "a" entry).toBytes "b"
  have hg : g = ⟨some statePath, g.document⟩ := by rw [← hholds.on]
  rw [← hg] at hserveB
  have hthird := hsecond.served 1 rfl (stateDisk_calm (Document.empty.insert "a" entry).toBytes)
    ((readAll_stateDisk _).trans hreadA.symm) (inRange_fresh "b") hserveB
  obtain ⟨f, hopen, -, hasked⟩ := hthird.filed_alike
  refine ⟨_, _, f, hthird, hopen, fun key hkey => ?_⟩
  rw [hasked hcurrent key]
  simp only [List.mem_cons, List.not_mem_nil, or_false] at hkey
  rcases hkey with rfl | rfl <;> rfl

/-- **A handle that was opened before takes back what another has saved.** Two handles are opened on an empty file,
one saves under the key `a` and then the other under the key `b`: under `a` the file has nothing. -/
theorem undone_stale : ∃ handles d f, Shared statePath .empty overlapping handles d ∧
    (openAt statePath (.quiet d)).1 = .ok f ∧ f.document.find? "a" = none ∧
      ∃ entry, asked .empty overlapping "a" = some entry := by
  obtain ⟨entry, wa, hentry, hserveA, hreadA⟩ := serve_fresh .empty [] "a"
  obtain ⟨_, wb, -, hserveB, -⟩ := serve_fresh .empty (Document.empty.insert "a" entry).toBytes "b"
  have hfirst := ((begun_empty.opened 0 rfl rfl).opened 1 rfl rfl).served 0 rfl (stateDisk_calm []) rfl
    (inRange_fresh "a") hserveA
  have hsecond := hfirst.served 1 rfl (stateDisk_calm (Document.empty.insert "a" entry).toBytes)
    ((readAll_stateDisk _).trans hreadA.symm) (inRange_fresh "b") hserveB
  obtain ⟨f, hopen, hholds⟩ := hsecond.told.file
  refine ⟨_, _, f, hsecond, hopen, ?_, entry, hentry⟩
  exact Option.map_eq_none_iff.1 (hholds.entries "a")

end LogTail.StateFile
