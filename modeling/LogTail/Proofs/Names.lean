import LogTail.Proofs.Trees

/-!
# Names of files

Where no link leads to a file, all paths that lead to it end with its name (`Disk.Tree.fileName?_eq`), however they
are spelled and over whatever links to directories they lead.
-/

namespace LogTail

namespace Path

theorem fileName?_of_steps {p : Path} {name : Bytes} (h : p.steps.getLast? = some name)
    (hproper : name ≠ dot ∧ name ≠ dotDot) : p.fileName? = some name := by
  rw [steps] at h
  by_cases hslash : p.bytes.getLast? = some slash
  · rw [if_pos hslash, List.getLast?_concat] at h
    exact absurd (Option.some.inj h).symm hproper.1
  rw [if_neg hslash] at h
  obtain ⟨front, hfront⟩ := List.getLast?_eq_some_iff.1 h
  have hfilter : p.pieces.filter isName = (p.pieces.filter (· ≠ [])).filter (· ≠ dot) := by
    rw [List.filter_filter]
    refine List.filter_congr fun piece _ => ?_
    rw [isName, Bool.and_comm]
  have hlast : (p.pieces.filter isName).getLast? = some name := by
    rw [hfilter, hfront, List.filter_append, List.filter_cons_of_pos (by simpa using hproper.1), List.filter_nil,
      List.getLast?_concat]
  rw [fileName?, hlast]
  exact if_neg hproper.2

end Path

namespace Disk

/-- Where names lead bears the last of them if it is a file; and at a link there are others behind it. -/
structure EndsAlike (names : List Bytes) (result : Except Cause Walk) : Prop where
  reached : ∀ place n, result = .ok (.reached place (some (.file n))) →
    ∃ name, names.getLast? = some name ∧ place.getLast? = some name ∧ name ≠ Path.dot ∧ name ≠ Path.dotDot
  atLink : ∀ dir target rest, result = .ok (.atLink dir target rest) →
    rest ≠ [] ∧ names.getLast? = rest.getLast?

section names
variable {d : Disk} {dir place : Place} {names : List Bytes} {result : Except Cause Walk} {seen : List Place}
  {n : Nat} {p p' : Path}

theorem EndsAlike.cons (h : EndsAlike names result) (name : Bytes) : EndsAlike (name :: names) result := by
  have hcons (hne : names ≠ []) : (name :: names).getLast? = names.getLast? := by
    obtain ⟨first, rest, rfl⟩ := List.exists_cons_of_ne_nil hne
    exact List.getLast?_cons_cons
  refine ⟨fun place n heq => ?_, fun dir target rest heq => ?_⟩
  · obtain ⟨last, hlast, hplace⟩ := h.reached place n heq
    exact ⟨last, (hcons fun hnil => by rw [hnil] at hlast; cases hlast).trans hlast, hplace⟩
  · obtain ⟨hne, hlast⟩ := h.atLink dir target rest heq
    exact ⟨hne, (hcons fun hnil => hne (by simpa [hnil] using hlast.symm)).trans hlast⟩

theorem Tree.endsAlike (h : d.Tree) (hfollows : d.Follows false dir names result seen) (hdir : d.IsDir dir) :
    EndsAlike names result := by
  induction hfollows with
  | here dir =>
    refine ⟨fun place n heq => ?_, nofun⟩
    obtain ⟨number, hentry⟩ := hdir
    rw [hentry] at heq
    cases heq
  | dot _ ih => exact (ih hdir).cons _
  | dotDot _ ih => exact (ih (h.isDir_dropLast hdir)).cons _
  | tooLong | blocked => exact ⟨nofun, nofun⟩
  | ends proper =>
    refine ⟨fun place n heq => ?_, nofun⟩
    cases heq
    exact ⟨_, rfl, List.getLast?_concat, proper⟩
  | enters _ _ directory _ ih => exact (ih ⟨_, directory⟩).cons _
  | @links dir name rest proper short target link goesOn =>
    refine ⟨nofun, fun dir' target rest heq => ?_⟩
    cases heq
    have hne : rest ≠ [] := fun hnil => Bool.false_ne_true (goesOn hnil)
    obtain ⟨first, rest, rfl⟩ := List.exists_cons_of_ne_nil hne
    exact ⟨hne, List.getLast?_cons_cons⟩

/-- **A path that leads to a file, and not to a link first, ends with the name of the file.** -/
theorem Tree.fileName?_of_walk (h : d.Tree) (hwalk : d.walk false p = .ok (place, some (.file n))) :
    p.fileName? = place.getLast? := by
  have hends : ∃ name, p.steps.getLast? = some name ∧ place.getLast? = some name ∧
      name ≠ Path.dot ∧ name ≠ Path.dotDot := by
    refine h.of_walk (P := fun names => ∃ name, names.getLast? = some name ∧ place.getLast? = some name ∧
      name ≠ Path.dot ∧ name ≠ Path.dotDot) (fun dir names hdir hnames => ?_)
      (fun dir names dir' target rest hdir hnames hnext => ?_) hwalk
    · exact (h.endsAlike (d.follows false dir names) hdir).reached _ _ hnames
    · -- the names behind a link end as all do
      obtain ⟨hne, hlast⟩ := (h.endsAlike (d.follows false dir names) hdir).atLink _ _ _ hnames
      rwa [List.getLast?_append_of_ne_nil _ hne, ← hlast] at hnext
  obtain ⟨name, hname, hplace, hproper⟩ := hends
  rw [Path.fileName?_of_steps hname hproper, hplace]

/-- What stands as a directory is one. -/
def Kinds (d : Disk) : Prop := ∀ place n, d.entryAt place = some (.directory n) → (d.node n).isDirectory = true

def Stands (d : Disk) (place : Place) (n : Nat) : Prop :=
  d.entryAt place = some (.file n) ∨ d.entryAt place = some (.directory n)

/-- There is no link to what a path leads to: neither is its last name a symbolic link, nor does what it leads to
stand at another place. -/
structure Unlinked (d : Disk) (p : Path) : Prop where
  soft : d.walk false p = d.walk true p
  hard : ∀ n place place', d.numberOf p = .ok n → d.Stands place n → d.Stands place' n → place = place'

theorem walk_of_numberOf (hn : d.numberOf p = .ok n) :
    ∃ place, d.walk true p = .ok (place, d.entryAt place) ∧ d.Stands place n := by
  unfold numberOf at hn
  rcases hwalk : d.walk true p with c | ⟨place, _ | _ | _ | _⟩ <;> rw [hwalk] at hn <;> cases hn
  · exact ⟨place, by rw [← entry_of_walk hwalk], .inl (entry_of_walk hwalk).symm⟩
  · exact ⟨place, by rw [← entry_of_walk hwalk], .inr (entry_of_walk hwalk).symm⟩

/-- Without links, paths that lead to one file lead to one place. -/
theorem Unlinked.walk_eq (hp : d.Unlinked p) (hn : d.numberOf p = .ok n) (hn' : d.numberOf p' = .ok n) :
    d.walk true p = d.walk true p' := by
  obtain ⟨place, hwalk, hplace⟩ := walk_of_numberOf hn
  obtain ⟨place', hwalk', hplace'⟩ := walk_of_numberOf hn'
  rw [hwalk, hwalk', hp.hard n place place' hn hplace hplace']

/-- **Without links, paths that lead to one file end with one name.** -/
theorem Tree.fileName?_eq (h : d.Tree) (hkinds : d.Kinds) (hp : d.Unlinked p) (hp' : d.Unlinked p')
    (hn : d.numberOf p = .ok n) (hn' : d.numberOf p' = .ok n) (hfile : (d.node n).isDirectory = false) :
    p.fileName? = p'.fileName? := by
  have hsame := hp.walk_eq hn hn'
  obtain ⟨place, hwalk, hplace⟩ := walk_of_numberOf hn
  have hentry : d.entryAt place = some (.file n) := hplace.resolve_right fun hdirectory => by
    rw [hkinds place n hdirectory] at hfile
    cases hfile
  rw [hentry] at hwalk
  rw [h.fileName?_of_walk (hp.soft.trans hwalk), h.fileName?_of_walk (hp'.soft.trans (hsame.symm.trans hwalk))]

end names

end Disk

end LogTail
