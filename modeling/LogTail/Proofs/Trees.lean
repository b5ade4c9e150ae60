import LogTail.Proofs.Trails

/-!
# Changes of a tree

What single changes do to the entries of a disk. A change is told by the places that it touches: disks that agree
but for some places (`Disk.AgreeBut`) have the same entries everywhere else. In a `Disk.Tree` nothing lies below a
file, so that to make, to move and to remove a file touches its own places only.

* `Disk.rename_file`, `Disk.write_file`, `Disk.write_new`, `Disk.remove_file`: what a change that succeeds has done.
-/

namespace LogTail.Disk

/-! ## Entries -/

/-- Disks that have the same entries, in the same order, but for some places. -/
structure AgreeBut (places : List Place) (d d' : Disk) : Prop where
  entries : (d'.entries.filter fun e => e.1 ∉ places) = d.entries.filter fun e => e.1 ∉ places
  here : d'.here = d.here

section entries
variable {d d' d'' : Disk} {places : List Place} {place : Place} {entry : Entry}

theorem AgreeBut.refl (places : List Place) (d : Disk) : AgreeBut places d d := ⟨rfl, rfl⟩

theorem AgreeBut.trans (h : AgreeBut places d d') (h' : AgreeBut places d' d'') : AgreeBut places d d'' :=
  ⟨h'.entries.trans h.entries, h'.here.trans h.here⟩

theorem AgreeBut.entryAt (h : AgreeBut places d d') (hplace : place ∉ places) :
    d'.entryAt place = d.entryAt place := by
  have hfind (entries : List (Place × Entry)) : entries.find? (fun e => e.1 = place) =
      (entries.filter fun e => e.1 ∉ places).find? fun e => e.1 = place := by
    rw [List.find?_filter]
    refine congrArg (entries.find? ·) (funext fun e => ?_)
    by_cases heq : e.1 = place
    · simp [heq, hplace]
    · simp [heq]
  rw [Disk.entryAt, Disk.entryAt, hfind, h.entries, ← hfind]

theorem entryAt_eq_some (hplace : place ≠ []) (h : d.entryAt place = some entry) : (place, entry) ∈ d.entries := by
  rw [entryAt, if_neg hplace, Option.map_eq_some_iff] at h
  obtain ⟨e, hfind, rfl⟩ := h
  have hplace := List.find?_some hfind
  rw [decide_eq_true_eq] at hplace
  exact hplace ▸ List.mem_of_find?_eq_some hfind

theorem entryAt_eq_none (hplace : place ≠ []) : d.entryAt place = none ↔ ∀ e ∈ d.entries, e.1 ≠ place := by
  rw [entryAt, if_neg hplace, Option.map_eq_none_iff, List.find?_eq_none]
  simp only [decide_eq_true_eq, ne_eq]

theorem entryAt_nil (d : Disk) : d.entryAt [] = some (.directory rootNumber) := by
  rw [entryAt, if_pos rfl]

end entries

/-! ## Trees -/

def IsDir (d : Disk) (place : Place) : Prop := ∃ number, d.entryAt place = some (.directory number)

/-- A disk whose entries stand in directories, and bear numbers that were given out. -/
structure Tree (d : Disk) : Prop where
  parents : ∀ e ∈ d.entries, e.1 ≠ [] ∧ d.IsDir e.1.dropLast
  numbers : ∀ e ∈ d.entries, ∀ number, e.2 = .file number ∨ e.2 = .directory number → number < d.nextNumber
  root : rootNumber < d.nextNumber
  here : d.IsDir d.here

section tree
variable {d : Disk} {place : Place}

theorem Tree.none_below (h : d.Tree) (hplace : ¬ d.IsDir place) :
    ∀ e ∈ d.entries, place <+: e.1 → e.1 = place := by
  have hne : place ≠ [] := fun hnil => hplace ⟨rootNumber, hnil ▸ d.entryAt_nil⟩
  intro e
  induction hlength : e.1.length using Nat.strongRecOn generalizing e with
  | ind n ih =>
    intro he hbelow
    by_contra hother
    obtain ⟨hnonempty, number, hparent⟩ := h.parents e he
    have hshorter : place <+: e.1.dropLast := by
      obtain ⟨rest, hrest⟩ := hbelow
      have hnotNil : rest ≠ [] := fun hnil => hother (by rw [← hrest, hnil, List.append_nil])
      exact ⟨rest.dropLast, by rw [← hrest, List.dropLast_append_of_ne_nil hnotNil]⟩
    have hdeep : e.1.dropLast ≠ [] := fun hnil => hne (List.prefix_nil.1 (hnil ▸ hshorter))
    have hmem := entryAt_eq_some hdeep hparent
    have hlt : e.1.dropLast.length < n := by
      have hpos := List.length_pos_iff.2 hnonempty
      rw [← hlength, List.length_dropLast]
      omega
    have heq := ih _ hlt (e.1.dropLast, .directory number) rfl hmem hshorter
    exact hplace ⟨number, heq ▸ hparent⟩

theorem Tree.number_lt (h : d.Tree) {number : Nat}
    (hentry : d.entryAt place = some (.file number) ∨ d.entryAt place = some (.directory number)) :
    number < d.nextNumber := by
  by_cases hroot : place = []
  · rw [hroot, entryAt_nil] at hentry
    rcases hentry with hentry | hentry <;> cases hentry
    exact h.root
  · rcases hentry with hentry | hentry
    · exact h.numbers _ (entryAt_eq_some hroot hentry) number (.inl rfl)
    · exact h.numbers _ (entryAt_eq_some hroot hentry) number (.inr rfl)

theorem Tree.isDir_dropLast (h : d.Tree) (hdir : d.IsDir place) : d.IsDir place.dropLast := by
  by_cases hroot : place = []
  · rw [hroot]
    exact ⟨rootNumber, d.entryAt_nil⟩
  · obtain ⟨number, hentry⟩ := hdir
    exact (h.parents _ (entryAt_eq_some hroot hentry)).2

theorem Tree.follows (h : d.Tree) {followLast : Bool} {dir : Place} {names : List Bytes} {result : Except Cause Walk}
    {seen : List Place} (hfollows : d.Follows followLast dir names result seen) (hdir : d.IsDir dir) :
    (∀ place entry, result = .ok (.reached place entry) → d.IsDir place.dropLast) ∧
      ∀ dir' target rest, result = .ok (.atLink dir' target rest) → d.IsDir dir' := by
  induction hfollows with
  | here dir =>
    refine ⟨fun place entry heq => ?_, nofun⟩
    cases heq
    exact h.isDir_dropLast hdir
  | dot _ ih => exact ih hdir
  | dotDot _ ih => exact ih (h.isDir_dropLast hdir)
  | tooLong | blocked => exact ⟨nofun, nofun⟩
  | ends =>
    refine ⟨fun place entry heq => ?_, nofun⟩
    cases heq
    rwa [List.dropLast_concat]
  | enters _ _ directory _ ih => exact ih ⟨_, directory⟩
  | links =>
    refine ⟨nofun, fun dir' target rest heq => ?_⟩
    cases heq
    exact hdir

theorem isDir_start (path : Path) (hdir : d.IsDir place) : d.IsDir (if path.isAbsolute then [] else place) := by
  by_cases habsolute : path.isAbsolute = true
  · rw [if_pos habsolute]
    exact ⟨rootNumber, d.entryAt_nil⟩
  · rwa [if_neg habsolute]

/-- What holds of the names that lead to a place, and of names that lead to a link if it holds of those that are
followed next, holds of the names of every path that leads to the place. -/
theorem Tree.of_walk (h : d.Tree) {followLast : Bool} {path : Path} {entry : Option Entry} {P : List Bytes → Prop}
    (hreached : ∀ dir names, d.IsDir dir → d.walkNames followLast dir names = .ok (.reached place entry) → P names)
    (hlink : ∀ dir names dir' target rest, d.IsDir dir →
      d.walkNames followLast dir names = .ok (.atLink dir' target rest) → P (target.steps ++ rest) → P names)
    (hwalk : d.walk followLast path = .ok (place, entry)) : P path.steps := by
  have hlinks : ∀ (links : Nat) (dir : Place) (names : List Bytes), d.IsDir dir →
      d.walkLinks followLast links dir names = .ok (place, entry) → P names := by
    intro links
    induction links with
    | zero => exact fun _ _ _ hno => by cases hno
    | succ links ih =>
      intro dir names hdir hwalk
      rw [walkLinks] at hwalk
      rcases hnames : d.walkNames followLast dir names with c | ⟨p, e⟩ | ⟨dir', target, rest⟩ <;>
        rw [hnames] at hwalk
      · cases hwalk
      · cases hwalk
        exact hreached _ _ hdir hnames
      · have hdir' := (h.follows (d.follows followLast dir names) hdir).2 _ _ _ hnames
        exact hlink _ _ _ _ _ hdir hnames (ih _ _ (isDir_start target hdir') hwalk)
  exact hlinks _ _ _ (isDir_start path h.here) ((walk_eq_of_ok hwalk d followLast).1 ▸ hwalk)

theorem Tree.isDir_of_walk (h : d.Tree) {followLast : Bool} {path : Path} {entry : Option Entry}
    (hwalk : d.walk followLast path = .ok (place, entry)) : d.IsDir place.dropLast :=
  h.of_walk (P := fun _ => d.IsDir place.dropLast)
    (fun dir names hdir hnames => (h.follows (d.follows followLast dir names) hdir).1 _ _ hnames)
    (fun _ _ _ _ _ _ _ => id) hwalk

/-- A tree stays one if only places that are no directories are touched, and what stands there then stands in a
directory and bears a number that was given out. -/
theorem Tree.of_agree {d' : Disk} {places : List Place} (h : d.Tree) (hagree : AgreeBut places d d')
    (hnext : d.nextNumber ≤ d'.nextNumber) (hplaces : ∀ p ∈ places, ¬ d.IsDir p)
    (hnew : ∀ e ∈ d'.entries, e.1 ∈ places → e.1 ≠ [] ∧ d.IsDir e.1.dropLast ∧
      ∀ number, e.2 = .file number ∨ e.2 = .directory number → number < d'.nextNumber) : d'.Tree := by
  have hdirs {p : Place} (hp : d.IsDir p) : d'.IsDir p := by
    obtain ⟨number, hentry⟩ := hp
    exact ⟨number, (hagree.entryAt fun hin => hplaces p hin ⟨number, hentry⟩).trans hentry⟩
  have hold : ∀ e ∈ d'.entries, e.1 ∉ places → e ∈ d.entries := by
    intro e he hout
    have hmem : e ∈ d'.entries.filter fun e => e.1 ∉ places := List.mem_filter.2 ⟨he, by simpa using hout⟩
    rw [hagree.entries] at hmem
    exact List.mem_of_mem_filter hmem
  refine ⟨fun e he => ?_, fun e he number hnumber => ?_, Nat.lt_of_lt_of_le h.root hnext, ?_⟩
  · by_cases hin : e.1 ∈ places
    · obtain ⟨hnonempty, hparent, _⟩ := hnew e he hin
      exact ⟨hnonempty, hdirs hparent⟩
    · obtain ⟨hnonempty, hparent⟩ := h.parents e (hold e he hin)
      exact ⟨hnonempty, hdirs hparent⟩
  · by_cases hin : e.1 ∈ places
    · exact (hnew e he hin).2.2 number hnumber
    · exact Nat.lt_of_lt_of_le (h.numbers e (hold e he hin) number hnumber) hnext
  · rw [hagree.here]
    exact hdirs h.here

end tree

/-! ## Single changes -/

section changes
variable {d d' : Disk} {place source target : Place} {entry : Entry} {number : Nat}

theorem node_setNode (d : Disk) (number number' : Nat) (node : Node) :
    (d.setNode number node).node number' = if number' = number then node else d.node number' := by
  rw [Disk.node, setNode, List.find?_cons]
  by_cases heq : number' = number
  · simp [heq]
  · have hne : (number == number') = false := by simpa using Ne.symm heq
    rw [if_neg heq, hne, List.find?_filter, Disk.node]
    refine congrArg (fun n : Option (Nat × Node) => (n.map (·.2)).getD _) ?_
    refine congrArg (d.nodes.find? ·) (funext fun n => ?_)
    by_cases hn : n.1 = number'
    · simp [hn, heq]
    · simp [hn]

theorem setEntry_agree (hentries : d'.entries = (d.setEntry place entry).entries) (hhere : d'.here = d.here) :
    AgreeBut [place] d d' := by
  refine ⟨?_, hhere⟩
  rw [hentries, setEntry, List.filter_append, List.filter_filter]
  simp

theorem entryAt_setEntry (hplace : place ≠ []) (hentries : d'.entries = (d.setEntry place entry).entries) :
    d'.entryAt place = some entry := by
  have hnone : (d.entries.filter fun e => e.1 ≠ place).find? (fun e => e.1 = place) = none := by
    rw [List.find?_eq_none]
    intro e he
    simpa using List.of_mem_filter he
  rw [entryAt, if_neg hplace, hentries, setEntry, List.find?_append, hnone]
  simp

theorem entry_eq_of_setEntry (hentries : d'.entries = (d.setEntry place entry).entries) {e : Place × Entry}
    (he : e ∈ d'.entries) (hplace : e.1 = place) : e.2 = entry := by
  rw [hentries, setEntry, List.mem_append, List.mem_singleton] at he
  rcases he with he | rfl
  · exact absurd hplace (by simpa using List.of_mem_filter he)
  · rfl

def without (d : Disk) (place : Place) : Disk := { d with entries := d.entries.filter fun e => e.1 ≠ place }

def moveFile (d : Disk) (source target : Place) : Disk :=
  { d with entries := (d.entries.filter fun e => e.1 ≠ target).map fun e =>
      if e.1 = source then (target, e.2) else e }

theorem without_agree (d : Disk) (place : Place) : AgreeBut [place] d (d.without place) := by
  refine ⟨?_, rfl⟩
  rw [without, List.filter_filter]
  refine List.filter_congr fun e _ => ?_
  simp

theorem dropTree_eq (hbelow : ∀ e ∈ d.entries, place <+: e.1 → e.1 = place) : d.dropTree place = d.without place := by
  refine congrArg (fun entries => { d with entries := entries }) (List.filter_congr fun e he => ?_)
  by_cases heq : e.1 = place
  · simp [heq]
  · have hno : place.isPrefixOf e.1 = false := by
      rw [← Bool.not_eq_true, List.isPrefixOf_iff_prefix]
      exact fun hprefix => heq (hbelow e he hprefix)
    simp [heq, hno]

theorem moveTree_eq (hsource : ∀ e ∈ d.entries, source <+: e.1 → e.1 = source)
    (htarget : ∀ e ∈ d.entries, e.1 ≠ target) : d.moveTree source target = d.moveFile source target := by
  have hfree : (d.entries.filter fun e => e.1 ≠ target) = d.entries := by
    rw [List.filter_eq_self]
    simpa using fun e he => htarget e he
  rw [moveTree, moveFile, hfree]
  refine congrArg (fun entries => { d with entries := entries }) (List.map_congr_left fun e he => ?_)
  by_cases heq : e.1 = source
  · simp [heq]
  · rw [if_neg heq, if_neg]
    exact fun hprefix => heq (hsource e he (List.isPrefixOf_iff_prefix.1 hprefix))

theorem moveFile_without (d : Disk) (source target : Place) :
    (d.without target).moveFile source target = d.moveFile source target := by
  simp [without, moveFile]

theorem moveFile_agree (d : Disk) (source target : Place) : AgreeBut [source, target] d (d.moveFile source target) := by
  refine ⟨?_, rfl⟩
  rw [moveFile, List.filter_map, List.filter_filter]
  have hsame : d.entries.filter (fun e => ((fun e : Place × Entry => decide (e.1 ∉ [source, target])) ∘ fun e =>
      if e.1 = source then (target, e.2) else e) e && decide (e.1 ≠ target)) =
        d.entries.filter fun e => e.1 ∉ [source, target] := by
    refine List.filter_congr fun e _ => ?_
    by_cases heq : e.1 = source <;> simp [heq]
  rw [hsame]
  conv_rhs => rw [← List.map_id (d.entries.filter fun e => e.1 ∉ [source, target])]
  refine List.map_congr_left fun e he => if_neg fun heq => ?_
  have hnot := List.of_mem_filter he
  simp [heq] at hnot

theorem entryAt_moveFile (hne : source ≠ target) (hnonempty : source ≠ [] ∧ target ≠ [])
    (hentry : d.entryAt source = some entry) : (d.moveFile source target).entryAt target = some entry := by
  have hentry : (d.without target).entryAt source = some entry := by
    rw [(without_agree d target).entryAt (by simpa using hne), hentry]
  rw [entryAt, if_neg hnonempty.1, Option.map_eq_some_iff] at hentry
  obtain ⟨e, hfind, rfl⟩ := hentry
  obtain ⟨hplace, before, after, hsplit, hbefore⟩ := List.find?_eq_some_iff_append.1 hfind
  rw [decide_eq_true_eq] at hplace
  have hfront : (before.map fun e => if e.1 = source then (target, e.2) else e) = before := by
    conv_rhs => rw [← List.map_id before]
    exact List.map_congr_left fun b hb => if_neg (by simpa using hbefore b hb)
  have hmoved : (d.moveFile source target).entries =
      before ++ (target, e.2) :: after.map fun e => if e.1 = source then (target, e.2) else e := by
    rw [show (d.moveFile source target).entries = (d.without target).entries.map fun e =>
      if e.1 = source then (target, e.2) else e from rfl, hsplit, List.map_append, List.map_cons, hfront, if_pos hplace]
  rw [entryAt, if_neg hnonempty.2, Option.map_eq_some_iff]
  refine ⟨(target, e.2), ?_, rfl⟩
  rw [List.find?_eq_some_iff_append]
  refine ⟨by simp, before, _, hmoved, fun b hb => ?_⟩
  have hmem : b ∈ (d.without target).entries := by
    rw [hsplit]
    exact List.mem_append_left _ hb
  simpa using List.of_mem_filter hmem

end changes

/-! ## Ends of paths -/

section endings
variable {d d' : Disk} {path : Path} {place : Place} {entry : Option Entry} {slash : Bool}

theorem ending_eq_name (h : d.ending path = .ok (.name place entry false)) :
    d.walk false path = .ok (place, entry) ∧
      ∀ (d' : Disk) (place' : Place) (entry' : Option Entry), d'.walk false path = .ok (place', entry') →
        d'.ending path = .ok (.name place' entry' false) := by
  have hbare : (path.bytes.reverse.dropWhile (· = Path.slash)).reverse = path.bytes := by
    rw [ending] at h
    dsimp only at h
    rcases hwalk : d.walk false ⟨(path.bytes.reverse.dropWhile (· = Path.slash)).reverse⟩ with c | ⟨p, e⟩ <;>
      rw [hwalk] at h <;> split_ifs at h
    case neg =>
      simp only [Except.ok.injEq, Ending.name.injEq, decide_eq_false_iff_not, Nat.not_lt] at h
      -- no byte was dropped
      have hwhole : path.bytes.reverse.dropWhile (· = Path.slash) = path.bytes.reverse :=
        (List.dropWhile_suffix _).eq_of_length_le (by simpa using h.2.2)
      rw [hwhole, List.reverse_reverse]
    all_goals cases h
  simp only [ending, hbare, Nat.lt_irrefl, decide_false] at h ⊢
  by_cases hempty : path.bytes = []
  · rw [if_pos hempty] at h
    cases h
  rw [if_neg hempty, if_neg hempty] at h
  rcases hwalk : d.walk false path with c | ⟨p, e⟩ <;> simp only [hwalk] at h
  · cases h
  by_cases hlast : path.pieces.getLast?.getD [] = Path.dot ∨ path.pieces.getLast?.getD [] = Path.dotDot
  · rw [if_pos hlast] at h
    cases h
  rw [if_neg hlast] at h
  cases h
  refine ⟨rfl, fun d' place' entry' hwalk' => ?_⟩
  rw [if_neg hempty, if_neg hempty, hwalk']
  exact if_neg hlast

theorem walk_of_ending (h : d.ending path = .ok (.name place entry false)) : d.walk false path = .ok (place, entry) :=
  (ending_eq_name h).1

theorem ending_of_walk {place' : Place} {entry' : Option Entry} (h : d.ending path = .ok (.name place entry false))
    (hwalk : d'.walk false path = .ok (place', entry')) : d'.ending path = .ok (.name place' entry' false) :=
  (ending_eq_name h).2 d' place' entry' hwalk

/-- What opening a file for writing comes to: the file that is there, or a new one. -/
theorem openForWriting_cases {number : Nat} (h : d.openForWriting path = .ok (number, d')) :
    ∃ place entry, d.ending path = .ok (.name place entry false) ∧
      ((∃ p, d.walk true path = .ok (p, some (.file number)) ∧ d' = d) ∨
        ∃ p, d.walk true path = .ok (p, none) ∧ number = d.nextNumber ∧
          d' = d.addNode p ⟨[], ⟨0, 0⟩, false⟩) := by
  rw [openForWriting] at h
  rcases hending : d.ending path with c | ⟨place, entry, _ | _⟩ | _ <;> simp only [hending] at h
  · cases h
  · refine ⟨place, entry, rfl, ?_⟩
    rcases hwalk : d.walk true path with c | ⟨p, _ | number' | _ | _⟩ <;> simp only [hwalk] at h
    · cases h
    · cases h
      exact .inr ⟨p, rfl, rfl, rfl⟩
    · cases h
      exact .inl ⟨p, rfl, rfl⟩
    · cases h
    · cases h
  · cases h
  · cases h

theorem write_cases {content : Bytes} (h : d.write path content = .ok d') :
    ∃ number d₁, d.openForWriting path = .ok (number, d₁) ∧ d' = d₁.setContent number content := by
  rw [write] at h
  rcases hopen : d.openForWriting path with c | ⟨number, d₁⟩ <;> rw [hopen] at h
  · cases h
  · cases h
    exact ⟨number, d₁, rfl, rfl⟩

/-- **A file that is written where nothing stood** is a new one with its content. -/
theorem write_new {content : Bytes} (hnone : d.walk false path = .ok (place, none))
    (h : d.write path content = .ok d') :
    d'.entries = (d.setEntry place (.file d.nextNumber)).entries ∧ d'.here = d.here ∧
      d'.nextNumber = d.nextNumber + 1 ∧ (d'.node d.nextNumber).isDirectory = false ∧
      (d'.node d.nextNumber).content = content ∧ ∀ m, m ≠ d.nextNumber → d'.node m = d.node m := by
  obtain ⟨number, d₁, hopen, rfl⟩ := write_cases h
  have htrue := (walk_follow hnone nofun).1
  obtain ⟨_, _, _, ⟨p, hfile, _⟩ | ⟨p, hplace, rfl, rfl⟩⟩ := openForWriting_cases hopen
  · rw [htrue] at hfile
    cases hfile
  rw [htrue] at hplace
  obtain ⟨rfl, _⟩ := Prod.mk.inj (Except.ok.inj hplace)
  have hnew : (d.addNode place ⟨[], ⟨0, 0⟩, false⟩).node d.nextNumber = ⟨[], ⟨0, 0⟩, false⟩ :=
    (node_setNode d ..).trans (if_pos rfl)
  refine ⟨rfl, rfl, rfl, ?_, ?_, fun m hm => ?_⟩
  · rw [setContent, node_setNode, if_pos rfl, hnew]
  · rw [setContent, node_setNode, if_pos rfl]
  · rw [setContent, node_setNode, if_neg hm]
    exact (node_setNode d ..).trans (if_neg hm)

/-- **A file that is written where a file stands** gets another content. -/
theorem write_file {content : Bytes} {number : Nat} (hfile : d.walk false path = .ok (place, some (.file number)))
    (h : d.write path content = .ok d') :
    d'.entries = d.entries ∧ d'.here = d.here ∧ d'.nextNumber = d.nextNumber ∧
      (d'.node number).isDirectory = (d.node number).isDirectory ∧ (d'.node number).content = content ∧
      ∀ m, m ≠ number → d'.node m = d.node m := by
  obtain ⟨n, d₁, hopen, rfl⟩ := write_cases h
  have htrue := (walk_follow hfile nofun).1
  obtain ⟨_, _, _, ⟨p, hplace, rfl⟩ | ⟨p, hnone, _⟩⟩ := openForWriting_cases hopen
  · rw [htrue] at hplace
    cases hplace
    refine ⟨rfl, rfl, rfl, ?_, ?_, fun m hm => ?_⟩
    · rw [setContent, node_setNode, if_pos rfl]
    · rw [setContent, node_setNode, if_pos rfl]
    · rw [setContent, node_setNode, if_neg hm]
  · rw [htrue] at hnone
    cases hnone

theorem remove_cases (h : d.remove path = .ok d') :
    ∃ place entry slash, d.ending path = .ok (.name place (some entry) slash) ∧ d' = d.dropTree place := by
  rw [remove] at h
  rcases hending : d.ending path with c | ⟨place, _ | entry, slash⟩ | _ <;> simp only [hending] at h
  · cases h
  · cases h
  · by_cases hslash : (slash && !entry.isDirectory) = true
    · rw [if_pos hslash] at h
      cases h
    · rw [if_neg hslash] at h
      cases h
      exact ⟨place, entry, slash, rfl, rfl⟩
  · cases h

/-- What moving a file to where something stands comes to: nothing, where that is the same file, or it goes in its
place. -/
theorem move_cases {a b : Place} {number : Nat} {o : Entry} (h : d.move a (.file number) b (some o) = .ok d') :
    ((a = b ∨ o = .file number) ∧ d' = d) ∨
      a ≠ b ∧ (∀ n, o ≠ .directory n) ∧ d' = (d.dropTree b).moveTree a b := by
  have hfile : (Entry.file number).isDirectory = false := rfl
  rw [move] at h
  by_cases hsame : (decide (a = b) || (Entry.file number).sameFile o) = true
  · rw [if_pos hsame] at h
    cases h
    refine .inl ⟨?_, rfl⟩
    rw [Bool.or_eq_true, decide_eq_true_eq] at hsame
    refine hsame.imp_right fun hsame => ?_
    cases o with
    | file n => rw [eq_of_beq (a := number) (b := n) hsame]
    | directory | link => cases hsame
  rw [if_neg hsame, hfile, Bool.false_and, if_neg Bool.false_ne_true, Bool.not_false, Bool.true_and] at h
  by_cases hdirectory : o.isDirectory = true
  · rw [if_pos hdirectory] at h
    cases h
  rw [if_neg hdirectory] at h
  split_ifs at h
  cases h
  rw [Bool.or_eq_true, not_or, decide_eq_true_eq] at hsame
  refine .inr ⟨hsame.1, fun n hn => hdirectory ?_, rfl⟩
  rw [hn]
  rfl

theorem rename_cases {source target : Path} {number : Nat} {a : Place} {slash : Bool}
    (hsource : d.ending source = .ok (.name a (some (.file number)) slash)) (h : d.rename source target = .ok d') :
    slash = false ∧ ∃ b old, d.ending target = .ok (.name b old false) ∧
      ((a = b ∨ old = some (.file number)) ∧ d' = d ∨ a ≠ b ∧ ¬ a <+: b ∧ ¬ b <+: a ∧
        (∀ number, old ≠ some (.directory number)) ∧
          (old = none ∧ d' = d.moveTree a b ∨ d' = (d.dropTree b).moveTree a b)) := by
  rw [rename, hsource] at h
  rcases htarget : d.ending target with c | ⟨b, old, slash'⟩ | _ <;> simp only [htarget] at h
  · cases h
  · have hfile : (Entry.file number).isDirectory = false := rfl
    rw [hfile] at h
    by_cases hslash : (slash || slash') = true
    · rw [hslash, Bool.not_false, Bool.true_and, if_pos rfl] at h
      cases h
    rw [Bool.not_eq_true, Bool.or_eq_false_iff] at hslash
    obtain ⟨rfl, rfl⟩ := hslash
    refine ⟨rfl, b, old, rfl, ?_⟩
    simp only [Bool.or_self, Bool.and_false, Bool.false_eq_true, if_false] at h
    by_cases hab : (a.isPrefixOf b && decide (a ≠ b)) = true
    · rw [if_pos hab] at h
      cases h
    by_cases hba : (b.isPrefixOf a && decide (a ≠ b)) = true
    · rw [if_neg hab, if_pos hba] at h
      cases h
    rw [if_neg hab, if_neg hba] at h
    rcases old with _ | o
    · -- nothing stood at the target
      have hne : a ≠ b := by
        rintro rfl
        have hentry := (entry_of_walk (walk_of_ending hsource)).trans (entry_of_walk (walk_of_ending htarget)).symm
        cases hentry
      simp only [hne, ne_eq, not_false_eq_true, decide_true, Bool.and_true, List.isPrefixOf_iff_prefix] at hab hba
      cases h
      exact .inr ⟨hne, hab, hba, nofun, .inl ⟨rfl, rfl⟩⟩
    rcases move_cases h with ⟨hsame, rfl⟩ | ⟨hne, hdirectory, rfl⟩
    · exact .inl ⟨hsame.imp_right (congrArg some), rfl⟩
    · simp only [hne, ne_eq, not_false_eq_true, decide_true, Bool.and_true, List.isPrefixOf_iff_prefix] at hab hba
      exact .inr ⟨hne, hab, hba, fun n hn => hdirectory n (Option.some.inj hn), .inr rfl⟩
  · cases h

/-- **A file that is renamed stands where the target leads**, in place of what stood there. -/
theorem rename_file (htree : d.Tree) {source target : Path} {number : Nat} {a b : Place} {old : Option Entry}
    (hsource : d.ending source = .ok (.name a (some (.file number)) slash)) (h : d.rename source target = .ok d')
    (htarget : d.walk false target = .ok (b, old)) (hother : a ≠ b ∧ old ≠ some (.file number)) :
    a ≠ [] ∧ b ≠ [] ∧ (¬ d.IsDir b) ∧ d' = d.moveFile a b := by
  obtain ⟨rfl, b', old', hending, hcases⟩ := rename_cases hsource h
  obtain ⟨rfl, rfl⟩ := Prod.mk.inj (Except.ok.inj (htarget.symm.trans (walk_of_ending hending)))
  have hold := entry_of_walk htarget
  have hentry : d.entryAt a = some (.file number) := (entry_of_walk (walk_of_ending hsource)).symm
  rcases hcases with ⟨hsame, _⟩ | ⟨_, _, _, hfile, hmoved⟩
  · exact absurd hsame (not_or.2 hother)
  have hdir : ¬ d.IsDir b := fun ⟨n, hn⟩ => hfile n (hold.trans hn)
  have hbelow : ∀ e ∈ d.entries, a <+: e.1 → e.1 = a :=
    htree.none_below fun ⟨n, hn⟩ => by
      rw [hentry] at hn
      cases hn
  have hnonempty : b ≠ [] := fun hnil => hdir ⟨rootNumber, hnil ▸ d.entryAt_nil⟩
  refine ⟨?_, hnonempty, hdir, ?_⟩
  · rintro rfl
    rw [entryAt_nil] at hentry
    cases hentry
  rcases hmoved with ⟨rfl, rfl⟩ | rfl
  · exact moveTree_eq hbelow ((entryAt_eq_none hnonempty).1 hold.symm)
  · rw [dropTree_eq (htree.none_below hdir), moveTree_eq _ _, moveFile_without]
    · exact fun e he => hbelow e (List.mem_of_mem_filter he)
    · exact fun e he => by simpa using List.of_mem_filter he

end endings

end LogTail.Disk
