import LogTail.Proofs.Reading
import LogTail.Proofs.Trees
import LogTail.Saved.StateFile

/-!
# Replacing a file

A file is replaced by writing another beside it and renaming that over it. Wherever this fails, by the disk or by
a fault, and whatever others do to the rest of the disk meanwhile, the path reads as before; and if it succeeds it
reads what was written (`StateFile.Calm.replaceFile`).

* `Disk.Ready` is what this takes of a disk: a tree, in which nothing stands under the names of temporary files, and
  no link at the end of the path that the path itself leads over. `Disk.Spares` says that others touch nothing on the
  way of the path and of temporary files.
* `Disk.Beside`: the temporary file has been written, and the path does not lead to it.
-/

namespace LogTail

open StateFile

/-- The file beside a path that is written in its stead, by the number of the call. -/
def StateFile.temporary (path : Path) (n : Nat) : Path := path.withExtension s!"{n}.tmp"

namespace Disk

/-! ## What a replacement takes -/

/-- A disk on which a file can be replaced from a call on. -/
structure Ready (d : Disk) (path : Path) (calls : Nat) : Prop where
  tree : d.Tree
  /-- The path does not lead over a link at its own end. -/
  own : ∀ place target, d.walk false path = .ok (place, some (.link target)) → place ∉ (d.trail false path).dropLast
  unused : ∀ n ≥ calls, ∀ place entry slash, d.ending (temporary path n) = .ok (.name place entry slash) →
    entry = none ∧ place ∉ d.trail true path

/-- To make the directories above a path changes nothing of what it reads. -/
def Makes (d : Disk) (path : Path) : Prop :=
  ∀ parent d', path.parent? = some parent → d.makeDirectories parent = .ok d' →
    d'.readAll path = d.readAll path ∧ ∀ calls, d.Ready path calls → d'.Ready path calls

/-- What others do leaves a file, the way to it, and temporary files as they are. -/
structure Spares (path : Path) (d d' : Disk) : Prop where
  here : d'.here = d.here
  way : ∀ place ∈ d.trail true path, d'.entryAt place = d.entryAt place
  file : ∀ number, d.numberOf path = .ok number → d'.node number = d.node number
  endings : ∀ n, d'.ending (temporary path n) = d.ending (temporary path n)
  temporaries : ∀ n place number slash,
    d.ending (temporary path n) = .ok (.name place (some (.file number)) slash) → d'.node number = d.node number
  tree : d.Tree → d'.Tree
  makes : d.Makes path → d'.Makes path

/-! ## What a path reads -/

section reading
variable {d d' : Disk} {path : Path} {place place' : Place} {number : Nat}

theorem numberOf_congr (h : d'.walk true path = d.walk true path) : d'.numberOf path = d.numberOf path := by
  rw [numberOf, numberOf, h]

theorem readAll_congr (h : d'.walk true path = d.walk true path)
    (hnode : ∀ number, d.numberOf path = .ok number → d'.node number = d.node number) :
    d'.readAll path = d.readAll path := by
  rw [readAll, readAll, lookup, lookup, numberOf_congr h]
  rcases hnumber : d.numberOf path with c | number
  · rfl
  · simp only [Except.map, hnode number hnumber]

theorem readAll_of_walk {content : Bytes} (h : d.walk true path = .ok (place, some (.file number)))
    (hfile : d.HasFile number content) : d.readAll path = .ok content := by
  have hnumber : d.numberOf path = .ok number := by rw [numberOf, h]
  simp only [readAll, lookup, hnumber, Except.map, hfile.regular, Bool.false_eq_true, if_false, hfile.content]

theorem Tree.numberOf_lt (h : d.Tree) (hnumber : d.numberOf path = .ok number) : number < d.nextNumber := by
  rw [numberOf] at hnumber
  rcases hwalk : d.walk true path with c | ⟨p, _ | n | n | target⟩ <;> rw [hwalk] at hnumber <;> cases hnumber
  · exact h.number_lt (.inl (entry_of_walk hwalk).symm)
  · exact h.number_lt (.inr (entry_of_walk hwalk).symm)

theorem ending_congr (hwalk : d'.walk false path = d.walk false path) {entry : Option Entry}
    (h : d.ending path = .ok (.name place entry false)) : d'.ending path = .ok (.name place entry false) :=
  ending_of_walk h (hwalk.trans (walk_of_ending h))

end reading

/-! ## The steps -/

/-- A temporary file has been written, and the path does not lead to it. -/
structure Beside (d : Disk) (path : Path) (n : Nat) (content : Bytes) : Prop where
  tree : d.Tree
  own : ∀ place target, d.walk false path = .ok (place, some (.link target)) → place ∉ (d.trail false path).dropLast
  written : ∃ place number, d.ending (temporary path n) = .ok (.name place (some (.file number)) false) ∧
    place ∉ d.trail true path ∧ d.HasFile number content ∧ d.numberOf path ≠ .ok number

section steps
variable {d d' : Disk} {path : Path} {n calls : Nat} {content : Bytes}

theorem Spares.readAll (h : Spares path d d') : d'.readAll path = d.readAll path :=
  readAll_congr (walk_congr true h.here h.way).1 h.file

theorem Spares.own (h : Spares path d d')
    (hown : ∀ place target, d.walk false path = .ok (place, some (.link target)) →
      place ∉ (d.trail false path).dropLast) (place : Place) (target : Path)
    (hwalk : d'.walk false path = .ok (place, some (.link target))) :
    place ∉ (d'.trail false path).dropLast := by
  obtain ⟨hsame, htrail⟩ := walk_congr false h.here fun p hp => h.way p ((d.trail_follow path).subset hp)
  rw [hsame] at hwalk
  rw [htrail]
  exact hown place target hwalk

theorem Ready.mono (h : d.Ready path calls) (hle : calls ≤ n) : d.Ready path n :=
  ⟨h.tree, h.own, fun m hm => h.unused m (Nat.le_trans hle hm)⟩

theorem Ready.spares (h : d.Ready path calls) (hspares : Spares path d d') : d'.Ready path calls where
  tree := hspares.tree h.tree
  own := hspares.own h.own
  unused m hm place entry slash hending := by
    rw [hspares.endings] at hending
    rw [(walk_congr true hspares.here hspares.way).2]
    exact h.unused m hm place entry slash hending

theorem Beside.spares (h : d.Beside path n content) (hspares : Spares path d d') : d'.Beside path n content where
  tree := hspares.tree h.tree
  own := hspares.own h.own
  written := by
    obtain ⟨place, number, hending, hout, hfile, hother⟩ := h.written
    have hnode := hspares.temporaries n place number false hending
    obtain ⟨hwalk, htrail⟩ := walk_congr true hspares.here hspares.way
    refine ⟨place, number, (hspares.endings n).trans hending, htrail ▸ hout, ⟨?_, ?_⟩, ?_⟩
    · rw [hnode, hfile.regular]
    · rw [hnode, hfile.content]
    · rwa [numberOf_congr hwalk]

/-- What is done away from the way of a path leaves it as it is. -/
theorem AgreeBut.reads (path : Path) {places : List Place} (h : AgreeBut places d d')
    (hplaces : ∀ place ∈ places, place ∉ d.trail true path)
    (hnode : ∀ number, d.numberOf path = .ok number → d'.node number = d.node number) :
    d'.readAll path = d.readAll path ∧ d'.walk true path = d.walk true path ∧
      d'.trail true path = d.trail true path ∧ d'.walk false path = d.walk false path ∧
      d'.trail false path = d.trail false path := by
  have hway : ∀ place ∈ d.trail true path, d'.entryAt place = d.entryAt place := fun place hplace =>
    h.entryAt fun hin => hplaces place hin hplace
  obtain ⟨hwalk, htrail⟩ := walk_congr true h.here hway
  obtain ⟨hwalk', htrail'⟩ := walk_congr false h.here
    fun place hplace => hway place ((d.trail_follow path).subset hplace)
  exact ⟨readAll_congr hwalk hnode, hwalk, htrail, hwalk', htrail'⟩

theorem AgreeBut.walk_put {places : List Place} {place : Place} {entry : Option Entry} {number : Nat}
    (h : AgreeBut places d d') (hwalk : d.walk false path = .ok (place, entry))
    (hplaces : ∀ p ∈ places, p ∉ (d.trail false path).dropLast) (hput : d'.entryAt place = some (.file number))
    (follow : Bool) :
    d'.walk follow path = .ok (place, some (.file number)) ∧ d'.trail follow path = d.trail false path :=
  walk_of_put follow hwalk h.here (fun p hp => h.entryAt fun hin => hplaces p hin hp) hput

theorem Ready.write (h : d.Ready path calls) (hn : calls ≤ n) (hwrite : d.write (temporary path n) content = .ok d') :
    d'.Beside path n content ∧ d'.readAll path = d.readAll path := by
  obtain ⟨_, _, hopen, _⟩ := write_cases hwrite
  obtain ⟨place, entry, hending, _⟩ := openForWriting_cases hopen
  obtain ⟨rfl, hout⟩ := h.unused n hn place entry false hending
  have hwalk := walk_of_ending hending
  have hnone : d.entryAt place = none := (entry_of_walk hwalk).symm
  have hne : place ≠ [] := by
    rintro rfl
    rw [entryAt_nil] at hnone
    cases hnone
  obtain ⟨hentries, hhere, hnext, hregular, hcontent, hnodes⟩ := write_new hwalk hwrite
  have hagree := setEntry_agree hentries hhere
  have hentry := entryAt_setEntry hne hentries
  obtain ⟨hread, hsame, htrail, hsame', htrail'⟩ := hagree.reads path (fun p hp => List.mem_singleton.1 hp ▸ hout)
    fun number hnumber => hnodes number (Nat.ne_of_lt (h.tree.numberOf_lt hnumber))
  refine ⟨⟨?_, ?_, place, d.nextNumber, ?_, htrail ▸ hout, ⟨hregular, hcontent⟩, ?_⟩, hread⟩
  · refine h.tree.of_agree hagree (by omega) (fun p hp => ?_) fun e he hplace => ?_
    · rw [List.mem_singleton.1 hp]
      rintro ⟨number, hdir⟩
      rw [hnone] at hdir
      cases hdir
    · rw [List.mem_singleton] at hplace
      rw [entry_eq_of_setEntry hentries he hplace, hplace]
      refine ⟨hne, h.tree.isDir_of_walk hwalk, fun number hnumber => ?_⟩
      rcases hnumber with hnumber | hnumber <;> cases hnumber
      omega
  · rw [hsame', htrail']
    exact h.own
  · -- nothing on the way to the file changed, and it stands at the end
    refine ending_of_walk hending (hagree.walk_put hwalk (fun p hp hin => ?_) hentry false).1
    rw [List.mem_singleton.1 hp] at hin
    exact not_passable_of_none hnone (passable_of_mem_dropLast hwalk hin)
  · rw [numberOf_congr hsame]
    exact fun hnumber => Nat.lt_irrefl _ (h.tree.numberOf_lt hnumber)

theorem Beside.write {content' : Bytes} (h : d.Beside path n content)
    (hwrite : d.write (temporary path n) content' = .ok d') :
    d'.Beside path n content' ∧ d'.readAll path = d.readAll path := by
  obtain ⟨place, number, hending, hout, hfile, hother⟩ := h.written
  obtain ⟨hentries, hhere, hnext, hregular, hcontent, hnodes⟩ := write_file (walk_of_ending hending) hwrite
  have hagree : AgreeBut [] d d' := ⟨by rw [hentries], hhere⟩
  obtain ⟨hread, hsame, htrail, hsame', htrail'⟩ := hagree.reads path nofun
    fun m hm => hnodes m fun heq => hother (heq ▸ hm)
  refine ⟨⟨?_, ?_, place, number, ?_, htrail ▸ hout, ⟨hregular.trans hfile.regular, hcontent⟩, ?_⟩, hread⟩
  · exact h.tree.of_agree hagree (Nat.le_of_eq hnext.symm) nofun nofun
  · rw [hsame', htrail']
    exact h.own
  · exact ending_congr (walk_congr false hhere fun p _ => hagree.entryAt List.not_mem_nil).1 hending
  · rwa [numberOf_congr hsame]

/-- **A temporary file is renamed over the path**, and is what the path reads then. -/
theorem Beside.rename (h : d.Beside path n content) (hrename : d.rename (temporary path n) path = .ok d') :
    d'.readAll path = .ok content := by
  obtain ⟨a, number, hending, hout, hfile, hother⟩ := h.written
  obtain ⟨-, b, old, htarget, -⟩ := rename_cases hending hrename
  have hwalk := walk_of_ending htarget
  have hsub := (d.trail_follow path).subset
  have hne : a ≠ b := fun heq => hout (hsub (heq ▸ mem_trail hwalk))
  have hold : old ≠ some (.file number) := by
    rintro rfl
    exact hother (by rw [numberOf, (walk_follow hwalk nofun).1])
  obtain ⟨ha, hb, hdir, rfl⟩ := rename_file h.tree hending hrename hwalk ⟨hne, hold⟩
  have hentry := entryAt_moveFile hne ⟨ha, hb⟩ (entry_of_walk (walk_of_ending hending)).symm
  refine readAll_of_walk ((moveFile_agree d a b).walk_put hwalk (fun p hp hin => ?_) hentry true).1
    ⟨hfile.regular, hfile.content⟩
  rcases List.mem_pair.1 hp with rfl | rfl
  · exact hout (hsub (List.dropLast_subset _ hin))
  · rcases passable_of_mem_dropLast hwalk hin with hdirectory | ⟨target, hlink⟩
    · exact hdir hdirectory
    · exact h.own p target ((entry_of_walk hwalk).trans hlink ▸ hwalk) hin

theorem Beside.remove (h : d.Beside path n content) (hremove : d.remove (temporary path n) = .ok d') :
    d'.readAll path = d.readAll path := by
  obtain ⟨place, number, hending, hout, hfile, hother⟩ := h.written
  obtain ⟨place', entry, slash, hending', rfl⟩ := Disk.remove_cases hremove
  rw [hending] at hending'
  cases hending'
  have hentry : d.entryAt place = some (.file number) := (entry_of_walk (walk_of_ending hending)).symm
  rw [dropTree_eq (h.tree.none_below fun ⟨m, hm⟩ => by rw [hentry] at hm; cases hm)]
  exact ((without_agree d place).reads path (fun p hp => List.mem_singleton.1 hp ▸ hout) fun _ _ => rfl).1

end steps

end Disk

/-! ## The whole replacement -/

namespace StateFile

/-- A step of replacing a file. -/
inductive Step (path : Path) : Disk → Disk → Prop
  | makes {d d' : Disk} {parent : Path} (above : path.parent? = some parent)
    (made : d.makeDirectories parent = .ok d') : Step path d d'
  | writes {d d' : Disk} (n : Nat) (content : Bytes) (written : d.write (temporary path n) content = .ok d') :
    Step path d d'
  | renames {d d' : Disk} (n : Nat) (renamed : d.rename (temporary path n) path = .ok d') : Step path d d'
  | removes {d d' : Disk} (n : Nat) (removed : d.remove (temporary path n) = .ok d') : Step path d d'

/-- The disks that a world can come to while a file is replaced, by its steps and by what others do. -/
inductive Meets (path : Path) (w : World) : Disk → Prop
  | start : Meets path w w.disk
  | others {d : Disk} (h : Meets path w d) (m : Moment) : Meets path w (w.others m d)
  | step {d d' : Disk} (h : Meets path w d) (hstep : Step path d d') : Meets path w d'

/-- A world in which others leave a file alone while it is replaced. Calls may fail. -/
structure Calm (path : Path) (w : World) : Prop where
  ready : w.disk.Ready path w.calls
  makes : w.disk.Makes path
  spares : ∀ m d, Meets path w d → d.Spares path (w.others m d)

/-- A later moment of a replacement. -/
structure During (path : Path) (w w' : World) : Prop where
  meets : Meets path w w'.disk
  others : w'.others = w.others
  calls : w.calls ≤ w'.calls

section replacement
variable {path : Path} {w w' : World} {n : Nat} {bytes content : Bytes}

theorem During.start (path : Path) (w : World) : During path w w := ⟨.start, rfl, Nat.le_refl _⟩

theorem Calm.act (h : Calm path w) (hduring : During path w w') {f : Disk → Except Cause Disk}
    (hf : ∀ d d', f d = .ok d' → Step path d d') :
    ∃ d w'', w'.disk.Spares path d ∧ w''.calls = w'.calls + 1 ∧ During path w w'' ∧
      ((f d = .ok w''.disk ∧ w'.act f = (.ok (), w'')) ∨ ∃ c, w''.disk = d ∧ w'.act f = (.error c, w'')) := by
  have hmeets := hduring.meets.others (.call w'.calls)
  have hspares := h.spares (.call w'.calls) w'.disk hduring.meets
  rw [← hduring.others] at hmeets hspares
  have hlater (d : Disk) (hd : Meets path w d) : During path w { w' with disk := d, calls := w'.calls + 1 } :=
    ⟨hd, hduring.others, Nat.le_succ_of_le hduring.calls⟩
  unfold World.act
  dsimp only
  split
  · rename_i disk hresult
    split at hresult
    · cases hresult
    · exact ⟨_, _, hspares, rfl, hlater disk (hmeets.step (hf _ _ hresult)), .inl ⟨hresult, rfl⟩⟩
  · exact ⟨_, _, hspares, rfl, hlater _ hmeets, .inr ⟨_, rfl, rfl⟩⟩

theorem Calm.sync (h : Calm path w) (hduring : During path w w') :
    ∃ result w'', w'.disk.Spares path w''.disk ∧ During path w w'' ∧ w'.sync = (result, w'') := by
  have hmeets := hduring.meets.others (.call w'.calls)
  have hspares := h.spares (.call w'.calls) w'.disk hduring.meets
  rw [← hduring.others] at hmeets hspares
  exact ⟨_, { w' with disk := _, calls := w'.calls + 1 }, hspares,
    ⟨hmeets, hduring.others, Nat.le_succ_of_le hduring.calls⟩, rfl⟩

theorem Calm.makeParent (h : Calm path w) :
    ∃ result w', makeParent path w = (result, w') ∧ w'.disk.readAll path = w.disk.readAll path ∧ During path w w' ∧
      w'.disk.Ready path w'.calls := by
  unfold StateFile.makeParent
  rcases hparent : path.parent? with _ | parent
  · exact ⟨_, _, rfl, rfl, .start path w, h.ready⟩
  dsimp only
  by_cases hempty : parent.bytes = []
  · rw [if_pos hempty]
    exact ⟨_, _, rfl, rfl, .start path w, h.ready⟩
  rw [if_neg hempty]
  obtain ⟨d, w', hspares, hcalls, hduring, ⟨hmade, hact⟩ | ⟨c, rfl, hact⟩⟩ :=
    h.act (.start path w) (f := fun d => d.makeDirectories parent) fun d d' => .makes hparent
  · obtain ⟨hread, hready⟩ := hspares.makes h.makes parent w'.disk hparent hmade
    rw [hact]
    exact ⟨_, _, rfl, hread.trans hspares.readAll, hduring, (hready _ (h.ready.spares hspares)).mono hduring.calls⟩
  · rw [hact]
    exact ⟨_, _, rfl, hspares.readAll, hduring, (h.ready.spares hspares).mono hduring.calls⟩

/-- What is left of a replacement that failed: nothing, or a temporary file. -/
def Left (d : Disk) (path : Path) (n : Nat) : Prop := d.Ready path n ∨ ∃ content, d.Beside path n content

theorem Left.spares {d d' : Disk} (h : Left d path n) (hspares : d.Spares path d') : Left d' path n := by
  rcases h with hready | ⟨content, hbeside⟩
  · exact .inl (hready.spares hspares)
  · exact .inr ⟨content, hbeside.spares hspares⟩

theorem Left.remove {d d' : Disk} (h : Left d path n) (hremove : d.remove (temporary path n) = .ok d') :
    d'.readAll path = d.readAll path := by
  rcases h with hready | ⟨content, hbeside⟩
  · obtain ⟨place, entry, slash, hending, -⟩ := Disk.remove_cases hremove
    cases (hready.unused n (Nat.le_refl n) place (some entry) slash hending).1
  · exact hbeside.remove hremove

/-- To write a file beside the path and to move it there puts its content there, or leaves what the path reads. -/
theorem Calm.writeBeside (h : Calm path w) (hduring : During path w w') (hready : w'.disk.Ready path n)
    (bytes : Bytes) :
    ∃ result w'', writeBeside (temporary path n) path bytes w' = (result, w'') ∧ During path w w'' ∧
      ((result = .ok () ∧ w''.disk.readAll path = .ok bytes) ∨
        (∃ c, result = .error c) ∧ w''.disk.readAll path = w'.disk.readAll path ∧ Left w''.disk path n) := by
  unfold StateFile.writeBeside
  obtain ⟨d₁, w₁, hspares₁, -, hduring₁, ⟨hmade, hact⟩ | ⟨c, rfl, hact⟩⟩ :=
    h.act hduring (f := fun d => d.write (temporary path n) []) fun d d' => .writes n []
  case inr =>
    rw [hact]
    exact ⟨_, _, rfl, hduring₁, .inr ⟨⟨c, rfl⟩, hspares₁.readAll, .inl (hready.spares hspares₁)⟩⟩
  obtain ⟨hbeside₁, hread₁⟩ := (hready.spares hspares₁).write (Nat.le_refl n) hmade
  have hread₁ := hread₁.trans hspares₁.readAll
  rw [hact]
  dsimp only
  obtain ⟨d₂, w₂, hspares₂, -, hduring₂, ⟨hwritten, hact⟩ | ⟨c, rfl, hact⟩⟩ :=
    h.act hduring₁ (f := fun d => d.write (temporary path n) bytes) fun d d' => .writes n bytes
  case inr =>
    rw [hact]
    exact ⟨_, _, rfl, hduring₂,
      .inr ⟨⟨c, rfl⟩, hspares₂.readAll.trans hread₁, .inr ⟨[], hbeside₁.spares hspares₂⟩⟩⟩
  obtain ⟨hbeside₂, hread₂⟩ := (hbeside₁.spares hspares₂).write hwritten
  have hread₂ := (hread₂.trans hspares₂.readAll).trans hread₁
  rw [hact]
  dsimp only
  obtain ⟨result, w₃, hspares₃, hduring₃, hsync⟩ := h.sync hduring₂
  have hbeside₃ := hbeside₂.spares hspares₃
  have hread₃ := hspares₃.readAll.trans hread₂
  rw [hsync]
  rcases result with c | ⟨⟩
  · exact ⟨_, _, rfl, hduring₃, .inr ⟨⟨c, rfl⟩, hread₃, .inr ⟨bytes, hbeside₃⟩⟩⟩
  dsimp only
  obtain ⟨d₄, w₄, hspares₄, -, hduring₄, ⟨hrenamed, hact⟩ | ⟨c, rfl, hact⟩⟩ :=
    h.act hduring₃ (f := fun d => d.rename (temporary path n) path) fun d d' => .renames n
  · exact ⟨_, _, hact, hduring₄, .inl ⟨rfl, (hbeside₃.spares hspares₄).rename hrenamed⟩⟩
  · exact ⟨_, _, hact, hduring₄,
      .inr ⟨⟨c, rfl⟩, hspares₄.readAll.trans hread₃, .inr ⟨bytes, hbeside₃.spares hspares₄⟩⟩⟩

/-- **A file is replaced as a whole or not at all.** If this succeeds the path reads what was written, and if it
fails, at whatever step, the path reads as before. -/
theorem Calm.replaceFile (h : Calm path w) (bytes : Bytes) :
    ∃ result w', replaceFile path bytes w = (result, w') ∧
      ((result = .ok () ∧ w'.disk.readAll path = .ok bytes) ∨
        (∃ e, result = .error e) ∧ w'.disk.readAll path = w.disk.readAll path) := by
  unfold StateFile.replaceFile
  obtain ⟨result, w₁, hmake, hread₁, hduring₁, hready⟩ := h.makeParent
  rw [hmake]
  rcases result with e | ⟨⟩
  · exact ⟨_, _, rfl, .inr ⟨⟨e, rfl⟩, hread₁⟩⟩
  obtain ⟨result, w₂, hwrite, hduring₂, ⟨rfl, hread₂⟩ | ⟨⟨c, rfl⟩, hread₂, hleft⟩⟩ :=
    h.writeBeside hduring₁ hready bytes
  · unfold temporary at hwrite
    simp only [hwrite]
    exact ⟨_, _, rfl, .inl ⟨rfl, hread₂⟩⟩
  · unfold temporary at hwrite
    simp only [hwrite]
    refine ⟨_, _, rfl, .inr ⟨⟨_, rfl⟩, ?_⟩⟩
    obtain ⟨d₃, w₃, hspares₃, -, -, ⟨hremoved, hact⟩ | ⟨c, rfl, hact⟩⟩ :=
      h.act hduring₂ (f := fun d => d.remove (temporary path w₁.calls)) fun d d' => .removes w₁.calls
    · unfold temporary at hact
      rw [hact]
      exact ((hleft.spares hspares₃).remove hremoved).trans (hspares₃.readAll.trans (hread₂.trans hread₁))
    · unfold temporary at hact
      rw [hact]
      exact hspares₃.readAll.trans (hread₂.trans hread₁)

end replacement

end StateFile

end LogTail
