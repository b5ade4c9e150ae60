import LogTail.Proofs.Handles

/-!
# Saving where the watch does not look

At home, and where nobody else changes the disk, a file is replaced in any case (`Disk.Home.exists_replaced`). What
this comes to is a new file at the place of the old one and nothing else (`Disk.Replaced`), so that any number of
replacements leaves the rest of the disk as it is (`Disk.Refiled`). A watch that looks at other places finds the same
before and after (`Matcher.Overlooks.found_eq`).

* `StateFile.Lodging` bundles what a run needs of the place where it saves, and `StateFile.Lodged` says that a disk
  has come from there by replacements only.
-/

namespace LogTail

open LogTail.Path (ProperName temporaryName)

theorem World.Still.act {d d' : Disk} {w : World} (h : w.Still d) {f : Disk → Except Cause Disk} (hf : f d = .ok d') :
    ∃ w', w'.Still d' ∧ w'.calls = w.calls + 1 ∧ w.act f = (.ok (), w') := by
  refine ⟨{ w with disk := d', calls := w.calls + 1 }, ⟨rfl, h.others, h.faults⟩, rfl, ?_⟩
  simp [World.act, h.others, h.faults, h.disk, hf]

theorem World.Still.act_error {d : Disk} {w : World} (h : w.Still d) {f : Disk → Except Cause Disk} {c : Cause}
    (hf : f d = .error c) : ∃ w', w'.Still d ∧ w'.calls = w.calls + 1 ∧ w.act f = (.error c, w') := by
  refine ⟨{ w with disk := d, calls := w.calls + 1 }, ⟨rfl, h.others, h.faults⟩, rfl, ?_⟩
  simp [World.act, h.others, h.faults, h.disk, hf]

namespace Disk

/-! ## Changes that succeed -/

section changes
variable {d d' : Disk} {path : Path} {place : Place} {number : Nat}

theorem exists_write {entry : Option Entry} (hending : d.ending path = .ok (.name place entry false))
    (hentry : entry = none ∨ ∃ number, entry = some (.file number)) (content : Bytes) :
    ∃ d', d.write path content = .ok d' := by
  have hlink : ∀ target, entry ≠ some (.link target) := by
    rintro target rfl
    obtain hno | ⟨number, hno⟩ := hentry <;> cases hno
  have hwalk := (walk_follow (walk_of_ending hending) hlink).1
  rw [write, openForWriting, hending]
  dsimp only
  rw [hwalk]
  rcases hentry with rfl | ⟨number, rfl⟩
  · exact ⟨_, rfl⟩
  · exact ⟨_, rfl⟩

theorem exists_rename (htree : d.Tree) {source target : Path} {a b : Place} {old : Option Entry}
    (hsource : d.ending source = .ok (.name a (some (.file number)) false))
    (htarget : d.ending target = .ok (.name b old false)) (hold : ∀ number, old ≠ some (.directory number))
    (hlength : a.length = b.length) : ∃ d', d.rename source target = .ok d' := by
  have hfile : (Entry.file number).isDirectory = false := rfl
  have hab : (a.isPrefixOf b && decide (a ≠ b)) = false := by
    rw [← Bool.not_eq_true, Bool.and_eq_true, List.isPrefixOf_iff_prefix, decide_eq_true_eq]
    exact fun hboth => hboth.2 (hboth.1.eq_of_length hlength)
  have hba : (b.isPrefixOf a && decide (a ≠ b)) = false := by
    rw [← Bool.not_eq_true, Bool.and_eq_true, List.isPrefixOf_iff_prefix, decide_eq_true_eq]
    exact fun hboth => hboth.2 (hboth.1.eq_of_length hlength.symm).symm
  simp only [rename, hsource, htarget, hfile, hab, hba, Bool.or_self, Bool.and_false, Bool.false_eq_true, if_false]
  rcases old with _ | old
  · exact ⟨_, rfl⟩
  rw [move]
  by_cases hsame : (decide (a = b) || (Entry.file number).sameFile old) = true
  · exact ⟨d, if_pos hsame⟩
  have hentry : d.entryAt b = some old := (entry_of_walk (walk_of_ending htarget)).symm
  have hdir : ¬ d.IsDir b := by
    rintro ⟨n, hn⟩
    exact hold n (hentry.symm.trans hn)
  have hother : old.isDirectory = false := by
    cases old with
    | directory n => exact absurd rfl (hold n)
    | file | link => rfl
  have hempty : (d.entries.any fun e => decide (e.1.dropLast = b)) = false := by
    rw [← Bool.not_eq_true, List.any_eq_true]
    rintro ⟨e, he, hparent⟩
    rw [decide_eq_true_eq] at hparent
    exact hdir (hparent ▸ (htree.parents e he).2)
  exact ⟨_, by rw [if_neg hsame, hfile, hother, hempty]; rfl⟩

theorem ending_put (hending : d.ending path = .ok (.name place none false)) (hagree : AgreeBut [place] d d')
    (hput : d'.entryAt place = some (.file number)) :
    d'.ending path = .ok (.name place (some (.file number)) false) := by
  have hwalk := walk_of_ending hending
  refine ending_of_walk hending (hagree.walk_put hwalk (fun p hp hin => ?_) hput false).1
  rw [List.mem_singleton.1 hp] at hin
  exact not_passable_of_none (entry_of_walk hwalk).symm (passable_of_mem_dropLast hwalk hin)

end changes

/-! ## Replacements -/

/-- What it comes to that a file is replaced: a new one with a content stands at its place, and all else is as it
was. -/
structure Replaced (place : Place) (content : Bytes) (d d' : Disk) : Prop where
  entries : d'.entries = (d.setEntry place (.file d.nextNumber)).entries
  here : d'.here = d.here
  next : d'.nextNumber = d.nextNumber + 1
  file : d'.HasFile d.nextNumber content
  nodes : ∀ n ≠ d.nextNumber, d'.node n = d.node n

theorem entries_moveFile {d d' : Disk} {a b : Place} {entry : Entry} (hne : a ≠ b) (hnone : ∀ e ∈ d.entries, e.1 ≠ a)
    (hentries : d'.entries = (d.setEntry a entry).entries) :
    (d'.moveFile a b).entries = (d.setEntry b entry).entries := by
  have hfree : (d.entries.filter fun e => e.1 ≠ a) = d.entries := by
    rw [List.filter_eq_self]
    simpa using fun e he => hnone e he
  have hold : (d.entries.filter fun e => e.1 ≠ b).map (fun e => if e.1 = a then (b, e.2) else e) =
      d.entries.filter fun e => e.1 ≠ b := by
    conv_rhs => rw [← List.map_id (d.entries.filter fun e => e.1 ≠ b)]
    exact List.map_congr_left fun e he => if_neg (hnone e (List.mem_of_mem_filter he))
  rw [moveFile, hentries, setEntry, setEntry, hfree]
  dsimp only
  rw [List.filter_append, List.map_append, hold]
  simp [hne]

section home
variable {d d' : Disk} {dir : Path} {name : Bytes} {place : Place} {calls n : Nat}

theorem Home.place_eq (h : d.Home dir name place calls) : place = place.dropLast ++ [name] := by
  obtain ⟨entry, hwalk, -⟩ := h.leads
  have hsibling := hwalk.symm.trans (walk_sibling h.proper h.proper h.noZero hwalk)
  rw [named] at hsibling
  split_ifs at hsibling
  exact congrArg Prod.fst (Except.ok.inj hsibling)

/-- **At home a file can be replaced**, as long as the names of temporary files are not too long. -/
theorem Home.exists_replaced (h : d.Home dir name place calls) (hn : calls ≤ n)
    (hshort : (temporaryName name n).length ≤ 255) (content : Bytes) :
    ∃ d₁ d₂ d₃, d.write (StateFile.temporary (dir.join name) n) [] = .ok d₁ ∧
      d₁.write (StateFile.temporary (dir.join name) n) content = .ok d₂ ∧
      d₂.rename (StateFile.temporary (dir.join name) n) (dir.join name) = .ok d₃ ∧ Replaced place content d d₃ := by
  obtain ⟨old, hleads, hold⟩ := h.leads
  obtain ⟨hnone, hout⟩ := h.unused n hn
  generalize hplace : place.dropLast ++ [temporaryName name n] = a at hnone hout
  have hending : d.ending (StateFile.temporary (dir.join name) n) = .ok (.name a none false) := by
    rw [h.ending_temporary, named, if_neg (by omega), hplace, hnone]
    rfl
  have hnil : a ≠ [] := by
    rw [← hplace]
    simp
  -- the temporary file is made
  obtain ⟨d₁, hwrite₁⟩ := exists_write hending (.inl rfl) []
  obtain ⟨hentries₁, hhere₁, hnext₁, hregular₁, -, hnodes₁⟩ := write_new (walk_of_ending hending) hwrite₁
  obtain ⟨hbeside₁, -⟩ := h.ready.write hn hwrite₁
  have hagree₁ := setEntry_agree hentries₁ hhere₁
  have hending₁ := ending_put hending hagree₁ (entryAt_setEntry hnil hentries₁)
  -- it gets its content
  obtain ⟨d₂, hwrite₂⟩ := exists_write hending₁ (.inr ⟨_, rfl⟩) content
  obtain ⟨hentries₂, hhere₂, hnext₂, hregular₂, hcontent₂, hnodes₂⟩ := write_file (walk_of_ending hending₁) hwrite₂
  obtain ⟨hbeside₂, -⟩ := hbeside₁.write hwrite₂
  have hagree : AgreeBut [a] d d₂ := setEntry_agree (hentries₂.trans hentries₁) (hhere₂.trans hhere₁)
  have hsame₂ : AgreeBut [] d₁ d₂ := ⟨by rw [hentries₂], hhere₂⟩
  have hending₂ := ending_congr (walk_congr false hhere₂ fun p _ => hsame₂.entryAt List.not_mem_nil).1 hending₁
  -- and is moved over what stands at the place
  have hwalk₂ : d₂.walk false (dir.join name) = .ok (place, old) := by
    refine (walk_congr false hagree.here fun p hp => hagree.entryAt fun hin => ?_).1.trans hleads
    exact hout (List.mem_singleton.1 hin ▸ (d.trail_follow _).subset hp)
  have hne : a ≠ place := fun heq => hout (heq ▸ (d.trail_follow _).subset (mem_trail hleads))
  have htarget : d₂.ending (dir.join name) = .ok (.name place old false) := by
    rw [ending_join d₂ dir h.proper, hwalk₂]
    rfl
  have hlength : a.length = place.length := by
    rw [← hplace, h.place_eq]
    simp
  obtain ⟨d₃, hrename⟩ := exists_rename hbeside₂.tree hending₂ htarget hold hlength
  have hother : old ≠ some (.file d.nextNumber) := by
    rintro rfl
    exact Nat.lt_irrefl _ (h.tree.number_lt (.inl (entry_of_walk hleads).symm))
  obtain ⟨-, -, -, rfl⟩ := rename_file hbeside₂.tree hending₂ hrename hwalk₂ ⟨hne, hother⟩
  refine ⟨d₁, d₂, _, hwrite₁, hwrite₂, hrename, ?_, hagree.here, hnext₂.trans hnext₁,
    ⟨hregular₂.trans hregular₁, hcontent₂⟩, fun m hm => (hnodes₂ m hm).trans (hnodes₁ m hm)⟩
  exact entries_moveFile hne ((entryAt_eq_none hnil).1 hnone) (hentries₂.trans hentries₁)

theorem Replaced.agree {content : Bytes} (h : Replaced place content d d') : AgreeBut [place] d d' :=
  setEntry_agree h.entries h.here

theorem Home.ne_nil (h : d.Home dir name place calls) : place ≠ [] := by
  rw [h.place_eq]
  simp

theorem Home.not_isDir (h : d.Home dir name place calls) : ¬ d.IsDir place := by
  obtain ⟨old, hleads, hold⟩ := h.leads
  exact fun ⟨number, hentry⟩ => hold number ((entry_of_walk hleads).trans hentry)

theorem Home.readAll_replaced (h : d.Home dir name place calls) {content : Bytes}
    (hreplaced : Replaced place content d d') : d'.readAll (dir.join name) = .ok content := by
  obtain ⟨old, hleads, -⟩ := h.leads
  have hway := hreplaced.agree.walk_put hleads (fun p hp => List.mem_singleton.1 hp ▸ h.own)
    (entryAt_setEntry h.ne_nil hreplaced.entries) true
  exact readAll_of_walk hway.1 hreplaced.file

theorem Home.replaced (h : d.Home dir name place calls) {content : Bytes} (hreplaced : Replaced place content d d')
    (hmade : ∀ parent, (dir.join name).parent? = some parent → d'.makeDirectories parent = .ok d') :
    d'.Home dir name place calls ∧ d'.readAll (dir.join name) = .ok content := by
  obtain ⟨old, hleads, -⟩ := h.leads
  have hput := entryAt_setEntry h.ne_nil hreplaced.entries
  have hown : ∀ p ∈ [place], p ∉ (d.trail false (dir.join name)).dropLast := fun p hp =>
    List.mem_singleton.1 hp ▸ h.own
  have hway (follow : Bool) := hreplaced.agree.walk_put hleads hown hput follow
  refine ⟨⟨?_, h.proper, ⟨_, (hway false).1, nofun⟩, (hway false).2 ▸ h.own, fun n hn => ?_, hmade⟩,
    h.readAll_replaced hreplaced⟩
  · refine h.tree.of_agree hreplaced.agree (by rw [hreplaced.next]; omega)
      (fun p hp => List.mem_singleton.1 hp ▸ h.not_isDir) fun e he hplace => ?_
    rw [List.mem_singleton] at hplace
    rw [entry_eq_of_setEntry hreplaced.entries he hplace, hplace]
    refine ⟨h.ne_nil, h.tree.isDir_of_walk hleads, fun number hnumber => ?_⟩
    rcases hnumber with hnumber | hnumber <;> cases hnumber
    rw [hreplaced.next]
    omega
  · obtain ⟨hnone, hout⟩ := h.unused n hn
    have hout : place.dropLast ++ [temporaryName name n] ∉ d.trail false (dir.join name) := fun hin =>
      hout ((d.trail_follow _).subset hin)
    refine ⟨(hreplaced.agree.entryAt fun hin => hout ?_).trans hnone, (hway true).2 ▸ hout⟩
    rw [List.mem_singleton.1 hin]
    exact mem_trail hleads

theorem Proper.replaced (h : d.Proper) {content : Bytes} (hreplaced : Replaced place content d d')
    (hname : ∀ last ∈ place.getLast?, ProperName last) : d'.Proper where
  places := by
    rw [hreplaced.entries, setEntry, List.map_append, List.nodup_append]
    refine ⟨h.places.sublist (List.filter_sublist.map _), List.nodup_singleton _, fun p hp q hq heq => ?_⟩
    obtain ⟨e, he, rfl⟩ := List.mem_map.1 hp
    rw [List.map_singleton, List.mem_singleton] at hq
    exact absurd (heq.trans hq) (by simpa using List.of_mem_filter he)
  names e he := by
    rw [hreplaced.entries, setEntry, List.mem_append, List.mem_singleton] at he
    rcases he with he | rfl
    · exact h.names e (List.mem_of_mem_filter he)
    · exact hname

end home

/-! ## What is left as it is -/

/-- A disk that came from another by replacing what stands at a place, any number of times. -/
structure Refiled (place : Place) (d d' : Disk) : Prop where
  agree : AgreeBut [place] d d'
  nodes : ∀ n < d.nextNumber, d'.node n = d.node n
  next : d.nextNumber ≤ d'.nextNumber

section refiled
variable {d d' d'' : Disk} {place : Place} {path : Path}

theorem Refiled.refl (place : Place) (d : Disk) : Refiled place d d :=
  ⟨.refl _ d, fun _ _ => rfl, Nat.le_refl _⟩

theorem Refiled.replaced (h : Refiled place d d') {content : Bytes} (hreplaced : Replaced place content d' d'') :
    Refiled place d d'' where
  agree := h.agree.trans hreplaced.agree
  nodes n hn := (hreplaced.nodes n (Nat.ne_of_lt (Nat.lt_of_lt_of_le hn h.next))).trans (h.nodes n hn)
  next := Nat.le_trans h.next (by rw [hreplaced.next]; omega)

/-- A path whose way does not lead over the place leads to the same, with the same content. -/
theorem Refiled.reads (h : Refiled place d d') (htree : d.Tree) (hout : place ∉ d.trail true path) :
    d'.walk true path = d.walk true path ∧ ∀ number, d.numberOf path = .ok number → d'.node number = d.node number :=
  ⟨(walk_congr true h.agree.here fun _ hp => h.agree.entryAt fun hin => hout (List.mem_singleton.1 hin ▸ hp)).1,
    fun number hnumber => h.nodes number (htree.numberOf_lt hnumber)⟩

theorem Refiled.lookup (h : Refiled place d d') (htree : d.Tree) (hout : place ∉ d.trail true path) :
    d'.lookup path = d.lookup path := by
  obtain ⟨hwalk, hnodes⟩ := h.reads htree hout
  rw [Disk.lookup, Disk.lookup, numberOf_congr hwalk]
  rcases hnumber : d.numberOf path with c | number
  · rfl
  · simp only [Except.map, hnodes number hnumber]

theorem Refiled.candidate? (h : Refiled place d d') (htree : d.Tree) (hout : place ∉ d.trail true path)
    (window : Nat) : d'.candidate? window path = d.candidate? window path := by
  obtain ⟨hwalk, hnodes⟩ := h.reads htree hout
  rw [Disk.candidate?, Disk.candidate?, numberOf_congr hwalk]
  rcases hnumber : d.numberOf path with c | number
  · rfl
  · simp only [hnodes number hnumber]

end refiled

end Disk

/-! ## What a watch finds -/

namespace Matcher

open Disk (Place)

/-- Nothing that a watch looks at leads over a place, and in the directory of the watch the name of the place does
not match. -/
def Overlooks (m : Matcher) (d : Disk) (place : Place) : Prop :=
  match m.target with
  | .single path => place ∉ d.trail true path
  | .rotated directory name =>
    place ∉ d.trail true directory ∧
      (∀ p entry last, d.walk true directory = .ok (p, entry) → place = p ++ [last] →
        name.isMatch (Text.Utf8.decodeLossy last) = false) ∧
      ∀ names, d.list directory = .ok names → ∀ entry ∈ names, name.isMatch (Text.Utf8.decodeLossy entry) = true →
        place ∉ d.trail true (directory.join entry)

def nameIn? (p : Place) (e : Place × Disk.Entry) : Option Bytes :=
  match e.1.getLast? with
  | some last => if e.1.dropLast = p then some last else none
  | none => none

theorem nameIn?_eq_some {p : Place} {e : Place × Disk.Entry} {last : Bytes} (h : nameIn? p e = some last) :
    e.1 = p ++ [last] := by
  unfold nameIn? at h
  split at h
  · rename_i name hname
    split_ifs at h with hparent
    obtain rfl := Option.some.inj h
    obtain ⟨front, hfront⟩ := List.getLast?_eq_some_iff.1 hname
    rw [hfront, List.dropLast_concat] at hparent
    rw [hfront, hparent]
  · cases h

/-- **A watch finds the same where a file that it overlooks is replaced.** -/
theorem Overlooks.found_eq {m : Matcher} {d d' : Disk} {place : Place} (h : m.Overlooks d place) (htree : d.Tree)
    (hrefiled : Disk.Refiled place d d') : m.found d' = m.found d := by
  unfold Overlooks at h
  unfold found
  rcases htarget : m.target with path | ⟨directory, name⟩ <;> rw [htarget] at h <;> dsimp only at h ⊢
  · rw [hrefiled.lookup htree h, hrefiled.candidate? htree h]
  obtain ⟨hdirectory, hunnamed, hentries⟩ := h
  have hwalk := (hrefiled.reads htree hdirectory).1
  rcases hlist : d.walk true directory with c | ⟨p, _ | number | number | target⟩
  all_goals simp only [Disk.list, hwalk, hlist] at hentries ⊢
  refine congrArg (fun candidates : List Candidate => Except.ok (candidates.mergeSort precedes)) ?_
  have hall := hentries _ rfl
  show (d'.entries.filterMap (nameIn? p)).filterMap (m.candidateNamed? d' directory name) =
    (d.entries.filterMap (nameIn? p)).filterMap (m.candidateNamed? d directory name)
  change ∀ entry ∈ d.entries.filterMap (nameIn? p), _ at hall
  -- the entry of the place adds nothing
  have hskip (d : Disk) (entries : List (Place × Disk.Entry)) :
      (entries.filterMap (nameIn? p)).filterMap (m.candidateNamed? d directory name) =
        ((entries.filter fun e => e.1 ∉ [place]).filterMap (nameIn? p)).filterMap
          (m.candidateNamed? d directory name) := by
    rw [List.filterMap_filter, List.filterMap_filterMap, List.filterMap_filterMap]
    refine List.filterMap_congr fun e _ => ?_
    by_cases hplace : e.1 = place
    · have hnone : (nameIn? p e).bind (m.candidateNamed? d directory name) = none := by
        rw [Option.bind_eq_none_iff]
        intro last hlast
        rw [candidateNamed?, hunnamed p _ last hlist (hplace ▸ nameIn?_eq_some hlast)]
        rfl
      simp [hplace, hnone]
    · simp [hplace]
  rw [hskip d', hrefiled.agree.entries, hskip d]
  refine List.filterMap_congr fun last hlast => ?_
  rw [List.mem_filterMap] at hlast
  obtain ⟨e, he, hname⟩ := hlast
  rw [candidateNamed?, candidateNamed?]
  by_cases hmatch : name.isMatch (Text.Utf8.decodeLossy last) = true
  · rw [if_pos hmatch, if_pos hmatch]
    refine hrefiled.candidate? htree (hall last ?_ hmatch) m.window
    exact List.mem_filterMap.2 ⟨e, List.mem_of_mem_filter he, hname⟩
  · rw [if_neg hmatch, if_neg hmatch]

end Matcher

/-! ## Where a watch saves -/

namespace StateFile

open Disk (Place AgreeBut Home Refiled)

/-- The place where a watch saves: the directories above it can be made, then a file can be replaced there, and the
watch looks at other places. -/
structure Lodging (m : Matcher) (d d₁ : Disk) (dir : Path) (name : Bytes) (place : Place) (calls : Nat) : Prop where
  above : ∃ parent, (dir.join name).parent? = some parent ∧ d.makeDirectories parent = .ok d₁
  home : d₁.Home dir name place calls
  /-- The directories are there then, whatever stands at the place. -/
  made : ∀ d', AgreeBut [place] d₁ d' → ∀ parent, (dir.join name).parent? = some parent →
    d'.makeDirectories parent = .ok d'
  proper : d₁.Proper
  overlooks : m.Overlooks d₁ place
  same : m.found d₁ = m.found d

/-- A disk on which only saves were made: none yet, or some at the place. -/
inductive Lodged (d d₁ : Disk) (dir : Path) (name : Bytes) (place : Place) (calls : Nat) : Disk → Prop
  | unsaved : Lodged d d₁ dir name place calls d
  | saved {d' : Disk} (refiled : Refiled place d₁ d') (home : d'.Home dir name place calls) (proper : d'.Proper) :
    Lodged d d₁ dir name place calls d'

section lodging
variable {m : Matcher} {d d₁ d' : Disk} {dir : Path} {name : Bytes} {place : Place} {calls : Nat}

theorem Lodged.found_eq (h : Lodged d d₁ dir name place calls d') (hlodging : Lodging m d d₁ dir name place calls) :
    m.found d' = m.found d := by
  cases h with
  | unsaved => rfl
  | saved hrefiled => exact (hlodging.overlooks.found_eq hlodging.home.tree hrefiled).trans hlodging.same

theorem Lodged.isProper (h : Lodged d d₁ dir name place calls d') (hd : d.Proper) : d'.Proper := by
  cases h with
  | unsaved => exact hd
  | saved _ _ hproper => exact hproper

theorem Lodging.makeParent (h : Lodging m d d₁ dir name place calls) {w : World} (hw : w.Still d')
    (hd' : Lodged d d₁ dir name place calls d') :
    ∃ d₂ w', makeParent (dir.join name) w = (.ok (), w') ∧ w'.Still d₂ ∧ w.calls ≤ w'.calls ∧
      Refiled place d₁ d₂ ∧ d₂.Home dir name place calls ∧ d₂.Proper := by
  obtain ⟨parent, hparent, hmade⟩ := h.above
  obtain ⟨d₂, hmade₂, hrefiled, hhome, hproper⟩ : ∃ d₂, d'.makeDirectories parent = .ok d₂ ∧ Refiled place d₁ d₂ ∧
      d₂.Home dir name place calls ∧ d₂.Proper := by
    cases hd' with
    | unsaved => exact ⟨d₁, hmade, .refl place d₁, h.home, h.proper⟩
    | saved hrefiled hhome hproper => exact ⟨d', h.made d' hrefiled.agree parent hparent, hrefiled, hhome, hproper⟩
  unfold StateFile.makeParent
  rw [hparent]
  dsimp only
  by_cases hempty : parent.bytes = []
  · rw [if_pos hempty]
    have hsame : d'.makeDirectories parent = .ok d' := by
      rw [Disk.makeDirectories, Disk.makeDirectoriesFrom, if_pos hempty]
    obtain rfl : d' = d₂ := Except.ok.inj (hsame.symm.trans hmade₂)
    exact ⟨d', w, rfl, hw, Nat.le_refl _, hrefiled, hhome, hproper⟩
  · rw [if_neg hempty]
    obtain ⟨w', hw', hcalls, hact⟩ := hw.act (f := fun d => d.makeDirectories parent) hmade₂
    rw [hact]
    exact ⟨d₂, w', rfl, hw', by omega, hrefiled, hhome, hproper⟩

theorem writeBeside_still {w : World} (hw : w.Still d') (hhome : d'.Home dir name place calls) {n : Nat}
    (hn : calls ≤ n) (hshort : (temporaryName name n).length ≤ 255) (bytes : Bytes) :
    ∃ d₂ w', writeBeside (temporary (dir.join name) n) (dir.join name) bytes w = (.ok (), w') ∧ w'.Still d₂ ∧
      w.calls < w'.calls ∧ Disk.Replaced place bytes d' d₂ := by
  obtain ⟨d₁, d₂, d₃, hmade, hwritten, hrenamed, hreplaced⟩ := hhome.exists_replaced hn hshort bytes
  obtain ⟨w₁, hw₁, hcalls₁, hact₁⟩ := hw.act (f := fun d => d.write (temporary (dir.join name) n) []) hmade
  obtain ⟨w₂, hw₂, hcalls₂, hact₂⟩ := hw₁.act (f := fun d => d.write (temporary (dir.join name) n) bytes) hwritten
  obtain ⟨w₃, hw₃, hsync⟩ := hw₂.look fun _ => .ok ()
  have hcalls₃ : w₃.calls = w₂.calls + 1 := (congrArg (fun r => r.2.calls) hsync).symm
  obtain ⟨w₄, hw₄, hcalls₄, hact₄⟩ := hw₃.act
    (f := fun d => d.rename (temporary (dir.join name) n) (dir.join name)) hrenamed
  refine ⟨d₃, w₄, ?_, hw₄, by omega, hreplaced⟩
  rw [writeBeside, hact₁]
  dsimp only
  rw [hact₂]
  dsimp only
  rw [World.sync, hsync]
  exact hact₄

/-- If the name of the temporary file is too long, nothing happens. -/
theorem writeBeside_long {w : World} (hw : w.Still d') (hhome : d'.Home dir name place calls) {n : Nat}
    (hlong : 255 < (temporaryName name n).length) (bytes : Bytes) :
    ∃ c w', writeBeside (temporary (dir.join name) n) (dir.join name) bytes w = (.error c, w') ∧
      (w'.act fun d => d.remove (temporary (dir.join name) n)).2.Still d' ∧
      w.calls ≤ (w'.act fun d => d.remove (temporary (dir.join name) n)).2.calls := by
  have hending : d'.ending (temporary (dir.join name) n) = .error .nameTooLong := by
    rw [hhome.ending_temporary, Disk.named, if_pos hlong]
    rfl
  obtain ⟨w₁, hw₁, hcalls₁, hact₁⟩ := hw.act_error (f := fun d => d.write (temporary (dir.join name) n) [])
    (c := .nameTooLong) (by rw [Disk.write, Disk.openForWriting, hending]; rfl)
  obtain ⟨w₂, hw₂, hcalls₂, hact₂⟩ := hw₁.act_error (f := fun d => d.remove (temporary (dir.join name) n))
    (c := .nameTooLong) (by rw [Disk.remove, hending])
  refine ⟨.nameTooLong, w₁, by rw [writeBeside, hact₁], ?_⟩
  rw [hact₂]
  exact ⟨hw₂, by dsimp only; omega⟩

/-- **At home, where nobody else changes the disk, writing succeeds and lasts**, as long as the name of the temporary
file is not too long. -/
theorem writable_of_home {d : Disk} {w : World} (hw : w.Still d) (hhome : d.Home dir name place w.calls)
    (hshort : ∀ n ≤ w.calls + 1, (temporaryName name n).length ≤ 255) :
    Writable (dir.join name) w ∧ Lasting (dir.join name) w := by
  have hreplace (bytes : Bytes) : ∃ d₂ w', replaceFile (dir.join name) bytes w = (.ok (), w') ∧ w'.Still d₂ ∧
      d₂.readAll (dir.join name) = .ok bytes := by
    obtain ⟨w₁, hmake, hw₁, hcalls, hlater⟩ : ∃ w₁, makeParent (dir.join name) w = (.ok (), w₁) ∧ w₁.Still d ∧
        w.calls ≤ w₁.calls ∧ w₁.calls ≤ w.calls + 1 := by
      unfold makeParent
      rcases hparent : (dir.join name).parent? with _ | parent
      · exact ⟨w, rfl, hw, Nat.le_refl _, Nat.le_succ _⟩
      dsimp only
      by_cases hempty : parent.bytes = []
      · exact ⟨w, by rw [if_pos hempty], hw, Nat.le_refl _, Nat.le_succ _⟩
      · obtain ⟨w₁, hw₁, hcalls, hact⟩ := hw.act (f := fun d => d.makeDirectories parent) (hhome.made parent hparent)
        exact ⟨w₁, by rw [if_neg hempty, hact], hw₁, by omega, by omega⟩
    obtain ⟨d₂, w₂, hwrite, hw₂, -, hreplaced⟩ := writeBeside_still hw₁ hhome hcalls (hshort _ hlater) bytes
    refine ⟨d₂, w₂, ?_, hw₂, ?_⟩
    · rw [replaceFile, hmake]
      dsimp only
      rw [show (dir.join name).withExtension s!"{w₁.calls}.tmp" = temporary (dir.join name) w₁.calls from rfl, hwrite]
    · exact hhome.readAll_replaced hreplaced
  refine ⟨fun bytes => ?_, fun bytes w' hok => ?_⟩
  · obtain ⟨d₂, w', hreplaced, -⟩ := hreplace bytes
    rw [hreplaced]
  · obtain ⟨d₂, w₂, hreplaced, hw₂, hread⟩ := hreplace bytes
    obtain rfl : w₂ = w' := congrArg Prod.snd (hreplaced.symm.trans hok)
    obtain ⟨w₃, -, hlook⟩ := hw₂.look fun d => d.readAll (dir.join name)
    rw [hlook, hread]

theorem InUse.save_at_home {f : StateFile} (hf : f.InUse) (hpath : f.path = some (dir.join name)) {d : Disk} {w : World}
    (hw : w.Still d) (hhome : d.Home dir name place w.calls)
    (hshort : ∀ n ≤ w.calls + 1, (temporaryName name n).length ≤ 255) (key : String) {state : WatchState}
    (hstate : state.InRange) (htexts : ∀ file ∈ state.files, ∃ text, file.path = .ofText text) :
    ∃ f' w', f.save key state w = (.ok (), f', w') ∧
      ∃ g, (openAt (dir.join name) (.quiet w'.disk)).1 = .ok g ∧ g.load key = .ok (some state.withoutCopies) := by
  have hcalm : Calm (dir.join name) w := Home.calm (hw.disk.symm ▸ hhome) hw.others
  rcases hf.save_calm hpath hcalm key hstate with ⟨e, w', hfails, -⟩ | ⟨f', w', hsave, -, hsurvives⟩
  · obtain ⟨entry, _, hentry, -⟩ := hf.exists_written key hstate htexts
    obtain ⟨w₁, hreplaced⟩ : ∃ w₁, StateFile.replaceFile (dir.join name)
        (f.document.put key (some entry)).toBytes w = (.ok (), w₁) :=
      ⟨_, Prod.ext ((writable_of_home hw hhome hshort).1 _) rfl⟩
    rw [save, hentry] at hfails
    cases (setEntry_of_ok hpath hreplaced).symm.trans hfails
  · exact ⟨f', w', hsave, hsurvives⟩

/-- **A save where nobody else changes the disk** replaces the file, or fails and leaves it, which it does only if
the name of the temporary file is too long. -/
theorem Lodging.replaceFile (h : Lodging m d d₁ dir name place calls) {w : World} (hw : w.Still d')
    (hd' : Lodged d d₁ dir name place calls d') (hcalls : calls ≤ w.calls) (bytes : Bytes) :
    ∃ result d₂ w', replaceFile (dir.join name) bytes w = (result, w') ∧ w'.Still d₂ ∧
      Lodged d d₁ dir name place calls d₂ ∧ calls ≤ w'.calls ∧
      (result = .ok () → d₂.readAll (dir.join name) = .ok bytes) ∧
      (result ≠ .ok () → ∃ n ≤ w'.calls, 255 < (temporaryName name n).length) := by
  obtain ⟨d₂, w₁, hmake, hw₁, hcalls₁, hrefiled, hhome, hproper⟩ := h.makeParent hw hd'
  have hn := Nat.le_trans hcalls hcalls₁
  unfold StateFile.replaceFile
  rw [hmake]
  dsimp only
  rw [show (dir.join name).withExtension s!"{w₁.calls}.tmp" = temporary (dir.join name) w₁.calls from rfl]
  by_cases hshort : (temporaryName name w₁.calls).length ≤ 255
  · obtain ⟨d₃, w₂, hwrite, hw₂, hcalls₂, hreplaced⟩ := writeBeside_still hw₁ hhome hn hshort bytes
    rw [hwrite]
    have hrefiled' := hrefiled.replaced hreplaced
    obtain ⟨hhome', hread⟩ := hhome.replaced hreplaced (h.made d₃ hrefiled'.agree)
    have hproper' : d₃.Proper := hproper.replaced hreplaced fun last hlast => by
      rw [hhome.place_eq, List.getLast?_concat, Option.mem_some] at hlast
      exact hlast ▸ hhome.proper
    exact ⟨_, d₃, w₂, rfl, hw₂, .saved hrefiled' hhome' hproper', by omega, fun _ => hread, fun hno => absurd rfl hno⟩
  · obtain ⟨c, w₂, hwrite, hw₃, hcalls₃⟩ := writeBeside_long hw₁ hhome (Nat.lt_of_not_le hshort) bytes
    rw [hwrite]
    refine ⟨_, d₂, _, rfl, hw₃, .saved hrefiled hhome hproper, by omega, fun hok => ?_, fun _ => ?_⟩
    · cases hok
    · exact ⟨w₁.calls, hcalls₃, Nat.lt_of_not_le hshort⟩

end lodging

end StateFile

/-! ## How many calls a save takes -/

theorem World.calls_act (w : World) (f : Disk → Except Cause Disk) : (w.act f).2.calls = w.calls + 1 := by
  unfold act
  dsimp only
  split <;> rfl

theorem StateFile.calls_writeBeside (temporary path : Path) (bytes : Bytes) (w : World) :
    (writeBeside temporary path bytes w).2.calls ≤ w.calls + 4 := by
  unfold writeBeside
  have hmake := w.calls_act fun d => d.write temporary []
  generalize (w.act fun d => d.write temporary []) = made at hmake ⊢
  rcases made with ⟨c | _, w₁⟩ <;> dsimp only at hmake ⊢
  · omega
  have hwrite := w₁.calls_act fun d => d.write temporary bytes
  generalize (w₁.act fun d => d.write temporary bytes) = written at hwrite ⊢
  rcases written with ⟨c | _, w₂⟩ <;> dsimp only at hwrite ⊢
  · omega
  have hsync : w₂.sync.2.calls = w₂.calls + 1 := rfl
  generalize w₂.sync = synced at hsync ⊢
  rcases synced with ⟨c | _, w₃⟩ <;> dsimp only at hsync ⊢
  · omega
  have hrename := w₃.calls_act fun d => d.rename temporary path
  omega

theorem StateFile.calls_replaceFile (path : Path) (bytes : Bytes) (w : World) :
    (replaceFile path bytes w).2.calls ≤ w.calls + 6 := by
  have hparent : (makeParent path w).2.calls ≤ w.calls + 1 := by
    unfold makeParent
    split
    · exact Nat.le_succ _
    split_ifs
    · exact Nat.le_succ _
    · have hact := w.calls_act fun d => d.makeDirectories ‹Path›
      split <;> rename_i heq <;> rw [heq] at hact <;> exact hact.le
  unfold replaceFile
  generalize makeParent path w = parent at hparent ⊢
  rcases parent with ⟨e | _, w₁⟩ <;> dsimp only at hparent ⊢
  · omega
  have hwrite := calls_writeBeside (path.withExtension s!"{w₁.calls}.tmp") path bytes w₁
  generalize writeBeside (path.withExtension s!"{w₁.calls}.tmp") path bytes w₁ = written at hwrite ⊢
  rcases written with ⟨c | _, w₂⟩ <;> dsimp only at hwrite ⊢
  · have hremove := w₂.calls_act fun d => d.remove (path.withExtension s!"{w₁.calls}.tmp")
    omega
  · omega

end LogTail
