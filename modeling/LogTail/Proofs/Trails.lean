import LogTail.Disk.Change
import Mathlib.Data.List.Basic

/-!
# The way of a path

Where a path leads depends on few places of a disk: those that are looked at on the way (`Disk.trail`). Two disks
that have the same there lead it to the same place (`Disk.walk_congr`), whatever else they hold. All places of the
way but the last hold directories and links (`Disk.trail_reached`), and if a file is put at the last, the path
leads to it (`Disk.walk_of_put`).

* `Disk.Follows` says what following names from a directory can come to, and what is looked at meanwhile. Only
  `Disk.follows` opens the function.
-/

namespace LogTail.Disk

/-! ## The places of a way -/

/-- The places that are looked at where names are followed from a directory. -/
def trailNames (d : Disk) (dir : Place) : List Bytes → List Place
  | [] => [dir]
  | name :: rest =>
    if name = Path.dot then trailNames d dir rest
    else if name = Path.dotDot then trailNames d dir.dropLast rest
    else if 255 < name.length then []
    else
      let place := dir ++ [name]
      place ::
        match d.entryAt place with
        | some (.directory _) => trailNames d place rest
        | _ => []

def trailLinks (d : Disk) (followLast : Bool) : Nat → Place → List Bytes → List Place
  | 0, _, _ => []
  | links + 1, dir, names =>
    d.trailNames dir names ++
      match d.walkNames followLast dir names with
      | .ok (.atLink dir target rest) =>
        trailLinks d followLast links (if target.isAbsolute then [] else dir) (target.steps ++ rest)
      | _ => []

def trail (d : Disk) (followLast : Bool) (path : Path) : List Place :=
  if path.bytes = [] then []
  else if path.bytes.contains 0 then []
  else d.trailLinks followLast (linkLimit + 1) (if path.isAbsolute then [] else d.here) path.steps

/-- What a way can end at: nothing, a file, or a link that is not followed. -/
def Final (followLast : Bool) (entry : Option Entry) : Prop :=
  entry = none ∨ (∃ number, entry = some (.file number)) ∨ followLast = false ∧ ∃ target, entry = some (.link target)

/-- What following names from a directory comes to, and the places that are looked at meanwhile. -/
inductive Follows (d : Disk) (followLast : Bool) : Place → List Bytes → Except Cause Walk → List Place → Prop
  | here (dir : Place) : Follows d followLast dir [] (.ok (.reached dir (d.entryAt dir))) [dir]
  | dot {dir : Place} {rest : List Bytes} {result : Except Cause Walk} {seen : List Place}
    (next : Follows d followLast dir rest result seen) : Follows d followLast dir (Path.dot :: rest) result seen
  | dotDot {dir : Place} {rest : List Bytes} {result : Except Cause Walk} {seen : List Place}
    (next : Follows d followLast dir.dropLast rest result seen) :
    Follows d followLast dir (Path.dotDot :: rest) result seen
  | tooLong {dir : Place} {name : Bytes} {rest : List Bytes} (proper : name ≠ Path.dot ∧ name ≠ Path.dotDot)
    (long : 255 < name.length) : Follows d followLast dir (name :: rest) (.error .nameTooLong) []
  | ends {dir : Place} {name : Bytes} (proper : name ≠ Path.dot ∧ name ≠ Path.dotDot)
    (short : ¬ 255 < name.length) {entry : Option Entry} (stands : d.entryAt (dir ++ [name]) = entry)
    (final : Final followLast entry) :
    Follows d followLast dir [name] (.ok (.reached (dir ++ [name]) entry)) [dir ++ [name]]
  | blocked {dir : Place} {name : Bytes} {rest : List Bytes} (proper : name ≠ Path.dot ∧ name ≠ Path.dotDot)
    (short : ¬ 255 < name.length) (more : rest ≠ []) {cause : Cause}
    (blocked : d.entryAt (dir ++ [name]) = none ∧ cause = .notFound ∨
      (∃ number, d.entryAt (dir ++ [name]) = some (.file number)) ∧ cause = .notDirectory) :
    Follows d followLast dir (name :: rest) (.error cause) [dir ++ [name]]
  | enters {dir : Place} {name : Bytes} {rest : List Bytes} {result : Except Cause Walk} {seen : List Place}
    (proper : name ≠ Path.dot ∧ name ≠ Path.dotDot) (short : ¬ 255 < name.length) {number : Nat}
    (directory : d.entryAt (dir ++ [name]) = some (.directory number))
    (next : Follows d followLast (dir ++ [name]) rest result seen) :
    Follows d followLast dir (name :: rest) result ((dir ++ [name]) :: seen)
  | links {dir : Place} {name : Bytes} {rest : List Bytes} (proper : name ≠ Path.dot ∧ name ≠ Path.dotDot)
    (short : ¬ 255 < name.length) {target : Path} (link : d.entryAt (dir ++ [name]) = some (.link target))
    (goesOn : rest = [] → followLast = true) :
    Follows d followLast dir (name :: rest) (.ok (.atLink dir target rest)) [dir ++ [name]]

section follows
variable {d d' : Disk} {followLast : Bool} {dir place : Place} {entry : Option Entry} {names seen : List _}
  {result : Except Cause Walk}

theorem follows (d : Disk) (followLast : Bool) (dir : Place) (names : List Bytes) :
    d.Follows followLast dir names (d.walkNames followLast dir names) (d.trailNames dir names) := by
  induction names generalizing dir with
  | nil => exact .here dir
  | cons name rest ih =>
    rw [walkNames, trailNames]
    by_cases hdot : name = Path.dot
    · simp only [if_pos hdot]
      exact hdot ▸ .dot (ih dir)
    by_cases hdotDot : name = Path.dotDot
    · simp only [if_neg hdot, if_pos hdotDot]
      exact hdotDot ▸ .dotDot (ih dir.dropLast)
    by_cases hlong : 255 < name.length
    · simp only [if_neg hdot, if_neg hdotDot, if_pos hlong]
      exact .tooLong ⟨hdot, hdotDot⟩ hlong
    simp only [if_neg hdot, if_neg hdotDot, if_neg hlong]
    rcases hentry : d.entryAt (dir ++ [name]) with _ | number | number | target <;> simp only
    · by_cases hlast : rest = []
      · rw [if_pos hlast, hlast]
        exact .ends ⟨hdot, hdotDot⟩ hlong hentry (.inl rfl)
      · rw [if_neg hlast]
        exact .blocked ⟨hdot, hdotDot⟩ hlong hlast (.inl ⟨hentry, rfl⟩)
    · by_cases hlast : rest = []
      · rw [if_pos hlast, hlast]
        exact .ends ⟨hdot, hdotDot⟩ hlong hentry (.inr (.inl ⟨number, rfl⟩))
      · rw [if_neg hlast]
        exact .blocked ⟨hdot, hdotDot⟩ hlong hlast (.inr ⟨⟨number, hentry⟩, rfl⟩)
    · exact .enters ⟨hdot, hdotDot⟩ hlong hentry (ih (dir ++ [name]))
    · by_cases hstops : rest = [] ∧ ¬ followLast = true
      · rw [if_pos hstops, hstops.1]
        exact .ends ⟨hdot, hdotDot⟩ hlong hentry (.inr (.inr ⟨by simpa using hstops.2, target, rfl⟩))
      · rw [if_neg hstops]
        exact .links ⟨hdot, hdotDot⟩ hlong hentry fun hlast => by simpa [hlast] using hstops

theorem Follows.eq (h : d.Follows followLast dir names result seen) :
    d.walkNames followLast dir names = result ∧ d.trailNames dir names = seen := by
  induction h with
  | here => exact ⟨rfl, rfl⟩
  | dot _ ih =>
    rw [walkNames, trailNames, if_pos rfl, if_pos rfl]
    exact ih
  | dotDot _ ih =>
    have hne : ¬ Path.dotDot = Path.dot := by decide
    rw [walkNames, trailNames, if_neg hne, if_neg hne, if_pos rfl, if_pos rfl]
    exact ih
  | tooLong proper long => simp [walkNames, trailNames, proper, long]
  | @ends dir name proper short entry stands final =>
    rcases final with rfl | ⟨number, rfl⟩ | ⟨hfollow, target, rfl⟩
    · simp [walkNames, trailNames, proper, short, stands]
    · simp [walkNames, trailNames, proper, short, stands]
    · simp [walkNames, trailNames, proper, short, stands, hfollow]
  | blocked proper short more blocked =>
    rcases blocked with ⟨hnone, rfl⟩ | ⟨⟨number, hfile⟩, rfl⟩
    · simp [walkNames, trailNames, proper, short, more, hnone]
    · simp [walkNames, trailNames, proper, short, more, hfile]
  | enters proper short directory _ ih =>
    rw [walkNames, trailNames]
    simp only [if_neg proper.1, if_neg proper.2, if_neg short, directory, ih, and_self]
  | @links dir name rest proper short target link goesOn =>
    have hstops : ¬ (rest = [] ∧ ¬ followLast = true) := fun h => h.2 (goesOn h.1)
    rw [walkNames, trailNames]
    simp only [if_neg proper.1, if_neg proper.2, if_neg short, link, if_neg hstops, and_self]

theorem Follows.congr (h : d.Follows followLast dir names result seen)
    (hsame : ∀ p ∈ seen, d'.entryAt p = d.entryAt p) : d'.Follows followLast dir names result seen := by
  induction h with
  | here dir => exact hsame dir (by simp) ▸ .here dir
  | dot _ ih => exact .dot (ih hsame)
  | dotDot _ ih => exact .dotDot (ih hsame)
  | tooLong proper long => exact .tooLong proper long
  | ends proper short stands final => exact .ends proper short ((hsame _ (by simp)).trans stands) final
  | blocked proper short more blocked =>
    rw [← hsame _ (by simp)] at blocked
    exact .blocked proper short more blocked
  | enters proper short directory _ ih =>
    exact .enters proper short ((hsame _ (by simp)).trans directory)
      (ih fun p hp => hsame p (List.mem_cons_of_mem _ hp))
  | links proper short link goesOn => exact .links proper short ((hsame _ (by simp)).trans link) goesOn

theorem Follows.entry_eq (h : d.Follows followLast dir names (.ok (.reached place entry)) seen) :
    entry = d.entryAt place := by
  generalize hresult : Except.ok (Walk.reached place entry) = result at h
  induction h with
  | here => cases hresult; rfl
  | dot _ ih | dotDot _ ih => exact ih hresult
  | tooLong | blocked | links => cases hresult
  | ends _ _ stands => cases hresult; exact stands.symm
  | enters _ _ _ _ ih => exact ih hresult

/-- A way can go on from a directory and from a link. -/
def Passable (d : Disk) (place : Place) : Prop :=
  (∃ number, d.entryAt place = some (.directory number)) ∨ ∃ target, d.entryAt place = some (.link target)

theorem not_passable_of_none (h : d.entryAt place = none) : ¬ d.Passable place := by
  rintro (⟨_, h'⟩ | ⟨_, h'⟩) <;> rw [h] at h' <;> cases h'

theorem Follows.reached (h : d.Follows followLast dir names (.ok (.reached place entry)) seen) :
    ∃ front, seen = front ++ [place] ∧ ∀ p ∈ front, d.Passable p := by
  generalize hresult : Except.ok (Walk.reached place entry) = result at h
  induction h with
  | here => cases hresult; exact ⟨[], rfl, fun p hp => absurd hp List.not_mem_nil⟩
  | dot _ ih | dotDot _ ih => exact ih hresult
  | tooLong | blocked | links => cases hresult
  | ends => cases hresult; exact ⟨[], rfl, fun p hp => absurd hp List.not_mem_nil⟩
  | enters _ _ directory _ ih =>
    obtain ⟨front, rfl, hfront⟩ := ih hresult
    exact ⟨_ :: front, rfl, List.forall_mem_cons.2 ⟨.inl ⟨_, directory⟩, hfront⟩⟩

theorem Follows.atLink {target : Path} {rest : List Bytes}
    (h : d.Follows followLast dir names (.ok (.atLink place target rest)) seen) : ∀ p ∈ seen, d.Passable p := by
  generalize hresult : Except.ok (Walk.atLink place target rest) = result at h
  induction h with
  | here | tooLong | ends | blocked => cases hresult
  | dot _ ih | dotDot _ ih => exact ih hresult
  | enters _ _ directory _ ih => exact List.forall_mem_cons.2 ⟨.inl ⟨_, directory⟩, ih hresult⟩
  | links _ _ link => exact List.forall_mem_singleton.2 (.inr ⟨_, link⟩)

theorem Follows.put (follow : Bool) (h : d.Follows false dir names (.ok (.reached place entry)) seen)
    (hsame : ∀ p ∈ seen.dropLast, d'.entryAt p = d.entryAt p) {number : Nat}
    (hput : d'.entryAt place = some (.file number)) :
    d'.Follows follow dir names (.ok (.reached place (some (.file number)))) seen := by
  generalize hresult : Except.ok (Walk.reached place entry) = result at h
  induction h with
  | here dir =>
    cases hresult
    have hhere : d'.Follows follow place [] (.ok (.reached place (d'.entryAt place))) [place] := .here place
    rwa [hput] at hhere
  | dot _ ih => exact .dot (ih hsame hresult)
  | dotDot _ ih => exact .dotDot (ih hsame hresult)
  | tooLong | blocked | links => cases hresult
  | ends proper short =>
    cases hresult
    exact .ends proper short hput (.inr (.inl ⟨number, rfl⟩))
  | @enters dir name rest result seen proper short _ directory next ih =>
    obtain ⟨front, rfl, -⟩ := Follows.reached (hresult ▸ next)
    rw [← List.cons_append, List.dropLast_concat] at hsame
    rw [List.dropLast_concat] at ih
    exact .enters proper short ((hsame _ List.mem_cons_self).trans directory)
      (ih (fun p hp => hsame p (List.mem_cons_of_mem _ hp)) hresult)

/-- To follow links to the last makes a difference only where names lead to a link. -/
theorem Follows.follow (h : d.Follows false dir names result seen) :
    d.Follows true dir names result seen ∨ ∃ place target dir',
      result = .ok (.reached place (some (.link target))) ∧
        d.Follows true dir names (.ok (.atLink dir' target [])) seen := by
  induction h with
  | here dir => exact .inl (.here dir)
  | dot _ ih =>
    refine ih.imp .dot ?_
    rintro ⟨place, target, dir', hresult, hnext⟩
    exact ⟨place, target, dir', hresult, .dot hnext⟩
  | dotDot _ ih =>
    refine ih.imp .dotDot ?_
    rintro ⟨place, target, dir', hresult, hnext⟩
    exact ⟨place, target, dir', hresult, .dotDot hnext⟩
  | tooLong proper long => exact .inl (.tooLong proper long)
  | @ends dir name proper short entry stands final =>
    rcases final with hnone | hfile | ⟨_, target, rfl⟩
    · exact .inl (.ends proper short stands (.inl hnone))
    · exact .inl (.ends proper short stands (.inr (.inl hfile)))
    · exact .inr ⟨_, target, dir, rfl, .links proper short stands fun _ => rfl⟩
  | blocked proper short more blocked => exact .inl (.blocked proper short more blocked)
  | enters proper short directory _ ih =>
    refine ih.imp (.enters proper short directory) ?_
    rintro ⟨place, target, dir', hresult, hnext⟩
    exact ⟨place, target, dir', hresult, .enters proper short directory hnext⟩
  | links proper short link goesOn => exact .inl (.links proper short link fun _ => rfl)

end follows

/-! ## Ways through links -/

section links
variable {d d' : Disk} {followLast : Bool} {dir place : Place} {entry : Option Entry} {names : List Bytes}
  {links : Nat}

theorem walkLinks_congr (h : ∀ p ∈ d.trailLinks followLast links dir names, d'.entryAt p = d.entryAt p) :
    d'.walkLinks followLast links dir names = d.walkLinks followLast links dir names ∧
      d'.trailLinks followLast links dir names = d.trailLinks followLast links dir names := by
  induction links generalizing dir names with
  | zero => exact ⟨rfl, rfl⟩
  | succ links ih =>
    rw [trailLinks] at h
    obtain ⟨hwalk, htrail⟩ :=
      ((d.follows followLast dir names).congr fun p hp => h p (List.mem_append_left _ hp)).eq
    rw [walkLinks, walkLinks, trailLinks, trailLinks, hwalk, htrail]
    rcases hnames : d.walkNames followLast dir names with c | ⟨place, entry⟩ | ⟨dir', target, rest⟩
    · exact ⟨rfl, rfl⟩
    · exact ⟨rfl, rfl⟩
    · rw [hnames] at h
      obtain ⟨hwalk, htrail⟩ := ih fun p hp => h p (List.mem_append_right _ hp)
      exact ⟨hwalk, congrArg _ htrail⟩

theorem entry_of_walkLinks (h : d.walkLinks followLast links dir names = .ok (place, entry)) :
    entry = d.entryAt place := by
  induction links generalizing dir names with
  | zero => cases h
  | succ links ih =>
    have hfollows := d.follows followLast dir names
    rw [walkLinks] at h
    rcases hnames : d.walkNames followLast dir names with c | ⟨p, e⟩ | ⟨dir', target, rest⟩ <;>
      rw [hnames] at h hfollows
    · cases h
    · cases h
      exact hfollows.entry_eq
    · exact ih h

theorem trailLinks_reached (h : d.walkLinks followLast links dir names = .ok (place, entry)) :
    ∃ front, d.trailLinks followLast links dir names = front ++ [place] ∧ ∀ p ∈ front, d.Passable p := by
  induction links generalizing dir names with
  | zero => cases h
  | succ links ih =>
    have hfollows := d.follows followLast dir names
    rw [walkLinks] at h
    rw [trailLinks]
    rcases hnames : d.walkNames followLast dir names with c | ⟨p, e⟩ | ⟨dir', target, rest⟩ <;>
      rw [hnames] at h hfollows
    · cases h
    · cases h
      obtain ⟨front, htrail, hfront⟩ := hfollows.reached
      exact ⟨front, by rw [htrail, List.append_nil], hfront⟩
    · obtain ⟨front, htrail, hfront⟩ := ih h
      refine ⟨d.trailNames dir names ++ front, ?_, fun p hp => ?_⟩
      · rw [List.append_assoc, ← htrail]
      · exact (List.mem_append.1 hp).elim (hfollows.atLink p) (hfront p)

theorem walkLinks_put (follow : Bool) (h : d.walkLinks false links dir names = .ok (place, entry))
    (hsame : ∀ p ∈ (d.trailLinks false links dir names).dropLast, d'.entryAt p = d.entryAt p) {number : Nat}
    (hput : d'.entryAt place = some (.file number)) :
    d'.walkLinks follow links dir names = .ok (place, some (.file number)) ∧
      d'.trailLinks follow links dir names = d.trailLinks false links dir names := by
  induction links generalizing dir names with
  | zero => cases h
  | succ links ih =>
    have hfollows := d.follows false dir names
    rw [walkLinks] at h
    rw [trailLinks] at hsame
    rcases hnames : d.walkNames false dir names with c | ⟨p, e⟩ | ⟨dir', target, rest⟩ <;>
      rw [hnames] at h hfollows hsame
    · cases h
    · cases h
      rw [List.append_nil] at hsame
      obtain ⟨hwalk, htrail⟩ := (hfollows.put follow hsame hput).eq
      rw [walkLinks, trailLinks, trailLinks, hwalk, htrail, hnames]
      exact ⟨rfl, rfl⟩
    · -- the link on the way is still there, and the way goes on behind it
      obtain ⟨front, htrail, _⟩ := trailLinks_reached h
      simp only [htrail, ← List.append_assoc, List.dropLast_concat] at hsame
      have hlink : d'.Follows follow dir names (.ok (.atLink dir' target rest)) (d.trailNames dir names) := by
        have hstill := hfollows.congr fun p hp => hsame p (List.mem_append_left _ hp)
        cases follow with
        | false => exact hstill
        | true =>
          rcases hstill.follow with hfollow | ⟨_, _, _, hresult, _⟩
          · exact hfollow
          · cases hresult
      obtain ⟨hnames', hseen⟩ := hlink.eq
      obtain ⟨hwalk, htrail'⟩ := ih h fun p hp => hsame p (List.mem_append_right _ (by
        rwa [htrail, List.dropLast_concat] at hp))
      rw [walkLinks, trailLinks, trailLinks, hnames', hseen, hnames]
      exact ⟨hwalk, congrArg _ htrail'⟩

theorem walkLinks_follow (h : d.walkLinks false links dir names = .ok (place, entry))
    (hlink : ∀ target, entry ≠ some (.link target)) :
    d.walkLinks true links dir names = .ok (place, entry) ∧
      d.trailLinks true links dir names = d.trailLinks false links dir names := by
  induction links generalizing dir names with
  | zero => cases h
  | succ links ih =>
    have hfollow := (d.follows false dir names).follow
    rw [walkLinks] at h
    rw [walkLinks, trailLinks, trailLinks]
    rcases hnames : d.walkNames false dir names with c | ⟨p, e⟩ | ⟨dir', target, rest⟩ <;>
      rw [hnames] at h hfollow
    · cases h
    · cases h
      rcases hfollow with hfollow | ⟨_, target, _, hresult, _⟩
      · rw [hfollow.eq.1]
        exact ⟨rfl, rfl⟩
      · cases hresult
        exact absurd rfl (hlink target)
    · rcases hfollow with hfollow | ⟨_, _, _, hresult, _⟩
      · rw [hfollow.eq.1]
        obtain ⟨hwalk, htrail⟩ := ih h
        exact ⟨hwalk, congrArg _ htrail⟩
      · cases hresult

theorem trailLinks_follow : d.trailLinks false links dir names <+: d.trailLinks true links dir names := by
  induction links generalizing dir names with
  | zero => exact List.prefix_rfl
  | succ links ih =>
    have hfollow := (d.follows false dir names).follow
    rw [trailLinks, trailLinks]
    rcases hnames : d.walkNames false dir names with c | ⟨p, e⟩ | ⟨dir', target, rest⟩ <;> rw [hnames] at hfollow
    · exact (List.prefix_append_right_inj _).2 (List.nil_prefix)
    · exact (List.prefix_append_right_inj _).2 (List.nil_prefix)
    · rcases hfollow with hfollow | ⟨_, _, _, hresult, _⟩
      · rw [hfollow.eq.1]
        exact (List.prefix_append_right_inj _).2 ih
      · cases hresult

end links

/-! ## Ways of paths -/

section paths
variable {d d' : Disk} {followLast : Bool} {path : Path} {place : Place} {entry : Option Entry}

/-- A path that cannot be followed on any disk, or is followed on each from one place. -/
theorem walk_cases (path : Path) :
    (∃ c, ∀ (d : Disk) (follow : Bool), d.walk follow path = .error c ∧ d.trail follow path = []) ∨
      ∀ (d : Disk) (follow : Bool),
        d.walk follow path =
          d.walkLinks follow (linkLimit + 1) (if path.isAbsolute then [] else d.here) path.steps ∧
        d.trail follow path =
          d.trailLinks follow (linkLimit + 1) (if path.isAbsolute then [] else d.here) path.steps := by
  by_cases hempty : path.bytes = []
  · exact .inl ⟨.notFound, fun d follow => by rw [walk, trail, if_pos hempty, if_pos hempty]; exact ⟨rfl, rfl⟩⟩
  by_cases hzero : path.bytes.contains 0 = true
  · refine .inl ⟨.nulInPath, fun d follow => ?_⟩
    rw [walk, trail, if_neg hempty, if_neg hempty, if_pos hzero, if_pos hzero]
    exact ⟨rfl, rfl⟩
  · refine .inr fun d follow => ?_
    rw [walk, trail, if_neg hempty, if_neg hempty, if_neg hzero, if_neg hzero]
    exact ⟨rfl, rfl⟩

/-- **What stands on its way decides where a path leads.** -/
theorem walk_congr (followLast : Bool) (hhere : d'.here = d.here)
    (h : ∀ p ∈ d.trail followLast path, d'.entryAt p = d.entryAt p) :
    d'.walk followLast path = d.walk followLast path ∧ d'.trail followLast path = d.trail followLast path := by
  rcases walk_cases path with ⟨c, hnone⟩ | hfollow
  · rw [(hnone d' followLast).1, (hnone d' followLast).2, (hnone d followLast).1, (hnone d followLast).2]
    exact ⟨rfl, rfl⟩
  · rw [(hfollow d followLast).2] at h
    rw [(hfollow d' followLast).1, (hfollow d' followLast).2, (hfollow d followLast).1, (hfollow d followLast).2, hhere]
    exact walkLinks_congr h

theorem walk_eq_of_ok (h : d.walk followLast path = .ok (place, entry)) (d' : Disk) (follow : Bool) :
    d'.walk follow path =
      d'.walkLinks follow (linkLimit + 1) (if path.isAbsolute then [] else d'.here) path.steps ∧
    d'.trail follow path =
      d'.trailLinks follow (linkLimit + 1) (if path.isAbsolute then [] else d'.here) path.steps := by
  rcases walk_cases path with ⟨c, hnone⟩ | hfollow
  · rw [(hnone d followLast).1] at h
    cases h
  · exact hfollow d' follow

theorem entry_of_walk (h : d.walk followLast path = .ok (place, entry)) : entry = d.entryAt place :=
  entry_of_walkLinks ((walk_eq_of_ok h d followLast).1 ▸ h)

/-- **A way leads through directories and links** to its last place. -/
theorem trail_reached (h : d.walk followLast path = .ok (place, entry)) :
    ∃ front, d.trail followLast path = front ++ [place] ∧ ∀ p ∈ front, d.Passable p := by
  rw [(walk_eq_of_ok h d followLast).2]
  exact trailLinks_reached ((walk_eq_of_ok h d followLast).1 ▸ h)

theorem passable_of_mem_dropLast (h : d.walk followLast path = .ok (place, entry)) {p : Place}
    (hp : p ∈ (d.trail followLast path).dropLast) : d.Passable p := by
  obtain ⟨front, htrail, hfront⟩ := trail_reached h
  rw [htrail, List.dropLast_concat] at hp
  exact hfront p hp

theorem mem_trail (h : d.walk followLast path = .ok (place, entry)) : place ∈ d.trail followLast path := by
  obtain ⟨front, htrail, _⟩ := trail_reached h
  rw [htrail]
  exact List.mem_concat_self

/-- **If a file is put where a path leads, the path leads to it**, on the same way. -/
theorem walk_of_put (follow : Bool) (h : d.walk false path = .ok (place, entry)) (hhere : d'.here = d.here)
    (hsame : ∀ p ∈ (d.trail false path).dropLast, d'.entryAt p = d.entryAt p) {number : Nat}
    (hput : d'.entryAt place = some (.file number)) :
    d'.walk follow path = .ok (place, some (.file number)) ∧ d'.trail follow path = d.trail false path := by
  rw [(walk_eq_of_ok h d false).2] at hsame
  rw [(walk_eq_of_ok h d' follow).1, (walk_eq_of_ok h d' follow).2, (walk_eq_of_ok h d false).2, hhere]
  exact walkLinks_put follow ((walk_eq_of_ok h d false).1 ▸ h) hsame hput

/-- A path that leads to no link leads there too if links are followed to the last. -/
theorem walk_follow (h : d.walk false path = .ok (place, entry)) (hlink : ∀ target, entry ≠ some (.link target)) :
    d.walk true path = .ok (place, entry) ∧ d.trail true path = d.trail false path := by
  rw [(walk_eq_of_ok h d true).1, (walk_eq_of_ok h d true).2, (walk_eq_of_ok h d false).2]
  exact walkLinks_follow ((walk_eq_of_ok h d false).1 ▸ h) hlink

theorem trail_follow (d : Disk) (path : Path) : d.trail false path <+: d.trail true path := by
  rcases walk_cases path with ⟨c, hnone⟩ | hfollow
  · rw [(hnone d false).2]
    exact List.nil_prefix
  · rw [(hfollow d false).2, (hfollow d true).2]
    exact trailLinks_follow

end paths

end LogTail.Disk
