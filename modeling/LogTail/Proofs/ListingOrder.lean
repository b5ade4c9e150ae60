import LogTail.Proofs.ReadingOrder
import LogTail.Proofs.Trees

/-!
# The order of a listing

A directory lists its names in no particular order. What a scan finds does not depend on it
(`Matcher.scan_canonical`): a name gives a candidate or not by itself, wherever it is listed
(`Matcher.addNames_undisturbed`), and in the order of reading there is only one list of the same candidates, since no
two of them have the same name. Files that cannot be opened are left out, each by its name, wherever it is listed.
-/

namespace LogTail

/-! ## The same names in another order -/

namespace Disk

variable {d d' : Disk} {path : Path} {place : Place} {entry : Entry} {names names' : List Bytes}

/-- A disk with the same files under the same names, which are listed in another order. -/
structure Relists (d' d : Disk) : Prop where
  entries : d'.entries.Perm d.entries
  nodes : d'.nodes = d.nodes
  here : d'.here = d.here

theorem Proper.entryAt_iff (h : d.Proper) (hplace : place ≠ []) :
    d.entryAt place = some entry ↔ (place, entry) ∈ d.entries := by
  refine ⟨entryAt_eq_some hplace, fun hmem => ?_⟩
  rcases hat : d.entryAt place with _ | entry'
  · exact absurd rfl ((entryAt_eq_none hplace).1 hat _ hmem)
  · have heq := List.inj_on_of_nodup_map h.places hmem (entryAt_eq_some hplace hat) rfl
    rw [(Prod.mk.inj heq).2]

namespace Relists

theorem proper (h : d'.Relists d) (hd : d.Proper) : d'.Proper where
  places := (h.entries.map _).nodup_iff.2 hd.places
  names e he := hd.names e (h.entries.subset he)

theorem entryAt_eq (h : d'.Relists d) (hd : d.Proper) (place : Place) : d'.entryAt place = d.entryAt place := by
  by_cases hplace : place = []
  · rw [hplace, entryAt_nil, entryAt_nil]
  · refine Option.ext fun entry => ?_
    rw [(h.proper hd).entryAt_iff hplace, hd.entryAt_iff hplace, h.entries.mem_iff]

theorem walk_eq (h : d'.Relists d) (hd : d.Proper) (followLast : Bool) (path : Path) :
    d'.walk followLast path = d.walk followLast path :=
  (walk_congr followLast h.here fun p _ => h.entryAt_eq hd p).1

theorem numberOf_eq (h : d'.Relists d) (hd : d.Proper) (path : Path) : d'.numberOf path = d.numberOf path := by
  rw [numberOf, numberOf, h.walk_eq hd]

theorem node_eq (h : d'.Relists d) (n : Nat) : d'.node n = d.node n := by rw [node, node, h.nodes]

theorem candidate?_eq (h : d'.Relists d) (hd : d.Proper) (window : Nat) (path : Path) :
    d'.candidate? window path = d.candidate? window path := by
  simp only [candidate?, h.numberOf_eq hd, h.node_eq]

theorem list_perm (h : d'.Relists d) (hd : d.Proper) (hlist : d.list path = .ok names)
    (hlist' : d'.list path = .ok names') : names'.Perm names := by
  unfold list at hlist hlist'
  rw [h.walk_eq hd] at hlist'
  rcases hwalk : d.walk true path with c | ⟨place, _ | _ | _ | _⟩
  all_goals simp only [hwalk, reduceCtorEq, Except.ok.injEq] at hlist hlist'
  rw [← hlist, ← hlist']
  exact h.entries.filterMap _

end Relists

end Disk

/-! ## A scan of names -/

namespace Matcher

variable {m : Matcher} {d d' : Disk} {directory : Path} {name : Pattern} {openable : Bytes → Bool} {w w' : World}
  {scan : Scan} {names names' : List Bytes}

/-- From a world on, a scan that goes through names can open the files under those that are openable, and no others:
it looks at such a file, opens it and reads its first bytes. -/
def Opens (m : Matcher) (d : Disk) (directory : Path) (name : Pattern) (openable : Bytes → Bool) :
    Scan × World → List Bytes → Prop
  | _, [] => True
  | soFar, entry :: names =>
    ((m.candidateNamed? d directory name entry).isSome = true → (openable entry = true ↔ soFar.2.Answers 3)) ∧
      Opens m d directory name openable (m.addName directory name soFar entry) names

instance decidableOpens (m : Matcher) (d : Disk) (directory : Path) (name : Pattern) (openable : Bytes → Bool) :
    (soFar : Scan × World) → (names : List Bytes) → Decidable (m.Opens d directory name openable soFar names)
  | _, [] => .isTrue trivial
  | soFar, entry :: names =>
    haveI := decidableOpens m d directory name openable (m.addName directory name soFar entry) names
    inferInstanceAs (Decidable (((m.candidateNamed? d directory name entry).isSome = true →
      (openable entry = true ↔ soFar.2.Answers 3)) ∧ _))

/-- **Each name gives its candidate by itself**, if the file there can be opened. -/
theorem addNames_undisturbed (hw : w.Undisturbed d) (hopens : m.Opens d directory name openable (scan, w) names) :
    ∃ scan' calls, names.foldl (m.addName directory name) (scan, w) = (scan', w.called calls) ∧
      scan'.candidates =
        scan.candidates ++ (names.filter openable).filterMap (m.candidateNamed? d directory name) := by
  induction names generalizing scan w with
  | nil => exact ⟨scan, 0, rfl, by simp⟩
  | cons entry names ih =>
    obtain ⟨hentry, hrest⟩ := hopens
    obtain ⟨refused, calls, hadd, -⟩ := addName_undisturbed (m := m) hw directory name entry scan
    rw [hadd] at hrest
    obtain ⟨scan', calls', hfold, hcandidates⟩ := ih (hw.called calls) hrest
    refine ⟨scan', calls + calls', by rw [List.foldl_cons, hadd, hfold, World.called_called], ?_⟩
    rw [hcandidates, List.append_assoc]
    congr 1
    rcases hnamed : m.candidateNamed? d directory name entry with _ | c
    · cases hopenable : openable entry <;> simp [hopenable, hnamed]
    · have hiff := hentry (by rw [hnamed]; rfl)
      by_cases hanswers : w.Answers 3
      · simp [hiff.2 hanswers, hanswers, hnamed]
      · simp [show openable entry = false by simpa using mt hiff.1 hanswers, hanswers]

/-- A scan of a disk that nobody else changes: it lists the names of its directory, and of the files under them it can
open those whose names are openable. -/
structure Survey (m : Matcher) (directory : Path) (name : Pattern) (d : Disk) (names : List Bytes)
    (openable : Bytes → Bool) (w : World) : Prop where
  undisturbed : w.Undisturbed d
  listed : d.list directory = .ok names
  answered : w.faults w.calls = none
  opens : m.Opens d directory name openable ({}, w.called 1) names

theorem Survey.finds (h : m.Survey directory name d names openable w) (htarget : m.target = .rotated directory name) :
    ∃ scan w', m.scan w = (.ok scan, w') ∧ scan.candidates =
      ((names.filter openable).filterMap (m.candidateNamed? d directory name)).mergeSort precedes := by
  obtain ⟨scan, calls, hfold, hcandidates⟩ := addNames_undisturbed (h.undisturbed.called 1) h.opens
  refine ⟨inOrder scan, (w.called 1).called calls, ?_, by rw [inOrder, hcandidates, List.nil_append]⟩
  rw [Matcher.scan, htarget]
  simp only [h.undisturbed.answered h.answered, h.listed, hfold]

/-- The candidate under a name of a directory: the name matches, as far as it can be read, and leads to a regular file,
through symbolic links or not, that can be opened. -/
structure Admits (m : Matcher) (directory : Path) (name : Pattern) (d : Disk) (names : List Bytes)
    (openable : Bytes → Bool) (entry : Bytes) (c : Candidate) : Prop where
  listed : entry ∈ names
  matching : name.isMatch (Text.Utf8.decodeLossy entry) = true
  opens : openable entry = true
  regular : ∃ number content, d.numberOf (directory.join entry) = .ok number ∧ d.HasFile number content ∧
    c = ⟨directory.join entry, content.length, (d.node number).modified.wholeSeconds, .ofNumber number,
      content.take m.window⟩

theorem mem_admitted {c : Candidate} :
    c ∈ (names.filter openable).filterMap (m.candidateNamed? d directory name) ↔
      ∃ entry, m.Admits directory name d names openable entry c := by
  rw [List.mem_filterMap]
  constructor
  · rintro ⟨entry, hmem, hnamed⟩
    rw [candidateNamed?, Option.ite_none_right_eq_some, Disk.candidate?_eq_some_iff] at hnamed
    obtain ⟨hlisted, hopens⟩ := List.mem_filter.1 hmem
    exact ⟨entry, hlisted, hnamed.1, hopens, hnamed.2⟩
  · rintro ⟨entry, h⟩
    refine ⟨entry, List.mem_filter.2 ⟨h.listed, h.opens⟩, ?_⟩
    rw [candidateNamed?, if_pos h.matching, Disk.candidate?_eq_some_iff]
    exact h.regular

/-- **A scan does not depend on the order in which its directory lists the names.** Its candidates are the regular files
under matching names that can be opened, each of them once, by time and then strictly by descending name; so there is
only one list of them. -/
theorem scan_canonical (htarget : m.target = .rotated directory name) (hd : d.Proper) (hrelists : d'.Relists d)
    (hsurvey : m.Survey directory name d names openable w) (hsurvey' : m.Survey directory name d' names' openable w') :
    ∃ scan scan' w₁ w₁', m.scan w = (.ok scan, w₁) ∧ m.scan w' = (.ok scan', w₁') ∧
      scan'.candidates = scan.candidates ∧
      (∀ c, c ∈ scan.candidates ↔ ∃ entry, m.Admits directory name d names openable entry c) ∧
      (scan.candidates.map fun c => c.path.fileName?).Nodup ∧
      scan.candidates.Pairwise Candidate.Before := by
  obtain ⟨scan, w₁, hscan, hcandidates⟩ := hsurvey.finds htarget
  obtain ⟨scan', w₁', hscan', hcandidates'⟩ := hsurvey'.finds htarget
  have hproper := hsurvey.undisturbed.proper hd
  have hproper' := hsurvey'.undisturbed.proper (hrelists.proper hd)
  have hbefore := scan_before htarget hproper hscan
  have hbefore' := scan_before htarget hproper' hscan'
  have hsame : m.candidateNamed? d' directory name = m.candidateNamed? d directory name := funext fun entry => by
    rw [candidateNamed?, candidateNamed?, hrelists.candidate?_eq hd]
  have hnames := hrelists.list_perm hd hsurvey.listed hsurvey'.listed
  have hperm : scan'.candidates.Perm scan.candidates := by
    rw [hcandidates, hcandidates', hsame]
    exact (List.mergeSort_perm _ _).trans
      (((hnames.filter _).filterMap _).trans (List.mergeSort_perm _ _).symm)
  refine ⟨scan, scan', w₁, w₁', hscan, hscan', ?_, fun c => ?_, nodup_names hproper hscan, hbefore⟩
  · exact hperm.eq_of_pairwise (fun a b _ _ hab hba => (hab.asymm hba).elim) hbefore' hbefore
  · rw [hcandidates, List.mem_mergeSort]
    exact mem_admitted

/-! ## A directory of links -/

/-- What stands in a directory `log`: a file under two names and a symbolic link to it, an older file whose name is no
text, one that cannot be opened, a directory, and a file with another name. -/
def crowd : List (Disk.Place × Disk.Entry) :=
  [([[0x6c, 0x6f, 0x67], [0x61]], .file 2), ([[0x6c, 0x6f, 0x67], [0x61, 0x31]], .link ⟨[0x61]⟩),
    ([[0x6c, 0x6f, 0x67], [0x61, 0xff]], .file 3), ([[0x6c, 0x6f, 0x67], [0x61, 0x32]], .file 2),
    ([[0x6c, 0x6f, 0x67], [0x61, 0x62]], .file 4), ([[0x6c, 0x6f, 0x67], [0x61, 0x64]], .directory 5),
    ([[0x6c, 0x6f, 0x67], [0x62]], .file 6)]

def crowdedDisk (entries : List (Disk.Place × Disk.Entry)) : Disk where
  nodes := [(0, ⟨[], ⟨0, 0⟩, true⟩), (1, ⟨[], ⟨0, 0⟩, true⟩), (2, ⟨[0x70, 0x0a], ⟨5, 0⟩, false⟩),
    (3, ⟨[0x71], ⟨-2, 500000000⟩, false⟩), (4, ⟨[], ⟨6, 0⟩, false⟩), (5, ⟨[], ⟨0, 0⟩, true⟩),
    (6, ⟨[], ⟨7, 0⟩, false⟩)]
  entries := ([[0x6c, 0x6f, 0x67]], .directory 1) :: entries
  nextNumber := 7
  here := []

theorem crowdedDisk_proper : (crowdedDisk crowd).Proper where
  places := by decide
  names := by
    have hnames : ∀ e ∈ (crowdedDisk crowd).entries, ∀ name ∈ e.1.getLast?,
        name ≠ [] ∧ Path.slash ∉ name ∧ name ≠ Path.dot ∧ name ≠ Path.dotDot := by decide
    exact fun e he name hname => by
      obtain ⟨hnonempty, hnoSlash, hnotDot, hnotDotDot⟩ := hnames e he name hname
      exact ⟨hnonempty, hnoSlash, hnotDot, hnotDotDot⟩

/-- Listed in one order or in the other, the directory has the same four candidates: the older file, then the other one
under its three names. -/
theorem scan_canonical_crowd :
    let name := (Pattern.compile? "a").get (by decide +kernel)
    let m : Matcher := ⟨.rotated (.ofText "/log") name, 512⟩
    let openable : Bytes → Bool := fun entry => entry ≠ [0x61, 0x62]
    let w : World := ⟨crowdedDisk crowd, 0, fun _ d => d, fun n => if n = 18 then some .notPermitted else none⟩
    let w' : World :=
      ⟨crowdedDisk crowd.reverse, 0, fun _ d => d, fun n => if n = 3 then some .notPermitted else none⟩
    (crowdedDisk crowd).Proper ∧ (crowdedDisk crowd.reverse).Relists (crowdedDisk crowd) ∧
      m.Survey (.ofText "/log") name (crowdedDisk crowd) (crowd.filterMap (·.1.getLast?)) openable w ∧
      m.Survey (.ofText "/log") name (crowdedDisk crowd.reverse) (crowd.reverse.filterMap (·.1.getLast?)) openable w' ∧
      ∃ scan scan' w₁ w₁', m.scan w = (.ok scan, w₁) ∧ m.scan w' = (.ok scan', w₁') ∧
        scan'.candidates = scan.candidates ∧
        scan.candidates.map (fun c => (c.path.fileName?, c.mtime, c.id)) =
          [(some [0x61, 0xff], -1, .ofNumber 3), (some [0x61, 0x32], 5, .ofNumber 2), (some [0x61, 0x31], 5, .ofNumber 2),
            (some [0x61], 5, .ofNumber 2)] := by
  intro name m openable w w'
  have hsurvey : m.Survey (.ofText "/log") name (crowdedDisk crowd) (crowd.filterMap (·.1.getLast?)) openable w :=
    ⟨⟨rfl, fun _ _ => rfl⟩, by decide +kernel, rfl, by decide +kernel⟩
  have hsurvey' : m.Survey (.ofText "/log") name (crowdedDisk crowd.reverse) (crowd.reverse.filterMap (·.1.getLast?))
      openable w' := ⟨⟨rfl, fun _ _ => rfl⟩, by decide +kernel, rfl, by decide +kernel⟩
  have hrelists : (crowdedDisk crowd.reverse).Relists (crowdedDisk crowd) :=
    ⟨(List.reverse_perm crowd).cons _, rfl, rfl⟩
  have htarget : m.target = .rotated (.ofText "/log") name := rfl
  obtain ⟨scan, scan', w₁, w₁', hscan, hscan', hsame, -⟩ :=
    scan_canonical htarget crowdedDisk_proper hrelists hsurvey hsurvey'
  refine ⟨crowdedDisk_proper, hrelists, hsurvey, hsurvey', scan, scan', w₁, w₁', hscan, hscan', hsame, ?_⟩
  obtain ⟨found, w₂, hfound, hcandidates⟩ := hsurvey.finds htarget
  cases hscan.symm.trans hfound
  rw [hcandidates, mergeSort_eq_insertionSort precedes_trans precedes_total]
  decide +kernel

end Matcher

end LogTail
