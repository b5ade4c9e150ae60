import LogTail.Proofs.Reading
import LogTail.Scan

/-!
# Scans of a still disk

A scan of a still disk finds the same candidates whenever it is made: for each name of the directory what
`Disk.candidate?` says of its path. Where calls may fail, a name gives its candidate if and only if the calls that look
at the file, open it and read its first bytes are answered (`Matcher.addName_undisturbed`). The names of candidates are
as distinct as those of a directory, whatever happens during the scan (`Matcher.nodup_names`).
-/

namespace LogTail

/-- A call gives the same answer in every still world over a disk, and leaves it still. -/
def World.Steady (d : Disk) {α : Type} (call : World → α × World) (answer : α) : Prop :=
  ∀ w, w.Still d → ∃ w', w'.Still d ∧ call w = (answer, w')

/-- What a scan finds at a path, with as many first bytes as a digest covers. -/
def Disk.candidate? (d : Disk) (window : Nat) (path : Path) : Option Candidate :=
  match d.numberOf path with
  | .error _ => none
  | .ok n =>
    let node := d.node n
    if node.isDirectory then none
    else
      some ⟨path, node.content.length, node.modified.wholeSeconds, .ofNumber n, node.content.take window⟩

theorem Disk.candidate?_eq_some_iff {d : Disk} {window : Nat} {path : Path} {c : Candidate} :
    d.candidate? window path = some c ↔ ∃ n content, d.numberOf path = .ok n ∧ d.HasFile n content ∧
      c = ⟨path, content.length, (d.node n).modified.wholeSeconds, .ofNumber n, content.take window⟩ := by
  unfold candidate?
  constructor
  · intro h
    rcases hn : d.numberOf path with _ | n
    · simp [hn] at h
    · by_cases hdir : (d.node n).isDirectory = true
      · simp [hn, hdir] at h
      · simp only [hn, hdir, Bool.false_eq_true, if_false, Option.some.injEq] at h
        exact ⟨n, _, rfl, ⟨by simpa using hdir, rfl⟩, h.symm⟩
  · rintro ⟨n, content, hn, hfile, rfl⟩
    simp only [hn, hfile.regular, hfile.content, Bool.false_eq_true, if_false]

theorem Disk.candidate?_eq_some {d : Disk} {window : Nat} {path : Path} {c : Candidate}
    (h : d.candidate? window path = some c) :
    ∃ n, d.numberOf path = .ok n ∧ d.HasFile n (d.node n).content ∧ c.path = path ∧
      c.id = .ofNumber n ∧ c.size = (d.node n).content.length ∧
      c.head = (d.node n).content.take window := by
  obtain ⟨n, content, hn, hfile, rfl⟩ := candidate?_eq_some_iff.1 h
  obtain rfl := hfile.content
  exact ⟨n, hn, hfile, rfl, rfl, rfl, rfl⟩

/-! ## Calls that may fail -/

/-- A world in which nobody else changes the disk; calls may fail by themselves. -/
structure World.Undisturbed (d : Disk) (w : World) : Prop where
  disk : w.disk = d
  others : ∀ m d', w.others m d' = d'

namespace World

def called (w : World) (n : Nat) : World := { w with calls := w.calls + n }

@[simp] theorem called_called (w : World) (n n' : Nat) : (w.called n).called n' = w.called (n + n') := by
  rw [called, called, called, Nat.add_assoc]

/-- A number of calls are answered, beginning with the next one. -/
def Answers (w : World) (n : Nat) : Prop := ∀ k < n, w.faults (w.calls + k) = none

instance (w : World) (n : Nat) : Decidable (w.Answers n) :=
  inferInstanceAs (Decidable (∀ k < n, w.faults (w.calls + k) = none))

variable {d : Disk} {w : World} {α : Type} {c : Cause} {n : Nat}

theorem answers_zero (w : World) : w.Answers 0 := nofun

theorem answers_succ : w.Answers (n + 1) ↔ w.faults w.calls = none ∧ (w.called 1).Answers n := by
  constructor
  · intro h
    refine ⟨h 0 (Nat.succ_pos n), fun k hk => ?_⟩
    rw [called, Nat.add_assoc, Nat.add_comm 1]
    exact h (k + 1) (Nat.succ_lt_succ hk)
  · rintro ⟨hfirst, hrest⟩ k hk
    cases k with
    | zero => exact hfirst
    | succ k =>
      rw [Nat.add_comm k, ← Nat.add_assoc]
      exact hrest k (Nat.lt_of_succ_lt_succ hk)

theorem Undisturbed.called (h : w.Undisturbed d) (n : Nat) : (w.called n).Undisturbed d := ⟨h.disk, h.others⟩

theorem Undisturbed.answered (h : w.Undisturbed d) (hanswered : w.faults w.calls = none)
    (f : Disk → Except Cause α) : w.look f = (f d, w.called 1) := by
  obtain ⟨rfl, hothers⟩ := h
  simp only [World.look, hothers, hanswered, World.called]

theorem Undisturbed.failed (h : w.Undisturbed d) (hfault : w.faults w.calls = some c)
    (f : Disk → Except Cause α) : w.look f = (.error c, w.called 1) := by
  obtain ⟨rfl, hothers⟩ := h
  simp only [World.look, hothers, hfault, World.called]

theorem Still.undisturbed (h : w.Still d) : w.Undisturbed d := ⟨h.disk, h.others⟩

theorem Still.called (h : w.Still d) (n : Nat) : (w.called n).Still d := ⟨h.disk, h.others, h.faults⟩

theorem Still.answers (h : w.Still d) (n : Nat) : w.Answers n := fun _ _ => h.faults _

end World

namespace Matcher

variable {m : Matcher} {d : Disk} {path : Path} {n : Nat} {w : World}

theorem lookup_error {c : Cause} (h : d.numberOf path = .error c) : d.lookup path = .error c := by
  rw [Disk.lookup, h]
  rfl

theorem lookup_ok (h : d.numberOf path = .ok n) : d.lookup path = .ok (n, d.node n) := by
  rw [Disk.lookup, h]
  rfl

def candidateNamed? (m : Matcher) (d : Disk) (directory : Path) (name : Pattern) (entry : Bytes) :
    Option Candidate :=
  if name.isMatch (Text.Utf8.decodeLossy entry) then d.candidate? m.window (directory.join entry)
  else none

theorem openCandidate_answered (hw : w.Undisturbed d) (hn : d.numberOf path = .ok n)
    (hfile : (d.node n).isDirectory = false) (hanswers : w.Answers 2) :
    m.openCandidate w path (d.node n) =
      (.ok ⟨path, (d.node n).content.length, (d.node n).modified.wholeSeconds, .ofNumber n,
        (d.node n).content.take m.window⟩, w.called 3) := by
  have hhas : d.HasFile n (d.node n).content := ⟨hfile, rfl⟩
  obtain ⟨hopening, hanswers⟩ := World.answers_succ.1 hanswers
  obtain ⟨hhead, -⟩ := World.answers_succ.1 hanswers
  rw [openCandidate, hw.answered hopening]
  simp only [hn, readHead, (hw.called 1).answered hhead, hhas.readAt, World.called_called]
  -- the size is that of the open file, or the one seen before if the call for it fails; both are the same
  rcases hsize : w.faults (w.calls + 2) with _ | c
  · simp only [(hw.called 2).answered hsize, hhas.size]
    rfl
  · simp only [(hw.called 2).failed hsize]
    rfl

theorem openCandidate_refused (hw : w.Undisturbed d) (hn : d.numberOf path = .ok n) (hrefuses : ¬ w.Answers 2) :
    ∃ c calls, m.openCandidate w path (d.node n) = (.error c, w.called calls) := by
  rw [openCandidate]
  rcases hopening : w.faults w.calls with _ | c
  · rcases hhead : w.faults (w.calls + 1) with _ | c
    · exact absurd (World.answers_succ.2 ⟨hopening, World.answers_succ.2 ⟨hhead, World.answers_zero _⟩⟩) hrefuses
    · refine ⟨c, 2, ?_⟩
      rw [hw.answered hopening]
      simp only [hn, readHead, (hw.called 1).failed hhead, World.called_called]
  · exact ⟨c, 1, by rw [hw.failed hopening]⟩

theorem addCandidate_undisturbed (hw : w.Undisturbed d) (hn : d.numberOf path = .ok n)
    (hfile : (d.node n).isDirectory = false) (scan : Scan) :
    ∃ refused calls, m.addCandidate scan w path (d.node n) =
      (⟨scan.candidates ++ (if w.Answers 2 then d.candidate? m.window path else none).toList,
        scan.unreadable ++ refused⟩, w.called calls) ∧ (w.Answers 2 → refused = []) := by
  rw [addCandidate]
  by_cases hanswers : w.Answers 2
  · rw [openCandidate_answered hw hn hfile hanswers, if_pos hanswers]
    refine ⟨[], 3, ?_, fun _ => rfl⟩
    simp [Disk.candidate?, hn, hfile]
  · obtain ⟨c, calls, hopen⟩ := m.openCandidate_refused hw hn hanswers
    rw [hopen, if_neg hanswers]
    by_cases hc : c.isNotFound = true
    · exact ⟨[], calls, by simp [hc], fun _ => rfl⟩
    · exact ⟨[path], calls, by simp [hc], fun h => absurd h hanswers⟩

/-- What stands under a name becomes a candidate if and only if the calls that look at it, open it and read its first
bytes are answered. -/
theorem addName_undisturbed (hw : w.Undisturbed d) (directory : Path) (name : Pattern) (entry : Bytes) (scan : Scan) :
    ∃ refused calls, m.addName directory name (scan, w) entry =
      (⟨scan.candidates ++ (if w.Answers 3 then m.candidateNamed? d directory name entry else none).toList,
        scan.unreadable ++ refused⟩, w.called calls) ∧ (w.Answers 3 → refused = []) := by
  unfold candidateNamed? addName
  by_cases hmatch : name.isMatch (Text.Utf8.decodeLossy entry) = true
  · simp only [hmatch, if_true]
    rcases hlook : w.faults w.calls with _ | c
    · have hanswers : w.Answers 3 ↔ (w.called 1).Answers 2 := World.answers_succ.trans (and_iff_right hlook)
      rw [hw.answered hlook]
      simp only [hanswers]
      rcases hn : d.numberOf (directory.join entry) with c | n
      · exact ⟨[], 1, by simp [lookup_error hn, Disk.candidate?, hn], fun _ => rfl⟩
      simp only [lookup_ok hn]
      by_cases hdir : (d.node n).isDirectory = true
      · exact ⟨[], 1, by simp [Disk.candidate?, hn, hdir], fun _ => rfl⟩
      · obtain ⟨refused, calls, hadd, hrefused⟩ :=
          addCandidate_undisturbed (m := m) (hw.called 1) hn (by simpa using hdir) scan
        exact ⟨refused, 1 + calls, by rw [if_neg hdir, hadd, World.called_called], hrefused⟩
    · have hrefuses : ¬ w.Answers 3 := fun h => by cases hlook.symm.trans (World.answers_succ.1 h).1
      exact ⟨[], 1, by simp [hw.failed hlook, hrefuses], fun _ => rfl⟩
  · exact ⟨[], 0, by simp [hmatch, World.called], fun _ => rfl⟩

/-! ## Still worlds -/

theorem addCandidate_still (m : Matcher) (hn : d.numberOf path = .ok n) (hfile : (d.node n).isDirectory = false)
    (scan : Scan) :
    ∃ scan', World.Steady d (fun w => m.addCandidate scan w path (d.node n)) scan' ∧
      scan'.candidates = scan.candidates ++ (d.candidate? m.window path).toList := by
  refine ⟨{ scan with candidates := scan.candidates ++ (d.candidate? m.window path).toList }, fun w hw => ?_, rfl⟩
  obtain ⟨refused, calls, hadd, hrefused⟩ := addCandidate_undisturbed (m := m) hw.undisturbed hn hfile scan
  exact ⟨w.called calls, hw.called calls,
    hadd.trans (by rw [hrefused (hw.answers 2), if_pos (hw.answers 2), List.append_nil])⟩

theorem addName_still (m : Matcher) (directory : Path) (name : Pattern) (entry : Bytes) (scan : Scan) :
    ∃ scan', World.Steady d (fun w => m.addName directory name (scan, w) entry) scan' ∧
      scan'.candidates = scan.candidates ++ (m.candidateNamed? d directory name entry).toList := by
  refine ⟨{ scan with candidates := scan.candidates ++ (m.candidateNamed? d directory name entry).toList },
    fun w hw => ?_, rfl⟩
  obtain ⟨refused, calls, hadd, hrefused⟩ :=
    addName_undisturbed (m := m) hw.undisturbed directory name entry scan
  exact ⟨w.called calls, hw.called calls,
    hadd.trans (by rw [hrefused (hw.answers 3), if_pos (hw.answers 3), List.append_nil])⟩

theorem addNames_still (m : Matcher) (directory : Path) (name : Pattern) (names : List Bytes)
    (scan : Scan) :
    ∃ scan', World.Steady d (fun w => names.foldl (m.addName directory name) (scan, w)) scan' ∧
      scan'.candidates = scan.candidates ++ names.filterMap (m.candidateNamed? d directory name) := by
  induction names generalizing scan with
  | nil => exact ⟨scan, fun w hw => ⟨w, hw, rfl⟩, by simp⟩
  | cons entry names ih =>
    obtain ⟨scan₁, hsteady₁, hcand₁⟩ := addName_still (d := d) m directory name entry scan
    obtain ⟨scan₂, hsteady₂, hcand₂⟩ := ih scan₁
    refine ⟨scan₂, ?_, ?_⟩
    · intro w hw
      obtain ⟨w₁, hw₁, hadd₁⟩ := hsteady₁ w hw
      obtain ⟨w₂, hw₂, hadd₂⟩ := hsteady₂ w₁ hw₁
      refine ⟨w₂, hw₂, ?_⟩
      show names.foldl _ (m.addName directory name (scan, w) entry) = _
      rw [show m.addName directory name (scan, w) entry = _ from hadd₁]
      exact hadd₂
    · rw [hcand₂, hcand₁, List.append_assoc, List.filterMap_cons]
      rcases m.candidateNamed? d directory name entry with _ | c <;> rfl

/-- What a watch finds on a disk: an error, or its candidates in the order of reading. -/
def found (m : Matcher) (d : Disk) : Except Error (List Candidate) :=
  match m.target with
  | .single path =>
    match d.lookup path with
    | .error c => .error (.scan path c)
    | .ok (_, node) =>
      if node.isDirectory then .error (.scan path .notRegular)
      else .ok (d.candidate? m.window path).toList
  | .rotated directory name =>
    match d.list directory with
    | .error c => .error (.scan directory c)
    | .ok names => .ok ((names.filterMap (m.candidateNamed? d directory name)).mergeSort precedes)

/-- **A scan of a still disk finds the same whenever it is made.** -/
theorem scan_still (m : Matcher) (d : Disk) :
    ∃ answer, World.Steady d m.scan answer ∧ answer.map (·.candidates) = m.found d := by
  unfold scan found
  rcases m.target with path | ⟨directory, name⟩
  · rcases hn : d.numberOf path with c | n
    · refine ⟨.error (.scan path c), ?_, by simp only [lookup_error hn]; rfl⟩
      intro w hw
      obtain ⟨w₁, hw₁, hlook⟩ := hw.look fun d => d.lookup path
      exact ⟨w₁, hw₁, by simp only [hlook, lookup_error hn]⟩
    · by_cases hdir : (d.node n).isDirectory = true
      · refine ⟨.error (.scan path .notRegular), ?_,
          by simp only [lookup_ok hn, hdir, if_true]; rfl⟩
        intro w hw
        obtain ⟨w₁, hw₁, hlook⟩ := hw.look fun d => d.lookup path
        exact ⟨w₁, hw₁, by simp only [hlook, lookup_ok hn, hdir, if_true]⟩
      · obtain ⟨scan', hsteady, hcand⟩ := addCandidate_still m hn (by simpa using hdir) {}
        refine ⟨.ok scan', ?_, ?_⟩
        · intro w hw
          obtain ⟨w₁, hw₁, hlook⟩ := hw.look fun d => d.lookup path
          obtain ⟨w₂, hw₂, hadd⟩ := hsteady w₁ hw₁
          refine ⟨w₂, hw₂, ?_⟩
          simp only [hlook, lookup_ok hn, hdir]
          rw [show m.addCandidate {} w₁ path (d.node n) = _ from hadd]
          rfl
        · simp only [lookup_ok hn, hdir, Except.map, hcand]
          rfl
  · rcases hlist : d.list directory with c | names
    · refine ⟨.error (.scan directory c), ?_, by simp only [hlist]; rfl⟩
      intro w hw
      obtain ⟨w₁, hw₁, hlook⟩ := hw.look fun d => d.list directory
      exact ⟨w₁, hw₁, by simp only [hlook, hlist]⟩
    · obtain ⟨scan', hsteady, hcand⟩ := addNames_still (d := d) m directory name names {}
      refine ⟨.ok (inOrder scan'), ?_, by simp [hlist, Except.map, inOrder, hcand]⟩
      intro w hw
      obtain ⟨w₁, hw₁, hlook⟩ := hw.look fun d => d.list directory
      obtain ⟨w₂, hw₂, hadd⟩ := hsteady w₁ hw₁
      refine ⟨w₂, hw₂, ?_⟩
      simp only [hlook, hlist]
      rw [show names.foldl (m.addName directory name) ({}, w₁) = _ from hadd]

theorem scan_of_found {candidates : List Candidate} {w : World} (hfound : m.found d = .ok candidates)
    (hw : w.Still d) : ∃ scan w', m.scan w = (.ok scan, w') ∧ scan.candidates = candidates ∧ w'.Still d := by
  obtain ⟨answer, hsteady, hanswer⟩ := m.scan_still d
  obtain ⟨w', hw', hscan⟩ := hsteady w hw
  rw [hfound] at hanswer
  rcases answer with e | scan
  · cases hanswer
  · exact ⟨scan, w', hscan, Except.ok.inj hanswer, hw'⟩

theorem of_found {candidates : List Candidate} (h : m.found d = .ok candidates) :
    (∃ path, candidates = (d.candidate? m.window path).toList) ∨
      ∃ directory name names, d.list directory = .ok names ∧
        candidates = (names.filterMap (m.candidateNamed? d directory name)).mergeSort precedes := by
  unfold found at h
  rcases htarget : m.target with path | ⟨directory, name⟩ <;> simp only [htarget] at h
  · rcases hn : d.lookup path with e | ⟨number, node⟩
    · simp [hn] at h
    · by_cases hdir : node.isDirectory = true
      · simp [hn, hdir] at h
      · simp only [hn, hdir, Bool.false_eq_true, if_false, Except.ok.injEq] at h
        exact .inl ⟨path, h.symm⟩
  · rcases hlist : d.list directory with e | names
    · simp [hlist] at h
    · simp only [hlist, Except.ok.injEq] at h
      exact .inr ⟨directory, name, names, hlist, h.symm⟩

theorem candidate?_of_found {candidates : List Candidate} (h : m.found d = .ok candidates)
    {c : Candidate} (hc : c ∈ candidates) : d.candidate? m.window c.path = some c := by
  have hpath {path : Path} (h : d.candidate? m.window path = some c) :
      d.candidate? m.window c.path = some c := by
    obtain ⟨_, _, _, hpath, _⟩ := Disk.candidate?_eq_some h
    rwa [hpath]
  rcases of_found h with ⟨path, rfl⟩ | ⟨directory, name, names, -, rfl⟩
  · exact hpath (Option.mem_toList.1 hc)
  · obtain ⟨entry, -, hentry⟩ := List.mem_filterMap.1 (List.mem_mergeSort.1 hc)
    rw [candidateNamed?, Option.ite_none_right_eq_some] at hentry
    exact hpath hentry.2

end Matcher

/-! ## Names of candidates -/

/-- A name that a directory may hold. -/
structure Path.ProperName (name : Bytes) : Prop where
  nonempty : name ≠ []
  noSlash : Path.slash ∉ name
  notDot : name ≠ Path.dot
  notDotDot : name ≠ Path.dotDot

theorem Path.fileName?_join (dir : Path) {name : Bytes} (h : ProperName name) :
    (dir.join name).fileName? = some name := by
  have hisName : isName name = true := by simp [isName, h.nonempty, h.notDot]
  have hlast (front : Bytes) : fileName? ⟨front ++ slash :: name⟩ = some name := by
    rw [fileName?, pieces, List.splitOn_append_cons_self, List.splitOn_eq_singleton h.noSlash,
      List.filter_append]
    simp [hisName, h.notDotDot]
  have hhead : ¬ name.head? = some slash := fun hhead => h.noSlash (List.mem_of_mem_head? hhead)
  rw [join, if_neg hhead]
  by_cases hend : dir.bytes = []
  · rw [if_pos (by simp [hend]), hend, List.nil_append, fileName?, pieces,
      List.splitOn_eq_singleton h.noSlash]
    simp [hisName, h.notDotDot]
  by_cases hslash : dir.bytes.getLast? = some slash
  · obtain ⟨front, hfront⟩ := List.getLast?_eq_some_iff.1 hslash
    rw [if_pos (by simp [hslash]), hfront, List.append_assoc, List.singleton_append]
    exact hlast front
  · rw [if_neg (by simp [hend, hslash])]
    exact hlast dir.bytes

/-- A disk whose entries stand at different places and have proper names. -/
structure Disk.Proper (d : Disk) : Prop where
  places : (d.entries.map (·.1)).Nodup
  names : ∀ e ∈ d.entries, ∀ name ∈ e.1.getLast?, Path.ProperName name

theorem Disk.Proper.list {d : Disk} (h : d.Proper) {path : Path} {names : List Bytes}
    (hlist : d.list path = .ok names) : names.Nodup ∧ ∀ name ∈ names, Path.ProperName name := by
  unfold Disk.list at hlist
  rcases hwalk : d.walk true path with c | ⟨place, _ | _ | _ | _⟩
  all_goals simp only [hwalk, reduceCtorEq, Except.ok.injEq] at hlist
  subst hlist
  refine ⟨?_, ?_⟩
  · rw [List.Nodup, List.pairwise_filterMap]
    refine (List.pairwise_map.1 h.places).imp fun {a b} hne x hx y hy hxy => hne ?_
    subst hxy
    rcases ha : a.1.getLast? with _ | na
    · simp [ha] at hx
    rcases hb : b.1.getLast? with _ | nb
    · simp [hb] at hy
    simp only [ha, Option.ite_none_right_eq_some, Option.some.injEq] at hx
    simp only [hb, Option.ite_none_right_eq_some, Option.some.injEq] at hy
    obtain ⟨hdropa, rfl⟩ := hx
    obtain ⟨hdropb, rfl⟩ := hy
    obtain ⟨pa, hpa⟩ := List.getLast?_eq_some_iff.1 ha
    obtain ⟨pb, hpb⟩ := List.getLast?_eq_some_iff.1 hb
    rw [hpa, List.dropLast_concat] at hdropa
    rw [hpb, List.dropLast_concat] at hdropb
    rw [hpa, hpb, hdropa, hdropb]
  · intro name hname
    rw [List.mem_filterMap] at hname
    obtain ⟨e, he, hname⟩ := hname
    rcases hlast : e.1.getLast? with _ | n
    · simp [hlast] at hname
    · simp only [hlast, Option.ite_none_right_eq_some, Option.some.injEq] at hname
      obtain ⟨_, rfl⟩ := hname
      exact h.names e he n hlast

/-- A world in which the disk is proper at all times. -/
structure World.Proper (w : World) : Prop where
  disk : w.disk.Proper
  others : ∀ m d, d.Proper → (w.others m d).Proper

theorem World.Undisturbed.proper {d : Disk} {w : World} (hw : w.Undisturbed d) (hd : d.Proper) : w.Proper where
  disk := hw.disk ▸ hd
  others m d' hd' := (hw.others m d').symm ▸ hd'

theorem World.Still.proper {d : Disk} {w : World} (hw : w.Still d) (hd : d.Proper) : w.Proper :=
  hw.undisturbed.proper hd

namespace Matcher

variable {m : Matcher}

theorem addCandidate_paths (m : Matcher) (scan : Scan) (w : World) (path : Path) (seen : Disk.Node) :
    (m.addCandidate scan w path seen).1.candidates = scan.candidates ∨
      ∃ c : Candidate, c.path = path ∧
        (m.addCandidate scan w path seen).1.candidates = scan.candidates ++ [c] := by
  unfold addCandidate openCandidate
  rcases w.look fun d => d.numberOf path with ⟨c | number, w₁⟩
  · by_cases hc : c.isNotFound = true <;> exact .inl (by simp [hc])
  dsimp only
  rcases readHead w₁ number m.window with ⟨c | head, w₂⟩
  · by_cases hc : c.isNotFound = true <;> exact .inl (by simp [hc])
  · exact .inr ⟨_, rfl, rfl⟩

theorem addName_paths (m : Matcher) (directory : Path) (name : Pattern) (scan : Scan) (w : World)
    (entry : Bytes) :
    (m.addName directory name (scan, w) entry).1.candidates = scan.candidates ∨
      ∃ c : Candidate, c.path = directory.join entry ∧
        (m.addName directory name (scan, w) entry).1.candidates = scan.candidates ++ [c] := by
  unfold addName
  by_cases hmatch : name.isMatch (Text.Utf8.decodeLossy entry) = true
  · simp only [hmatch, if_true]
    rcases w.look fun d => d.lookup (directory.join entry) with ⟨c | ⟨number, node⟩, w₁⟩
    · exact .inl rfl
    dsimp only
    by_cases hdir : node.isDirectory = true
    · rw [if_pos hdir]
      exact .inl rfl
    · rw [if_neg hdir]
      exact m.addCandidate_paths scan w₁ (directory.join entry) node
  · simp only [hmatch]
    exact .inl rfl

theorem addNames_paths (m : Matcher) (directory : Path) (name : Pattern) (names : List Bytes)
    (scan : Scan) (w : World) :
    ∃ found : List Bytes, found.Sublist names ∧
      ((names.foldl (m.addName directory name) (scan, w)).1.candidates.map (·.path)) =
        scan.candidates.map (·.path) ++ found.map directory.join := by
  induction names generalizing scan w with
  | nil => exact ⟨[], .slnil, by simp⟩
  | cons entry names ih =>
    rw [List.foldl_cons]
    have hentry := m.addName_paths directory name scan w entry
    generalize m.addName directory name (scan, w) entry = next at hentry
    obtain ⟨scan₁, w₁⟩ := next
    obtain ⟨found, hsub, hpaths⟩ := ih scan₁ w₁
    rcases hentry with hsame | ⟨c, hpath, hadded⟩
    · exact ⟨found, hsub.cons entry, by rw [hpaths, hsame]⟩
    · refine ⟨entry :: found, hsub.cons_cons entry, ?_⟩
      rw [hpaths, hadded]
      simp [hpath]

/-- What a scan of a directory has done: it has listed names, and gone through them. -/
theorem of_scan {directory : Path} {name : Pattern} {w w' : World} {scan : Scan}
    (htarget : m.target = .rotated directory name) (h : m.scan w = (.ok scan, w')) :
    ∃ names w₁, (w.look fun d => d.list directory) = (.ok names, w₁) ∧
      scan = inOrder (names.foldl (m.addName directory name) ({}, w₁)).1 := by
  unfold Matcher.scan at h
  simp only [htarget] at h
  rcases hlook : w.look fun d => d.list directory with ⟨c | names, w₁⟩
  · simp [hlook] at h
  · simp only [hlook, Prod.mk.injEq, Except.ok.injEq] at h
    exact ⟨names, w₁, rfl, h.1.symm⟩

theorem scan_names {directory : Path} {name : Pattern} {w w' : World} {scan : Scan}
    (htarget : m.target = .rotated directory name) (hw : w.Proper) (h : m.scan w = (.ok scan, w')) :
    ∃ found : List Bytes, found.Nodup ∧ (scan.candidates.map fun c => c.path.fileName?).Perm (found.map some) := by
  obtain ⟨names, w₁, hlook, rfl⟩ := of_scan htarget h
  have hproper : (w.others (.call w.calls) w.disk).Proper := hw.others _ _ hw.disk
  obtain ⟨hnodup, hnames⟩ := hproper.list (World.look_ok hlook)
  obtain ⟨found, hsub, hpaths⟩ := m.addNames_paths directory name names {} w₁
  have hfound := congrArg (List.map Path.fileName?) hpaths
  rw [List.map_nil, List.nil_append, List.map_map, List.map_map] at hfound
  have hsome : found.map (Path.fileName? ∘ directory.join) = found.map some :=
    List.map_congr_left fun entry hentry => Path.fileName?_join directory (hnames _ (hsub.subset hentry))
  exact ⟨found, hnodup.sublist hsub, hsome ▸ hfound ▸ (List.mergeSort_perm _ precedes).map _⟩

/-- **No two candidates have the same name**, whatever the world does during the scan. -/
theorem nodup_names {w w' : World} {scan : Scan} (hw : w.Proper) (h : m.scan w = (.ok scan, w')) :
    (scan.candidates.map fun c => c.path.fileName?).Nodup := by
  rcases htarget : m.target with path | ⟨directory, name⟩
  · unfold Matcher.scan at h
    simp only [htarget] at h
    rcases hlook : w.look fun d => d.lookup path with ⟨c | ⟨number, node⟩, w₁⟩
    · simp [hlook] at h
    simp only [hlook] at h
    by_cases hdir : node.isDirectory = true
    · simp [hdir] at h
    · have hadded := m.addCandidate_paths {} w₁ path node
      simp only [hdir, if_false, Prod.mk.injEq, Except.ok.injEq, Bool.false_eq_true] at h
      rw [h.1] at hadded
      rcases hadded with hnone | ⟨c, _, hone⟩
      · simp [hnone]
      · simp [hone]
  · obtain ⟨found, hnodup, hperm⟩ := scan_names htarget hw h
    rw [hperm.nodup_iff, List.Nodup, List.pairwise_map]
    exact hnodup.imp fun hne heq => hne (Option.some.inj heq)

theorem nodup_names_of_found {d : Disk} {candidates : List Candidate} (hd : d.Proper)
    (hfound : m.found d = .ok candidates) : (candidates.map fun c => c.path.fileName?).Nodup := by
  obtain ⟨scan, w', hscan, rfl, -⟩ := scan_of_found hfound (World.still_quiet d)
  exact nodup_names ((World.still_quiet d).proper hd) hscan

end Matcher

end LogTail
