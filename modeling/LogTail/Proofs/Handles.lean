import LogTail.Proofs.Blurring
import LogTail.Proofs.Homes

/-!
# Handles do not run ahead of the disk

A handle holds a document in memory and writes the whole of it at every save and removal. Whatever fails on the
way, the document in memory is the one that opening the file yields (`StateFile.Handled.abreast`): a call that fails
changes neither, and one that succeeds changes the entry of its own key in both.

The two differ in one respect. A double that is written may be read as another one, so that they are the same up to
digits of doubles (`Document.Alike`).
-/

namespace LogTail

open Document (Alike)

/-- What is asked of a handle. -/
inductive Request where
  | save (key : String) (state : WatchState)
  | remove (key : String)

namespace Request

def key : Request → String
  | save key _ => key
  | remove key => key

/-- The entry that a key gets; none where it is removed, or where a path is no text. -/
def entry? : Request → Option Json
  | save _ state => Document.entryOf? state
  | remove _ => none

def put (r : Request) (entries : String → Option Json) : String → Option Json :=
  fun key => if key = r.key then r.entry? else entries key

def InRange : Request → Prop
  | save _ state => state.InRange
  | remove _ => True

end Request

namespace StateFile

def serve (f : StateFile) (r : Request) (w : World) : Except StateError Unit × StateFile × World :=
  match r with
  | .save key state => f.save key state w
  | .remove key => f.remove key w

/-- A handle on a file that nobody else writes, with the disk after its last call. Each call has its own world, in
which calls on the disk may fail. -/
inductive Handled (path : Path) : StateFile → Disk → Prop
  | opened {d : Disk} {f : StateFile} (h : (openAt path (.quiet d)).1 = .ok f) : Handled path f d
  | served {d : Disk} {f : StateFile} (h : Handled path f d) {w : World} (calm : Calm path w)
    (unwritten : w.disk.readAll path = d.readAll path) {r : Request} (range : r.InRange) :
    Handled path (f.serve r w).2.1 (f.serve r w).2.2.disk

/-- A document that has what a handle needs to keep it. -/
structure Sound (document : Document) : Prop where
  kept : document.Kept
  ordered : document.Ordered

/-- What a handle and its file have to do with each other. -/
structure Abreast (path : Path) (f : StateFile) (d : Disk) : Prop where
  on : f.path = some path
  sound : Sound f.document
  reads : (d.readAll path = .error .notFound ∧ f.document = .empty) ∨
    ∃ bytes document, d.readAll path = .ok bytes ∧ Document.ofBytes? bytes = some document ∧ f.document.Alike document

section handles
variable {path : Path} {f : StateFile} {d : Disk} {w : World} {r : Request}

theorem openAt_quiet (path : Path) (d : Disk) : (openAt path (.quiet d)).1 =
    match d.readAll path with
    | .error .notFound => .ok ⟨some path, .empty⟩
    | .error c => .error (.unreadable path c)
    | .ok bytes =>
      match Document.ofBytes? bytes with
      | some document => .ok ⟨some path, document⟩
      | none => .error (.notJson path) := by
  have hlook : (World.quiet d).look (fun d => d.readAll path) =
      (d.readAll path, { World.quiet d with calls := 1 }) := rfl
  rw [openAt, hlook]
  rcases d.readAll path with c | bytes
  · cases c <;> rfl
  · dsimp only
    cases Document.ofBytes? bytes <;> rfl

theorem abreast_of_openAt (h : (openAt path (.quiet d)).1 = .ok f) : Abreast path f d := by
  rw [openAt_quiet] at h
  rcases hread : d.readAll path with c | bytes <;> rw [hread] at h
  · have hcause : c = .notFound ∧ f = ⟨some path, .empty⟩ := by
      cases c <;> cases h
      exact ⟨rfl, rfl⟩
    obtain ⟨rfl, rfl⟩ := hcause
    exact ⟨rfl, ⟨Document.kept_empty, List.forall_mem_nil _⟩, .inl ⟨hread, rfl⟩⟩
  · dsimp only at h
    rcases hdocument : Document.ofBytes? bytes with _ | document <;> rw [hdocument] at h
    · cases h
    · cases h
      exact ⟨rfl, ⟨Document.kept_of_ofBytes? hdocument, Document.ordered_of_ofBytes? hdocument⟩,
        .inr ⟨bytes, document, hread, hdocument, .refl document⟩⟩

theorem Abreast.openAt (h : Abreast path f d) :
    ∃ g, (openAt path (.quiet d)).1 = .ok g ∧ f.document.Alike g.document := by
  rw [openAt_quiet]
  rcases h.reads with ⟨hread, hempty⟩ | ⟨bytes, document, hread, hdocument, halike⟩
  · rw [hread]
    exact ⟨_, rfl, hempty ▸ .refl _⟩
  · rw [hread]
    dsimp only
    rw [hdocument]
    exact ⟨_, rfl, halike⟩

theorem abreast_of_written {document : Document} (h : Sound document)
    (hread : d.readAll path = .ok document.toBytes) : Abreast path ⟨some path, document⟩ d := by
  obtain ⟨document', hreopen, halike⟩ := h.kept.reopen_alike h.ordered
  exact ⟨rfl, h, .inr ⟨_, document', hread, hreopen, halike⟩⟩

theorem setEntry_spec (hpath : f.path = some path) (hsorted : Json.Sorted f.document.watches) (hcalm : Calm path w)
    (key : String) (entry : Option Json) :
    (∃ e w', f.setEntry key entry w = (.error e, f, w') ∧ w'.disk.readAll path = w.disk.readAll path) ∨
    ∃ w', f.setEntry key entry w = (.ok (), ⟨some path, f.document.put key entry⟩, w') ∧
      w'.disk.readAll path = .ok (f.document.put key entry).toBytes := by
  obtain ⟨_, w', hreplace, ⟨rfl, hread⟩ | ⟨⟨e, rfl⟩, hread⟩⟩ := hcalm.replaceFile (f.document.put key entry).toBytes
  · exact .inr ⟨w', setEntry_of_ok hpath hreplace, hread⟩
  · exact .inl ⟨e, w', setEntry_of_error hsorted hpath hreplace, hread⟩

/-- **A saved state survives in a calm world**, whatever others do beside the file, and whichever calls fail: a save
that fails changes neither the handle nor what the file reads, and after one that succeeds whoever opens the file loads
the state. -/
theorem InUse.save_calm (hf : f.InUse) (hpath : f.path = some path) (hcalm : Calm path w) (key : String)
    {state : WatchState} (hstate : state.InRange) :
    (∃ e w', f.save key state w = (.error e, f, w') ∧ w'.disk.readAll path = w.disk.readAll path) ∨
    ∃ f' w', f.save key state w = (.ok (), f', w') ∧ (∀ file ∈ state.files, ∃ text, file.path = .ofText text) ∧
      ∃ g, (openAt path (.quiet w'.disk)).1 = .ok g ∧ g.load key = .ok (some state.withoutCopies) := by
  rcases hj : state.toJson? with _ | j
  · exact .inl ⟨.pathNotText, w, by rw [save, Document.entryOf?, hj, Option.bind_none], rfl⟩
  have htexts := WatchState.toJson?_isSome_iff.1 ⟨j, hj⟩
  obtain ⟨entry, document, hentry, hdocument, hload⟩ := hf.exists_written key hstate htexts
  rw [save, hentry]
  refine (setEntry_spec hpath hf.kept.sorted hcalm key (some entry)).imp_right ?_
  rintro ⟨w', hset, hread⟩
  refine ⟨_, w', hset, htexts, ⟨some path, document⟩, ?_, hload⟩
  rw [openAt_quiet, hread]
  dsimp only [Document.put]
  rw [hdocument]

theorem Sound.insert {document : Document} (h : Sound document) {state : WatchState} (hstate : state.InRange)
    {entry : Json} (hentry : Document.entryOf? state = some entry) (key : String) :
    Sound (document.insert key entry) := by
  obtain ⟨j, hj, hcanonical⟩ := Option.bind_eq_some_iff.1 hentry
  obtain ⟨entry', hentry', hholds, -⟩ := Document.entry_spec hstate hj
  obtain rfl := Option.some.inj (hentry.symm.trans hentry')
  exact ⟨h.kept.insert key hholds, h.ordered.insert key (Json.ordered_of_canonical? _ hcanonical)⟩

/-- What a call does: it fails and changes neither the handle nor what the file reads, or it puts the entry of its
key into both and leaves all others. -/
theorem serve_spec (hpath : f.path = some path) (hsound : Sound f.document) (hcalm : Calm path w) (hr : r.InRange) :
    (∃ e w', f.serve r w = (.error e, f, w') ∧ w'.disk.readAll path = w.disk.readAll path) ∨
    ∃ document w', f.serve r w = (.ok (), ⟨some path, document⟩, w') ∧ Sound document ∧
      w'.disk.readAll path = .ok document.toBytes ∧
      ∀ key, document.find? key = r.put f.document.find? key := by
  cases r with
  | save key state =>
    rw [serve, save]
    rcases hentry : Document.entryOf? state with _ | entry
    · exact .inl ⟨_, w, rfl, rfl⟩
    · refine (setEntry_spec hpath hsound.kept.sorted hcalm key (some entry)).imp_right ?_
      rintro ⟨w', hset, hread⟩
      refine ⟨_, w', hset, hsound.insert hr hentry key, hread, fun key' => ?_⟩
      simp only [Request.put, Request.key, Request.entry?, hentry]
      exact Document.find?_put f.document key (some entry) key'
  | remove key =>
    refine (setEntry_spec hpath hsound.kept.sorted hcalm key none).imp_right ?_
    rintro ⟨w', hset, hread⟩
    exact ⟨_, w', hset, ⟨hsound.kept.erase key, hsound.ordered.erase key⟩, hread,
      fun key' => Document.find?_put f.document key none key'⟩

theorem Abreast.serve (h : Abreast path f d) (hcalm : Calm path w) (hread : w.disk.readAll path = d.readAll path)
    (hr : r.InRange) : Abreast path (f.serve r w).2.1 (f.serve r w).2.2.disk := by
  rcases serve_spec h.on h.sound hcalm hr with ⟨e, w', hserve, hsame⟩ | ⟨document, w', hserve, hsound, hwritten, -⟩
  · rw [hserve]
    refine ⟨h.on, h.sound, ?_⟩
    rw [hsame, hread]
    exact h.reads
  · rw [hserve]
    exact abreast_of_written hsound hwritten

theorem Handled.abreast (h : Handled path f d) : Abreast path f d := by
  induction h with
  | opened h => exact abreast_of_openAt h
  | served _ calm unwritten range ih => exact ih.serve calm unwritten range

/-- **A handle does not run ahead of the disk.** After every call the document in memory is the one that opening
the file yields, up to digits of doubles. Of a further call: if it fails, the handle and what the file reads are as
before; if it succeeds, the file holds the document of the handle, and this has a new entry under the key of the call
and under all other keys the entries it had. -/
theorem Handled.not_ahead (h : Handled path f d) :
    (∃ g, (openAt path (.quiet d)).1 = .ok g ∧ f.document.Alike g.document) ∧
    ∀ (r : Request) (w : World), r.InRange → Calm path w → w.disk.readAll path = d.readAll path →
      ∃ result f' w', f.serve r w = (result, f', w') ∧
        ((∃ e, result = .error e) → f' = f ∧ w'.disk.readAll path = d.readAll path) ∧
        (result = .ok () → w'.disk.readAll path = .ok f'.document.toBytes ∧
          ∀ key, f'.document.find? key = r.put f.document.find? key) := by
  have habreast := h.abreast
  refine ⟨habreast.openAt, fun r w hr hcalm hread => ?_⟩
  rcases serve_spec habreast.on habreast.sound hcalm hr with
    ⟨e, w', hserve, hsame⟩ | ⟨document, w', hserve, -, hwritten, hfind⟩
  · exact ⟨_, _, _, hserve, fun _ => ⟨rfl, hsame.trans hread⟩, nofun⟩
  · exact ⟨_, _, _, hserve, nofun, fun _ => ⟨hwritten, hfind⟩⟩

end handles

/-! ## A file in the root directory -/

def stateName : Bytes := [0x73, 0x74, 0x61, 0x74, 0x65, 0x2e, 0x6a, 0x73, 0x6f, 0x6e]

def statePath : Path := Path.join ⟨[]⟩ stateName

def stateDisk (content : Bytes) : Disk where
  nodes := [(0, ⟨[], ⟨0, 0⟩, true⟩), (1, ⟨content, ⟨0, 0⟩, false⟩)]
  entries := [([stateName], .file 1)]
  nextNumber := 2
  here := []

theorem stateDisk_home (content : Bytes) : (stateDisk content).Home ⟨[]⟩ stateName [stateName] 0 where
  tree :=
    { parents := List.forall_mem_singleton.2 ⟨by decide, ⟨0, rfl⟩⟩
      numbers := List.forall_mem_singleton.2 fun number h => by
        rcases h with h | h <;> cases h
        exact Nat.lt_succ_self 1
      root := Nat.zero_lt_two
      here := ⟨0, rfl⟩ }
  proper := ⟨by decide, by decide, by decide, by decide⟩
  leads := ⟨some (.file 1), rfl, nofun⟩
  own := List.not_mem_nil
  unused n _ := by
    have hother : [stateName].dropLast ++ [Path.temporaryName stateName n] ∉ [[stateName]] :=
      Disk.temporaryName_not_mem (by decide)
    refine ⟨(Disk.entryAt_eq_none (by simp)).2 fun e he heq => hother ?_, hother⟩
    rw [← heq, List.mem_singleton.1 he]
    exact List.mem_cons_self
  made parent hparent := by
    cases hparent
    rfl

theorem stateDisk_calm (content : Bytes) : Calm statePath (.quiet (stateDisk content)) :=
  (stateDisk_home content).calm (w := .quiet (stateDisk content)) fun _ _ => rfl

theorem inRange_fresh (key : String) : Request.InRange (.save key {}) :=
  ⟨by decide, by decide, by decide, by decide, by decide, by decide, nofun, by decide⟩

theorem replaceFile_stateDisk (content bytes : Bytes) :
    ∃ w, replaceFile statePath bytes (.quiet (stateDisk content)) = (.ok (), w) ∧
      w.disk.readAll statePath = .ok bytes := by
  have hparent (w : World) : makeParent statePath w = (.ok (), w) := rfl
  have htemporary : statePath.withExtension s!"{(World.quiet (stateDisk content)).calls}.tmp" =
      temporary statePath 0 := rfl
  obtain ⟨w, hwrite, hread⟩ : ∃ w,
      writeBeside (temporary statePath 0) statePath bytes (.quiet (stateDisk content)) = (.ok (), w) ∧
        w.disk.readAll statePath = .ok bytes := ⟨_, rfl, rfl⟩
  unfold replaceFile
  rw [hparent]
  dsimp only
  rw [htemporary, hwrite]
  exact ⟨w, rfl, hread⟩

theorem serve_fresh (document : Document) (content : Bytes) (key : String) :
    ∃ entry w, Document.entryOf? {} = some entry ∧
      serve ⟨some statePath, document⟩ (.save key {}) (.quiet (stateDisk content)) =
        (.ok (), ⟨some statePath, document.insert key entry⟩, w) ∧
      w.disk.readAll statePath = .ok (document.insert key entry).toBytes := by
  obtain ⟨j, hj⟩ := (WatchState.toJson?_isSome_iff (s := {})).2 nofun
  obtain ⟨entry, hentry, -⟩ := Document.entry_spec (inRange_fresh key) hj
  obtain ⟨w, hreplace, hread⟩ := replaceFile_stateDisk content (document.insert key entry).toBytes
  refine ⟨entry, w, hentry, ?_, hread⟩
  rw [serve, save, hentry]
  exact setEntry_of_ok rfl hreplace

/-- The file of a newer version of the program. -/
def newerFile : Bytes := Text.Utf8.encode "\x7b\"watches\":\x7b\"other\":\x7b\"version\":2\x7d\x7d\x7d"

/-- A world in which a temporary file cannot be moved. -/
def immovable : World := ⟨stateDisk newerFile, 0, fun _ d => d, fun n => if n = 3 then some .inputOutput else none⟩

/-- A removal fails when the temporary file is moved, and then a state is saved: the entry of another version is
kept. -/
theorem not_ahead_newerFile :
    ∃ document failed f saved, Document.ofBytes? newerFile = some document ∧ document.keys = ["other"] ∧
      serve ⟨some statePath, document⟩ (.remove "other") immovable =
        (.error (.unwritable statePath .inputOutput), ⟨some statePath, document⟩, failed) ∧
      (∃ g, (openAt statePath (.quiet failed.disk)).1 = .ok g ∧ document.Alike g.document) ∧
      serve ⟨some statePath, document⟩ (.save "mine" {}) (.quiet (stateDisk newerFile)) = (.ok (), f, saved) ∧
      saved.disk.readAll statePath = .ok f.document.toBytes ∧
      f.document.find? "other" = document.find? "other" := by
  obtain ⟨document, hdocument, hkeys⟩ : ∃ document, Document.ofBytes? newerFile = some document ∧
      document.keys = ["other"] := by
    have hkeys : (Document.ofBytes? newerFile).map Document.keys = some ["other"] := by decide +kernel
    exact Option.map_eq_some_iff.1 hkeys
  have hopened : Handled statePath ⟨some statePath, document⟩ (stateDisk newerFile) := by
    refine .opened ?_
    rw [openAt_quiet, show (stateDisk newerFile).readAll statePath = .ok newerFile from rfl]
    dsimp only
    rw [hdocument]
  have hcalm : Calm statePath immovable := (stateDisk_home newerFile).calm (w := immovable) fun _ _ => rfl
  obtain ⟨failed, hreplace, hread⟩ : ∃ w, replaceFile statePath (document.erase "other").toBytes immovable =
      (.error (.unwritable statePath .inputOutput), w) ∧
        w.disk.readAll statePath = (stateDisk newerFile).readAll statePath := ⟨_, rfl, rfl⟩
  have hfailed : serve ⟨some statePath, document⟩ (.remove "other") immovable =
      (.error (.unwritable statePath .inputOutput), ⟨some statePath, document⟩, failed) := by
    rw [serve, remove]
    exact setEntry_of_error (Document.kept_of_ofBytes? hdocument).sorted rfl hreplace
  have hserved := hopened.served hcalm rfl (r := .remove "other") trivial
  rw [hfailed] at hserved
  obtain ⟨hopen, hnext⟩ := hserved.not_ahead
  obtain ⟨_, f, saved, hsave, -, hok⟩ :=
    hnext (.save "mine" {}) _ (inRange_fresh "mine") (stateDisk_calm newerFile) hread.symm
  obtain ⟨entry, w, -, hserve, -⟩ := serve_fresh document newerFile "mine"
  rw [hserve] at hsave
  cases hsave
  obtain ⟨hwritten, hfind⟩ := hok rfl
  refine ⟨document, failed, _, _, hdocument, hkeys, hfailed, hopen, hserve, hwritten, ?_⟩
  rw [hfind, Request.put, if_neg (by decide)]

/-- The file of another program, with a double. -/
def doubleFile : Bytes := Text.Utf8.encode "\x7b\"watches\":\x7b\"other\":10e-25\x7d\x7d"

/-- A path that leads through a directory which only a save makes. -/
def loopPath : Path := .ofText "x/../x"

/-- Digits of doubles differ: after a removal that succeeds, the file is opened with another document than the handle
holds. And a save that fails can change what opening the file yields, where making the directories above the path
makes a directory of the path itself. -/
theorem ahead_double_and_loop :
    (∃ document f saved g, (openAt statePath (.quiet (stateDisk doubleFile))).1 = .ok ⟨some statePath, document⟩ ∧
      serve ⟨some statePath, document⟩ (.remove "mine") (.quiet (stateDisk doubleFile)) = (.ok (), f, saved) ∧
      (openAt statePath (.quiet saved.disk)).1 = .ok g ∧ g.document ≠ f.document) ∧
    ∃ e failed, (openAt loopPath (.quiet (.fresh "w"))).1 = .ok ⟨some loopPath, .empty⟩ ∧
      serve ⟨some loopPath, .empty⟩ (.remove "mine") (.quiet (.fresh "w")) =
        (.error e, ⟨some loopPath, .empty⟩, failed) ∧
      ∀ g, (openAt loopPath (.quiet failed.disk)).1 ≠ .ok g := by
  refine ⟨?_, ?_⟩
  · have hdocuments : ((Document.ofBytes? doubleFile).bind fun document =>
        (Document.ofBytes? (document.erase "mine").toBytes).map fun g =>
          decide (g.toBytes ≠ (document.erase "mine").toBytes)) = some true := by decide +kernel
    obtain ⟨document, hdocument, hreopened⟩ := Option.bind_eq_some_iff.1 hdocuments
    obtain ⟨reopened, hreopened, hne⟩ := Option.map_eq_some_iff.1 hreopened
    obtain ⟨saved, hreplace, hread⟩ := replaceFile_stateDisk doubleFile (document.erase "mine").toBytes
    have hserve : serve ⟨some statePath, document⟩ (.remove "mine") (.quiet (stateDisk doubleFile)) =
        (.ok (), ⟨some statePath, document.erase "mine"⟩, saved) := by
      rw [serve, remove]
      exact setEntry_of_ok rfl hreplace
    refine ⟨document, _, saved, ⟨some statePath, reopened⟩, ?_, hserve, ?_, fun heq => ?_⟩
    · rw [openAt_quiet, show (stateDisk doubleFile).readAll statePath = .ok doubleFile from rfl]
      dsimp only
      rw [hdocument]
    · rw [openAt_quiet, hread]
      dsimp only
      rw [hreopened]
    · exact of_decide_eq_true hne (congrArg Document.toBytes heq)
  · obtain ⟨e, failed, hreplace, hread⟩ : ∃ e w, replaceFile loopPath (Document.empty.erase "mine").toBytes
        (.quiet (.fresh "w")) = (.error e, w) ∧ w.disk.readAll loopPath = .error .isDirectory := ⟨_, _, rfl, rfl⟩
    have hserve : serve ⟨some loopPath, .empty⟩ (.remove "mine") (.quiet (.fresh "w")) =
        (.error e, ⟨some loopPath, .empty⟩, failed) := by
      rw [serve, remove]
      exact setEntry_of_error Document.kept_empty.sorted rfl hreplace
    refine ⟨e, failed, rfl, hserve, fun g hopen => ?_⟩
    rw [openAt_quiet, hread] at hopen
    cases hopen

end StateFile

end LogTail
