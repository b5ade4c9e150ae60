import LogTail.Agent
import LogTail.Proofs.Handles
import LogTail.Proofs.Saving
import LogTail.Proofs.Tracking

/-!
# A second run

An agent that is run twice, with nothing but its state file changed in between, delivers nothing the second time if
the first run saved its positions (`Agent.run_rests`). It saves them unless a file that it finds has a path that is no
text: then no position of any file is saved, and the second run delivers what the first one did
(`Agent.run_repeats`).

* `Agent.Steady` is what the cycles and saves of a run keep: the watch follows what it finds, and only the place
  where it saves has changed on the disk.
* `Agent.Begins.tick_ends`: the bound on the cycles of a run is never what ends it.
-/

namespace LogTail

open LogTail.Path (temporaryName)

/-! ## Documents of one watch -/

namespace Document

/-- What is true of a document while one watch saves: its own entry may be out of range. -/
structure KeptBut (key : String) (document : Document) : Prop where
  sorted : Json.Sorted document.watches
  holds : ∀ e ∈ document.watches, e.1 = key ∨ Holds e.2

variable {document : Document} {key : String}

theorem Kept.but (h : document.Kept) (key : String) : document.KeptBut key :=
  ⟨h.sorted, fun e he => .inr (h.holds e he)⟩

theorem KeptBut.insert (h : document.KeptBut key) (j : Json) : (document.insert key j).KeptBut key where
  sorted := h.sorted.insertSorted key j
  holds e he := by
    rcases Json.mem_insertSorted he with rfl | he
    · exact .inl rfl
    · exact h.holds e he

theorem KeptBut.kept (h : document.KeptBut key) {j : Json} (hj : Holds j) : (document.insert key j).Kept where
  sorted := h.sorted.insertSorted key j
  holds e he := by
    rcases (h.insert j).holds e he with hkey | hholds
    · have hown := mem_of_find? (find?_insert document key j)
      have hsame : e = (key, j) :=
        List.inj_on_of_nodup_map (h.sorted.insertSorted key j).nodup he hown hkey
      exact hsame ▸ hj
    · exact hholds

end Document

theorem WatchState.withoutCopies_eq {state : WatchState} (h : ∀ f ∈ state.files, f.copyOf = none) :
    state.withoutCopies = state := by
  have hfile : ∀ f ∈ state.files, f.withoutCopy = id f := fun f hf => by
    rw [LogFile.withoutCopy, ← h f hf]
    rfl
  rw [withoutCopies, List.map_congr_left hfile, List.map_id]

theorem StateFile.openAt_steady (path : Path) (d : Disk) : ∃ answer, World.Steady d (StateFile.openAt path) answer := by
  rcases hread : d.readAll path with c | bytes
  · refine ⟨if c = .notFound then .ok ⟨some path, .empty⟩ else .error (.unreadable path c), fun w hw => ?_⟩
    obtain ⟨w', hw', hlook⟩ := hw.look fun d => d.readAll path
    refine ⟨w', hw', ?_⟩
    rw [StateFile.openAt, hlook, hread]
    cases c <;> rfl
  · refine ⟨((Document.ofBytes? bytes).map fun document => .ok ⟨some path, document⟩).getD (.error (.notJson path)),
      fun w hw => ?_⟩
    obtain ⟨w', hw', hlook⟩ := hw.look fun d => d.readAll path
    refine ⟨w', hw', ?_⟩
    rw [StateFile.openAt, hlook, hread]
    dsimp only
    cases Document.ofBytes? bytes <;> rfl

namespace Agent

open Disk (Place)
open StateFile (Lodged Lodging)

/-! ## Setting up -/

section setup
variable {config : WatchConfig} {watch : Watcher} {d : Disk} {w : World} {path : Path}

theorem setUp_unsaved (hvalid : Watcher.ofConfig config = .ok watch) (hw : w.Still d)
    (hnone : ∃ store, (StateFile.openAt path w).1 = .ok store ∧ store.load config.destination.key = .ok none) :
    ∃ document : Document, document.Kept ∧ ∀ w : World, w.Still d → ∃ w', w'.Still d ∧ setUp config path w =
      (.ok ⟨watch, ⟨some path, document⟩, .fresh config.skipOldData, w', []⟩, w') := by
  obtain ⟨answer, hsteady⟩ := StateFile.openAt_steady path d
  obtain ⟨w₁, -, hopened⟩ := hsteady w hw
  obtain ⟨store, hopen, hload⟩ := hnone
  obtain rfl : answer = .ok store := by rw [← hopen, hopened]
  obtain ⟨document, hkept, rfl⟩ : ∃ document : Document, document.Kept ∧ store = ⟨some path, document⟩ := by
    rcases StateFile.openAt_eq_ok hopened with rfl | ⟨bytes, document, hdocument, rfl⟩
    · exact ⟨_, Document.kept_empty, rfl⟩
    · exact ⟨document, Document.kept_of_ofBytes? hdocument, rfl⟩
  refine ⟨document, hkept, fun w hw => ?_⟩
  obtain ⟨w', hw', hopen⟩ := hsteady w hw
  refine ⟨w', hw', ?_⟩
  rw [setUp, hvalid]
  dsimp only
  rw [hopen]
  dsimp only
  rw [hload]
  rfl

theorem setUp_saved (hvalid : Watcher.ofConfig config = .ok watch) (hw : w.Still d) {document : Document}
    (hkept : document.Kept) (hread : d.readAll path = .ok document.toBytes) {state : WatchState}
    (hload : document.load config.destination.key = .ok (some state)) :
    ∃ store w', setUp config path w = (.ok ⟨watch, store, state, w', []⟩, w') ∧ w'.Still d := by
  obtain ⟨document', hbytes, -, hfind⟩ := hkept.reopen
  obtain ⟨w', hw', hlook⟩ := hw.look fun d => d.readAll path
  have hopen : StateFile.openAt path w = (.ok ⟨some path, document'⟩, w') := by
    rw [StateFile.openAt, hlook, hread]
    dsimp only
    rw [hbytes]
  refine ⟨⟨some path, document'⟩, w', ?_, hw'⟩
  rw [setUp, hvalid]
  dsimp only
  rw [hopen]
  dsimp only
  rw [StateFile.load, Document.load_rewrites (hfind _) hload]
  rfl

end setup

/-! ## Runs that save -/

/-- What the cycles and saves of an agent keep, on a disk that changes by these saves alone. -/
structure Steady (watch : Watcher) (d d₁ : Disk) (dir : Path) (name : Bytes) (place : Place) (a : Agent) : Prop where
  same : a.watch = watch
  path : a.store.path = some (dir.join name)
  document : a.store.document.KeptBut watch.config.destination.key
  world : ∃ d', a.world.Still d' ∧ Lodged d d₁ dir name place 0 d'
  follows : ∀ candidates, watch.matcher.found d = .ok candidates → watch.Following candidates a.state
  idle : ∀ e, watch.matcher.found d = .error e → a.state.files = []

/-- On a disk the positions of a watch are saved. -/
def Saved (path : Path) (key : String) (state : WatchState) (d : Disk) : Prop :=
  ∃ document : Document, document.Kept ∧ d.readAll path = .ok document.toBytes ∧
    document.load key = .ok (some state)

section steady
variable {config : WatchConfig} {watch : Watcher} {d d₁ : Disk} {dir : Path} {name : Bytes} {place : Place} {a : Agent}

theorem save_of_replaceFile {path : Path} {entry : Json} (hsorted : Json.Sorted a.store.document.watches)
    (hpath : a.store.path = some path)
    (hentry : Document.entryOf? a.state = some entry) {result : Except StateError Unit} {w : World}
    (hreplace : StateFile.replaceFile path (a.store.document.insert a.key entry).toBytes a.world = (result, w)) :
    a.save = (result, { a with
      store := if result.isOk then ⟨some path, a.store.document.insert a.key entry⟩ else a.store
      world := w }) := by
  rw [save, StateFile.save, hentry]
  dsimp only
  cases result with
  | error e =>
    have hset : a.store.setEntry a.key (some entry) a.world = (.error e, a.store, w) :=
      StateFile.setEntry_of_error hsorted hpath hreplace
    rw [hset]
    rfl
  | ok =>
    have hset : a.store.setEntry a.key (some entry) a.world =
        (.ok (), ⟨some path, a.store.document.put a.key (some entry)⟩, w) := StateFile.setEntry_of_ok hpath hreplace
    rw [hset]
    rfl

/-- A save keeps what cycles need. It succeeds if the positions can be written, and the name of the temporary file is
short enough. -/
theorem Steady.save (hlodging : Lodging watch.matcher d d₁ dir name place 0) (h : a.Steady watch d d₁ dir name place) :
    ∃ result b, a.save = (result, b) ∧ b.Steady watch d d₁ dir name place ∧ b.state = a.state ∧
      b.delivered = a.delivered ∧
      (a.state.InRange → (∀ f ∈ a.state.files, ∃ text, f.path = .ofText text) →
        (∀ n ≤ b.world.calls, (temporaryName name n).length ≤ 255) → result = .ok () ∧
          ∃ d', b.world.Still d' ∧ Lodged d d₁ dir name place 0 d' ∧
            Saved (dir.join name) watch.config.destination.key a.state.withoutCopies d') := by
  obtain ⟨d', hw, hd'⟩ := h.world
  have hkey : a.key = watch.config.destination.key := by rw [key, h.same]
  -- positions that are in range and name texts are written as what is read as they are
  have hwritten (hstate : a.state.InRange) (htexts : ∀ f ∈ a.state.files, ∃ text, f.path = .ofText text) :
      ∃ entry, Document.entryOf? a.state = some entry ∧ Document.Holds entry ∧
        ∀ key, Document.stateOf key entry = .ok a.state.withoutCopies := by
    obtain ⟨j, hj⟩ := WatchState.toJson?_isSome_iff.2 htexts
    exact Document.entry_spec hstate hj
  rcases hentry : Document.entryOf? a.state with _ | entry
  · refine ⟨.error .pathNotText, a, ?_, h, rfl, rfl, fun hstate htexts => ?_⟩
    · rw [Agent.save, StateFile.save, hentry]
    · obtain ⟨entry, hentry', -⟩ := hwritten hstate htexts
      rw [hentry] at hentry'
      cases hentry'
  obtain ⟨result, d₂, w', hreplace, hw', hlodged, -, hread, hfailed⟩ :=
    hlodging.replaceFile hw hd' (Nat.zero_le _) (a.store.document.insert a.key entry).toBytes
  have hsave := save_of_replaceFile h.document.sorted h.path hentry hreplace
  refine ⟨result, _, hsave, ⟨h.same, ?_, ?_, ⟨d₂, hw', hlodged⟩, h.follows, h.idle⟩, rfl, rfl,
    fun hstate htexts hshort => ?_⟩
  · cases result with
    | error => exact h.path
    | ok => rfl
  · cases result with
    | error => exact h.document
    | ok => exact hkey ▸ h.document.insert entry
  · have hok : result = .ok () := by
      by_contra hno
      obtain ⟨n, hn, hlong⟩ := hfailed hno
      exact absurd (hshort n hn) (Nat.not_le_of_lt hlong)
    obtain ⟨entry', hentry', hholds, hstateOf⟩ := hwritten hstate htexts
    obtain rfl := Option.some.inj (hentry.symm.trans hentry')
    refine ⟨hok, d₂, hw', hlodged, _, hkey ▸ h.document.kept hholds, hread hok, ?_⟩
    rw [Document.load, hkey, Document.find?_insert]
    dsimp only
    rw [hstateOf]
    rfl

/-- A cycle keeps it too. If it leaves work there is less to do than before, and if it leaves none, with a receiver
that accepts all, there is nothing to do. -/
theorem Steady.cycle (hconfig : Watcher.ofConfig config = .ok watch) (hdelay : config.maxDelay = none)
    (hd : d.Proper) (hlodging : Lodging watch.matcher d d₁ dir name place 0)
    (h : a.Steady watch d d₁ dir name place) (sink : Sink) (time : CycleTime) :
    ∃ b pending, a.cycle sink time = (b, pending) ∧ b.Steady watch d d₁ dir name place ∧
      (pending = true → ∃ candidates, watch.matcher.found d = .ok candidates ∧
        watch.toDo b.state candidates < watch.toDo a.state candidates) ∧
      (pending = false → ∀ candidates, watch.matcher.found d = .ok candidates →
        (∀ c ∈ candidates, sink.Accepts c.path) → b.state.Quiescent candidates) := by
  obtain rfl := h.same
  obtain ⟨d', hw, hd'⟩ := h.world
  have hsame := hd'.found_eq hlodging
  rcases hfound : a.watch.matcher.found d with e | candidates
  · obtain ⟨answer, hscan, hanswer⟩ := a.watch.matcher.scan_still d'
    rw [hsame, hfound] at hanswer
    rcases answer with e | scan
    · obtain ⟨w', hw', heq⟩ := hscan _ hw
      refine ⟨{ a with world := w' }, false, ?_, ⟨h.same, h.path, h.document, ⟨d', hw', hd'⟩, h.follows, h.idle⟩,
        fun hno => ?_, fun _ _ hno => ?_⟩
      · rw [Agent.cycle, Watcher.process, heq]
      · cases hno
      · cases hno
    · cases hanswer
  have hfound' := hsame.trans hfound
  obtain ⟨result, hprocess, hw', hfollowing, -, hless, hrest⟩ :=
    (h.follows candidates hfound).cycle hconfig (hd'.isProper hd) sink time hw hfound'
  have hbefore : Steady a.watch d d₁ dir name place { a with
      state := result.state, world := result.world,
      delivered := a.delivered ++ (result.offers.filter (·.accepted)).map (·.delivery) } :=
    ⟨h.same, h.path, h.document, ⟨d', hw', hd'⟩, fun candidates' h' => by
      obtain rfl : candidates = candidates' := Except.ok.inj (hfound.symm.trans h')
      exact hfollowing, fun e h' => (by rw [hfound] at h'; cases h')⟩
  obtain ⟨saved, b, hsave, hsteady, hstate, -⟩ := hbefore.save hlodging
  refine ⟨b, result.report.pending, ?_, hsteady, fun hpending => ⟨candidates, rfl, ?_⟩, ?_⟩
  · rw [Agent.cycle, hprocess]
    dsimp only
    rw [hsave]
  · rw [hstate]
    exact hless hdelay hpending
  · intro hpending candidates' h' haccepts
    obtain rfl : candidates = candidates' := Except.ok.inj h'
    rw [hstate]
    exact (hrest haccepts hpending).1

/-- **Cycles enough leave nothing to do.** -/
theorem Steady.tickFrom (hconfig : Watcher.ofConfig config = .ok watch) (hdelay : config.maxDelay = none)
    (hd : d.Proper) (hlodging : Lodging watch.matcher d d₁ dir name place 0) {sink : Sink} {time : TickTime}
    (haccepts : ∀ candidates, watch.matcher.found d = .ok candidates → ∀ c ∈ candidates, sink.Accepts c.path)
    (fuel : Nat) (h : a.Steady watch d d₁ dir name place)
    (hfuel : ∀ candidates, watch.matcher.found d = .ok candidates → watch.toDo a.state candidates < fuel) :
    (a.tickFrom sink time fuel).Steady watch d d₁ dir name place ∧
      ∀ candidates, watch.matcher.found d = .ok candidates →
        (a.tickFrom sink time fuel).state.Quiescent candidates := by
  induction fuel generalizing time a with
  | zero => exact ⟨h, fun candidates hfound => absurd (hfuel candidates hfound) (Nat.not_lt_zero _)⟩
  | succ fuel ih =>
    obtain ⟨b, pending, hcycle, hsteady, hless, hrest⟩ := h.cycle hconfig hdelay hd hlodging sink (time.cycle 0)
    rw [Agent.tickFrom, hcycle]
    dsimp only
    cases pending with
    | false =>
      rw [if_neg Bool.false_ne_true]
      exact ⟨hsteady, fun candidates hfound => hrest rfl candidates hfound (haccepts candidates hfound)⟩
    | true =>
      rw [if_pos rfl]
      refine ih hsteady fun candidates hfound => ?_
      obtain ⟨candidates', hfound', hless'⟩ := hless rfl
      obtain rfl : candidates = candidates' := Except.ok.inj (hfound.symm.trans hfound')
      have hmany := hfuel candidates hfound
      omega

theorem Steady.tracked (h : a.Steady watch d d₁ dir name place) : ∀ f ∈ a.state.files, f.copyOf = none ∧
    ∃ candidates, watch.matcher.found d = .ok candidates ∧ ∃ c ∈ candidates, f.path = c.path := by
  intro f hf
  rcases hfound : watch.matcher.found d with e | candidates
  · rw [h.idle e hfound] at hf
    cases hf
  rcases (h.follows candidates hfound).tracked with hnone | hmirrors
  · rw [hnone] at hf
    cases hf
  · obtain ⟨i, hi⟩ := List.getElem?_of_mem hf
    obtain ⟨c, hc, hdescribes⟩ := hmirrors.exists_candidate hf
    exact ⟨(hmirrors.numbered i f hi).2, candidates, rfl, c, hc, hdescribes.path⟩

theorem Steady.alike (hlodging : Lodging watch.matcher d d₁ dir name place 0) (h : a.Steady watch d d₁ dir name place)
    {d' : Disk} (hd' : Lodged d d₁ dir name place 0 d') : watch.Alike a.state d d' := by
  have hsame := hd'.found_eq hlodging
  refine ⟨hsame, fun f hf => ?_⟩
  obtain ⟨-, candidates, hfound, c, hc, hpath⟩ := h.tracked f hf
  rw [hpath, Watcher.sizeAt_of_found hfound hc,
    Watcher.sizeAt_of_found (hsame.trans hfound) hc]

/-- What the cycles of such an agent meet are disks between which the watch sees no difference. -/
theorem Steady.occasions (hconfig : Watcher.ofConfig config = .ok watch) (hdelay : config.maxDelay = none)
    (hd : d.Proper) (hlodging : Lodging watch.matcher d d₁ dir name place 0) (sink : Sink) (time : TickTime) (n : Nat)
    (h : a.Steady watch d d₁ dir name place) :
    ∀ o ∈ a.occasions sink time n, ∃ d', Lodged d d₁ dir name place 0 d' ∧ o.world.Still d' := by
  induction n generalizing time a with
  | zero => exact List.forall_mem_nil _
  | succ n ih =>
    obtain ⟨b, pending, hcycle, hsteady, -⟩ := h.cycle hconfig hdelay hd hlodging sink (time.cycle 0)
    rw [Agent.occasions, hcycle, List.forall_mem_cons]
    obtain ⟨d', hw, hd'⟩ := h.world
    exact ⟨⟨d', hd', hw⟩, ih time.next hsteady⟩

end steady

/-! ## Runs with nothing to do -/

section rests
variable {config : WatchConfig} {watch : Watcher} {d : Disk} {a : Agent} {w : World} {path : Path}

theorem tickFrom_rests (hw : a.world.Still d)
    (h : ∀ candidates, a.watch.matcher.found d = .ok candidates → a.state.Quiescent candidates) (sink : Sink)
    (time : TickTime) (fuel : Nat) : (a.tickFrom sink time fuel).delivered = a.delivered := by
  cases fuel with
  | zero => rfl
  | succ fuel =>
    obtain ⟨answer, hscan, hanswer⟩ := a.watch.matcher.scan_still d
    obtain ⟨w', -, heq⟩ := hscan _ hw
    rcases answer with e | scan
    · rw [Agent.tickFrom, Agent.cycle, Watcher.process, heq]
      rfl
    · rw [Agent.tickFrom, Agent.cycle, Watcher.process_quiescent sink (time.cycle 0) heq (h _ hanswer.symm)]
      exact List.append_nil _

theorem delivered_of_saved (hvalid : Watcher.ofConfig config = .ok watch) (hw : w.Still d) {state : WatchState}
    (hsaved : Saved path config.destination.key state d)
    (hrests : ∀ candidates, watch.matcher.found d = .ok candidates → state.Quiescent candidates) (sink : Sink)
    (time : TickTime) : (run config path sink time w).delivered = [] := by
  obtain ⟨document, hkept, hread, hload⟩ := hsaved
  obtain ⟨store, w', hsetUp, hw'⟩ := setUp_saved hvalid hw hkept hread hload
  rw [run, hsetUp]
  exact tickFrom_rests (a := ⟨watch, store, state, w', []⟩) hw' hrests sink time _

end rests

/-! ## Two runs -/

/-- What the first of two runs begins with: a valid configuration without a limit of time, a disk that stays as it
is, a place to save, and no positions. -/
structure Begins (config : WatchConfig) (watch : Watcher) (d d₁ : Disk) (dir : Path) (name : Bytes) (place : Place)
    (w : World) : Prop where
  valid : Watcher.ofConfig config = .ok watch
  unhurried : config.maxDelay = none
  proper : d.Proper
  still : w.Still d
  lodging : Lodging watch.matcher d d₁ dir name place 0
  unsaved : ∃ store, (StateFile.openAt (dir.join name) w).1 = .ok store ∧
    store.load config.destination.key = .ok none

section runs
variable {config : WatchConfig} {watch : Watcher} {d d₁ : Disk} {dir : Path} {name : Bytes} {place : Place} {w : World}
  {sink : Sink} {time : TickTime}

theorem Begins.exists_setUp (h : Begins config watch d d₁ dir name place w) :
    ∃ a w', setUp config (dir.join name) w = (.ok a, w') ∧ a.Steady watch d d₁ dir name place ∧
      a.state = .fresh config.skipOldData ∧ a.world.Still d := by
  obtain ⟨document, hkept, hsetUp⟩ := setUp_unsaved h.valid h.still h.unsaved
  obtain ⟨w', hw', hbegin⟩ := hsetUp w h.still
  exact ⟨_, w', hbegin, ⟨rfl, rfl, hkept.but _, ⟨d, hw', .unsaved⟩,
    fun candidates _ => Watcher.following_fresh watch candidates _, fun _ _ => rfl⟩, rfl, hw'⟩

/-- **The tick of a run ends by itself**, whatever the receiver accepts and refuses: with more cycles than it is given
it comes to the same. -/
theorem Begins.tick_ends (h : Begins config watch d d₁ dir name place w) {a : Agent} {w' : World}
    (hagent : setUp config (dir.join name) w = (.ok a, w')) (sink : Sink) (time : TickTime) (more : Nat) :
    a.tickFrom sink time (a.cycleBound + more) = a.tick sink time := by
  obtain ⟨a', w₁, hbegin, hsteady, hfresh, hw⟩ := h.exists_setUp
  obtain rfl : a' = a := Except.ok.inj (congrArg Prod.fst (hbegin.symm.trans hagent))
  refine Agent.tick_ends (hsteady.same ▸ h.valid) h.unhurried (hfresh ▸ .fresh _) hw sink time (fun o ho => ?_) more
  obtain ⟨d', hd', hwo⟩ := hsteady.occasions h.valid h.unhurried h.proper h.lodging sink time _ o ho
  exact ⟨d', hd'.isProper h.proper, hsteady.same ▸ hsteady.alike h.lodging hd', hwo⟩

/-- **A run that saves its positions is the last one to deliver anything.** If all files that are found have texts for
paths, and are accepted, the run succeeds, and the next one delivers nothing. -/
theorem Begins.run_rests (h : Begins config watch d d₁ dir name place w)
    (htexts : ∀ candidates, watch.matcher.found d = .ok candidates → ∀ c ∈ candidates, ∃ text, c.path = .ofText text)
    (haccepts : ∀ candidates, watch.matcher.found d = .ok candidates → ∀ c ∈ candidates, sink.Accepts c.path)
    (hwords : ∀ a w', setUp config (dir.join name) w = (.ok a, w') → (a.tick sink time).state.InRange)
    (hshort : ∀ n ≤ (run config (dir.join name) sink time w).world.calls, (temporaryName name n).length ≤ 255) :
    (run config (dir.join name) sink time w).result = .ok () ∧
      ∀ (sink' : Sink) (time' : TickTime) (w' : World),
        w'.Still (run config (dir.join name) sink time w).world.disk →
        (run config (dir.join name) sink' time' w').delivered = [] := by
  obtain ⟨hwatch, -⟩ := Watcher.ofConfig_ok h.valid
  obtain ⟨a, w₁, hbegin, hstart, -, hw⟩ := h.exists_setUp
  have hstate := hwords _ _ hbegin
  obtain ⟨hsteady, hrests⟩ := hstart.tickFrom h.valid h.unhurried h.proper h.lodging haccepts a.cycleBound
    fun candidates hfound => cycleBound_eq hw ▸ (hstart.follows candidates hfound).toDo_lt hfound
  obtain ⟨result, b, hsave, -, -, -, hsaves⟩ := hsteady.save h.lodging
  have hrun : run config (dir.join name) sink time w = ⟨b.delivered, result.mapError .state, b.world⟩ := by
    rw [run, hbegin]
    dsimp only
    rw [tick, hsave]
  rw [hrun] at hshort ⊢
  obtain ⟨rfl, d', hw', hlodged, hsaved⟩ := hsaves hstate (fun f hf => by
    obtain ⟨-, candidates, hfound, c, hc, hpath⟩ := hsteady.tracked f hf
    exact hpath ▸ htexts candidates hfound c hc) hshort
  refine ⟨rfl, fun sink' time' w₂ hw₂ => ?_⟩
  have hsame := hlodged.found_eq h.lodging
  have hrestored : (a.tickFrom sink time a.cycleBound).state.withoutCopies =
      (a.tickFrom sink time a.cycleBound).state :=
    WatchState.withoutCopies_eq fun f hf => (hsteady.tracked f hf).1
  rw [hw'.disk] at hw₂
  rw [hrestored, hwatch] at hsaved
  exact delivered_of_saved h.valid hw₂ hsaved (fun candidates hfound => hrests candidates (hsame ▸ hfound)) sink' time'

theorem save_of_none {a : Agent} (h : Document.entryOf? a.state = none) : a.save = (.error .pathNotText, a) := by
  rw [save, StateFile.save, h]

/-- A cycle that finds a file whose path is no text comes to the same whenever it is made, and leaves positions that
cannot be written. -/
theorem exists_cycle {a : Agent} (hvalid : Watcher.ofConfig config = .ok a.watch) (hd : d.Proper)
    {candidates : List Candidate} (hfound : a.watch.matcher.found d = .ok candidates)
    (hnotext : ∃ c ∈ candidates, ∀ text, c.path ≠ .ofText text) (hfollows : a.watch.Following candidates a.state)
    (sink : Sink) (time : CycleTime) :
    ∃ (b : Agent) (pending : Bool), b.watch = a.watch ∧ a.watch.Following candidates b.state ∧
      Document.entryOf? b.state = none ∧
      ∀ w : World, w.Still d → ∃ w', w'.Still d ∧
        Agent.cycle sink time { a with world := w } = ({ b with world := w' }, pending) := by
  obtain ⟨result, hprocess, -, hfollowing, hmirrors, -⟩ :=
    hfollows.cycle hvalid hd sink time (World.still_quiet d) hfound
  have hunwritten : Document.entryOf? result.state = none := by
    obtain ⟨c, hc, hpath⟩ := hnotext
    obtain ⟨f, hf, hdescribes⟩ := hmirrors.exists_file hc
    rcases hj : result.state.toJson? with _ | j
    · rw [Document.entryOf?, hj, Option.bind_none]
    · obtain ⟨text, htext⟩ := WatchState.toJson?_isSome_iff.1 ⟨j, hj⟩ f hf
      exact absurd (hdescribes.path.symm.trans htext) (hpath text)
  rcases a.watch.exists_process sink time a.state d with ⟨e, hfails⟩ | ⟨result', hsteady⟩
  · obtain ⟨w', -, hno⟩ := hfails _ (World.still_quiet d)
    rw [hprocess] at hno
    cases hno
  obtain ⟨w₀, -, hsame⟩ := hsteady _ (World.still_quiet d)
  obtain rfl : result = { result' with world := w₀ } := Except.ok.inj (hprocess.symm.trans hsame)
  refine ⟨{ a with
    state := result'.state
    delivered := a.delivered ++ (result'.offers.filter (·.accepted)).map (·.delivery) }, result'.report.pending, rfl,
    hfollowing, hunwritten, fun w hw => ?_⟩
  obtain ⟨w', hw', heq⟩ := hsteady w hw
  refine ⟨w', hw', ?_⟩
  rw [Agent.cycle]
  dsimp only
  rw [heq]
  dsimp only
  rw [save_of_none hunwritten]

/-- **Cycles that find such a file save nothing**, and come to the same whenever they are made. -/
theorem exists_tickFrom {a : Agent} (hvalid : Watcher.ofConfig config = .ok a.watch) (hd : d.Proper)
    {candidates : List Candidate} (hfound : a.watch.matcher.found d = .ok candidates)
    (hnotext : ∃ c ∈ candidates, ∀ text, c.path ≠ .ofText text) (hfollows : a.watch.Following candidates a.state)
    (sink : Sink) (time : TickTime) (fuel : Nat) :
    ∃ b : Agent, (0 < fuel ∨ Document.entryOf? a.state = none → Document.entryOf? b.state = none) ∧
      ∀ w : World, w.Still d → ∃ w', w'.Still d ∧
        Agent.tickFrom sink time fuel { a with world := w } = { b with world := w' } := by
  induction fuel generalizing time a with
  | zero => exact ⟨a, fun h => h.resolve_left (Nat.lt_irrefl 0), fun w hw => ⟨w, hw, rfl⟩⟩
  | succ fuel ih =>
    obtain ⟨b, pending, hwatch, hfollowing, hunwritten, hcycle⟩ :=
      exists_cycle hvalid hd hfound hnotext hfollows sink (time.cycle 0)
    cases pending with
    | false =>
      refine ⟨b, fun _ => hunwritten, fun w hw => ?_⟩
      obtain ⟨w', hw', heq⟩ := hcycle w hw
      exact ⟨w', hw', by rw [Agent.tickFrom, heq]; rfl⟩
    | true =>
      obtain ⟨b', hlast, hrest⟩ := ih (a := b) (hwatch ▸ hvalid) (hwatch ▸ hfound) (hwatch ▸ hfollowing)
        time.next
      refine ⟨b', fun _ => hlast (.inr hunwritten), fun w hw => ?_⟩
      obtain ⟨w₁, hw₁, heq⟩ := hcycle w hw
      obtain ⟨w', hw', hmore⟩ := hrest w₁ hw₁
      exact ⟨w', hw', by rw [Agent.tickFrom, heq]; exact hmore⟩

/-- **A run that cannot save its positions is repeated by the next one.** If the path of a file that is found is no
text, the run fails and leaves the disk as it is, and every run from there on delivers what it delivered. -/
theorem Begins.run_repeats (h : Begins config watch d d₁ dir name place w)
    (hnotext : ∃ candidates, watch.matcher.found d = .ok candidates ∧ ∃ c ∈ candidates, ∀ text, c.path ≠ .ofText text)
    (sink : Sink) (time : TickTime) :
    ∃ delivered, ∀ w : World, w.Still d → ∃ w', w'.Still d ∧
      run config (dir.join name) sink time w = ⟨delivered, .error (.state .pathNotText), w'⟩ := by
  obtain ⟨candidates, hfound, hnotext⟩ := hnotext
  obtain ⟨document, -, hsetUp⟩ := setUp_unsaved h.valid h.still h.unsaved
  obtain ⟨b, hunwritten, hticks⟩ := exists_tickFrom
    (a := ⟨watch, ⟨some (dir.join name), document⟩, .fresh config.skipOldData, w, []⟩) h.valid h.proper hfound hnotext
    (Watcher.following_fresh watch candidates _) sink time ((WatchState.fresh config.skipOldData).bound d)
  refine ⟨b.delivered, fun w hw => ?_⟩
  obtain ⟨w₁, hw₁, hbegin⟩ := hsetUp w hw
  obtain ⟨w', hw', hticks⟩ := hticks w₁ hw₁
  refine ⟨w', hw', ?_⟩
  have hunwritten : Document.entryOf? ({ b with world := w' } : Agent).state = none :=
    hunwritten (.inl (Nat.mul_pos (Nat.succ_pos _) (Nat.succ_pos _)))
  rw [run, hbegin]
  dsimp only
  rw [tick, cycleBound_eq hw₁]
  dsimp only at hticks ⊢
  rw [hticks, save_of_none hunwritten]
  rfl

end runs

/-! ## Runs of one cycle -/

section once
variable {a : Agent} {sink : Sink} {time : TickTime} {result : CycleResult}

theorem calls_save (a : Agent) : a.save.2.world.calls ≤ a.world.calls + 6 := by
  rw [save, StateFile.save]
  rcases Document.entryOf? a.state with _ | entry
  · exact Nat.le_add_right _ _
  dsimp only
  rw [StateFile.setEntry]
  rcases a.store.path with _ | path
  · exact Nat.le_add_right _ _
  have hcalls := StateFile.calls_replaceFile path (a.store.document.put a.key (some entry)).toBytes a.world
  dsimp only
  split <;> rename_i heq <;> rw [heq] at hcalls <;> exact hcalls

theorem tick_of_process (hprocess : a.watch.process sink (time.cycle 0) a.state a.world = .ok result)
    (hpending : result.report.pending = false) : a.tick sink time = (Agent.save { a with
      state := result.state, world := result.world,
      delivered := a.delivered ++ (result.offers.filter (·.accepted)).map (·.delivery) }).2 := by
  obtain ⟨fuel, hfuel⟩ : ∃ fuel, a.cycleBound = fuel + 1 :=
    Nat.exists_eq_succ_of_ne_zero (by rw [cycleBound]; positivity)
  rw [tick, hfuel, tickFrom, cycle, hprocess]
  dsimp only
  rw [hpending]
  rfl

end once

end Agent

end LogTail
