import LogTail.Cycle.Basic
import LogTail.Saved.StateFile

/-!
# The agent

An agent holds a watch, its saved positions, and its place in the world. A tick runs cycles until one
ends with nothing left to do, and saves the positions after each. A run takes up the saved positions,
makes one tick, and saves once more.

* A cycle whose scan fails ends the tick and changes no position; a save that fails in a tick is made
  good by the next one.
* A run fails if the configuration is invalid, or the state file cannot be read before the tick or
  written after it.
-/

namespace LogTail

/-- The times of the cycles of a tick, one after the other. -/
structure TickTime where
  cycle : Nat → CycleTime := fun _ => {}

def TickTime.next (time : TickTime) : TickTime := ⟨fun k => time.cycle (k + 1)⟩

/-- A watch at work: its positions, the file in which they are saved, and what was accepted so far. -/
structure Agent where
  watch : Watcher
  store : StateFile
  state : WatchState
  world : World
  delivered : List Delivery := []

namespace Agent

def key (a : Agent) : String := a.watch.config.destination.key

def save (a : Agent) : Except StateError Unit × Agent :=
  let (result, store, world) := a.store.save a.key a.state a.world
  (result, { a with store := store, world := world })

/-- Runs one cycle and saves the positions; says whether the budget left work for another. -/
def cycle (sink : Sink) (time : CycleTime) (a : Agent) : Agent × Bool :=
  match a.watch.process sink time a.state a.world with
  | .error (_, w) => ({ a with world := w }, false)
  | .ok r =>
    let accepted := (r.offers.filter (·.accepted)).map (·.delivery)
    let a := { a with state := r.state, world := r.world, delivered := a.delivered ++ accepted }
    (a.save.2, r.report.pending)

/-- Runs cycles until one leaves no work; the fuel is the number of cycles. -/
def tickFrom (sink : Sink) : TickTime → Nat → Agent → Agent
  | _, 0, a => a
  | time, fuel + 1, a =>
    let (a, pending) := a.cycle sink (time.cycle 0)
    if pending then tickFrom sink time.next fuel a else a

/-- More cycles than can leave work on a disk that stays as it is: each of them takes a record from some file,
and a file has no more records than bytes, with those of its tail, but for those that are cut to nothing. -/
def cycleBound (a : Agent) : Nat :=
  let disk := a.world.disk
  let bytes := disk.nodes.foldl (fun sum n => sum + n.2.content.length) 0
  let tails := a.state.files.foldl (fun sum f => sum + f.tail.length) 0
  (disk.entries.length + a.state.files.length + 1) * (2 * (Disk.blockSize + bytes + tails) + 3)

def tick (sink : Sink) (time : TickTime) (a : Agent) : Agent := tickFrom sink time a.cycleBound a

/-- Sets a watch up with its saved positions, or with none. -/
def setUp (config : WatchConfig) (statePath : Path) (w : World) : Except Error Agent × World :=
  match Watcher.ofConfig config with
  | .error e => (.error (.config e), w)
  | .ok watch =>
    match StateFile.openAt statePath w with
    | (.error e, w) => (.error (.state e), w)
    | (.ok store, w) =>
      match store.load config.destination.key with
      | .error e => (.error (.state e), w)
      | .ok saved => (.ok ⟨watch, store, saved.getD (.fresh config.skipOldData), w, []⟩, w)

end Agent

/-- What one run of an agent came to: what was accepted, in order, and whether it failed. -/
structure AgentRun where
  delivered : List Delivery
  result : Except Error Unit
  world : World

/-- Sets a watch up, makes one tick, and saves the positions. -/
def Agent.run (config : WatchConfig) (statePath : Path) (sink : Sink) (time : TickTime) (w : World) :
    AgentRun :=
  match Agent.setUp config statePath w with
  | (.error e, w) => ⟨[], .error e, w⟩
  | (.ok a, _) =>
    let (saved, a) := (a.tick sink time).save
    ⟨a.delivered, saved.mapError .state, a.world⟩

end LogTail
