import LogTail.Cli.Command
import LogTail.Proofs.Handles
import LogTail.Proofs.Restart

/-!
# Commands run twice

What a second `start` writes when nothing but the state file has changed since the first (`Cli.runStart_again`).
-/

namespace LogTail

open LogTail.Path (temporaryName ProperName)
open Disk (Place)

/-! ## A directory of logs, and a state file beside it -/

theorem logDisk_lodging {files : List (Bytes × Bytes)} (hnodup : (files.map (·.1)).Nodup)
    (hnames : ∀ f ∈ files, ProperName f.1) {m : Matcher} {expression : Pattern}
    (htarget : m.target = .rotated (.ofText "/log") expression)
    (hwalk : ∀ follow, (logDisk files).walk follow StateFile.statePath = .ok ([StateFile.stateName], none))
    (htrail : ∀ follow, (logDisk files).trail follow StateFile.statePath = [[StateFile.stateName]])
    (haside : ∀ f ∈ files, [StateFile.stateName] ∉ (logDisk files).trail true ((Path.ofText "/log").join f.1)) :
    StateFile.Lodging m (logDisk files) (logDisk files) ⟨[]⟩ StateFile.stateName [StateFile.stateName] 0 where
  above := ⟨⟨[]⟩, rfl, rfl⟩
  home :=
    { tree := logDisk_tree files
      proper := ⟨by decide, by decide, by decide, by decide⟩
      leads := ⟨none, hwalk false, nofun⟩
      own := by
        rw [← StateFile.statePath, htrail]
        exact List.not_mem_nil
      unused := fun n _ => by
        refine ⟨(Disk.entryAt_eq_none (by simp)).2 fun e he heq => ?_, ?_⟩
        · rcases exists_of_mem_logDisk he with rfl | ⟨f, -, number, -, rfl⟩
          · have hlog := Path.getLast?_temporaryName StateFile.stateName n
            rw [← (List.cons.inj heq).1] at hlog
            exact absurd hlog (by decide)
          · cases heq
        · rw [← StateFile.statePath, htrail]
          exact Disk.temporaryName_not_mem (by decide)
      made := fun parent hparent => by
        cases hparent
        rfl }
  made := fun d' _ parent hparent => by
    cases hparent
    rfl
  proper := logDisk_proper hnodup hnames
  overlooks := by
    have hlog : (logDisk files).walk true (.ofText "/log") = .ok ([[0x6c, 0x6f, 0x67]], some (.directory 1)) := rfl
    rw [Matcher.Overlooks, htarget]
    refine ⟨by show _ ∉ [[[0x6c, 0x6f, 0x67]], [[0x6c, 0x6f, 0x67]]]; decide, fun p entry last hwalk hplace => ?_,
      fun names hnames entry hentry _ => ?_⟩
    · rw [hlog] at hwalk
      cases hwalk
      cases hplace
    · rw [Disk.list, hlog] at hnames
      obtain rfl := Except.ok.inj hnames
      obtain ⟨e, he, hname⟩ := List.mem_filterMap.1 hentry
      have hplace := Matcher.nameIn?_eq_some hname
      rcases exists_of_mem_logDisk he with rfl | ⟨f, hf, number, -, rfl⟩
      · cases hplace
      · cases hplace
        exact haside f hf
  same := rfl

namespace Cli

/-! ## What `start` writes -/

theorem lineSink_accepts {path : Path} (h : ∃ text, path = .ofText text) : lineSink.Accepts path := by
  obtain ⟨text, rfl⟩ := h
  intro n d hd
  rw [lineSink, Delivery.toJson?, hd, Path.toText?_eq_some_iff.2 rfl]
  rfl

section runs
variable {a : StartArguments} {host : String} {config : WatchConfig} {w w' : World} {agent : Agent}
  {result : CycleResult}

theorem runStart_run (hconfig : a.watch.toConfig host = .ok config) (time : TickTime) (w : World) :
    let run := Agent.run config a.watch.statePath lineSink time w
    (runStart a host time w).output = run.delivered.filterMap deliveryLine ∧
      (runStart a host time w).world = run.world ∧
      (runStart a host time w).code = if run.result.isOk then 0 else 1 := by
  intro run
  rw [runStart, hconfig]
  dsimp only
  rcases hresult : (Agent.run config a.watch.statePath lineSink time w).result with e | u
  · simp [run, Except.isOk, Except.toBool]
  · simp [run, Except.isOk, Except.toBool]

theorem runStart_of_process (hconfig : a.watch.toConfig host = .ok config)
    (hsetUp : Agent.setUp config a.watch.statePath w = (.ok agent, w')) (time : TickTime)
    (hprocess : agent.watch.process lineSink (time.cycle 0) agent.state agent.world = .ok result)
    (hpending : result.report.pending = false) :
    (runStart a host time w).output =
        (agent.delivered ++ (result.offers.filter (·.accepted)).map (·.delivery)).filterMap deliveryLine ∧
      (runStart a host time w).world.calls ≤ result.world.calls + 12 ∧
      (agent.tick lineSink time).state = result.state := by
  obtain ⟨houtput, hworld, -⟩ := runStart_run hconfig time w
  have htick := Agent.tick_of_process hprocess hpending
  have hrun : Agent.run config a.watch.statePath lineSink time w = ⟨(agent.tick lineSink time).save.2.delivered,
      (agent.tick lineSink time).save.1.mapError .state, (agent.tick lineSink time).save.2.world⟩ := by
    rw [Agent.run, hsetUp]
  refine ⟨by rw [houtput, hrun, htick]; rfl, ?_, by rw [htick]; rfl⟩
  have hfirst := Agent.calls_save { agent with
    state := result.state, world := result.world,
    delivered := agent.delivered ++ (result.offers.filter (·.accepted)).map (·.delivery) }
  have hlast := (agent.tick lineSink time).calls_save
  rw [← htick] at hfirst
  rw [hworld, hrun]
  exact Nat.le_trans hlast (Nat.add_le_add_right hfirst 6)

end runs

/-! ## A watch on the files whose names begin with `a` -/

def logArguments : StartArguments :=
  { watch := { pattern := "/log/^a", statePath := StateFile.statePath }, once := true }

/-- What `start` does with these arguments where nobody else changes the disk. -/
def startAlone (d : Disk) : CommandResult := runStart logArguments "host" {} (.quiet d)

def argumentsConfig : WatchConfig :=
  { logConfig "^a" 100 3 with
    maxProcessed := 400, destination := ⟨"127.0.0.1", 10051, "host", "logrt[/log/^a]"⟩ }

theorem toConfig_logArguments : logArguments.watch.toConfig "host" = .ok argumentsConfig := by decide +kernel

def argumentsWatch : Watcher := { logWatch "^a" 100 3 rfl with config := argumentsConfig }

theorem openAt_logDisk {files : List (Bytes × Bytes)}
    (hwalk : (logDisk files).walk true StateFile.statePath = .ok ([StateFile.stateName], none)) :
    (StateFile.openAt StateFile.statePath (.quiet (logDisk files))).1 = .ok ⟨some StateFile.statePath, .empty⟩ := by
  have hread : (logDisk files).readAll StateFile.statePath = .error .notFound := by
    rw [Disk.readAll, Disk.lookup, Disk.numberOf, hwalk]
    rfl
  rw [StateFile.openAt_quiet, hread]

theorem begins_logDisk {files : List (Bytes × Bytes)} (hnodup : (files.map (·.1)).Nodup)
    (hnames : ∀ f ∈ files, ProperName f.1)
    (hwalk : ∀ follow, (logDisk files).walk follow StateFile.statePath = .ok ([StateFile.stateName], none))
    (htrail : ∀ follow, (logDisk files).trail follow StateFile.statePath = [[StateFile.stateName]])
    (haside : ∀ f ∈ files, [StateFile.stateName] ∉ (logDisk files).trail true ((Path.ofText "/log").join f.1)) :
    Agent.Begins argumentsConfig argumentsWatch (logDisk files) (logDisk files) ⟨[]⟩ StateFile.stateName
      [StateFile.stateName] (.quiet (logDisk files)) where
  valid := rfl
  unhurried := rfl
  proper := logDisk_proper hnodup hnames
  still := World.still_quiet _
  lodging := logDisk_lodging hnodup hnames rfl hwalk htrail haside
  unsaved := ⟨⟨some StateFile.statePath, .empty⟩, openAt_logDisk (hwalk true), rfl⟩

def beginsWithA : Pattern := (Pattern.compile? "^a").get rfl

theorem found_argumentsWatch {d : Disk} {names : List Bytes} (hlist : d.list (.ofText "/log") = .ok names) :
    argumentsWatch.matcher.found d = .ok ((names.filterMap
      (argumentsWatch.matcher.candidateNamed? d (.ofText "/log") beginsWithA)).mergeSort Matcher.precedes) := by
  have htarget : argumentsWatch.matcher.target = .rotated (.ofText "/log") beginsWithA := rfl
  rw [Matcher.found, htarget]
  dsimp only
  rw [hlist]

def plainDisk : Disk := logDisk [([0x61], [0x70, 0x0a])]

/-- A disk with two files, of which one has a name that is no text. -/
def oddDisk : Disk := logDisk [([0x61], [0x70, 0x0a]), ([0x61, 0xff], [0x71, 0x0a])]

/-- What is written on such a disk, if the first cycle delivers one record and leaves nothing to do. -/
theorem startAlone_of_process {d : Disk}
    (hsetUp : Agent.setUp argumentsConfig logArguments.watch.statePath (.quiet d) =
      (.ok ⟨argumentsWatch, ⟨some StateFile.statePath, .empty⟩, .fresh false, { World.quiet d with calls := 1 }, []⟩,
        { World.quiet d with calls := 1 }))
    (h : (argumentsWatch.process lineSink {} (.fresh false) { World.quiet d with calls := 1 }).toOption.any
      (fun result => decide (result.report.pending = false ∧ result.world.calls ≤ 60 ∧ result.state.InRange ∧
        (((result.offers.filter (·.accepted)).map (·.delivery)).filterMap deliveryLine).length = 1)) = true) :
    (startAlone d).output.length = 1 ∧ (startAlone d).world.calls ≤ 72 ∧
      ∀ agent w', Agent.setUp argumentsConfig logArguments.watch.statePath (.quiet d) = (.ok agent, w') →
        (agent.tick lineSink {}).state.InRange := by
  obtain ⟨result, hprocess, hresult⟩ := ok_of_any h
  obtain ⟨hpending, hcalls, hrange, hlines⟩ := of_decide_eq_true hresult
  obtain ⟨houtput, hfew, hstate⟩ := runStart_of_process toConfig_logArguments hsetUp {} hprocess
    hpending
  refine ⟨(congrArg List.length houtput).trans hlines, Nat.le_trans hfew (Nat.add_le_add_right hcalls 12), ?_⟩
  intro agent w' hagent
  rw [hsetUp] at hagent
  cases hagent
  rw [hstate]
  exact hrange

/-! ## Two runs -/

section start
variable {a : StartArguments} {host : String} {config : WatchConfig} {watch : Watcher} {d d₁ : Disk} {dir : Path}
  {name : Bytes} {place : Place} {w : World}

/-- **When a second `start` writes nothing.** If all files that are found have texts for paths, the first run succeeds
and the second one writes nothing, as long as the positions are in the range of their types and the names of temporary
files are no longer than names can be. Otherwise the first run fails, its disk is the one it began with, and the second
one writes all its lines again. -/
theorem runStart_again (hconfig : a.watch.toConfig host = .ok config) (hpath : a.watch.statePath = dir.join name)
    (h : Agent.Begins config watch d d₁ dir name place w) (time : TickTime) :
    let first := runStart a host time w
    ((∀ candidates, watch.matcher.found d = .ok candidates → ∀ c ∈ candidates, ∃ text, c.path = .ofText text) →
      (∀ agent w', Agent.setUp config a.watch.statePath w = (.ok agent, w') →
        (agent.tick lineSink time).state.InRange) →
      (∀ n ≤ first.world.calls, (temporaryName name n).length ≤ 255) →
      first.code = 0 ∧ ∀ time' w', w'.Still first.world.disk → (runStart a host time' w').output = []) ∧
    ((∃ candidates, watch.matcher.found d = .ok candidates ∧ ∃ c ∈ candidates, ∀ text, c.path ≠ .ofText text) →
      first.code = 1 ∧ first.world.disk = d ∧
        ∀ w', w'.Still first.world.disk → (runStart a host time w').output = first.output) := by
  intro first
  obtain ⟨houtput, hworld, hcode⟩ := runStart_run hconfig time w
  constructor
  · intro htexts hwords hshort
    rw [hworld, hpath] at hshort
    obtain ⟨hok, hsilent⟩ := h.run_rests htexts (fun candidates hfound c hc =>
      lineSink_accepts (htexts candidates hfound c hc)) (hpath ▸ hwords) hshort
    refine ⟨by rw [hcode, hpath, hok]; rfl, fun time' w' hw' => ?_⟩
    rw [hworld, hpath] at hw'
    rw [(runStart_run hconfig time' w').1, hpath, hsilent _ _ _ hw']
    rfl
  · intro hnotext
    obtain ⟨delivered, hruns⟩ := h.run_repeats hnotext lineSink time
    obtain ⟨w₁, hw₁, hrun⟩ := hruns w h.still
    have hdisk : first.world.disk = d := by rw [hworld, hpath, hrun]; exact hw₁.disk
    refine ⟨by rw [hcode, hpath, hrun]; rfl, hdisk, fun w' hw' => ?_⟩
    obtain ⟨w₂, -, hrun'⟩ := hruns w' (hdisk ▸ hw')
    rw [houtput, (runStart_run hconfig time w').1, hpath, hrun, hrun']

end start

/-- With one file the second run writes nothing; with another whose name is no text it writes the same line again. -/
theorem runStart_again_names :
    ((startAlone plainDisk).code = 0 ∧ (startAlone plainDisk).output.length = 1 ∧
        (startAlone (startAlone plainDisk).world.disk).output = []) ∧
      (startAlone oddDisk).code = 1 ∧ (startAlone oddDisk).output.length = 1 ∧
        (startAlone (startAlone oddDisk).world.disk).output = (startAlone oddDisk).output := by
  have hproper : ∀ name ∈ ([[0x61], [0x61, 0xff]] : List Bytes), ProperName name := fun name h => by
    rcases List.mem_pair.1 h with rfl | rfl <;> exact ⟨by decide, by decide, by decide, by decide⟩
  have hbegins : Agent.Begins argumentsConfig argumentsWatch plainDisk plainDisk ⟨[]⟩ StateFile.stateName
      [StateFile.stateName] (.quiet plainDisk) :=
    begins_logDisk (by decide) (fun f hf => hproper _ (by simp [List.mem_singleton.1 hf])) (by decide +kernel)
      (by decide +kernel) (by decide +kernel)
  have hbegins' : Agent.Begins argumentsConfig argumentsWatch oddDisk oddDisk ⟨[]⟩ StateFile.stateName
      [StateFile.stateName] (.quiet oddDisk) :=
    begins_logDisk (by decide) (fun f hf => hproper _ (by rcases List.mem_pair.1 hf with rfl | rfl <;> simp))
      (by decide +kernel) (by decide +kernel) (by decide +kernel)
  have hsort : @Matcher.inOrder = _ := funext Matcher.inOrder_eq_insertionSort
  have hseq : @Resolution.bySeq = _ := funext Resolution.bySeq_eq_insertionSort
  have hplain := startAlone_of_process (d := plainDisk) rfl
    (by unfold Watcher.process Matcher.scan Resolution.resolve; rw [hsort, hseq]; decide +kernel)
  have hodd := startAlone_of_process (d := oddDisk) rfl
    (by unfold Watcher.process Matcher.scan Resolution.resolve; rw [hsort, hseq]; decide +kernel)
  unfold startAlone at hplain hodd ⊢
  constructor
  · obtain ⟨hlines, hfew, hrange⟩ := hplain
    have hlist : plainDisk.list (.ofText "/log") = .ok [[0x61]] := by decide +kernel
    have hpaths : ∀ c ∈ [[0x61]].filterMap (argumentsWatch.matcher.candidateNamed? plainDisk (.ofText "/log")
        beginsWithA), c.path = .ofText "/log/a" := by decide +kernel
    have hshort : ∀ n ≤ 72, (temporaryName StateFile.stateName n).length ≤ 255 := by decide
    obtain ⟨hcode, hsilent⟩ := (runStart_again toConfig_logArguments rfl hbegins {}).1
      (fun candidates hfound c hc => by
        obtain rfl := Except.ok.inj (hfound.symm.trans (found_argumentsWatch hlist))
        exact ⟨"/log/a", hpaths c (List.mem_mergeSort.1 hc)⟩)
      hrange (fun n hn => hshort n (Nat.le_trans hn hfew))
    exact ⟨hcode, hlines, hsilent {} _ (World.still_quiet _)⟩
  · have hlist : oddDisk.list (.ofText "/log") = .ok [[0x61], [0x61, 0xff]] := by decide +kernel
    have hpaths : ∃ c ∈ [[0x61], [0x61, 0xff]].filterMap (argumentsWatch.matcher.candidateNamed? oddDisk
        (.ofText "/log") beginsWithA), c.path.toText? = none := by decide +kernel
    obtain ⟨c, hc, hnotext⟩ := hpaths
    obtain ⟨hcode, -, hrepeats⟩ := (runStart_again toConfig_logArguments rfl hbegins' {}).2
      ⟨_, found_argumentsWatch hlist, c, List.mem_mergeSort.2 hc, fun text htext => by
        rw [Path.toText?_eq_some_iff.2 htext] at hnotext
        cases hnotext⟩
    exact ⟨hcode, hodd.1, hrepeats _ (World.still_quiet _)⟩

end Cli

end LogTail
