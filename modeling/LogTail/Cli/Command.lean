import LogTail.Agent
import LogTail.Cli.Arguments

/-!
# Commands

A command line names one command: a run of the agent, a look at the saved positions, or the version. What
a command writes and how it ends are values; only the world it leaves behind is changed.

* The exit code is 0 for success, 1 for a failure, and 2 for a command line that is not understood.
-/

namespace LogTail.Cli

structure StartArguments where
  watch : WatchArguments := {}
  once : Bool := false

structure StateArguments where
  statePath : Path := defaultStatePath
  key : Option String := none

inductive Command where
  | start (arguments : StartArguments)
  | state (arguments : StateArguments)
  | version

def releaseNumber : String := "0.1.0"

def version : String := s!"{releaseNumber}-dev"

/-! ## Options of the commands -/

def Setting.within {α β : Type} (part : β → α) (put : α → β → β) (s : Setting α) : Setting β :=
  { name := s.name, letter := s.letter, variableName := s.variableName, arity := s.arity
    required := s.required, set := fun v b => (s.set v (part b)).map (put · b) }

def logFormat {α : Type} : Setting α :=
  reading "log-format" "LOGRT_LOG_FORMAT" (choice [("text", ()), ("json", ())]) fun _ a => a

def StartArguments.settings : List (Setting StartArguments) :=
  WatchArguments.settings.map (.within StartArguments.watch fun w a => { a with watch := w })
    ++ [{ reading "once" "LOGRT_ONCE" switch fun v a => { a with once := v } with arity := .flag },
      logFormat, help]

def StateArguments.settings : List (Setting StateArguments) :=
  [statePathSetting fun v a => { a with statePath := v },
    { name := "key", set := fun v a => .ok { a with key := some v } },
    logFormat, help]

def generalSettings : List (Setting Unit) :=
  [logFormat, help,
    { name := "version", letter := some 'V', arity := .flag, set := fun _ _ => .error .versionAsked }]

def commandNames : List String := ["start", "state", "version", "help"]

def Command.parse (environment : String → Option String) (line : List String) : Except Stop Command := do
  let (r, rest) ← ({ record := () } : Line Unit).arguments generalSettings commandNames line
  let command ← match rest with
    | none => pure none
    | some ("start", line) => (Cli.parse StartArguments.settings environment {} line).map (some ∘ .start)
    | some ("state", line) => (Cli.parse StateArguments.settings environment {} line).map (some ∘ .state)
    | some ("version", line) =>
      (Cli.parse [logFormat, help] environment () line).map fun _ => some .version
    | some _ => .error .helpAsked
  r.finish generalSettings environment
  match command with
  | some command => return command
  | none => .error .missingCommand

def Command.statePath? : Command → Option Path
  | .start a => some a.watch.statePath
  | .state a => some a.statePath
  | .version => none

def variableNames : List String :=
  StartArguments.settings.filterMap Setting.variableName
    ++ StateArguments.settings.filterMap Setting.variableName

/-! ## Carrying them out -/

/-- What a command leaves behind: its exit code, the lines it wrote, those it wrote as diagnostics, and
the world. -/
structure CommandResult where
  code : Nat
  output : List String := []
  diagnostics : List String := []
  world : World

/-- A receiver that accepts every record it can write as a line of JSON. -/
def lineSink : Sink := fun _ d => d.toJson?.isSome

def deliveryLine (d : Delivery) : Option String := d.toJson?.map Json.render

def runStart (a : StartArguments) (host : String) (time : TickTime) (w : World) : CommandResult :=
  let failed (output : List String) (e : Error) (w : World) : CommandResult :=
    ⟨1, output, [s!"Watch failed: {e.message}"], w⟩
  match a.watch.toConfig host with
  | .error e => failed [] (.config e) w
  | .ok config =>
    let run := Agent.run config a.watch.statePath lineSink time w
    let output := run.delivered.filterMap deliveryLine
    match run.result with
    | .ok () => ⟨0, output, [], run.world⟩
    | .error e => failed output e run.world

def errorLine (message : String) : String := s!"ERROR: {message}"

def runState (a : StateArguments) (w : World) : CommandResult :=
  match StateFile.openAt a.statePath w with
  | (.error e, w) => ⟨1, [], [errorLine (Error.state e).message], w⟩
  | (.ok file, w) =>
    match a.key with
    | none => ⟨0, file.document.keys, [], w⟩
    | some key =>
      match file.load key with
      | .error e => ⟨1, [], [errorLine (Error.state e).message], w⟩
      | .ok none => ⟨1, [], [errorLine s!"no saved state for {Text.Quoted.ofText key}"], w⟩
      | .ok (some state) => ⟨0, (state.toJson?.map Json.pretty).toList, [], w⟩

def run (environment : String → Option String) (host : String) (time : TickTime) (line : List String)
    (w : World) : CommandResult :=
  match Command.parse environment line with
  | .error .helpAsked => ⟨0, [Stop.helpAsked.message], [], w⟩
  | .error .versionAsked => ⟨0, [s!"logrt {releaseNumber}"], [], w⟩
  | .error stop => ⟨2, [], [s!"error: {stop.message}"], w⟩
  | .ok .version => ⟨0, [version], [], w⟩
  | .ok (.state a) => runState a w
  | .ok (.start a) => runStart a host time w

end LogTail.Cli
