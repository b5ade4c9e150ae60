import LogTail.Cli.Options
import LogTail.Config.Basic
import LogTail.Json.Basic
import LogTail.Text.Decimal

/-!
# Arguments of a watch

The options that configure a watch, with their variables and defaults, in the order in which variables
are looked at; and the configuration that they come to.
-/

namespace LogTail.Cli

def defaultStatePath : Path := .ofText "/var/lib/logrt/state.json"

structure WatchArguments where
  pattern : String := ""
  kind : WatchKind := .rotated
  rotation : RotationPolicy := .rename
  includes : List String := []
  excludes : List String := []
  template : Option String := none
  encoding : String := "UTF-8"
  maxLines : Nat := 100
  maxLinesProcessed : Option Nat := none
  /-- Milliseconds; 0 for no limit. -/
  maxDelay : Nat := 0
  maxRetries : Nat := 3
  chunkSize : Nat := 65536
  maxRecordSize : Nat := 262144
  digestWindow : Nat := 512
  skipOldData : Bool := false
  /-- Seconds between two ticks. -/
  refresh : Nat := 1
  statePath : Path := defaultStatePath
  server : String := "127.0.0.1"
  port : Nat := 10051
  hostname : Option String := none
  key : Option String := none

/-! ## Values -/

def choice {α : Type} (table : List (String × α)) (text : String) : Except Stop α :=
  match table.find? fun e => e.1 == text with
  | some e => .ok e.2
  | none => .error .invalidValue

/-- A number up to a largest one. It may have a plus sign, and where signed numbers are read zero may
have a minus sign. -/
def number (largest : Nat) (signed : Bool) (text : String) : Except Stop Nat :=
  let n? := match text.toList with
    | '+' :: cs => Text.Decimal.toNat? cs
    | '-' :: cs => if signed then (Text.Decimal.toNat? cs).filter (· = 0) else none
    | cs => Text.Decimal.toNat? cs
  match n?.filter (· ≤ largest) with
  | some n => .ok n
  | none => .error .invalidNumber

def word : String → Except Stop Nat := number Json.wordMax false

def switch : String → Except Stop Bool := choice [("true", true), ("false", false)]

def pathOf (text : String) : Except Stop Path :=
  if text.isEmpty then .error .invalidValue else .ok (.ofText text)

def listOf (text : String) : List String := (text.toList.splitOn ',').map String.ofList

/-! ## Options -/

def kindNames : List (String × WatchKind) := [("log", .single), ("logrt", .rotated)]

def rotationNames : List (String × RotationPolicy) :=
  [("rotate", .rename), ("copytruncate", .copyTruncate), ("mtime-reread", .reread),
    ("mtime-noreread", .noReread)]

def reading {α β : Type} (name variableName : String) (read : String → Except Stop β)
    (set : β → α → α) : Setting α :=
  { name := name, variableName := some variableName, set := fun text a => (read text).map (set · a) }

def text {α : Type} (name variableName : String) (set : String → α → α) : Setting α :=
  reading name variableName .ok set

def statePathSetting {α : Type} (set : Path → α → α) : Setting α :=
  reading "state-path" "LOGRT_STATE_PATH" pathOf set

namespace WatchArguments

def settings : List (Setting WatchArguments) :=
  [{ text "pattern" "LOGRT_PATTERN" fun v a => { a with pattern := v } with required := true },
    reading "kind" "LOGRT_KIND" (choice kindNames) fun v a => { a with kind := v },
    reading "rotation" "LOGRT_ROTATION" (choice rotationNames) fun v a => { a with rotation := v },
    { text "include" "LOGRT_INCLUDE" fun v a => { a with includes := a.includes ++ listOf v } with
      arity := .repeatable },
    { text "exclude" "LOGRT_EXCLUDE" fun v a => { a with excludes := a.excludes ++ listOf v } with
      arity := .repeatable },
    text "output" "LOGRT_OUTPUT" fun v a => { a with template := some v },
    text "encoding" "LOGRT_ENCODING" fun v a => { a with encoding := v },
    reading "max-lines" "LOGRT_MAX_LINES" word fun v a => { a with maxLines := v },
    reading "max-lines-processed" "LOGRT_MAX_LINES_PROCESSED" word fun v a =>
      { a with maxLinesProcessed := some v },
    reading "max-delay-ms" "LOGRT_MAX_DELAY_MS" word fun v a => { a with maxDelay := v },
    reading "max-retries" "LOGRT_MAX_RETRIES" (number 4294967295 true) fun v a =>
      { a with maxRetries := v },
    reading "chunk-size" "LOGRT_CHUNK_SIZE" word fun v a => { a with chunkSize := v },
    reading "max-record-size" "LOGRT_MAX_RECORD_SIZE" word fun v a => { a with maxRecordSize := v },
    reading "digest-window" "LOGRT_DIGEST_WINDOW" word fun v a => { a with digestWindow := v },
    { reading "skip-old-data" "LOGRT_SKIP_OLD_DATA" switch fun v a => { a with skipOldData := v } with
      arity := .flag },
    reading "refresh-secs" "LOGRT_REFRESH_SECS" word fun v a => { a with refresh := v },
    statePathSetting fun v a => { a with statePath := v },
    text "server" "LOGRT_SERVER" fun v a => { a with server := v },
    reading "port" "LOGRT_PORT" (number 65535 true) fun v a => { a with port := v },
    text "hostname" "LOGRT_HOSTNAME" fun v a => { a with hostname := some v },
    text "key" "LOGRT_KEY" fun v a => { a with key := some v }]

def parse (environment : String → Option String) (line : List String) : Except Stop WatchArguments :=
  Cli.parse (settings ++ [help]) environment {} line

def kindName (a : WatchArguments) : String :=
  match a.kind with
  | .single => "log"
  | .rotated => "logrt"

/-- The key of a watch: the one that was given, or the kind with the pattern in brackets. -/
def watchKey (a : WatchArguments) : String := a.key.getD s!"{a.kindName}[{a.pattern}]"

/-- The configuration of the arguments. Unless it is given, the limit of records looked at is four times
that of records delivered, within an unsigned word. -/
def toConfig (a : WatchArguments) (defaultHost : String) : Except ConfigError WatchConfig := do
  let encoding ← Encoding.ofName a.encoding
  return {
    kind := a.kind
    pattern := a.pattern
    rotation := a.rotation
    includes := a.includes
    excludes := a.excludes
    template := a.template
    encoding := encoding
    maxSent := a.maxLines
    maxProcessed := a.maxLinesProcessed.getD (min (4 * a.maxLines) Json.wordMax)
    maxDelay := if a.maxDelay = 0 then none else some a.maxDelay
    maxRetries := a.maxRetries
    chunkSize := a.chunkSize
    maxRecordSize := a.maxRecordSize
    digestWindow := a.digestWindow
    skipOldData := a.skipOldData
    destination := ⟨a.server, a.port, a.hostname.getD defaultHost, a.watchKey⟩ }

end WatchArguments

end LogTail.Cli
