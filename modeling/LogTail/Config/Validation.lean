import LogTail.Config.Basic
import LogTail.Filter.Basic

/-!
# Validation of configurations

The checks in their order; the first that fails gives the error.
-/

namespace LogTail

/-- The directory and the name expression of a pattern, parted at its last slash. The directory of a
name right under the root is the root. -/
def splitPattern (pattern : String) : Except ConfigError (String × String) :=
  let cs := pattern.toList
  let name := (cs.reverse.takeWhile (· ≠ '/')).reverse
  let front := cs.take (cs.length - name.length)
  if front.isEmpty then .error (.noDirectory pattern)
  else if name.isEmpty then .error (.noFileName pattern)
  else
    let dir := front.dropLast
    .ok (String.ofList (if dir.isEmpty then front else dir), String.ofList name)

def require (ok : Bool) (e : ConfigError) : Except ConfigError Unit := if ok then .ok () else .error e

namespace WatchConfig

/-- The pattern of a watch on rotated files names a directory and spells an expression. -/
def checkPattern (c : WatchConfig) : Except ConfigError Unit := do
  require (!c.pattern.isEmpty) .emptyPattern
  match c.kind with
  | .single => require (!c.rotation.detectsCopies) .copiesOfSingleFile
  | .rotated =>
    let (_, name) ← splitPattern c.pattern
    require (Pattern.compile? name).isSome (.badFileName name)

/-- The expressions are patterns, and the template names no group that the first of them lacks. -/
def checkFilter (c : WatchConfig) : Except ConfigError Unit := do
  let includes ← c.includes.mapM Filter.expression
  let _ ← c.excludes.mapM Filter.expression
  match c.template with
  | none => return ()
  | some text =>
    let template ← Template.parse text
    let available := (includes.head?.map (·.groups)).getD 0
    require (template.maxGroup ≤ available) (.missingGroup template.maxGroup available)

def checkLimits (c : WatchConfig) : Except ConfigError Unit := do
  require (c.maxSent ≠ 0 && c.maxProcessed ≠ 0) .zeroLines
  require (c.maxSent ≤ c.maxProcessed) .linesCrossed
  require (c.chunkSize ≠ 0) .zeroChunk
  require (c.chunkSize ≤ c.maxRecordSize) .recordBelowChunk
  require (16 ≤ c.digestWindow && c.digestWindow ≤ 65536) .windowOutOfRange

def validate (c : WatchConfig) : Except ConfigError Unit := do
  c.checkPattern
  c.checkFilter
  c.checkLimits

end WatchConfig

end LogTail
