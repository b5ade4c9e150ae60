import LogTail.Disk.Basic
import LogTail.Text.Quoted

/-!
# Errors

What can be wrong with a configuration, with saved state, and with the files of a watch; and the one
place where each cause has its wording.
-/

namespace LogTail

inductive ConfigError where
  | emptyPattern
  | noDirectory (pattern : String)
  | noFileName (pattern : String)
  | badFileName (expression : String)
  | copiesOfSingleFile
  | badExpression (expression : String)
  | tooManyParameters
  | missingGroup (group available : Nat)
  | zeroLines
  | linesCrossed
  | zeroChunk
  | recordBelowChunk
  | windowOutOfRange
  | badRotation (name : String)
  | badEncoding (name : String)
  deriving DecidableEq

inductive StateError where
  | notJson (path : Path)
  | unreadable (path : Path) (cause : Cause)
  | noDirectory (directory : Path) (cause : Cause)
  | unwritable (path : Path) (cause : Cause)
  | pathNotText
  | unsupportedVersion (key : String) (version : Nat)
  | corrupted (key : String)
  deriving DecidableEq

inductive Error where
  | io (cause : Cause)
  | state (error : StateError)
  | config (error : ConfigError)
  | scan (path : Path) (cause : Cause)
  deriving DecidableEq

def ConfigError.message : ConfigError → String
  | .emptyPattern => "pattern cannot be empty"
  | .noDirectory pattern => s!"pattern {Text.Quoted.ofText pattern} must name a directory"
  | .noFileName pattern => s!"pattern {Text.Quoted.ofText pattern} has no file name expression"
  | .badFileName expression =>
    s!"invalid file name pattern {Text.Quoted.ofText expression}: regex parse error:"
  | .copiesOfSingleFile => "copytruncate rotation requires a rotated (logrt) watch"
  | .badExpression expression =>
    s!"invalid regular expression {Text.Quoted.ofText expression}: regex parse error:"
  | .tooManyParameters => "output template has too many parameters"
  | .missingGroup group available =>
    s!"output template references group \\{group} but only {available} are available"
  | .zeroLines => "line limits must be positive"
  | .linesCrossed => "max_lines_processed cannot be lower than max_lines_sent"
  | .zeroChunk => "chunk_size must be positive"
  | .recordBelowChunk => "max_record_size cannot be lower than chunk_size"
  | .windowOutOfRange => "digest_window must be between 16 and 65536 bytes"
  | .badRotation name => s!"invalid rotation option: {Text.Quoted.ofText name}"
  | .badEncoding name => s!"unsupported encoding: {name}"

def StateError.message : StateError → String
  | .notJson path => s!"state file {path.quoted} is not valid JSON"
  | .unreadable path cause => s!"cannot read state file {path.quoted}: {cause.message}"
  | .noDirectory directory cause =>
    s!"cannot create state directory {directory.quoted}: {cause.message}"
  | .unwritable path cause => s!"cannot write state file {path.quoted}: {cause.message}"
  | .pathNotText => "cannot encode state: path contains invalid UTF-8 characters"
  | .unsupportedVersion key version =>
    s!"persisted state for {Text.Quoted.ofText key} has unsupported version {version}"
  | .corrupted key =>
    s!"persisted state for {Text.Quoted.ofText key} is corrupted and cannot be loaded"

def Error.message : Error → String
  | .io cause => s!"IO error: {cause.message}"
  | .state error => s!"Persistence error: {error.message}"
  | .config error => s!"Configuration error: {error.message}"
  | .scan path cause => s!"Cannot scan {path.quoted}: {cause.message}"

end LogTail
