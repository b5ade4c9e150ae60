import LogTail.Encoding
import LogTail.Error
import LogTail.Text.Blank

/-!
# Configuration of a watch

What is watched, how its producer rotates files, what is delivered to whom, and the limits of one cycle.
-/

namespace LogTail

/-- What a pattern names: one file, or the files of a directory whose names match an expression. -/
inductive WatchKind where
  | single
  | rotated
  deriving DecidableEq, Inhabited

/-- How the producer of a log rotates its files. -/
inductive RotationPolicy where
  /-- Files are renamed, and a new one takes the place of the first. -/
  | rename
  /-- Files are copied, and the first is truncated in place. -/
  | copyTruncate
  /-- As `rename`; a change of time alone calls for a look at the first bytes. -/
  | reread
  /-- As `rename`; a change of time alone means nothing. -/
  | noReread
  deriving DecidableEq, Inhabited

namespace RotationPolicy

def rechecksOnTime : RotationPolicy → Bool
  | noReread => false
  | _ => true

def detectsCopies : RotationPolicy → Bool
  | copyTruncate => true
  | _ => false

def ofName (name : String) : Except ConfigError RotationPolicy :=
  match Text.trim name with
  | "" => .ok rename
  | "rotate" => .ok rename
  | "copytruncate" => .ok copyTruncate
  | "mtime-reread" => .ok reread
  | "mtime-noreread" => .ok noReread
  | other => .error (.badRotation other)

end RotationPolicy

namespace Encoding

/-- A name in upper case, with hyphens for underscores and without blanks around it. -/
def normalName (name : String) : String :=
  (Text.trim name).map fun c => if c = '_' then '-' else c.toUpper

/-- The encoding of a name; wide units come with the highest byte first unless the name says otherwise. -/
def ofName (name : String) : Except ConfigError Encoding :=
  match normalName name with
  | "" | "UTF-8" | "UTF8" => .ok utf8
  | "ISO-8859-1" | "LATIN1" | "LATIN-1" => .ok latin1
  | "UTF-16LE" | "UCS-2LE" => .ok utf16le
  | "UTF-16" | "UTF-16BE" | "UCS-2BE" => .ok utf16be
  | "UTF-32LE" => .ok utf32le
  | "UTF-32" | "UTF-32BE" => .ok utf32be
  | other => .error (.badEncoding other)

end Encoding

/-- To whom records are addressed. -/
structure Destination where
  server : String := ""
  port : Nat := 0
  hostname : String := ""
  key : String := ""
  deriving DecidableEq, Inhabited

structure WatchConfig where
  kind : WatchKind := .rotated
  /-- The path of the file, or a directory, a slash and an expression for names. -/
  pattern : String := ""
  rotation : RotationPolicy := .rename
  includes : List String := []
  excludes : List String := []
  template : Option String := none
  encoding : Encoding := .utf8
  /-- Records delivered in a cycle, at most. -/
  maxSent : Nat := 100
  /-- Records looked at in a cycle, at most. -/
  maxProcessed : Nat := 400
  /-- Milliseconds a cycle may take. -/
  maxDelay : Option Nat := none
  /-- Refusals in a row after which a file holds up the others no longer. -/
  maxRetries : Nat := 3
  /-- Bytes read at a time. -/
  chunkSize : Nat := 65536
  /-- Bytes of the longest record that is kept whole. -/
  maxRecordSize : Nat := 262144
  /-- Bytes covered by a digest. -/
  digestWindow : Nat := 512
  skipOldData : Bool := false
  destination : Destination := {}
  deriving DecidableEq, Inhabited

end LogTail
