import LogTail.Text.Quoted

/-!
# Paths

A path is a byte string whose parts stand between slashes. Empty parts and the part `.` add nothing,
except for a `.` in front of a relative path, which is kept.
-/

namespace LogTail

/-- A path, absolute or relative, as it is written. -/
structure Path where
  bytes : Bytes
  deriving DecidableEq, Inhabited

namespace Path

def slash : UInt8 := 0x2f

def dot : Bytes := [0x2e]

def dotDot : Bytes := [0x2e, 0x2e]

def ofText (s : String) : Path := ⟨Text.Utf8.encode s⟩

def toText? (p : Path) : Option String := Text.Utf8.decode? p.bytes

def quoted (p : Path) : String := Text.Quoted.ofBytes p.bytes

def isAbsolute (p : Path) : Bool := p.bytes.head? = some slash

/-- The runs of bytes between slashes, empty ones included. -/
def pieces (p : Path) : List Bytes := p.bytes.splitOn slash

def isName (piece : Bytes) : Bool := piece ≠ [] && piece ≠ dot

/-- The name at the end of a path; none after a part that leads up, and none for the root. -/
def fileName? (p : Path) : Option Bytes :=
  match (p.pieces.filter isName).getLast? with
  | some name => if name = dotDot then none else some name
  | none => none

/-- Drops from the end what adds nothing to a path: slashes and the parts `.`. The fuel is the length of
the path, and `kept` bytes in front are never dropped. -/
def trimEnd (kept : Nat) : Nat → Bytes → Bytes
  | 0, bs => bs
  | fuel + 1, bs =>
    if bs.length ≤ kept then bs
    else
      let piece := ((bs.drop kept).splitOn slash).getLast?.getD []
      if isName piece then bs
      else
        let withSlash := if piece.length < bs.length - kept then piece.length + 1 else piece.length
        trimEnd kept fuel (bs.take (bs.length - withSlash))

/-- How many bytes stand in front of the parts: the slash of an absolute path, or a leading `.`. -/
def frontLength (p : Path) : Nat :=
  if p.isAbsolute then 1
  else if p.pieces.head? = some dot then 1
  else 0

def parent? (p : Path) : Option Path :=
  let kept := p.frontLength
  let bs := trimEnd kept p.bytes.length p.bytes
  if bs.length ≤ kept then
    if p.isAbsolute || bs.isEmpty then none else some ⟨[]⟩
  else
    let piece := ((bs.drop kept).splitOn slash).getLast?.getD []
    let withSlash := if piece.length < bs.length - kept then piece.length + 1 else piece.length
    let rest := bs.take (bs.length - withSlash)
    some ⟨trimEnd kept rest.length rest⟩

def join (dir : Path) (name : Bytes) : Path :=
  if name.head? = some slash then ⟨name⟩
  else if dir.bytes = [] || dir.bytes.getLast? = some slash then ⟨dir.bytes ++ name⟩
  else ⟨dir.bytes ++ slash :: name⟩

/-- A name up to its last dot, unless the dot is its first byte. -/
def stem (name : Bytes) : Bytes :=
  let dotByte : UInt8 := 0x2e
  let after := (name.reverse.takeWhile (· ≠ dotByte)).length
  if name.length ≤ after + 1 then name else name.take (name.length - after - 1)

/-- The path with another extension at its name; a path without a name stays as it is. -/
def withExtension (p : Path) (extension : String) : Path :=
  match p.fileName? with
  | none => p
  | some name =>
    let bs := trimEnd p.frontLength p.bytes.length p.bytes
    let front := bs.take (bs.length - name.length)
    ⟨front ++ stem name ++ 0x2e :: Text.Utf8.encode extension⟩

def nameLe : Bytes → Bytes → Bool
  | [], _ => true
  | _ :: _, [] => false
  | a :: as, b :: bs => if a = b then nameLe as bs else a < b

/-- The names to follow from the start of a path; a slash at the end asks for a directory, as a last
part `.` does. -/
def steps (p : Path) : List Bytes :=
  let names := p.pieces.filter (· ≠ [])
  if p.bytes.getLast? = some slash then names ++ [dot] else names

end Path

end LogTail
