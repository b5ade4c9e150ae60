import LogTail.Path

/-!
# Directories and files

A disk holds numbered files and a tree of names for them. A file's number is never given to another
file, and its content stays readable after its last name is gone, for those who opened it before.

* `Disk.walk` follows the names of a path, through symbolic links, to an entry or to the place where one
  is missing.
-/

namespace LogTail

inductive Cause where
  | notFound
  | inputOutput
  | notPermitted
  | busy
  | alreadyExists
  | notDirectory
  | isDirectory
  | invalidArgument
  | nameTooLong
  | notEmpty
  | tooManyLinks
  | nulInPath
  | otherFile
  | notRegular
  deriving DecidableEq

def Cause.message : Cause → String
  | .notFound => "No such file or directory (os error 2)"
  | .inputOutput => "Input/output error (os error 5)"
  | .notPermitted => "Operation not permitted (os error 1)"
  | .busy => "Device or resource busy (os error 16)"
  | .alreadyExists => "File exists (os error 17)"
  | .notDirectory => "Not a directory (os error 20)"
  | .isDirectory => "Is a directory (os error 21)"
  | .invalidArgument => "Invalid argument (os error 22)"
  | .nameTooLong => "File name too long (os error 36)"
  | .notEmpty => "Directory not empty (os error 39)"
  | .tooManyLinks => "Too many levels of symbolic links (os error 40)"
  | .nulInPath => "file name contained an unexpected NUL byte"
  | .otherFile => "path now refers to a different file"
  | .notRegular => "not a regular file"

def Cause.isNotFound : Cause → Bool
  | .notFound | .otherFile => true
  | _ => false

/-- A moment in seconds since 1970 and nanoseconds after them. -/
structure Instant where
  seconds : Int
  nanos : Nat
  deriving DecidableEq, Inhabited

/-- The whole seconds of a moment; before 1970 a fraction is dropped toward 1970. -/
def Instant.wholeSeconds (t : Instant) : Int :=
  if t.seconds < 0 ∧ 0 < t.nanos then t.seconds + 1 else t.seconds

namespace Disk

/-- A file or a directory, whatever its names; a directory has no content of its own. -/
structure Node where
  content : Bytes
  modified : Instant
  isDirectory : Bool
  deriving Inhabited

/-- A place in the tree: the names from the root down. -/
abbrev Place := List Bytes

inductive Entry where
  | file (number : Nat)
  | directory (number : Nat)
  | link (target : Path)
  deriving DecidableEq

end Disk

/-- Numbered nodes, names for them, the next free number, and the working directory. -/
structure Disk where
  nodes : List (Nat × Disk.Node)
  entries : List (Disk.Place × Disk.Entry)
  nextNumber : Nat
  here : Disk.Place

namespace Disk

def rootNumber : Nat := 0

def entryAt (d : Disk) (place : Place) : Option Entry :=
  if place = [] then some (.directory rootNumber)
  else (d.entries.find? fun e => e.1 = place).map (·.2)

def node (d : Disk) (number : Nat) : Node :=
  ((d.nodes.find? fun n => n.1 == number).map (·.2)).getD ⟨[], ⟨0, 0⟩, true⟩

/-- How far names can be followed without a link: to a place and what stands there, or to a link with
the names that remain. -/
inductive Walk where
  | reached (place : Place) (entry : Option Entry)
  | atLink (dir : Place) (target : Path) (rest : List Bytes)

/-- Follows names from a directory. A name in front of others has to stand for a directory. -/
def walkNames (d : Disk) (followLast : Bool) (dir : Place) : List Bytes → Except Cause Walk
  | [] => .ok (.reached dir (d.entryAt dir))
  | name :: rest =>
    if name = Path.dot then walkNames d followLast dir rest
    else if name = Path.dotDot then walkNames d followLast dir.dropLast rest
    else if 255 < name.length then .error .nameTooLong
    else
      let place := dir ++ [name]
      match d.entryAt place with
      | none => if rest = [] then .ok (.reached place none) else .error .notFound
      | some (.file number) =>
        if rest = [] then .ok (.reached place (some (.file number))) else .error .notDirectory
      | some (.directory _) => walkNames d followLast place rest
      | some (.link target) =>
        if rest = [] ∧ ¬ followLast then .ok (.reached place (some (.link target)))
        else .ok (.atLink dir target rest)

def linkLimit : Nat := 40

/-- Follows names from a directory through a number of links. -/
def walkLinks (d : Disk) (followLast : Bool) :
    Nat → Place → List Bytes → Except Cause (Place × Option Entry)
  | 0, _, _ => .error .tooManyLinks
  | links + 1, dir, names =>
    match d.walkNames followLast dir names with
    | .error c => .error c
    | .ok (.reached place entry) => .ok (place, entry)
    | .ok (.atLink dir target rest) =>
      walkLinks d followLast links (if target.isAbsolute then [] else dir) (target.steps ++ rest)

def walk (d : Disk) (followLast : Bool) (path : Path) : Except Cause (Place × Option Entry) :=
  if path.bytes = [] then .error .notFound
  else if path.bytes.contains 0 then .error .nulInPath
  else
    d.walkLinks followLast (linkLimit + 1) (if path.isAbsolute then [] else d.here) path.steps

def numberOf (d : Disk) (path : Path) : Except Cause Nat :=
  match d.walk true path with
  | .error c => .error c
  | .ok (_, some (.file n)) => .ok n
  | .ok (_, some (.directory n)) => .ok n
  | .ok _ => .error .notFound

def lookup (d : Disk) (path : Path) : Except Cause (Nat × Node) :=
  (d.numberOf path).map fun n => (n, d.node n)

/-- The names inside a directory, in the order in which the disk happens to hold them. -/
def list (d : Disk) (path : Path) : Except Cause (List Bytes) :=
  match d.walk true path with
  | .error c => .error c
  | .ok (place, some (.directory _)) =>
    .ok (d.entries.filterMap fun e =>
      match e.1.getLast? with
      | some name => if e.1.dropLast = place then some name else none
      | none => none)
  | .ok (_, some _) => .error .notDirectory
  | .ok (_, none) => .error .notFound

def readAll (d : Disk) (path : Path) : Except Cause Bytes :=
  match d.lookup path with
  | .error c => .error c
  | .ok (_, node) => if node.isDirectory then .error .isDirectory else .ok node.content

/-- Up to a number of bytes of an open file from an offset on. -/
def readAt (d : Disk) (number offset count : Nat) : Except Cause Bytes :=
  let node := d.node number
  if count = 0 then .ok []
  else if node.isDirectory then .error .isDirectory
  else .ok ((node.content.drop offset).take count)

/-- The size that a directory has of itself: one block, which cannot be read as bytes. -/
def blockSize : Nat := 4096

def size (d : Disk) (number : Nat) : Nat :=
  let node := d.node number
  if node.isDirectory then blockSize else node.content.length

end Disk

end LogTail
