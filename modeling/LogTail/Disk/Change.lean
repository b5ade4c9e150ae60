import LogTail.Disk.Basic

/-!
# Changes of a disk

What programs do to directories and files: writing in place, appending, cutting, copying, renaming,
linking, removing. A change either happens or fails with a cause and leaves the disk as it was.
-/

namespace LogTail.Disk

def setNode (d : Disk) (number : Nat) (node : Node) : Disk :=
  { d with nodes := (number, node) :: d.nodes.filter fun n => n.1 != number }

def setEntry (d : Disk) (place : Place) (entry : Entry) : Disk :=
  { d with entries := d.entries.filter (fun e => e.1 ≠ place) ++ [(place, entry)] }

def dropTree (d : Disk) (place : Place) : Disk :=
  { d with entries := d.entries.filter fun e => !place.isPrefixOf e.1 }

def moveTree (d : Disk) (source target : Place) : Disk :=
  { d with entries := d.entries.map fun e =>
      if source.isPrefixOf e.1 then (target ++ e.1.drop source.length, e.2) else e }

def addNode (d : Disk) (place : Place) (node : Node) : Disk :=
  let entry : Entry := if node.isDirectory then .directory d.nextNumber else .file d.nextNumber
  { (d.setNode d.nextNumber node).setEntry place entry with nextNumber := d.nextNumber + 1 }

/-- The end of a path: the place of its last name, what stands there, and whether a slash follows; or no
name, for a path that ends with `.` or `..` and for the root. -/
inductive Ending where
  | name (place : Place) (entry : Option Entry) (slash : Bool)
  | noName

def ending (d : Disk) (path : Path) : Except Cause Ending :=
  let bare : Path := ⟨(path.bytes.reverse.dropWhile (· = Path.slash)).reverse⟩
  let last := (bare.pieces.getLast?).getD []
  if path.bytes = [] then .error .notFound
  else if bare.bytes = [] then .ok .noName
  else
    match d.walk false bare with
    | .error c => .error c
    | .ok (place, entry) =>
      if last = Path.dot ∨ last = Path.dotDot then .ok .noName
      else .ok (.name place entry (decide (bare.bytes.length < path.bytes.length)))

/-- The number of the file at a path, which is made if it is missing; and the disk then. -/
def openForWriting (d : Disk) (path : Path) : Except Cause (Nat × Disk) :=
  match d.ending path with
  | .error c => .error c
  | .ok .noName => .error .isDirectory
  | .ok (.name _ _ true) => .error .isDirectory
  | .ok (.name _ _ false) =>
    match d.walk true path with
    | .error c => .error c
    | .ok (_, some (.file n)) => .ok (n, d)
    | .ok (_, some (.directory _)) => .error .isDirectory
    | .ok (_, some (.link _)) => .error .tooManyLinks
    | .ok (place, none) => .ok (d.nextNumber, d.addNode place ⟨[], ⟨0, 0⟩, false⟩)

def setContent (d : Disk) (number : Nat) (content : Bytes) : Disk :=
  d.setNode number { d.node number with content := content }

def write (d : Disk) (path : Path) (content : Bytes) : Except Cause Disk :=
  (d.openForWriting path).map fun (n, d) => d.setContent n content

def append (d : Disk) (path : Path) (content : Bytes) : Except Cause Disk :=
  (d.openForWriting path).map fun (n, d) => d.setContent n ((d.node n).content ++ content)

def truncate (d : Disk) (path : Path) (size : Nat) : Except Cause Disk :=
  match d.lookup path with
  | .error c => .error c
  | .ok (n, node) =>
    if node.isDirectory then .error .isDirectory
    else
      .ok (d.setContent n (node.content.take size ++ List.replicate (size - node.content.length) 0))

def copy (d : Disk) (source target : Path) : Except Cause Disk :=
  match d.lookup source with
  | .error c => .error c
  | .ok (_, node) => if node.isDirectory then .error .isDirectory else d.write target node.content

def touch (d : Disk) (path : Path) (modified : Instant) : Except Cause Disk :=
  (d.lookup path).map fun (n, node) => d.setNode n { node with modified := modified }

def Entry.isDirectory : Entry → Bool
  | .directory _ => true
  | _ => false

def Entry.sameFile : Entry → Entry → Bool
  | .file m, .file n => m == n
  | _, _ => false

/-- Moves an entry from one place to another, where `old` stands. A directory goes only to a place
without an entry or with an empty directory, and anything else to one that holds no directory. -/
def move (d : Disk) (source : Place) (entry : Entry) (target : Place) (old : Option Entry) :
    Except Cause Disk :=
  match old with
  | none => .ok (d.moveTree source target)
  | some old =>
    if source = target || entry.sameFile old then .ok d
    else if entry.isDirectory && !old.isDirectory then .error .notDirectory
    else if !entry.isDirectory && old.isDirectory then .error .isDirectory
    else if d.entries.any fun e => e.1.dropLast = target then .error .notEmpty
    else .ok ((d.dropTree target).moveTree source target)

def rename (d : Disk) (source target : Path) : Except Cause Disk :=
  match d.ending source, d.ending target with
  | .error c, _ => .error c
  | _, .error c => .error c
  | .ok .noName, _ => .error .busy
  | _, .ok .noName => .error .busy
  | .ok (.name _ none _), _ => .error .notFound
  | .ok (.name a (some entry) slash), .ok (.name b old slash') =>
    if !entry.isDirectory && (slash || slash') then .error .notDirectory
    else if a.isPrefixOf b && a ≠ b then .error .invalidArgument
    else if b.isPrefixOf a && a ≠ b then .error .notEmpty
    else d.move a entry b old

def remove (d : Disk) (path : Path) : Except Cause Disk :=
  match d.ending path with
  | .error c => .error c
  | .ok .noName => .error .busy
  | .ok (.name _ none _) => .error .notFound
  | .ok (.name place (some entry) slash) =>
    if slash && !entry.isDirectory then .error .notDirectory else .ok (d.dropTree place)

def makeDirectory (d : Disk) (path : Path) : Except Cause Disk :=
  match d.ending path with
  | .error c => .error c
  | .ok (.name place none _) => .ok (d.addNode place ⟨[], ⟨0, 0⟩, true⟩)
  | .ok _ => .error .alreadyExists

def isDirectory (d : Disk) (path : Path) : Bool :=
  match d.walk true path with
  | .ok (_, some (.directory _)) => true
  | _ => false

/-- Makes a directory and those above it that are missing; the fuel is the number of levels. -/
def makeDirectoriesFrom : Nat → Disk → Path → Except Cause Disk
  | 0, d, path => d.makeDirectory path
  | fuel + 1, d, path =>
    if path.bytes = [] then .ok d
    else
      match d.makeDirectory path with
      | .ok d => .ok d
      | .error .notFound =>
        match path.parent? with
        | none => .error .notFound
        | some parent =>
          match makeDirectoriesFrom fuel d parent with
          | .error c => .error c
          | .ok d =>
            match d.makeDirectory path with
            | .ok d => .ok d
            | .error c => if d.isDirectory path then .ok d else .error c
      | .error c => if d.isDirectory path then .ok d else .error c

def makeDirectories (d : Disk) (path : Path) : Except Cause Disk :=
  makeDirectoriesFrom (path.bytes.length + 1) d path

/-- The place of a path for a new name that is no directory. -/
def newPlace (d : Disk) (path : Path) : Except Cause Place :=
  match d.ending path with
  | .error c => .error c
  | .ok (.name place none slash) => if slash then .error .notFound else .ok place
  | .ok _ => .error .alreadyExists

def symlink (d : Disk) (target path : Path) : Except Cause Disk :=
  if target.bytes = [] then .error .notFound
  else (d.newPlace path).map fun place => d.setEntry place (.link target)

def hardLink (d : Disk) (source target : Path) : Except Cause Disk :=
  match d.walk false source, d.newPlace target with
  | .error c, _ => .error c
  | .ok (_, none), _ => .error .notFound
  | _, .error c => .error c
  | .ok (_, some entry), .ok place =>
    if entry.isDirectory then .error .notPermitted else .ok (d.setEntry place entry)

/-- One change, with the time that the changed file then bears. -/
inductive Change where
  | write (path : Path) (content : Bytes) (modified : Instant)
  | append (path : Path) (content : Bytes) (modified : Instant)
  | truncate (path : Path) (size : Nat) (modified : Instant)
  | copy (source target : Path) (modified : Instant)
  | touch (path : Path) (modified : Instant)
  | rename (source target : Path)
  | remove (path : Path)
  | makeDirectories (path : Path)
  | symlink (target path : Path)
  | hardLink (source target : Path)

def apply (d : Disk) : Change → Except Cause Disk
  | .write path content t => (d.write path content).bind fun d => d.touch path t
  | .append path content t => (d.append path content).bind fun d => d.touch path t
  | .truncate path size t => (d.truncate path size).bind fun d => d.touch path t
  | .copy source target t => (d.copy source target).bind fun d => d.touch target t
  | .touch path t => d.touch path t
  | .rename source target => d.rename source target
  | .remove path => d.remove path
  | .makeDirectories path => d.makeDirectories path
  | .symlink target path => d.symlink target path
  | .hardLink source target => d.hardLink source target

/-- Makes changes one after the other; one that fails changes nothing. -/
def applyAll (d : Disk) (changes : List Change) : Disk :=
  changes.foldl (fun d c => match d.apply c with | .ok d => d | .error _ => d) d

def fresh (workingDirectory : String) : Disk :=
  let place : Place := [Text.Utf8.encode workingDirectory]
  let bare : Disk := ⟨[(rootNumber, ⟨[], ⟨0, 0⟩, true⟩)], [], rootNumber + 1, place⟩
  bare.addNode place ⟨[], ⟨0, 0⟩, true⟩

end LogTail.Disk
