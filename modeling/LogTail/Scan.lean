import LogTail.Config.Validation
import LogTail.FileId
import LogTail.World

/-!
# Scanning for the files of a watch

A scan finds the regular files that a pattern names, with their first bytes, and puts them in the order
in which they are read: the oldest first, and of files of one time the one with the greatest name.

* The order is that of a key, so it does not depend on the order in which a directory lists its names.
-/

namespace LogTail

/-- A file found by a scan. -/
structure Candidate where
  path : Path
  size : Nat
  mtime : Int
  id : FileId
  /-- The first bytes, as many as a digest covers. -/
  head : Bytes
  deriving DecidableEq, Inhabited

def Candidate.fileName? (c : Candidate) : Option String := c.path.fileName?.bind Text.Utf8.decode?

/-- What a scan found, and which matching files it could not open. -/
structure Scan where
  candidates : List Candidate := []
  unreadable : List Path := []

inductive Target where
  | single (path : Path)
  | rotated (directory : Path) (name : Pattern)

/-- What to look for, and how many first bytes to read. -/
structure Matcher where
  target : Target
  window : Nat

namespace Matcher

def ofConfig (c : WatchConfig) : Except ConfigError Matcher :=
  match c.kind with
  | .single => .ok ⟨.single (.ofText c.pattern), c.digestWindow⟩
  | .rotated => do
    let (directory, name) ← splitPattern c.pattern
    match Pattern.compile? name with
    | some p => .ok ⟨.rotated (.ofText directory) p, c.digestWindow⟩
    | none => .error (.badFileName name)

def directory (m : Matcher) : Path :=
  match m.target with
  | .single path => path.parent?.getD ⟨[]⟩
  | .rotated directory _ => directory

def readHead (w : World) (number window : Nat) : Except Cause Bytes × World :=
  w.look fun d => d.readAt number 0 window

/-- Opens a matching file, which was looked at before, and reads what identifies it. The size is taken
last, from the open file; it may have grown since it was looked at. -/
def openCandidate (m : Matcher) (w : World) (path : Path) (seen : Disk.Node) :
    Except Cause Candidate × World :=
  match w.look fun d => d.numberOf path with
  | (.error c, w) => (.error c, w)
  | (.ok number, w) =>
    match readHead w number m.window with
    | (.error c, w) => (.error c, w)
    | (.ok head, w) =>
      let (size, w) := w.look fun d => .ok (d.size number)
      let size := match size with
        | .ok size => size
        | .error _ => seen.content.length
      (.ok ⟨path, size, seen.modified.wholeSeconds, .ofNumber number, head⟩, w)

/-- Adds a matching file to a scan; one that vanished counts for nothing. -/
def addCandidate (m : Matcher) (scan : Scan) (w : World) (path : Path) (seen : Disk.Node) :
    Scan × World :=
  match m.openCandidate w path seen with
  | (.ok c, w) => ({ scan with candidates := scan.candidates ++ [c] }, w)
  | (.error cause, w) =>
    if cause.isNotFound then (scan, w)
    else ({ scan with unreadable := scan.unreadable ++ [path] }, w)

def addName (m : Matcher) (directory : Path) (name : Pattern) (soFar : Scan × World) (entry : Bytes) :
    Scan × World :=
  let (scan, w) := soFar
  if name.isMatch (Text.Utf8.decodeLossy entry) then
    let path := directory.join entry
    match w.look fun d => d.lookup path with
    | (.error _, w) => (scan, w)
    | (.ok (_, node), w) =>
      if node.isDirectory then (scan, w) else m.addCandidate scan w path node
  else (scan, w)

def nameAtLeast (a b : Path) : Bool :=
  match a.fileName?, b.fileName? with
  | some a, some b => Path.nameLe b a
  | some _, none => true
  | none, some _ => false
  | none, none => true

/-- The order of reading: by time, then by descending name. -/
def precedes (a b : Candidate) : Bool :=
  a.mtime < b.mtime || (a.mtime = b.mtime && nameAtLeast a.path b.path)

def inOrder (scan : Scan) : Scan := { scan with candidates := scan.candidates.mergeSort precedes }

/-- Finds the files of a watch. It fails only if the directory, or the one file of a watch on a single
file, cannot be looked at. -/
def scan (m : Matcher) (w : World) : Except Error Scan × World :=
  match m.target with
  | .single path =>
    match w.look fun d => d.lookup path with
    | (.error c, w) => (.error (.scan path c), w)
    | (.ok (_, node), w) =>
      if node.isDirectory then (.error (.scan path .notRegular), w)
      else
        let (scan, w) := m.addCandidate {} w path node
        (.ok scan, w)
  | .rotated directory name =>
    match w.look fun d => d.list directory with
    | (.error c, w) => (.error (.scan directory c), w)
    | (.ok names, w) =>
      let (scan, w) := names.foldl (m.addName directory name) ({}, w)
      (.ok (inOrder scan), w)

end Matcher

end LogTail
