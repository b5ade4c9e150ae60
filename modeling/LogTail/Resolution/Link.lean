import LogTail.Scan
import LogTail.WatchState

/-!
# Links between tracked files and candidates

A link says that a candidate may be the same physical file as a tracked one. Its score counts identity
(or content) before name, and name before size and time.
-/

namespace LogTail

/-- A tracked file and a candidate, by their places in their lists, that may be the same file. -/
structure Link where
  old : Nat
  cand : Nat
  truncated : Bool
  score : Nat
  deriving DecidableEq, Inhabited

namespace Link

def sameName (f : LogFile) (c : Candidate) : Bool := f.path.fileName? = c.path.fileName?

def sameStat (f : LogFile) (c : Candidate) : Bool := f.size = c.size && f.mtime = c.mtime

def sharesPrefix (f : LogFile) (c : Candidate) : Bool :=
  !f.digest.isEmpty && f.digest.matchesHead c.head

/-- Whether a candidate reproduces a tracked file: the same size, time and first bytes. -/
def reproduces (f : LogFile) (c : Candidate) : Bool := sharesPrefix f c && sameStat f c

/-- Whether a candidate known to be a tracked file was truncated or written anew in place: it is smaller
than what was processed, or it changed and does not begin with the bytes of the digest. -/
def isTruncated (policy : RotationPolicy) (f : LogFile) (c : Candidate) : Bool :=
  if c.size < f.processed then true
  else if c.size ≠ f.size || (c.mtime ≠ f.mtime && policy.rechecksOnTime) then
    !f.digest.matchesHead c.head
  else false

/-- What identity or content add to the score of a link; none if they rule it out. Where copies are
looked for, content tells nothing, and a name may have passed to a copy of another tracked file. -/
def base? (policy : RotationPolicy) (useIdentity : Bool) (previous : List LogFile) (f : LogFile)
    (c : Candidate) : Option Nat :=
  if useIdentity then if f.id = c.id then some 4 else none
  else if policy.detectsCopies then
    if !sameName f c then none
    else if !f.digest.matchesHead c.head && previous.any (reproduces · c) then none
    else some 0
  else if f.digest.isEmpty then if sameName f c then some 0 else none
  else if c.mtime < f.mtime || !f.digest.matchesHead c.head then none
  else some 4

def relate (policy : RotationPolicy) (useIdentity : Bool) (previous : List LogFile)
    (old : LogFile × Nat) (cand : Candidate × Nat) : Option Link :=
  (base? policy useIdentity previous old.1 cand.1).map fun base =>
    let name := if sameName old.1 cand.1 then 2 else 0
    let stat := if sameStat old.1 cand.1 then 1 else 0
    ⟨old.2, cand.2, isTruncated policy old.1 cand.1, base + name + stat⟩

def all (policy : RotationPolicy) (useIdentity : Bool) (previous : List LogFile)
    (candidates : List Candidate) : List Link :=
  previous.zipIdx.flatMap fun old =>
    candidates.zipIdx.filterMap fun cand => relate policy useIdentity previous old cand

def topScore : Nat := 7

def alone (links : List Link) (l : Link) : Bool :=
  links.countP (·.old = l.old) = 1 && links.countP (·.cand = l.cand) = 1

end Link

/-- What is known of an end of links: nothing, or it has its link, or it is in a tie. -/
inductive Slot where
  | free
  | matched
  | ambiguous
  deriving DecidableEq

/-- One slot for each tracked file and for each candidate, the link of each candidate that has one, and the places of
the candidates in a tie. -/
structure Slots where
  old : List Slot
  cand : List Slot
  matched : List (Option Link)
  tied : List Nat

namespace Slots

def free (olds cands : Nat) : Slots :=
  ⟨.replicate olds .free, .replicate cands .free, .replicate cands none, []⟩

/-- The links of a score whose ends are both free. -/
def openAt (s : Slots) (links : List Link) (score : Nat) : List Link :=
  links.filter fun l => l.score = score && s.old[l.old]? = some .free && s.cand[l.cand]? = some .free

/-- Settles the ends of an open link. They are matched if no other open link touches them, and else in a tie. -/
def place (level : List Link) (s : Slots) (l : Link) : Slots :=
  if Link.alone level l then
    { s with
      old := s.old.set l.old .matched
      cand := s.cand.set l.cand .matched
      matched := s.matched.set l.cand (some l) }
  else
    { s with
      old := s.old.set l.old .ambiguous
      cand := s.cand.set l.cand .ambiguous
      tied := if s.cand[l.cand]? = some .free then s.tied ++ [l.cand] else s.tied }

def settle (links : List Link) (s : Slots) (score : Nat) : Slots :=
  let level := s.openAt links score
  level.foldl (place level) s

/-- Settles links from the highest score down. -/
def ofLinks (olds cands : Nat) (links : List Link) : Slots :=
  (List.range (Link.topScore + 1)).reverse.foldl (settle links) (free olds cands)

def takenCand (s : Slots) : List Nat := (s.cand.zipIdx.filter fun c => c.1 ≠ .free).map (·.2)

def linkOf? (s : Slots) (cand : Nat) : Option Link := s.matched[cand]?.join

def matchedOld (s : Slots) (old : Nat) : Bool := s.old[old]? = some .matched

end Slots

end LogTail
