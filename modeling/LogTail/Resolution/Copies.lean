import LogTail.Resolution.Link

/-!
# Copies of tracked files

A producer that copies and truncates leaves a new file that begins as a tracked one. A candidate with
exactly one such source, or exactly one among its sources that it reproduces in size and time too, is a
copy of it. Two candidates with one source are no copies.
-/

namespace LogTail

/-- The source of each candidate, if it is a copy, and the candidates that could not be decided. -/
structure Copies where
  sources : List (Option Nat)
  undecided : List Nat

namespace Copies

def sourcesOf (previous : List LogFile) (c : Candidate) : List Nat :=
  (previous.zipIdx.filter fun f => Link.sharesPrefix f.1 c).map (·.2)

def exactSourcesOf (previous : List LogFile) (c : Candidate) : List Nat :=
  (previous.zipIdx.filter fun f => Link.reproduces f.1 c).map (·.2)

/-- What the sources of a candidate say of it. -/
inductive Verdict where
  | noCopy
  | copyOf (source : Nat)
  | undecided
  deriving DecidableEq

def judge (previous : List LogFile) (c : Candidate) : Verdict :=
  match sourcesOf previous c, exactSourcesOf previous c with
  | [], _ => .noCopy
  | [source], _ => .copyOf source
  | _, [source] => .copyOf source
  | _, _ => .undecided

/-- The verdicts on all candidates; one that is settled already is no copy. -/
def verdicts (previous : List LogFile) (candidates : List Candidate) (settled : List Nat) : List Verdict :=
  candidates.zipIdx.map fun c => if settled.contains c.2 then .noCopy else judge previous c.1

def Verdict.source? : Verdict → Option Nat
  | .copyOf source => some source
  | _ => none

/-- The copies among the candidates. A source with several claims is withdrawn from all of them. -/
def find (previous : List LogFile) (candidates : List Candidate) (settled : List Nat) : Copies :=
  let verdicts := verdicts previous candidates settled
  let claims := verdicts.map Verdict.source?
  let claimants (source : Nat) : List Nat :=
    (claims.zipIdx.filter fun c => c.1 = some source).map (·.2)
  let contested (source : Nat) : Bool := 1 < (claimants source).length
  { sources := claims.map fun c => c.filter fun source => !contested source
    undecided := ((verdicts.zipIdx.filter fun v => v.1 = .undecided).map (·.2))
      ++ ((List.range previous.length).filter contested).flatMap claimants }

def none (candidates : List Candidate) : Copies := ⟨candidates.map fun _ => .none, []⟩

end Copies

end LogTail
