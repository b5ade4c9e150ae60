/-!
# Tables of character ranges

A set of characters is a list of ranges of code points, increasing and apart from each other, so that
membership stops at the first range beyond the character.
-/

namespace LogTail.Text

/-- Ranges of code points, both ends included, in increasing order. -/
abbrev RangeTable := List (Nat × Nat)

namespace RangeTable

def contains : RangeTable → Nat → Bool
  | [], _ => false
  | (lo, hi) :: rest, n => if n < lo then false else n ≤ hi || contains rest n

/-- Joins ranges that overlap or touch, given in order of their lower ends; `current` is the range
being grown. -/
def joinFrom (current : Nat × Nat) : RangeTable → RangeTable
  | [] => [current]
  | next :: rest =>
    if next.1 ≤ current.2 + 1 then joinFrom (current.1, max current.2 next.2) rest
    else current :: joinFrom next rest

/-- The table of any list of ranges; an empty range, whose ends are crossed, counts for nothing. -/
def ofRanges (ranges : List (Nat × Nat)) : RangeTable :=
  match (ranges.filter fun r => r.1 ≤ r.2).mergeSort fun a b => a.1 ≤ b.1 with
  | [] => []
  | first :: rest => joinFrom first rest

def lastCodePoint : Nat := 0x10ffff

def gapsFrom (start : Nat) : RangeTable → RangeTable
  | [] => if start ≤ lastCodePoint then [(start, lastCodePoint)] else []
  | (lo, hi) :: rest =>
    if start < lo then (start, lo - 1) :: gapsFrom (hi + 1) rest else gapsFrom (hi + 1) rest

def complement (t : RangeTable) : RangeTable := gapsFrom 0 t

def union (s t : RangeTable) : RangeTable := ofRanges (s ++ t)

def inter (s t : RangeTable) : RangeTable := complement (union (complement s) (complement t))

def diff (s t : RangeTable) : RangeTable := inter s (complement t)

def symmDiff (s t : RangeTable) : RangeTable := diff (union s t) (inter s t)

end RangeTable

end LogTail.Text
