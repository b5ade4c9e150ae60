import LogTail.Text.CaseFold
import LogTail.Text.DecimalDigit
import LogTail.Text.WordCharacter
import LogTail.Text.Blank

/-!
# Patterns

A pattern is a regular expression over characters: sets, positions, groups, repetitions, sequences and
choices. The flags of its text are already applied: a set is closed under case where the text asks for
it, and `^`, `$`, `.` have the meaning of the place where they stand.
-/

namespace LogTail.Pattern

open LogTail.Text (RangeTable)

/-- A place between two characters. -/
inductive Position where
  | textStart
  | textEnd
  | lineStart
  | lineEnd
  | lineStartCrlf
  | lineEndCrlf
  | wordBoundary (ascii : Bool)
  | noWordBoundary (ascii : Bool)
  | wordStart (ascii : Bool)
  | wordEnd (ascii : Bool)
  | wordStartHalf (ascii : Bool)
  | wordEndHalf (ascii : Bool)
  deriving DecidableEq

/-- A regular expression. A group with a number is captured. -/
inductive Node where
  | empty
  | set (chars : RangeTable)
  | position (p : Position)
  | group (capture : Option Nat) (body : Node)
  | repetition (least : Nat) (most : Option Nat) (greedy : Bool) (body : Node)
  | concat (first second : Node)
  | choice (first second : Node)
  deriving Inhabited

/-- The characters that are the same as one of the set up to case; up to the case of ASCII letters, or of
all letters. -/
def foldClosure (ascii : Bool) (t : RangeTable) : RangeTable :=
  let orbits :=
    if ascii then (List.range 26).map fun k => [0x41 + k, 0x61 + k] else LogTail.Text.foldOrbits
  let met := orbits.filter fun orbit => orbit.any t.contains
  if met.isEmpty then t else RangeTable.ofRanges (t ++ met.flatten.map fun n => (n, n))

def singleton (c : Char) : RangeTable := [(c.toNat, c.toNat)]

def digitSet (ascii : Bool) : RangeTable :=
  if ascii then [(0x30, 0x39)] else LogTail.Text.decimalDigitRanges

def spaceSet (ascii : Bool) : RangeTable :=
  if ascii then [(0x09, 0x0d), (0x20, 0x20)] else LogTail.Text.blankRanges

def wordSet (ascii : Bool) : RangeTable :=
  if ascii then [(0x30, 0x39), (0x41, 0x5a), (0x5f, 0x5f), (0x61, 0x7a)] else LogTail.Text.wordRanges

namespace Node

/-- The fewest characters of a match; `none` if there is no match at all. -/
def leastLength : Node → Option Nat
  | empty => some 0
  | set chars => if chars.isEmpty then none else some 1
  | position _ => some 0
  | group _ body => body.leastLength
  | repetition least _ _ body =>
    match body.leastLength with
    | none => if least = 0 then some 0 else none
    | some n => some (least * n)
  | concat a b => match a.leastLength, b.leastLength with
    | some m, some n => some (m + n)
    | _, _ => none
  | choice a b => match a.leastLength, b.leastLength with
    | some m, some n => some (min m n)
    | some m, none => some m
    | none, n => n

/-- The largest number of a captured group, 0 without groups. What is repeated no times is left out. -/
def lastGroup : Node → Nat
  | group (some k) body => max k body.lastGroup
  | group none body => body.lastGroup
  | repetition _ (some 0) _ _ => 0
  | repetition _ _ _ body => body.lastGroup
  | concat a b => max a.lastGroup b.lastGroup
  | choice a b => max a.lastGroup b.lastGroup
  | _ => 0

def ofSequence : List Node → Node
  | [] => empty
  | [n] => n
  | n :: rest => concat n (ofSequence rest)

def ofChoices : List Node → Node
  | [] => empty
  | [n] => n
  | n :: rest => choice n (ofChoices rest)

end Node

end LogTail.Pattern
