import LogTail.Pattern.Program

/-!
# Searching for patterns

All ways through a program advance together, one character at a time, in the order of their preference.
Of two ways at the same step only the preferred one goes on, so the work of a character is bounded by the
size of the program. The match that begins first wins; of those, the preferred one.
-/

namespace LogTail.Pattern

open LogTail.Text (RangeTable)

/-- The places, counted in characters, where groups begin and end. -/
abbrev Slots := Array (Option Nat)

/-- A way through the program that waits for a character, or has come to its end. -/
structure Thread where
  step : Nat
  slots : Slots

/-- A place in the text: the characters on both sides, and how many came before. -/
structure Place where
  before : Option Char
  after : Option Char
  offset : Nat

def isWord (ascii : Bool) (c : Option Char) : Bool :=
  c.any fun c => (wordSet ascii).contains c.toNat

def Place.satisfies (p : Place) : Position → Bool
  | .textStart => p.before.isNone
  | .textEnd => p.after.isNone
  | .lineStart => p.before.isNone || p.before = some '\n'
  | .lineEnd => p.after.isNone || p.after = some '\n'
  | .lineStartCrlf =>
    p.before.isNone || p.before = some '\n' || (p.before = some '\r' && p.after ≠ some '\n')
  | .lineEndCrlf =>
    p.after.isNone || p.after = some '\r' || (p.after = some '\n' && p.before ≠ some '\r')
  | .wordBoundary ascii => isWord ascii p.before != isWord ascii p.after
  | .noWordBoundary ascii => isWord ascii p.before == isWord ascii p.after
  | .wordStart ascii => !isWord ascii p.before && isWord ascii p.after
  | .wordEnd ascii => isWord ascii p.before && !isWord ascii p.after
  | .wordStartHalf ascii => !isWord ascii p.before
  | .wordEndHalf ascii => !isWord ascii p.after

/-- The threads at a place, the preferred one first when reversed, and the steps that were met. -/
structure Threads where
  reversed : List Thread
  met : Array Bool

def Threads.none (size : Nat) : Threads := ⟨[], Array.replicate size false⟩

/-- Follows all steps that take no character, from a stack of steps to be followed. A step that was met
is not followed again, so twice the size of the program is fuel enough. -/
def follow (steps : Steps) (place : Place) : Nat → List Thread → Threads → Threads
  | 0, _, ts => ts
  | _ + 1, [], ts => ts
  | fuel + 1, t :: stack, ts =>
    if ts.met.getD t.step true then follow steps place fuel stack ts
    else
      let met := ts.met.setIfInBounds t.step true
      match steps.getD t.step .fail with
      | .split a b => follow steps place fuel (⟨a, t.slots⟩ :: ⟨b, t.slots⟩ :: stack) ⟨ts.reversed, met⟩
      | .position p next =>
        if place.satisfies p then follow steps place fuel (⟨next, t.slots⟩ :: stack) ⟨ts.reversed, met⟩
        else follow steps place fuel stack ⟨ts.reversed, met⟩
      | .save slot next =>
        let slots := t.slots.setIfInBounds slot (some place.offset)
        follow steps place fuel (⟨next, slots⟩ :: stack) ⟨ts.reversed, met⟩
      | .fail => follow steps place fuel stack ⟨ts.reversed, met⟩
      | .char _ _ => follow steps place fuel stack ⟨t :: ts.reversed, met⟩
      | .accept => follow steps place fuel stack ⟨t :: ts.reversed, met⟩

def Threads.add (steps : Steps) (place : Place) (ts : Threads) (t : Thread) : Threads :=
  follow steps place (2 * steps.size + 1) [t] ts

/-- Lets threads take a character, in order, up to one that has come to its end: the threads at the next
place, and the slots of the one at its end. -/
def advance (steps : Steps) (c : Char) (next : Place) : List Thread → Threads → Threads × Option Slots
  | [], ts => (ts, none)
  | t :: rest, ts =>
    match steps.getD t.step .fail with
    | .accept => (ts, some t.slots)
    | .char chars after =>
      if chars.contains c.toNat then
        advance steps c next rest (ts.add steps next ⟨after, t.slots⟩)
      else advance steps c next rest ts
    | _ => advance steps c next rest ts

def accepted (steps : Steps) (ts : List Thread) : Option Slots :=
  ts.findSome? fun t => match steps.getD t.step .fail with
    | .accept => some t.slots
    | _ => none

end Pattern

namespace Pattern

/-- The search from a place on: a thread for a match that begins here is the last in preference, and
none is begun once there is a match. -/
def searchFrom (p : Pattern) (best : Option Pattern.Slots) (threads : Pattern.Threads)
    (before : Option Char) (offset : Nat) : List Char → Option Pattern.Slots
  | [] =>
    let here : Pattern.Place := ⟨before, none, offset⟩
    let threads := if best.isNone then enter here threads else threads
    (Pattern.accepted p.steps threads.reversed.reverse).or best
  | c :: rest =>
    let here : Pattern.Place := ⟨before, some c, offset⟩
    let threads := if best.isNone then enter here threads else threads
    if threads.reversed.isEmpty && best.isSome then best
    else
      let next : Pattern.Place := ⟨some c, rest.head?, offset + 1⟩
      let (threads, found) :=
        Pattern.advance p.steps c next threads.reversed.reverse (.none p.steps.size)
      searchFrom p (found.or best) threads (some c) (offset + 1) rest
where
  enter (here : Pattern.Place) (threads : Pattern.Threads) : Pattern.Threads :=
    threads.add p.steps here ⟨p.start, Array.replicate (2 * p.groups + 2) none⟩

def search (p : Pattern) (cs : List Char) : Option Pattern.Slots :=
  p.searchFrom none (.none p.steps.size) none 0 cs

def isMatch (p : Pattern) (text : String) : Bool := (p.search text.toList).isSome

/-- The texts of the groups of the first match, the whole match first; `none` for a group that has no
part in it. -/
def captures? (p : Pattern) (text : String) : Option (List (Option String)) :=
  let cs := text.toList
  (p.search cs).map fun slots =>
    (List.range (p.groups + 1)).map fun k =>
      match slots.getD (2 * k) none, slots.getD (2 * k + 1) none with
      | some a, some b => some (String.ofList ((cs.drop a).take (b - a)))
      | _, _ => none

end Pattern

end LogTail
