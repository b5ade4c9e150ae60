import LogTail.Pattern.Parser

/-!
# Programs of patterns

An expression becomes a program of small steps, built from the end: each part is laid down with the step
that follows it already known. A choice and a repetition prefer one of two ways on.
-/

namespace LogTail.Pattern

/-- A step of a program, with the steps that may follow it. -/
inductive Step where
  | char (chars : LogTail.Text.RangeTable) (next : Nat)
  | split (preferred other : Nat)
  | position (p : Position) (next : Nat)
  | save (slot next : Nat)
  | fail
  | accept
  deriving Inhabited

abbrev Steps := Array Step

/-- Lays a part down before a given step: where the part begins, and all steps. -/
abbrev Layout := Nat → Steps → Nat × Steps

def Layout.times (body : Layout) : Nat → Layout
  | 0, next, steps => (next, steps)
  | n + 1, next, steps =>
    let (start, steps) := body next steps
    Layout.times body n start steps

def Step.ofGreed (greedy : Bool) (body next : Nat) : Step :=
  if greedy then .split body next else .split next body

def Layout.optional (body : Layout) (greedy : Bool) : Layout := fun next steps =>
  let (start, steps) := body next steps
  (steps.size, steps.push (.ofGreed greedy start next))

/-- Up to a number of times the part: each further time stands inside the one before. -/
def Layout.upTo (body : Layout) (greedy : Bool) : Nat → Layout
  | 0, next, steps => (next, steps)
  | n + 1, next, steps =>
    let (inner, steps) := Layout.upTo body greedy n next steps
    let (start, steps) := body inner steps
    (steps.size, steps.push (.ofGreed greedy start next))

/-- The part once or more often: after each time a split goes back to its beginning. -/
def Layout.plus (body : Layout) (greedy : Bool) : Layout := fun next steps =>
  let loop := steps.size
  let (start, steps) := body loop (steps.push .fail)
  (start, steps.setIfInBounds loop (.ofGreed greedy start next))

/-- The part any number of times. One that can match nothing is tried once before it is repeated, so that
a round without progress ends the repetition. -/
def Layout.star (body : Layout) (greedy canBeEmpty : Bool) : Layout := fun next steps =>
  if canBeEmpty then Layout.optional (body.plus greedy) greedy next steps
  else
    let loop := steps.size
    let (start, steps) := body loop (steps.push .fail)
    (loop, steps.setIfInBounds loop (.ofGreed greedy start next))

def Node.layout : Node → Layout
  | .empty, next, steps => (next, steps)
  | .set chars, next, steps => (steps.size, steps.push (.char chars next))
  | .position p, next, steps => (steps.size, steps.push (.position p next))
  | .group none body, next, steps => body.layout next steps
  | .group (some k) body, next, steps =>
    let (start, steps) := body.layout steps.size (steps.push (.save (2 * k + 1) next))
    (steps.size, steps.push (.save (2 * k) start))
  | .concat a b, next, steps =>
    let (start, steps) := b.layout next steps
    a.layout start steps
  | .choice a b, next, steps =>
    let (first, steps) := a.layout next steps
    let (second, steps) := b.layout next steps
    (steps.size, steps.push (.split first second))
  | .repetition least none greedy body, next, steps =>
    let canBeEmpty := body.leastLength == some 0 || body.leastLength == none
    match least with
    | 0 => Layout.star body.layout greedy canBeEmpty next steps
    | n + 1 =>
      let (start, steps) := Layout.plus body.layout greedy next steps
      Layout.times body.layout n start steps
  | .repetition least (some most) greedy body, next, steps =>
    let (start, steps) := Layout.upTo body.layout greedy (most - least) next steps
    Layout.times body.layout least start steps

end LogTail.Pattern

namespace LogTail

/-- A pattern ready to be searched for. Slots `2 * k` and `2 * k + 1` hold the ends of group `k`, and
group 0 is the whole match. -/
structure Pattern where
  text : String
  groups : Nat
  steps : Pattern.Steps
  start : Nat

def Pattern.compile? (text : String) : Option Pattern :=
  (Pattern.Node.parse? text).map fun node =>
    let whole : Pattern.Node := .group (some 0) node
    let (start, steps) := whole.layout 0 #[.accept]
    ⟨text, node.lastGroup, steps, start⟩

end LogTail
