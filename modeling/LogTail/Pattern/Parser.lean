import LogTail.Pattern.NamedClass
import LogTail.Pattern.Syntax
import LogTail.Text.Decimal
import LogTail.Text.Hex
import LogTail.Text.Alphabetic
import LogTail.Text.Numeric

/-!
# Reading patterns

A text is read by recursive descent, and its flags are applied on the way. Reading fails on what the
language has no meaning for: look-around, references to groups, unknown escapes, an operator with
nothing to repeat, crossed bounds, a name used twice, and a nesting of more than 250 levels.

The fuel of every function is at least the number of characters left, and every step takes one.
-/

namespace LogTail.Pattern

open LogTail.Text (RangeTable isBlank)

structure Flags where
  caseless : Bool := false
  multiLine : Bool := false
  dotAll : Bool := false
  swapGreed : Bool := false
  ascii : Bool := false
  crlf : Bool := false
  extended : Bool := false

def Flags.put? (f : Flags) (letter : Char) (on : Bool) : Option Flags :=
  match letter with
  | 'i' => some { f with caseless := on }
  | 'm' => some { f with multiLine := on }
  | 's' => some { f with dotAll := on }
  | 'U' => some { f with swapGreed := on }
  | 'u' => some { f with ascii := !on }
  | 'R' => some { f with crlf := on }
  | 'x' => some { f with extended := on }
  | _ => none

/-- The text that is left, the flags in force, and the groups so far. -/
structure Cursor where
  rest : List Char
  flags : Flags
  captures : Nat
  names : List (List Char)

/-- A part of a pattern and how deeply it is nested. -/
structure Part where
  node : Node
  depth : Nat

/-- Skips blanks and comments where the flags allow them; the fuel is the length of the text. -/
def skipFrom : Nat → List Char → List Char
  | 0, cs => cs
  | fuel + 1, cs =>
    match cs.dropWhile isBlank with
    | '#' :: rest => skipFrom fuel ((rest.dropWhile (· ≠ '\n')).drop 1)
    | rest => rest

def skip (f : Flags) (cs : List Char) : List Char :=
  if f.extended then skipFrom cs.length cs else cs

def Flags.literal (f : Flags) (c : Char) : RangeTable :=
  if f.caseless then
    if f.ascii && 0x7f < c.toNat then singleton c else foldClosure f.ascii (singleton c)
  else singleton c

def Flags.fold (f : Flags) (t : RangeTable) : RangeTable := if f.caseless then foldClosure f.ascii t else t

/-- A set, or all other characters. Without the characters beyond ASCII a set holds none of them, so none may be
negated into it. -/
def Flags.signed? (f : Flags) (negated : Bool) (t : RangeTable) : Option RangeTable :=
  if negated then if f.ascii then none else some t.complement else some t

inductive Escape where
  | char (c : Char)
  | set (negated : Bool) (t : RangeTable)
  | position (p : Position)

def isMeta (c : Char) : Bool :=
  ['\\', '.', '+', '*', '?', '(', ')', '|', '[', ']', '\x7b', '\x7d', '^', '$', '#', '&', '-', '~'].contains c

/-- The characters that may have a backslash without need: all of ASCII but letters, digits and angle
brackets. -/
def isPlainEscape (c : Char) : Bool :=
  decide (c.toNat < 0x80) && !c.isAlphanum && c ≠ '<' && c ≠ '>'

/-- A character given by its code point in a fixed number of digits or between braces. -/
def codePoint? (f : Flags) (digits : Nat) (cs : List Char) : Option (Char × List Char) :=
  let (spelled, rest) : List Char × List Char := match skip f cs with
    | '\x7b' :: r =>
      let inner := r.takeWhile (· ≠ '\x7d')
      (inner.filter fun c => !(f.extended && isBlank c), r.drop inner.length)
    | _ => ((skip f cs).take digits, (skip f cs).drop digits)
  let braced := (skip f cs).head? = some '\x7b'
  match Text.Hex.toNat? spelled with
  | none => none
  | some n =>
    let valid := n < 0xd800 ∨ (0xe000 ≤ n ∧ n < 0x110000)
    if ¬ valid then none
    else if braced then
      match rest with
      | '\x7d' :: rest => some (Char.ofNat n, rest)
      | _ => none
    else if spelled.length = digits then some (Char.ofNat n, rest)
    else none

/-- The position that a name between braces gives to `\b`: `none` for an unknown name. -/
def namedBoundary? (ascii : Bool) (name : List Char) : Option Position :=
  if name = "start".toList then some (.wordStart ascii)
  else if name = "end".toList then some (.wordEnd ascii)
  else if name = "start-half".toList then some (.wordStartHalf ascii)
  else if name = "end-half".toList then some (.wordEndHalf ascii)
  else none

/-- The position `\b`, with the braces that may follow it. Braces that hold no name are left. -/
def boundary? (f : Flags) (cs : List Char) : Option (Escape × List Char) :=
  match cs with
  | '\x7b' :: rest =>
    let isNameChar (c : Char) : Bool := c.isAlpha || c = '-'
    let start := skip f rest
    match start.head? with
    | none => none
    | some c =>
      if isNameChar c then
        let name := start.takeWhile isNameChar
        match start.drop name.length with
        | '\x7d' :: rest => (namedBoundary? f.ascii name).map fun p => (.position p, rest)
        | _ => none
      else some (.position (.wordBoundary f.ascii), cs)
  | _ => some (.position (.wordBoundary f.ascii), cs)

def braced? (f : Flags) : Nat → List Char → Option (List Char × List Char)
  | 0, _ => none
  | fuel + 1, cs =>
    match skip f cs with
    | [] => none
    | '\x7d' :: rest => some ([], rest)
    | c :: rest => (braced? f fuel rest).map fun (text, rest) => (c :: text, rest)

/-- The class that stands after `\p` or, negated, after `\P`: one letter, or a text between braces. Where only ASCII
is allowed there are no such classes. -/
def unicodeClass? (f : Flags) (negated : Bool) (cs : List Char) : Option (Escape × List Char) :=
  if f.ascii then none
  else
    match skip f cs with
    | [] => none
    | '\\' :: _ => none
    | '\x7b' :: rest => do
      let (text, rest) ← braced? f (rest.length + 1) rest
      let (others, t) ← bracedClass? text
      some (.set (negated != others) (f.fold t), rest)
    | c :: rest => (namedClass? [c]).map fun t => (.set negated (f.fold t), rest)

def escape? (f : Flags) : List Char → Option (Escape × List Char)
  | [] => none
  | c :: rest =>
    match c with
    | 'x' => (codePoint? f 2 rest).map fun (c, r) => (.char c, r)
    | 'u' => (codePoint? f 4 rest).map fun (c, r) => (.char c, r)
    | 'U' => (codePoint? f 8 rest).map fun (c, r) => (.char c, r)
    | 'd' => some (.set false (digitSet f.ascii), rest)
    | 'D' => some (.set true (digitSet f.ascii), rest)
    | 's' => some (.set false (spaceSet f.ascii), rest)
    | 'S' => some (.set true (spaceSet f.ascii), rest)
    | 'w' => some (.set false (wordSet f.ascii), rest)
    | 'W' => some (.set true (wordSet f.ascii), rest)
    | 'p' => unicodeClass? f false rest
    | 'P' => unicodeClass? f true rest
    | 'a' => some (.char '\x07', rest)
    | 'f' => some (.char '\x0c', rest)
    | 't' => some (.char '\t', rest)
    | 'n' => some (.char '\n', rest)
    | 'r' => some (.char '\r', rest)
    | 'v' => some (.char '\x0b', rest)
    | 'A' => some (.position .textStart, rest)
    | 'z' => some (.position .textEnd, rest)
    | 'b' => boundary? f rest
    | 'B' => some (.position (.noWordBoundary f.ascii), rest)
    | '<' => some (.position (.wordStart f.ascii), rest)
    | '>' => some (.position (.wordEnd f.ascii), rest)
    | c => if isMeta c || isPlainEscape c then some (.char c, rest) else none

/-! ## Bracketed sets -/

def namedSet? (name : List Char) : Option RangeTable :=
  let digit : RangeTable := [(0x30, 0x39)]
  let upper : RangeTable := [(0x41, 0x5a)]
  let lower : RangeTable := [(0x61, 0x7a)]
  match String.ofList name with
  | "alnum" => some (digit ++ upper ++ lower)
  | "alpha" => some (upper ++ lower)
  | "ascii" => some [(0, 0x7f)]
  | "blank" => some [(0x09, 0x09), (0x20, 0x20)]
  | "cntrl" => some [(0, 0x1f), (0x7f, 0x7f)]
  | "digit" => some digit
  | "graph" => some [(0x21, 0x7e)]
  | "lower" => some lower
  | "print" => some [(0x20, 0x7e)]
  | "punct" => some [(0x21, 0x2f), (0x3a, 0x40), (0x5b, 0x60), (0x7b, 0x7e)]
  | "space" => some [(0x09, 0x0d), (0x20, 0x20)]
  | "upper" => some upper
  | "word" => some (digit ++ upper ++ [(0x5f, 0x5f)] ++ lower)
  | "xdigit" => some (digit ++ [(0x41, 0x46), (0x61, 0x66)])
  | _ => none

/-- A named set such as `[:alpha:]`, after its opening bracket; `none` if the text is none. -/
def colonSet? : List Char → Option (RangeTable × List Char)
  | ':' :: cs =>
    let (negated, cs) := match cs with
      | '^' :: r => (true, r)
      | r => (false, r)
    let name := cs.takeWhile (· ≠ ':')
    match cs.drop name.length with
    | ':' :: ']' :: rest =>
      (namedSet? name).map fun t => (if negated then t.complement else t, rest)
    | _ => none
  | _ => none

/-- One end of a range, or a set. -/
inductive SetItem where
  | char (c : Char)
  | set (t : RangeTable)

/-- A character or an escape inside brackets; positions have no meaning there. -/
def setItem? (f : Flags) : List Char → Option (SetItem × List Char)
  | [] => none
  | '\\' :: rest =>
    match escape? f rest with
    | some (.char c, rest) => some (.char c, rest)
    | some (.set negated t, rest) => (f.signed? negated t).map fun t => (.set t, rest)
    | _ => none
  | c :: rest => some (.char c, rest)

def SetItem.toSet : SetItem → RangeTable
  | .char c => singleton c
  | .set t => t

def setRange? (f : Flags) (cs : List Char) : Option (RangeTable × List Char) := do
  let (item, rest) ← setItem? f cs
  match skip f rest with
  | '-' :: after =>
    match (skip f after).head? with
    | none => none
    | some ']' => some (item.toSet, skip f rest)
    | some '-' => some (item.toSet, skip f rest)
    | some _ =>
      match item, ← setItem? f (skip f after) with
      | .char lo, (.char hi, rest) =>
        if lo ≤ hi then some ([(lo.toNat, hi.toNat)], rest) else none
      | _, _ => none
  | rest => some (item.toSet, rest)

inductive SetOp where
  | inter
  | diff
  | symmDiff

def setOp? : List Char → Option (SetOp × List Char)
  | '&' :: '&' :: rest => some (.inter, rest)
  | '-' :: '-' :: rest => some (.diff, rest)
  | '~' :: '~' :: rest => some (.symmDiff, rest)
  | _ => none

/-- What stands before the place that is read inside brackets: an operator with its left side, and the
items of the side that is read. -/
structure SetSoFar where
  left : Option (SetOp × RangeTable)
  items : RangeTable
  depth : Nat

def SetSoFar.add (s : SetSoFar) (t : RangeTable) (depth : Nat) : SetSoFar :=
  { s with items := t ++ s.items, depth := max s.depth depth }

def SetSoFar.value (f : Flags) (s : SetSoFar) : RangeTable :=
  let right := RangeTable.ofRanges s.items
  match s.left with
  | none => right
  | some (.inter, left) => (f.fold left).inter (f.fold right)
  | some (.diff, left) => (f.fold left).diff (f.fold right)
  | some (.symmDiff, left) => (f.fold left).symmDiff (f.fold right)

mutual
def bracket? (f : Flags) : Nat → List Char → Option (RangeTable × Nat × List Char)
  | 0, _ => none
  | fuel + 1, cs =>
    let (negated, cs) := match skip f cs with
      | '^' :: r => (true, skip f r)
      | r => (false, r)
    let dashes := cs.takeWhile (· = '-')
    let items : RangeTable := if dashes.isEmpty then [] else singleton '-'
    let (items, cs) := match dashes.isEmpty, cs.drop dashes.length with
      | true, ']' :: r => (singleton ']', r)
      | _, r => (items, r)
    match bracketRest? f fuel ⟨none, items, 1⟩ cs with
    | none => none
    | some (t, depth, rest) => (f.signed? negated (f.fold t)).map (·, depth + 1, rest)
def bracketRest? (f : Flags) : Nat → SetSoFar → List Char → Option (RangeTable × Nat × List Char)
  | 0, _, _ => none
  | fuel + 1, soFar, cs =>
    match skip f cs with
    | [] => none
    | ']' :: rest => some (soFar.value f, soFar.depth, rest)
    | '[' :: rest =>
      match colonSet? rest with
      | some (t, rest) => bracketRest? f fuel (soFar.add t 0) rest
      | none =>
        match bracket? f fuel rest with
        | none => none
        | some (t, depth, rest) => bracketRest? f fuel (soFar.add t depth) rest
    | cs =>
      match setOp? cs with
      | some (op, rest) =>
        bracketRest? f fuel ⟨some (op, soFar.value f), [], soFar.depth + 1⟩ rest
      | none =>
        match setRange? f cs with
        | none => none
        | some (t, rest) =>
          if f.ascii && t.any (fun r => 0x7f < r.2) then none
          else bracketRest? f fuel (soFar.add t 0) rest
end

/-! ## Repetitions -/

def countMax : Nat := 4294967295

def count? (cs : List Char) : Option (Nat × List Char) :=
  let cs := cs.dropWhile isBlank
  let ds := cs.takeWhile Char.isDigit
  let n := Text.Decimal.value ds
  if ds.isEmpty ∨ countMax < n then none else some (n, (cs.drop ds.length).dropWhile isBlank)

def bounds? (f : Flags) (cs : List Char) : Option (Nat × Option Nat × List Char) := do
  let (least, rest) ← count? (skip f cs)
  match rest with
  | '\x7d' :: rest => some (least, some least, rest)
  | ',' :: rest =>
    match skip f rest with
    | '\x7d' :: rest => some (least, none, rest)
    | rest =>
      let (most, rest) ← count? rest
      match rest with
      | '\x7d' :: rest => if least ≤ most then some (least, some most, rest) else none
      | _ => none
  | _ => none

/-! ## Groups -/

/-- The flags between `(?` and `:` or `)`: the flags they make of those in force, the character that ends
them, and the rest. -/
def flagLetters? (f : Flags) (cs : List Char) : Option (Flags × Char × Bool × List Char) :=
  let letters := cs.takeWhile fun c => c ≠ ':' ∧ c ≠ ')'
  match cs.drop letters.length with
  | [] => none
  | stop :: rest =>
    let applied := letters.foldl
      (fun s c => s.bind fun (s : Flags × Bool) =>
        if c = '-' then some (s.1, false) else (s.1.put? c s.2).map (·, s.2))
      (some (f, true))
    if letters.Nodup ∧ letters.getLast? ≠ some '-' then
      applied.map fun s => (s.1, stop, letters.isEmpty, rest)
    else none

def groupName? (cs : List Char) : Option (List Char × List Char) :=
  let isLetter (c : Char) : Bool := Text.alphabeticRanges.contains c.toNat
  let isNumber (c : Char) : Bool := Text.numericRanges.contains c.toNat
  let name := cs.takeWhile (· ≠ '>')
  let first := match name with
    | [] => false
    | c :: _ => c = '_' || isLetter c
  let others := (name.drop 1).all fun c =>
    c = '_' || c = '.' || c = '[' || c = ']' || isLetter c || isNumber c
  match cs.drop name.length with
  | '>' :: rest => if first && others then some (name, rest) else none
  | _ => none

inductive Opening where
  | capture (name : Option (List Char))
  | plain (flags : Flags)
  | setFlags (flags : Flags)

def opening? (f : Flags) (cs : List Char) : Option (Opening × List Char) :=
  match skip f cs with
  | '?' :: '=' :: _ => none
  | '?' :: '!' :: _ => none
  | '?' :: '<' :: '=' :: _ => none
  | '?' :: '<' :: '!' :: _ => none
  | '?' :: 'P' :: '<' :: rest => (groupName? rest).map fun (n, r) => (.capture (some n), r)
  | '?' :: '<' :: rest => (groupName? rest).map fun (n, r) => (.capture (some n), r)
  | '?' :: rest =>
    match flagLetters? f rest with
    | none => none
    | some (flags, ')', none?, rest) => if none? then none else some (.setFlags flags, rest)
    | some (flags, _, _, rest) => some (.plain flags, rest)
  | rest => some (.capture none, rest)

/-! ## Sequences and choices -/

/-- What is read of a choice: the branches before this one and the items of this one, last first. An item
that is `none` is a change of flags, which cannot be repeated. -/
structure Branches where
  done : List Part
  items : List (Option Part)

def maxDepth (ps : List Part) : Nat := (ps.map (·.depth)).foldl max 0

def Branches.current (b : Branches) : Part :=
  let parts := b.items.reverse.filterMap id
  let deeper := if 2 ≤ b.items.length then 1 else 0
  ⟨Node.ofSequence (parts.map (·.node)), maxDepth parts + deeper⟩

def Branches.close (b : Branches) : Part :=
  let parts := (b.current :: b.done).reverse
  let deeper := if 2 ≤ parts.length then 1 else 0
  ⟨Node.ofChoices (parts.map (·.node)), maxDepth parts + deeper⟩

def Branches.add (b : Branches) (p : Part) : Branches := { b with items := some p :: b.items }

def Branches.next (b : Branches) : Branches := ⟨b.current :: b.done, []⟩

def Branches.repeatLast? (b : Branches) (least : Nat) (most : Option Nat) (greedy : Bool) :
    Option Branches :=
  match b.items with
  | some p :: items =>
    some { b with items := some ⟨.repetition least most greedy p.node, p.depth + 1⟩ :: items }
  | _ => none

def greedy (f : Flags) : List Char → Bool × List Char
  | '?' :: rest => (f.swapGreed, rest)
  | rest => (!f.swapGreed, rest)

def Flags.caret (f : Flags) : Position :=
  if f.multiLine then if f.crlf then .lineStartCrlf else .lineStart else .textStart

def Flags.dollar (f : Flags) : Position :=
  if f.multiLine then if f.crlf then .lineEndCrlf else .lineEnd else .textEnd

def Flags.dot? (f : Flags) : Option RangeTable :=
  if f.ascii then none
  else if f.dotAll then some [(0, RangeTable.lastCodePoint)]
  else if f.crlf then some (RangeTable.complement [(0x0a, 0x0a), (0x0d, 0x0d)])
  else some (RangeTable.complement [(0x0a, 0x0a)])

def Escape.part? (f : Flags) : Escape → Option Part
  | .char c => some ⟨.set (f.literal c), 0⟩
  | .set negated t => (f.signed? negated t).map fun t => ⟨.set t, 0⟩
  | .position p => some ⟨.position p, 0⟩

/-- A choice up to the end of its group, or of the text for the outermost one. -/
def choices? : Nat → Bool → Branches → Cursor → Option (Part × Cursor)
  | 0, _, _, _ => none
  | fuel + 1, nested, b, cur =>
    let f := cur.flags
    let plain (p : Part) (rest : List Char) : Option (Part × Cursor) :=
      choices? fuel nested (b.add p) { cur with rest := rest }
    let repeated (least : Nat) (most : Option Nat) (rest : List Char) : Option (Part × Cursor) :=
      let (isGreedy, rest) := greedy f rest
      (b.repeatLast? least most isGreedy).bind fun b =>
        choices? fuel nested b { cur with rest := rest }
    match skip f cur.rest with
    | [] => if nested then none else some (b.close, { cur with rest := [] })
    | ')' :: rest => if nested then some (b.close, { cur with rest := rest }) else none
    | '|' :: rest => choices? fuel nested b.next { cur with rest := rest }
    | '?' :: rest => repeated 0 (some 1) rest
    | '*' :: rest => repeated 0 none rest
    | '+' :: rest => repeated 1 none rest
    | '\x7b' :: rest =>
      (bounds? f rest).bind fun (least, most, rest) => repeated least most (skip f rest)
    | '[' :: rest =>
      (bracket? f (2 * rest.length + 2) rest).bind fun (t, depth, rest) => plain ⟨.set t, depth⟩ rest
    | '\\' :: rest =>
      (escape? f rest).bind fun (e, rest) => (e.part? f).bind fun p => plain p rest
    | '.' :: rest => f.dot?.bind fun t => plain ⟨.set t, 0⟩ rest
    | '^' :: rest => plain ⟨.position f.caret, 0⟩ rest
    | '$' :: rest => plain ⟨.position f.dollar, 0⟩ rest
    | '(' :: rest =>
      match opening? f rest with
      | none => none
      | some (.setFlags flags, rest) =>
        choices? fuel nested { b with items := none :: b.items }
          { cur with rest := rest, flags := flags }
      | some (.plain flags, rest) =>
        (choices? fuel true ⟨[], []⟩ { cur with rest := rest, flags := flags }).bind
          fun (body, after) =>
            choices? fuel nested (b.add ⟨.group none body.node, body.depth + 1⟩)
              { after with flags := f }
      | some (.capture name, rest) =>
        if name.any cur.names.contains then none
        else
          let index := cur.captures + 1
          (choices? fuel true ⟨[], []⟩ ⟨rest, f, index, name.toList ++ cur.names⟩).bind
            fun (body, after) =>
              choices? fuel nested (b.add ⟨.group (some index) body.node, body.depth + 1⟩)
                { after with flags := f }
    | c :: rest => plain ⟨.set (f.literal c), 0⟩ rest

def nestLimit : Nat := 250

def Node.parse? (text : String) : Option Node :=
  let cs := text.toList
  (choices? (cs.length + 1) false ⟨[], []⟩ ⟨cs, {}, 0, []⟩).bind fun (p, _) =>
    if p.depth ≤ nestLimit then some p.node else none

end LogTail.Pattern
