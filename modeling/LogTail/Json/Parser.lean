import LogTail.Json.Basic
import LogTail.Text.Decimal
import LogTail.Text.Double
import LogTail.Text.Hex

/-!
# Reading JSON

The strict grammar: no leading zeros, no bare control characters, no text after the value but blanks.
Arrays and objects nest as deep as the text does; the fuel is one step a character, and every step takes
one.
-/

namespace LogTail.Json

def isSpace (c : Char) : Bool := c = ' ' || c = '\n' || c = '\r' || c = '\t'

def skipSpace (cs : List Char) : List Char := cs.dropWhile isSpace

def keyword? (word cs : List Char) : Option (List Char) :=
  if cs.take word.length = word then some (cs.drop word.length) else none

def unit? : List Char → Option (Nat × List Char)
  | a :: b :: c :: d :: rest => (Text.Hex.toNat? [a, b, c, d]).map (·, rest)
  | _ => none

def shortEscape? : Char → Option Char
  | '"' => some '"'
  | '\\' => some '\\'
  | '/' => some '/'
  | 'b' => some '\x08'
  | 'f' => some '\x0c'
  | 'n' => some '\n'
  | 'r' => some '\r'
  | 't' => some '\t'
  | _ => none

/-- One part of a string: a character, half of a surrogate pair on its own, or the closing quote; with
what follows it. -/
inductive StringPart where
  | char (c : Char) (rest : List Char)
  | unpaired (rest : List Char)
  | close (rest : List Char)

/-- The part at the front of a string; `none` for a bare control character, an unknown escape or the
end of the text. -/
def stringPart? : List Char → Option StringPart
  | [] => none
  | '"' :: rest => some (.close rest)
  | '\\' :: 'u' :: rest => do
    let (high, rest) ← unit? rest
    if 0xdc00 ≤ high ∧ high < 0xe000 then some (.unpaired rest)
    else if 0xd800 ≤ high ∧ high < 0xdc00 then
      match rest with
      | '\\' :: 'u' :: rest' =>
        let (low, rest') ← unit? rest'
        if 0xdc00 ≤ low ∧ low < 0xe000 then
          some (.char (Char.ofNat (0x10000 + (high - 0xd800) * 0x400 + (low - 0xdc00))) rest')
        else some (.unpaired rest)
      | _ => some (.unpaired rest)
    else some (.char (Char.ofNat high) rest)
  | '\\' :: c :: rest => (shortEscape? c).map (.char · rest)
  | ['\\'] => none
  | c :: rest => if c.toNat < 0x20 then none else some (.char c rest)

/-- The string up to its closing quote; `read` holds the characters before, the last one first, and is
`none` when one of them was no character. -/
def stringFrom : Nat → Option (List Char) → List Char → Option (Option String × List Char)
  | 0, _, _ => none
  | fuel + 1, read, cs =>
    match stringPart? cs with
    | none => none
    | some (.close rest) => some (read.map fun r => String.ofList r.reverse, rest)
    | some (.char c rest) => stringFrom fuel (read.map (c :: ·)) rest
    | some (.unpaired rest) => stringFrom fuel none rest

def string? (cs : List Char) : Option (Option String × List Char) :=
  stringFrom (cs.length + 1) (some []) cs

/-- Takes digits up behind a significand as long as it fits a word: the significand then, and how many
digits were not taken. -/
def takeDigits (significand : Nat) : List Char → Nat × Nat
  | [] => (significand, 0)
  | d :: rest =>
    let next := significand * 10 + Text.Decimal.value [d]
    if wordMax < next then (significand, rest.length + 1) else takeDigits next rest

def fractionDigits? : List Char → Option (List Char × List Char)
  | '.' :: rest =>
    let ds := rest.takeWhile Char.isDigit
    if ds.isEmpty then none else some (ds, rest.drop ds.length)
  | cs => some ([], cs)

def exponent? : List Char → Option (Option Int × List Char)
  | c :: rest =>
    if c = 'e' ∨ c = 'E' then
      let (negative, rest) := match rest with
        | '-' :: r => (true, r)
        | '+' :: r => (false, r)
        | r => (false, r)
      let ds := rest.takeWhile Char.isDigit
      if ds.isEmpty then none
      else
        let n : Int := Text.Decimal.value ds
        some (some (if negative then -n else n), rest.drop ds.length)
    else some (none, c :: rest)
  | [] => some (none, [])

/-- The number of its digits: an integer that fits a word is kept as it is. Digits of the whole part that
do not fit raise the power of ten, and those of the fraction count for nothing. -/
def Number.ofDigits (negative : Bool) (whole fraction : List Char) (power : Option Int) : Number :=
  let (significand, raised) := takeDigits 0 whole
  if raised = 0 ∧ fraction.isEmpty ∧ power.isNone then .integer negative significand
  else
    let (significand, unused) := takeDigits significand fraction
    let lowered : Int := fraction.length - unused
    .decimal negative significand (power.getD 0 + raised - lowered)

def number? (cs : List Char) : Option (Number × List Char) := do
  let (negative, cs) := match cs with
    | '-' :: r => (true, r)
    | r => (false, r)
  let whole := cs.takeWhile Char.isDigit
  let leadingZero := whole.head? = some '0' ∧ whole.length ≠ 1
  if whole.isEmpty ∨ leadingZero then none
  else
    let (fraction, rest) ← fractionDigits? (cs.drop whole.length)
    let (power, rest) ← exponent? rest
    some (.ofDigits negative whole fraction power, rest)

mutual
def value? : Nat → List Char → Option (Json × List Char)
  | 0, _ => none
  | fuel + 1, cs =>
    match skipSpace cs with
    | 'n' :: rest => (keyword? "ull".toList rest).map (.null, ·)
    | 't' :: rest => (keyword? "rue".toList rest).map (.bool true, ·)
    | 'f' :: rest => (keyword? "alse".toList rest).map (.bool false, ·)
    | '"' :: rest =>
      (string? rest).map fun (s, rest) => ((s.map Json.string).getD .unpaired, rest)
    | '[' :: rest =>
      match skipSpace rest with
      | ']' :: rest => some (.array [], rest)
      | rest => (items? fuel rest).map fun (items, rest) => (.array items, rest)
    | '\x7b' :: rest =>
      match skipSpace rest with
      | '\x7d' :: rest => some (.object [], rest)
      | rest => (entries? fuel rest).map fun (entries, rest) => (.object entries, rest)
    | rest => (number? rest).map fun (n, rest) => (.number n, rest)
def items? : Nat → List Char → Option (List Json × List Char)
  | 0, _ => none
  | fuel + 1, cs => do
    let (j, rest) ← value? fuel cs
    match skipSpace rest with
    | ']' :: rest => some ([j], rest)
    | ',' :: rest => (items? fuel rest).map fun (items, rest) => (j :: items, rest)
    | _ => none
def entries? : Nat → List Char → Option (List (String × Json) × List Char)
  | 0, _ => none
  | fuel + 1, cs =>
    match skipSpace cs with
    | '"' :: rest => do
      let (key, rest) ← string? rest
      let key ← key
      match skipSpace rest with
      | ':' :: rest => do
        let (j, rest) ← value? fuel rest
        match skipSpace rest with
        | '\x7d' :: rest => some ([(key, j)], rest)
        | ',' :: rest => (entries? fuel rest).map fun (es, rest) => ((key, j) :: es, rest)
        | _ => none
      | _ => none
    | _ => none
end

def parse? (text : String) : Option Json :=
  let cs := text.toList
  (value? (2 * cs.length + 2) cs).bind fun (j, rest) =>
    if (skipSpace rest).isEmpty then some j else none

/-- What stands in a text for bytes that are no characters: two halves of surrogate pairs that are no pair.
It is no value, and it makes a string `unpaired`. -/
def brokenEscape : List Char := "\\udbff\\ud800".toList

def pieceText : Text.Utf8.Piece → List Char
  | .scalar c => [c]
  | .broken _ => brokenEscape

/-- The value that bytes spell. Bytes that are no characters may stand in a string, which is no text then. -/
def ofBytes? (bytes : Bytes) : Option Json :=
  parse? (String.ofList ((Text.Utf8.pieces bytes).flatMap pieceText))

/-- A number that a word or a double can hold: an integer that fits a word, or the shortest decimal of
the double; none for one that is too large. Minus zero is a double. -/
def Number.canonical? : Number → Option Number
  | .integer false n => some (.integer false n)
  | .integer true n => if n = 0 ∨ signedMax + 1 < n then ofDouble true n 0 else some (.integer true n)
  | .decimal negative digits exponent => ofDouble negative digits exponent
where
  ofDouble (negative : Bool) (significand : Nat) (exponent : Int) : Option Number :=
    (Text.Double.ofParts? significand exponent).map fun d =>
      let (digits, power) := d.shortest
      .decimal negative digits power

mutual
/-- The form in which a document holds a value: keys sorted and unique, the last entry of a key
winning; `none` if a string is no text or a number is too large. -/
def canonical? : Json → Option Json
  | .null => some .null
  | .bool b => some (.bool b)
  | .number n => n.canonical?.map .number
  | .string s => some (.string s)
  | .unpaired => none
  | .array items => (canonicalItems? items).map .array
  | .object entries => (canonicalEntries? entries).map fun es =>
      .object (es.foldl (fun sorted e => insertSorted e.1 e.2 sorted) [])
def canonicalItems? : List Json → Option (List Json)
  | [] => some []
  | j :: rest => do
    let j ← canonical? j
    let rest ← canonicalItems? rest
    some (j :: rest)
def canonicalEntries? : List (String × Json) → Option (List (String × Json))
  | [] => some []
  | (k, j) :: rest => do
    let j ← canonical? j
    let rest ← canonicalEntries? rest
    some ((k, j) :: rest)
end

end LogTail.Json
