import LogTail.Json.Basic
import LogTail.Text.Hex

/-!
# Writing JSON

Two layouts: compact, without a blank; and indented, two blanks a level, one line an entry. Both escape
quotes, backslashes and control characters, and nothing else.
-/

namespace LogTail.Json

def escape (c : Char) : List Char :=
  if c = '"' then ['\\', '"']
  else if c = '\\' then ['\\', '\\']
  else if c = '\n' then ['\\', 'n']
  else if c = '\r' then ['\\', 'r']
  else if c = '\t' then ['\\', 't']
  else if c = '\x08' then ['\\', 'b']
  else if c = '\x0c' then ['\\', 'f']
  else if c.toNat < 0x20 then ['\\', 'u', '0', '0'] ++ Text.Hex.ofByte (UInt8.ofNat c.toNat)
  else [c]

def quote (s : String) : List Char := '"' :: s.toList.flatMap escape ++ ['"']

/-- A power of ten; it has a sign in both directions. -/
def powerText (power : Int) : List Char :=
  'e' :: (if power < 0 then '-' else '+') :: Nat.toDigits 10 power.natAbs

/-- A decimal: with a point up to the sixteenth place before it and the fifth after it, else with a power
of ten. -/
def decimalText (digits : Nat) (exponent : Int) : List Char :=
  let ds := Nat.toDigits 10 digits
  let place := exponent + ds.length
  if digits = 0 then ['0', '.', '0']
  else if 0 ≤ exponent ∧ place ≤ 16 then ds ++ List.replicate exponent.toNat '0' ++ ['.', '0']
  else if 0 < place ∧ place ≤ 16 then ds.take place.toNat ++ '.' :: ds.drop place.toNat
  else if -5 < place ∧ place ≤ 0 then ['0', '.'] ++ List.replicate (-place).toNat '0' ++ ds
  else
    match ds with
    | [d] => d :: powerText (place - 1)
    | d :: rest => d :: '.' :: rest ++ powerText (place - 1)
    | [] => []

def Number.text : Number → List Char
  | .integer negative n => if negative then '-' :: Nat.toDigits 10 n else Nat.toDigits 10 n
  | .decimal negative digits exponent =>
    if negative then '-' :: decimalText digits exponent else decimalText digits exponent

mutual
def compact : Json → List Char
  | .null => "null".toList
  | .bool true => "true".toList
  | .bool false => "false".toList
  | .number n => n.text
  | .string s => quote s
  | .unpaired => quote "\ufffd"
  | .array items => '[' :: compactItems items ++ [']']
  | .object entries => '\x7b' :: compactEntries entries ++ ['\x7d']
def compactItems : List Json → List Char
  | [] => []
  | [j] => j.compact
  | j :: rest => j.compact ++ ',' :: compactItems rest
def compactEntries : List (String × Json) → List Char
  | [] => []
  | [(k, j)] => quote k ++ ':' :: j.compact
  | (k, j) :: rest => quote k ++ ':' :: j.compact ++ ',' :: compactEntries rest
end

def newline (level : Nat) : List Char := '\n' :: List.replicate (2 * level) ' '

mutual
def indented (level : Nat) : Json → List Char
  | .array [] => ['[', ']']
  | .array items =>
    '[' :: newline (level + 1) ++ indentedItems (level + 1) items ++ newline level ++ [']']
  | .object [] => ['\x7b', '\x7d']
  | .object entries =>
    '\x7b' :: newline (level + 1) ++ indentedEntries (level + 1) entries ++ newline level ++ ['\x7d']
  | j => j.compact
def indentedItems (level : Nat) : List Json → List Char
  | [] => []
  | [j] => j.indented level
  | j :: rest => j.indented level ++ ',' :: newline level ++ indentedItems level rest
def indentedEntries (level : Nat) : List (String × Json) → List Char
  | [] => []
  | [(k, j)] => quote k ++ ':' :: ' ' :: j.indented level
  | (k, j) :: rest =>
    quote k ++ ':' :: ' ' :: j.indented level ++ ',' :: newline level ++ indentedEntries level rest
end

def render (j : Json) : String := String.ofList j.compact

def pretty (j : Json) : String := String.ofList (j.indented 0)

end LogTail.Json
