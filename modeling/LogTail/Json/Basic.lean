/-!
# JSON values

A JSON value keeps what its text says: the digits of a number that is no integer, the order of an
object's entries, and their repetitions. `canonical?` is the form in which a document holds a value:
sorted keys, the last of two entries of one key, numbers that a word or a double can hold.
-/

namespace LogTail

/-- A number as it is written: a sign and a word, or a significand of at most a word with a power of
ten. -/
inductive Json.Number where
  | integer (negative : Bool) (magnitude : Nat)
  | decimal (negative : Bool) (digits : Nat) (exponent : Int)
  deriving DecidableEq

/-- A JSON value. `unpaired` is a string whose escapes name half of a surrogate pair, so that it is no
text. -/
inductive Json where
  | null
  | bool (b : Bool)
  | number (n : Json.Number)
  | string (s : String)
  | unpaired
  | array (items : List Json)
  | object (entries : List (String × Json))

namespace Json

instance : Inhabited Json := ⟨.null⟩

def ofNat (n : Nat) : Json := .number (.integer false n)

def ofInt (i : Int) : Json := .number (.integer (decide (i < 0)) i.natAbs)

def ofList {α : Type} (f : α → Json) (xs : List α) : Json := .array (xs.map f)

def wordMax : Nat := 18446744073709551615

/-- The integer a number is. Minus zero is none: it is kept as a number with a fraction. -/
def Number.toInt? : Number → Option Int
  | .integer false n => some n
  | .integer true n => if n = 0 then none else some (-n)
  | .decimal .. => none

def toIntIn? (lo hi : Int) : Json → Option Int
  | .number n => n.toInt?.bind fun i => if lo ≤ i ∧ i ≤ hi then some i else none
  | _ => none

def toNatUpTo? (hi : Nat) (j : Json) : Option Nat := (j.toIntIn? 0 hi).map Int.toNat

def toWord? (j : Json) : Option Nat := j.toNatUpTo? wordMax

/-- The largest number of a signed word; the least is one below its negative. -/
def signedMax : Nat := 9223372036854775807

def toSigned? (j : Json) : Option Int := j.toIntIn? (-signedMax - 1) signedMax

def toBool? : Json → Option Bool
  | .bool b => some b
  | _ => none

def toText? : Json → Option String
  | .string s => some s
  | _ => none

def toArray? : Json → Option (List Json)
  | .array items => some items
  | _ => none

def toObject? : Json → Option (List (String × Json))
  | .object entries => some entries
  | _ => none

/-- The value of the last entry with a key, if the value is an object that has one. -/
def get? (key : String) : Json → Option Json
  | .object entries => (entries.reverse.find? fun e => e.1 == key).map (·.2)
  | _ => none

/-- Whether one list of characters stands before another in the order of code points. -/
def charsLess : List Char → List Char → Bool
  | _, [] => false
  | [], _ :: _ => true
  | a :: as, b :: bs => if a = b then charsLess as bs else a.toNat < b.toNat

def keyLess (a b : String) : Bool := charsLess a.toList b.toList

/-- Puts an entry into entries with increasing keys, in place of the one with the same key. -/
def insertSorted {α : Type} (key : String) (value : α) : List (String × α) → List (String × α)
  | [] => [(key, value)]
  | (k, v) :: rest =>
    if keyLess key k then (key, value) :: (k, v) :: rest
    else if key = k then (key, value) :: rest
    else (k, v) :: insertSorted key value rest

mutual
def depth : Json → Nat
  | .array items => depthItems items + 1
  | .object entries => depthEntries entries + 1
  | _ => 0
def depthItems : List Json → Nat
  | [] => 0
  | j :: rest => max j.depth (depthItems rest)
def depthEntries : List (String × Json) → Nat
  | [] => 0
  | (_, j) :: rest => max j.depth (depthEntries rest)
end

end Json

end LogTail
