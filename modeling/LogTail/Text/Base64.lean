import LogTail.Text.Utf8

/-!
# Base 64

The standard alphabet with padding. Three bytes are four letters; one or two last bytes leave bits over,
which are zero, and are filled up with `=`.

* `decode?` accepts exactly the texts that `encode` writes.
-/

namespace LogTail.Text.Base64

def letter (n : Nat) : Char :=
  if n < 26 then Char.ofNat (0x41 + n)
  else if n < 52 then Char.ofNat (0x61 + (n - 26))
  else if n < 62 then Char.ofNat (0x30 + (n - 52))
  else if n = 62 then '+' else '/'

def value? (c : Char) : Option Nat :=
  if 'A' ≤ c && c ≤ 'Z' then some (c.toNat - 0x41)
  else if 'a' ≤ c && c ≤ 'z' then some (c.toNat - 0x61 + 26)
  else if '0' ≤ c && c ≤ '9' then some (c.toNat - 0x30 + 52)
  else if c = '+' then some 62
  else if c = '/' then some 63
  else none

/-- Writes the letters of a byte string in front of the letters written before, last letter first. -/
def encodeOnto (written : List Char) : Bytes → List Char
  | a :: b :: c :: rest =>
    let n := a.toNat * 65536 + b.toNat * 256 + c.toNat
    encodeOnto
      (letter (n % 64) :: letter (n / 64 % 64) :: letter (n / 4096 % 64) :: letter (n / 262144)
        :: written) rest
  | [a, b] =>
    let n := a.toNat * 1024 + b.toNat * 4
    '=' :: letter (n % 64) :: letter (n / 64 % 64) :: letter (n / 4096) :: written
  | [a] => '=' :: '=' :: letter (a.toNat % 4 * 16) :: letter (a.toNat / 4) :: written
  | [] => written

def encode (bs : Bytes) : String := String.ofList (encodeOnto [] bs).reverse

/-- Puts the bytes of a list of letters in front of the bytes read before, last byte first; `none` for a
foreign letter, missing or surplus padding, or bits left over that are not zero. -/
def decodeOnto (read : Bytes) : List Char → Option Bytes
  | [] => some read
  | a :: b :: c :: d :: rest =>
    match value? a, value? b, value? c, value? d with
    | some a, some b, some c, some d =>
      let n := a * 262144 + b * 4096 + c * 64 + d
      decodeOnto
        (UInt8.ofNat (n % 256) :: UInt8.ofNat (n / 256 % 256) :: UInt8.ofNat (n / 65536) :: read) rest
    | some a, some b, some c, none =>
      if d = '=' ∧ rest = [] ∧ c % 4 = 0 then
        some (UInt8.ofNat (b % 16 * 16 + c / 4) :: UInt8.ofNat (a * 4 + b / 16) :: read)
      else none
    | some a, some b, none, none =>
      if c = '=' ∧ d = '=' ∧ rest = [] ∧ b % 16 = 0 then some (UInt8.ofNat (a * 4 + b / 16) :: read)
      else none
    | _, _, _, _ => none
  | _ => none

/-- The bytes a text stands for, if it is written as `encode` writes. -/
def decode? (s : String) : Option Bytes := (decodeOnto [] s.toList).map List.reverse

end LogTail.Text.Base64
