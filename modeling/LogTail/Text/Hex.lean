import LogTail.Text.Utf8

/-!
# Hexadecimal

Numbers and bytes in base sixteen, with lower case digits.
-/

namespace LogTail.Text.Hex

def digit (n : Nat) : Char := if n < 10 then Char.ofNat (0x30 + n) else Char.ofNat (0x57 + n)

def value? (c : Char) : Option Nat :=
  if '0' ≤ c && c ≤ '9' then some (c.toNat - 0x30)
  else if 'a' ≤ c && c ≤ 'f' then some (c.toNat - 0x57)
  else if 'A' ≤ c && c ≤ 'F' then some (c.toNat - 0x37)
  else none

def ofByte (b : UInt8) : List Char := [digit (b.toNat / 16), digit (b.toNat % 16)]

def ofBytes (bs : Bytes) : String := String.ofList (bs.flatMap ofByte)

def ofNat (n : Nat) : String := String.ofList (Nat.toDigits 16 n)

def ofNatPadded (width n : Nat) : String :=
  let digits := Nat.toDigits 16 n
  String.ofList (List.replicate (width - digits.length) '0' ++ digits)

def toNat? (digits : List Char) : Option Nat :=
  if digits.isEmpty then none
  else digits.foldl (fun n c => n.bind fun n => (value? c).map (n * 16 + ·)) (some 0)

end LogTail.Text.Hex
