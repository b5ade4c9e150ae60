/-!
# Decimal numbers

Runs of ASCII digits and the numbers they spell. Leading zeros are allowed; the formats that forbid them
say so themselves.
-/

namespace LogTail.Text.Decimal

def value (digits : List Char) : Nat := digits.foldl (fun n c => n * 10 + (c.toNat - 0x30)) 0

def toNat? (cs : List Char) : Option Nat :=
  if cs.isEmpty || !cs.all Char.isDigit then none else some (value cs)

end LogTail.Text.Decimal
