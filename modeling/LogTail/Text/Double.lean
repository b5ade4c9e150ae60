/-!
# Doubles

The numbers of 64-bit floating point that are not negative, with the exact rule of rounding: to the
nearest, and a half to the even neighbour.

* `Double.ofParts?` reads a significand with a power of ten as one product or quotient of doubles, so a
  long decimal may come out one unit beside the nearest double.
* `Double.shortest` is the decimal with the fewest digits to which no other double is nearer.
-/

namespace LogTail.Text

/-- A double `mantissa * 2 ^ exponent`, with a mantissa below `2 ^ 53`, and one of at least `2 ^ 52` unless
the exponent is the least one. -/
structure Double where
  mantissa : Nat
  exponent : Int
  deriving DecidableEq

namespace Double

def leastExponent : Int := -1074

def greatestExponent : Int := 971

def mantissaLimit : Nat := Nat.pow 2 53

/-- The double of zero, which has the least exponent. -/
def zero : Double := ⟨0, leastExponent⟩

def power (base : Nat) (e : Int) : Nat × Nat :=
  if 0 ≤ e then (Nat.pow base e.toNat, 1) else (1, Nat.pow base (-e).toNat)

def toFraction (d : Double) : Nat × Nat :=
  let p := power 2 d.exponent
  (d.mantissa * p.1, p.2)

/-- A quotient rounded to the nearest integer, a half to the even one. -/
def roundDiv (num den : Nat) : Nat :=
  let q := num / den
  let twice := 2 * (num % den)
  if twice < den then q else if den < twice then q + 1 else q + q % 2

/-- The double nearest to a fraction; none for one that is too large. -/
def ofFraction? (num den : Nat) : Option Double :=
  let size : Int := (Nat.log2 num : Int) - Nat.log2 den
  let guess := max leastExponent (size - 52)
  let scaled (e : Int) : Nat × Nat := ((power 2 e).2 * num, (power 2 e).1 * den)
  let short := decide (2 * (scaled guess).1 < mantissaLimit * (scaled guess).2)
  let e := if short && leastExponent < guess then guess - 1 else guess
  let m := roundDiv (scaled e).1 (scaled e).2
  let d : Double :=
    if m = 0 then zero else if m = mantissaLimit then ⟨mantissaLimit / 2, e + 1⟩ else ⟨m, e⟩
  if greatestExponent < d.exponent then none else some d

def mul? (a b : Double) : Option Double :=
  let (p, q) := (a.toFraction, b.toFraction)
  ofFraction? (p.1 * q.1) (p.2 * q.2)

def div (a b : Double) : Double :=
  let (p, q) := (a.toFraction, b.toFraction)
  (ofFraction? (p.1 * q.2) (p.2 * q.1)).getD zero

def greatestTen : Nat := 308

def ten (k : Nat) : Double := (ofFraction? (Nat.pow 10 k) 1).getD zero

/-- A double divided by a power of ten, in steps of the greatest one; the fuel is the number of steps. -/
def shrink : Nat → Double → Nat → Double
  | 0, d, _ => d
  | fuel + 1, d, k =>
    if k ≤ greatestTen then d.div (ten k)
    else if d = zero then zero
    else shrink fuel (d.div (ten greatestTen)) (k - greatestTen)

def ofParts? (significand : Nat) (exponent : Int) : Option Double :=
  (ofFraction? significand 1).bind fun d =>
    if exponent < 0 then
      let k := (-exponent).toNat
      some (shrink (k / greatestTen + 1) d k)
    else if exponent ≤ greatestTen then d.mul? (ten exponent.toNat)
    else if d = zero then some zero
    else none

/-! ## Shortest decimals -/

/-- The decimal with `n` digits, at the place of the leading digit `lead`, that reads back as a double: of
the two decimals on both sides of it the nearer, or else the other one. Below a power of two the doubles
lie closer than above it, so the nearer decimal may belong to another double when the other does not. -/
def digitsAt? (d : Double) (lead : Int) (n : Nat) : Option (Nat × Int) :=
  let place := lead - n + 1
  let b := d.toFraction
  let t := power 10 place
  let below := b.1 * t.2 / (b.2 * t.1)
  let nearer := roundDiv (b.1 * t.2) (b.2 * t.1)
  let other := if nearer = below then below + 1 else below
  ([nearer, other].find? fun digits => ofFraction? (digits * t.1) t.2 = some d).map fun digits =>
    if digits = Nat.pow 10 n then (1, place + n) else (digits, place)

def leadPlace (d : Double) : Int :=
  let b := d.toFraction
  if b.2 ≤ b.1 then ((Nat.toDigits 10 (b.1 / b.2)).length : Int) - 1
  else
    let zeros := (Nat.toDigits 10 (b.2 / b.1)).length
    if Nat.pow 10 (zeros - 1) * b.1 = b.2 then 1 - (zeros : Int) else -(zeros : Int)

/-- The shortest decimal to which a double is the nearest, as digits and a power of ten. -/
def shortest (d : Double) : Nat × Int :=
  if d.mantissa = 0 then (0, 0)
  else
    let lead := d.leadPlace
    ((List.range 17).findSome? fun n => d.digitsAt? lead (n + 1)).getD (d.mantissa, 0)

end Double

end LogTail.Text
