import LogTail.Text.Utf8

/-!
# Encodings of log files

A file is a sequence of code units of one, two or four bytes. Records end with the unit of a line feed;
a byte 0x0A inside a wider unit, or across two units, ends nothing.

* `terminator?` gives the first line feed at a multiple of the unit, and where the content before it
  ends: in front of one carriage return, if there is one.
* `decode` is total: bytes that spell no character become U+FFFD, and a last unit that is not complete
  counts for nothing (for UTF-8 it is a broken character).
* `encode` writes what `decode` reads.
-/

namespace LogTail

/-- The encoding of a watched file. -/
inductive Encoding where
  | utf8
  | latin1
  | utf16le
  | utf16be
  | utf32le
  | utf32be
  deriving DecidableEq, Inhabited

namespace Encoding

def unit : Encoding → Nat
  | utf8 | latin1 => 1
  | utf16le | utf16be => 2
  | utf32le | utf32be => 4

def asciiUnit (e : Encoding) (b : UInt8) : Bytes :=
  match e with
  | utf8 | latin1 => [b]
  | utf16le => [b, 0]
  | utf16be => [0, b]
  | utf32le => [b, 0, 0, 0]
  | utf32be => [0, 0, 0, b]

def lineFeed (e : Encoding) : Bytes := e.asciiUnit 0x0a

def carriageReturn (e : Encoding) : Bytes := e.asciiUnit 0x0d

/-- Takes one byte: the units that are complete, last first, and the bytes of one that is not. -/
def addByte (e : Encoding) (soFar : List Bytes × Bytes) (b : UInt8) : List Bytes × Bytes :=
  let unit := soFar.2 ++ [b]
  if unit.length < e.unit then (soFar.1, unit) else (unit :: soFar.1, [])

def units (e : Encoding) (bs : Bytes) : List Bytes := (bs.foldl e.addByte ([], [])).1.reverse

/-- The first line feed from an offset on, which is a multiple of the unit; `unit` holds the bytes read
since, and `afterReturn` says whether a carriage return ends at the offset. -/
def terminatorFrom (e : Encoding) (offset : Nat) (unit : Bytes) (afterReturn : Bool) :
    Bytes → Option (Nat × Nat)
  | [] => none
  | b :: rest =>
    let unit := unit ++ [b]
    if unit.length < e.unit then terminatorFrom e offset unit afterReturn rest
    else if unit = e.lineFeed then
      some (if afterReturn then offset - e.unit else offset, offset + e.unit)
    else terminatorFrom e (offset + e.unit) [] (unit = e.carriageReturn) rest

/-- The first record terminator: where the content before it ends, and where it ends itself. -/
def terminator? (e : Encoding) (bs : Bytes) : Option (Nat × Nat) := e.terminatorFrom 0 [] false bs

def endsWithTerminator (e : Encoding) (bs : Bytes) : Bool :=
  e.unit ≤ bs.length && bs.drop (bs.length - e.unit) = e.lineFeed

def alignDown (e : Encoding) (length : Nat) : Nat := length - length % e.unit

def bom : Encoding → Bytes
  | utf8 => [0xef, 0xbb, 0xbf]
  | latin1 => []
  | utf16le => [0xff, 0xfe]
  | utf16be => [0xfe, 0xff]
  | utf32le => [0xff, 0xfe, 0, 0]
  | utf32be => [0, 0, 0xfe, 0xff]

def stripBom (e : Encoding) (bs : Bytes) : Bytes :=
  if bs.take e.bom.length = e.bom then bs.drop e.bom.length else bs

/-! ## Text -/

def unitValue (e : Encoding) (unit : Bytes) : Nat :=
  let bigEndian (bs : Bytes) : Nat := bs.foldl (fun n b => n * 256 + b.toNat) 0
  match e with
  | utf16le | utf32le => bigEndian unit.reverse
  | _ => bigEndian unit

/-- The character of a code point, or U+FFFD if there is none. -/
def scalar (n : Nat) : Char := if n.isValidChar then Char.ofNat n else '\ufffd'

/-- The characters of 16-bit units in front of those read before, last first. A surrogate without its
other half becomes U+FFFD. -/
def utf16Onto (read : List Char) : List Nat → List Char
  | [] => read
  | [u] => (if 0xd800 ≤ u ∧ u < 0xe000 then '\ufffd' else Char.ofNat u) :: read
  | u :: v :: rest =>
    if 0xd800 ≤ u ∧ u < 0xdc00 ∧ 0xdc00 ≤ v ∧ v < 0xe000 then
      utf16Onto (Char.ofNat (0x10000 + (u - 0xd800) * 0x400 + (v - 0xdc00)) :: read) rest
    else if 0xd800 ≤ u ∧ u < 0xe000 then utf16Onto ('\ufffd' :: read) (v :: rest)
    else utf16Onto (Char.ofNat u :: read) (v :: rest)

def decode (e : Encoding) (bs : Bytes) : String :=
  match e with
  | utf8 => Text.Utf8.decodeLossy bs
  | latin1 => String.ofList (bs.map fun b => Char.ofNat b.toNat)
  | utf16le | utf16be => String.ofList (utf16Onto [] ((e.units bs).map e.unitValue)).reverse
  | utf32le | utf32be => String.ofList ((e.units bs).map fun u => scalar (e.unitValue u))

def unitBytes (e : Encoding) (n : Nat) : Bytes :=
  let b (k : Nat) : UInt8 := UInt8.ofNat (n / Nat.pow 256 k % 256)
  match e with
  | utf8 | latin1 => [b 0]
  | utf16le => [b 0, b 1]
  | utf16be => [b 1, b 0]
  | utf32le => [b 0, b 1, b 2, b 3]
  | utf32be => [b 3, b 2, b 1, b 0]

def encodeChar (e : Encoding) (c : Char) : Bytes :=
  match e with
  | utf8 => String.utf8EncodeChar c
  | latin1 | utf32le | utf32be => e.unitBytes c.toNat
  | utf16le | utf16be =>
    if c.toNat < 0x10000 then e.unitBytes c.toNat
    else
      e.unitBytes (0xd800 + (c.toNat - 0x10000) / 0x400)
        ++ e.unitBytes (0xdc00 + (c.toNat - 0x10000) % 0x400)

def encode (e : Encoding) (s : String) : Bytes := s.toList.flatMap e.encodeChar

end Encoding

end LogTail
