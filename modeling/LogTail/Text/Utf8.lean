/-!
# UTF-8

Bytes are read one at a time by a machine that holds the bytes of an unfinished character. Its output
is a list of pieces: characters, and runs of bytes that begin no character.

* `Utf8.pieces` is total: every byte string has pieces, and `Utf8.encode` of a text has characters only.
* A broken run is as long as it can be: the longest prefix of some character's encoding, or one byte.
* `Utf8.decode?` accepts the byte strings without a broken run, `Utf8.decodeLossy` puts U+FFFD for each.
-/

namespace LogTail

abbrev Bytes := List UInt8

namespace Text.Utf8

/-- What a byte string is made of: a character, or bytes that are no part of one. -/
inductive Piece where
  | scalar (c : Char)
  | broken (bytes : Bytes)
  deriving DecidableEq

/-- An unfinished character: the bytes so far (last first), the value they spell, how many bytes are
missing, and the bounds for the next of them. -/
structure Pending where
  bytes : Bytes
  value : Nat
  missing : Nat
  lo : UInt8
  hi : UInt8

/-- The machine: the pieces so far (last first), and the character that is being read. -/
structure Machine where
  done : List Piece
  pending : Option Pending

def Machine.start (done : List Piece) (b : UInt8) : Machine :=
  let open_ (value missing : Nat) (lo hi : UInt8) : Machine :=
    ⟨done, some ⟨[b], value, missing, lo, hi⟩⟩
  if b < 0x80 then ⟨.scalar (Char.ofNat b.toNat) :: done, none⟩
  else if b < 0xc2 then ⟨.broken [b] :: done, none⟩
  else if b < 0xe0 then open_ (b.toNat - 0xc0) 1 0x80 0xbf
  else if b == 0xe0 then open_ 0 2 0xa0 0xbf
  else if b == 0xed then open_ 0xd 2 0x80 0x9f
  else if b < 0xf0 then open_ (b.toNat - 0xe0) 2 0x80 0xbf
  else if b == 0xf0 then open_ 0 3 0x90 0xbf
  else if b < 0xf4 then open_ (b.toNat - 0xf0) 3 0x80 0xbf
  else if b == 0xf4 then open_ 4 3 0x80 0x8f
  else ⟨.broken [b] :: done, none⟩

/-- Reads one byte. A byte that cannot go on with the pending character ends it as a broken run and is
read afresh. -/
def Machine.step (m : Machine) (b : UInt8) : Machine :=
  match m.pending with
  | none => .start m.done b
  | some p =>
    if p.lo ≤ b && b ≤ p.hi then
      let value := p.value * 64 + (b.toNat - 0x80)
      if p.missing = 1 then ⟨.scalar (Char.ofNat value) :: m.done, none⟩
      else ⟨m.done, some ⟨b :: p.bytes, value, p.missing - 1, 0x80, 0xbf⟩⟩
    else .start (.broken p.bytes.reverse :: m.done) b

/-- The pieces at the end of the input; a pending character is a broken run. -/
def Machine.finish (m : Machine) : List Piece :=
  match m.pending with
  | none => m.done.reverse
  | some p => (.broken p.bytes.reverse :: m.done).reverse

def pieces (bs : Bytes) : List Piece := (bs.foldl Machine.step ⟨[], none⟩).finish

def Piece.scalar? : Piece → Option Char
  | .scalar c => some c
  | .broken _ => none

def decode? (bs : Bytes) : Option String := ((pieces bs).mapM Piece.scalar?).map String.ofList

/-- The text of a byte string, with U+FFFD in place of every broken run. -/
def decodeLossy (bs : Bytes) : String :=
  String.ofList ((pieces bs).map fun p => p.scalar?.getD '\ufffd')

def encode (s : String) : Bytes := s.toList.flatMap String.utf8EncodeChar

end Text.Utf8

end LogTail
