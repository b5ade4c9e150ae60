import LogTail.Hash.Sha256
import LogTail.Json.Record
import LogTail.Text.Base64

/-!
# Digests of the beginnings of files

A digest stands for the first bytes of a file: how many they are, and their hash. It matches another
beginning if that begins with the same bytes, up to a collision of hashes; one that is too short never
matches.
-/

namespace LogTail

/-- The hash of the first `length` bytes of a file. -/
structure Digest where
  length : Nat
  sum : Bytes
  deriving DecidableEq, Inhabited

namespace Digest

def of (bs : Bytes) : Digest := ⟨bs.length, Hash.sha256 bs⟩

def empty : Digest := of []

def isEmpty (d : Digest) : Bool := d.length == 0

def matchesHead (d : Digest) (head : Bytes) : Bool :=
  if head.length < d.length then false else of (head.take d.length) = d

def toJson (d : Digest) : Json :=
  .object [("len", .ofNat d.length), ("sum", .string (Text.Base64.encode d.sum))]

def bytesOfJson? (j : Json) : Option Bytes := j.toText?.bind Text.Base64.decode?

def ofJson? (j : Json) : Option Digest := do
  let fs ← j.toFields? ["len", "sum"]
  let length ← fs.required? "len" Json.toWord?
  let sum ← fs.required? "sum" bytesOfJson?
  if sum.length = 32 then some ⟨length, sum⟩ else none

end Digest

end LogTail
