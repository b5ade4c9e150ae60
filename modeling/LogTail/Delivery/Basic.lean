import LogTail.Config.Basic
import LogTail.Json.Basic
import LogTail.Path

/-!
# Deliveries

A record on its way to the collector, and the answer that it gets.
-/

namespace LogTail

/-- A formatted record with what the collector needs to know of it. -/
structure Delivery where
  destination : Destination
  value : String
  /-- When the record was read, in seconds. -/
  timestamp : Int
  /-- Time of the last change of the file. -/
  mtime : Int
  /-- Where the record ends in the file. -/
  stop : Nat
  path : Path
  seq : Nat
  deriving DecidableEq, Inhabited

/-- A delivery that was offered, and whether it was accepted. -/
structure Offer where
  delivery : Delivery
  accepted : Bool
  deriving DecidableEq, Inhabited

/-- What a receiver answers to its n-th offer of a cycle. -/
abbrev Sink := Nat → Delivery → Bool

def Sink.acceptAll : Sink := fun _ _ => true

/-- The written form of a delivery; none for a path that is no text. The collector may not drop it. -/
def Delivery.toJson? (d : Delivery) : Option Json :=
  d.path.toText?.map fun path =>
    .object [("server", .string d.destination.server), ("port", .ofNat d.destination.port),
      ("hostname", .string d.destination.hostname), ("key", .string d.destination.key),
      ("value", .string d.value), ("timestamp", .ofInt d.timestamp), ("mtime", .ofInt d.mtime),
      ("last_log_size", .ofNat d.stop), ("path", .string path), ("seq", .ofNat d.seq),
      ("persistent", .bool true)]

end LogTail
