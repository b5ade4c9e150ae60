import LogTail.Disk.Change
import LogTail.Text.Decimal

/-!
# Listings of a disk

A listing tells what stands on a disk: its first line is the time in seconds, and each other line gives
the time, the number, the type and the path of one entry, with a blank between them, as in
`1700000000.5 4711 f logs/app.log`. With the content of the files it makes a disk.
-/

namespace LogTail

structure Listing.Item where
  modified : Instant
  number : Nat
  isDirectory : Bool
  path : String

/-- When a listing was made, and what it lists. -/
structure Listing where
  time : Int
  items : List Listing.Item

namespace Listing

def seconds? : List Char → Option Int
  | '-' :: cs => (Text.Decimal.toNat? cs).map fun n => -n
  | cs => (Text.Decimal.toNat? cs).map fun n => n

def nanos? (cs : List Char) : Option Nat :=
  if cs.isEmpty then some 0 else Text.Decimal.toNat? ((cs ++ List.replicate 9 '0').take 9)

/-- A time such as `12.5`; the fraction counts upward from the seconds. -/
def instant? (cs : List Char) : Option Instant := do
  let whole := cs.takeWhile (· ≠ '.')
  let seconds ← seconds? whole
  let nanos ← nanos? (cs.drop (whole.length + 1))
  if whole.head? = some '-' ∧ nanos ≠ 0 then return ⟨seconds - 1, 1000000000 - nanos⟩
  else return ⟨seconds, nanos⟩

def item? (line : String) : Option Item :=
  match line.toList.splitOn ' ' with
  | time :: number :: kind :: path => do
    let modified ← instant? time
    let number ← Text.Decimal.toNat? number
    let isDirectory ← match kind with
      | ['d'] => some true
      | ['f'] => some false
      | _ => none
    return ⟨modified, number, isDirectory, String.ofList ([' '].intercalate path)⟩
  | _ => none

def ofLines : List String → Listing
  | [] => ⟨0, []⟩
  | time :: lines => ⟨(seconds? time.toList).getD 0, lines.filterMap item?⟩

def place (d : Disk) (entry : Item × Bytes) : Disk :=
  let (item, content) := entry
  let path := Path.ofText item.path
  let d := match path.parent? with
    | some parent => ((d.makeDirectories parent).toOption).getD d
    | none => d
  match d.walk false path with
  | .ok (place, none) =>
    let entry : Disk.Entry := if item.isDirectory then .directory item.number else .file item.number
    (d.setNode item.number ⟨content, item.modified, item.isDirectory⟩).setEntry place entry
  | _ => d

/-- The disk of listed entries with their contents. Numbers that are given out later are beyond all that
are listed. -/
def toDisk (entries : List (Item × Bytes)) : Disk :=
  let largest := (entries.map fun e => e.1.number).foldl max Disk.rootNumber
  let bare := Disk.fresh "here"
  entries.foldl place { bare with nextNumber := max bare.nextNumber (largest + 1) }

end Listing

end LogTail
