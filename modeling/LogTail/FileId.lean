import LogTail.Json.Record
import LogTail.Text.Hex

/-!
# Identity of files

The device and the number of a file on it. The number has a high half for disks with long numbers;
elsewhere the half is zero and is not written.
-/

namespace LogTail

/-- What makes two names mean the same file. -/
structure FileId where
  device : Nat
  inode : Nat
  inodeHigh : Nat := 0
  deriving DecidableEq, Inhabited

namespace FileId

def text (id : FileId) : String :=
  let inode :=
    if id.inodeHigh = 0 then toString id.inode
    else Text.Hex.ofNat id.inodeHigh ++ Text.Hex.ofNatPadded 16 id.inode
  s!"dev={id.device} ino={inode}"

def diskDevice : Nat := 2049

def ofNumber (number : Nat) : FileId := ⟨diskDevice, number, 0⟩

/-- Whether the files of this machine have identities that survive a change of name. -/
def supported : Bool := true

/-- The written form; a high half of zero is left out. -/
def toJson (id : FileId) : Json :=
  .object ([("device", .ofNat id.device), ("inode", .ofNat id.inode)]
    ++ if id.inodeHigh = 0 then [] else [("inode_hi", .ofNat id.inodeHigh)])

def ofJson? (j : Json) : Option FileId := do
  let fs ← j.toFields? ["device", "inode", "inode_hi"]
  let device ← fs.required? "device" Json.toWord?
  let inode ← fs.required? "inode" Json.toWord?
  let inodeHigh ← fs.optional? "inode_hi" 0 Json.toWord?
  some ⟨device, inode, inodeHigh⟩

end FileId

end LogTail
