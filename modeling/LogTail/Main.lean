import LogTail.Cli.Command
import LogTail.Cli.Host
import LogTail.Disk.Listing

/-!
# The program

Reads a listing of the watched directories from standard input, and the contents of what it lists; runs
one command on the disk they make; writes what the command wrote, and the state file it left behind. The
time that the reading took is charged to the first cycle, which is the one that would have made it.
-/

namespace LogTail.Main

def readFile? (path : String) : IO (Option Bytes) := do
  try
    let bytes ← IO.FS.readBinFile path
    return some bytes.toList
  catch _ => return none

def readListing : IO Listing := do
  let text ← (← IO.getStdin).readToEnd
  return .ofLines ((text.toList.splitOn '\n').map String.ofList)

def readItems (items : List Listing.Item) : IO (List (Listing.Item × Bytes)) := do
  let read ← items.mapM fun item => do
    let content ← if item.isDirectory then pure (some []) else readFile? item.path
    return content.map (item, ·)
  return read.filterMap id

def readEnvironment : IO (String → Option String) := do
  let values ← Cli.variableNames.mapM fun name => do return (name, ← IO.getEnv name)
  return fun name => (values.find? fun v => v.1 == name).bind (·.2)

/-- The disk with a file of a content, unless there is no content or the file is there already. -/
def addFile (d : Disk) (path : Path) (content : Option Bytes) : Disk :=
  match content with
  | none => d
  | some content =>
    if (d.lookup path).toOption.isSome then d
    else
      let parent := path.parent?.getD ⟨[]⟩
      let d := ((d.makeDirectories parent).toOption).getD d
      ((d.write path content).toOption).getD d

/-- Writes a file through a temporary one beside it. -/
def replaceFile (path : Path) (content : Bytes) : IO Unit := do
  let some target := path.toText? | return ()
  let some temporary := (path.withExtension "tmp").toText? | return ()
  match path.parent?.bind Path.toText? with
  | some "" | none => pure ()
  | some parent => IO.FS.createDirAll parent
  IO.FS.writeBinFile temporary ⟨content.toArray⟩
  IO.FS.rename temporary target

def run (line : List String) : IO UInt32 := do
  let environment ← readEnvironment
  let command? := (Cli.Command.parse environment line).toOption
  let started ← IO.monoMsNow
  let listing ← match command? with
    | some (.start _) => readListing
    | _ => pure (Listing.ofLines [])
  let items ← readItems listing.items
  let elapsed := (← IO.monoMsNow) - started
  let statePath? := command?.bind Cli.Command.statePath?
  let saved ← match statePath?.bind Path.toText? with
    | some path => readFile? path
    | none => pure none
  let disk := match statePath? with
    | some path => addFile (Listing.toDisk items) path saved
    | none => Listing.toDisk items
  let time : TickTime := ⟨fun k => { elapsed := if k = 0 then elapsed else 0, now := listing.time }⟩
  let result := Cli.run environment (← Cli.hostName) time line (.quiet disk)
  for text in result.output do IO.println text
  for text in result.diagnostics do IO.eprintln text
  match statePath?.map fun path => (path, result.world.disk.readAll path) with
  | some (path, .ok content) => if some content ≠ saved then replaceFile path content
  | _ => pure ()
  return UInt32.ofNat result.code

end LogTail.Main

def main (line : List String) : IO UInt32 := LogTail.Main.run line
