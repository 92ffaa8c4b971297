import SourceTree.Command.Program
import SourceTree.Files.Walk

/-!
# The command line

Before a run, the working directory and the other places that the command names are read into a
disk; afterwards, what the run has created or changed on it is written back. Nothing is fetched:
documents that are not there count as unreachable.
-/

namespace SourceTree.Terminal

/-- The text of a location. -/
def textOf (location : Location) : String :=
  "/" ++ "/".intercalate location

/-- Every location on the way to a location, itself last. -/
def lineage (location : Location) : List Location :=
  (List.range location.length).map fun count => location.take (count + 1)

/-- Adds what is at some locations. A link that leads nowhere is kept as one to a name that no file
can have. Where `isDeep`, everything below a directory is added as well; behind links it always
is. -/
partial def gather (isDeep : Bool) (disk : Disk) : List Location → IO Disk
  | [] => return disk
  | location :: rest => do
      match disk.entry? location with
      | some (.file _) => gather isDeep disk rest
      | some (.link _) => gather isDeep disk rest
      | _ =>
          let place := (← IO.FS.realPath "/") / textOf location
          match ← place.symlinkMetadata.toBaseIO with
          | .error _ => gather isDeep disk rest
          | .ok found =>
              match found.type with
              | .dir =>
                  let disk := disk.put location .directory
                  if isDeep then
                    let children ← place.readDir
                    let below := children.toList.map fun child => location ++ [child.fileName]
                    gather isDeep disk (below ++ rest)
                  else gather isDeep disk rest
              | .file => gather isDeep (disk.put location (.file (← IO.FS.readBinFile place))) rest
              | .symlink =>
                  match ← (IO.FS.realPath place).toBaseIO with
                  | .error _ => gather isDeep (disk.put location (.link "\x00")) rest
                  | .ok target =>
                      let disk := disk.put location (.link target.toString)
                      let behind := (Disk.Route.ofText target.toString).segments
                      let disk ← gather false disk (lineage behind)
                      gather isDeep (← gather true disk [behind]) rest
              | .other => gather isDeep disk rest

/-- Adds what is at a path and on the way to it. -/
def gatherPath (disk : Disk) (path : Path) : IO Disk := do
  let route := Disk.Route.ofText path.normalize.text
  let location := disk.start route ++ route.segments
  gather true (← gather false disk (lineage location)) [location]

/-- Adds the places of a command as far as they are known. -/
def gatherPlaces (disk : Disk) (command : Command) : IO Disk :=
  (command.places disk).foldlM gatherPath disk

/-- Writes back what differs from the disk before a run, directories before what lies in them. -/
def store (before after : Disk) : IO Unit :=
  let entries := after.entries.toList.mergeSort fun left right => left.1.length ≤ right.1.length
  entries.forM fun (location, entry) =>
    if before.entry? location = some entry then pure ()
    else
      match entry with
      | .directory => IO.FS.createDirAll (textOf location)
      | .file content => IO.FS.writeBinFile (textOf location) content
      | .link _ => pure ()

end SourceTree.Terminal

open SourceTree in
/-- Runs the program. -/
def main (arguments : List String) : IO UInt32 := do
  let words := (← IO.appPath).toString :: arguments
  let working := (Disk.Route.ofText (← IO.currentDir).toString).segments
  let start : Disk := { workingDirectory := working }
  let disk ← match CommandLine.parse words with
    | .error _ => pure start
    | .ok command => do
        let disk ← Terminal.gatherPath start ⟨"."⟩
        Terminal.gatherPlaces (← Terminal.gatherPlaces disk command) command
  let (result, session) := Program.run Remote.unreachable words { files := disk }
  Terminal.store disk session.files
  let filter := Filter.ofSetting (← IO.getEnv "UNBUNDLE_LOG")
  IO.eprint (Program.report filter result session.events.toList)
  return (Program.exitCode result).toUInt32
