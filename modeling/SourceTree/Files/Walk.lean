import SourceTree.Files.Disk

/-!
# Listing a disk

All files below a directory are found by walking through it, entry by entry in the order of names.
A directory shows which of its entries are files, so these are not looked up again. Directories are
opened by their paths, and so are links followed; a link can lead back into a directory that the
walk has not left yet; that is refused, and so is a link that leads nowhere. The first refusal ends
the walk.
-/

namespace SourceTree.Disk

/-- The names in a directory, in their order. -/
def names (disk : Disk) (location : Location) : List String :=
  (disk.entries.keys.filterMap fun place =>
    if place.dropLast = location then place.getLast? else none).mergeSort (· ≤ ·)

/-- The innermost of some open directories that is at a location. -/
def openAt? (stack : List (Path × Location)) (location : Location) : Option Path :=
  (stack.find? fun (_, place) => place = location).map Prod.fst

/-- What `path` leads to, as an answer about it. -/
def visit (disk : Disk) (path : Path) : Except FileError (Location × Option Entry) :=
  match disk.locate path with
  | .error error => .error (.listing path error)
  | .ok location => .ok (location, disk.entry? location)

/-- The files at or below the entry `name` of the directory that `path` leads to, the innermost one
of `stack`. What is below a directory is left to `descend`. -/
def walkEntry (disk : Disk) (descend : Path → Except FileError (List Path))
    (stack : List (Path × Location)) (path : Path) (location : Location) (name : String) :
    Except FileError (List Path) := do
  let child := path.join ⟨name⟩
  match disk.entry? (location ++ [name]) with
  | some (.file _) => return [child]
  | some (.link _) =>
      let (place, _) ← disk.visit child
      match openAt? stack place with
      | some ancestor => throw (.loop child ancestor)
      | none => descend child
  | _ => descend child

/-- The files at or below a path, within the open directories of `stack`. The fuel bounds their
number. -/
def walk (disk : Disk) : Nat → List (Path × Location) → Path → Except FileError (List Path)
  | 0, _, _ => .ok []
  | fuel + 1, stack, path => do
      match ← disk.visit path with
      | (_, some (.file _)) => return [path]
      | (location, some .directory) =>
          let stack := (path, location) :: stack
          let below ← (disk.names location).mapM
            (disk.walkEntry (disk.walk fuel stack) stack path location)
          return below.flatten
      | _ => return []

/-- Directories that can be open at a time: a directory is opened at most twice, as an entry of
its own directory and by a link. -/
def depthLimit (disk : Disk) : Nat :=
  2 * disk.entries.size + 4

/-- Every file below a path, in the order of paths. -/
def list (disk : Disk) (root : Path) : Except FileError (List Path) := do
  let paths ← disk.walk disk.depthLimit [] root
  return paths.mergeSort Path.precedes

instance : FileSystem Disk where
  readBytes := readBytes
  readText := readText
  write := write
  isTaken := isTaken
  isFile := isFile
  list := list

end SourceTree.Disk
