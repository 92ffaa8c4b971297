import SourceTree.Files.Basic
import SourceTree.Path.Order

/-!
# The store

A store keeps files in memory, each under the path it was first written to. Paths with the same
components are the same key, whatever their spelling. There are no directories apart from the files:
a path is a directory if it was created as one, or if a file lies below it. So a file and a
directory can share a path if files were placed there directly, but no write ever brings that
about from above.

Files are held in the order of their paths, so listing is filtering.
-/

namespace SourceTree

/-- Files by path, and directories that were created on their own. -/
structure Store where
  files : List (Path × ByteArray) := []
  directories : List Path := []
  /-- Files stand in the order of their paths, and no two under the same key. -/
  ordered : files.Pairwise (fun earlier later => earlier.1.order later.1 = .lt) := by
    exact List.Pairwise.nil
  deriving DecidableEq

namespace Store

/-- The store without anything in it. -/
def empty : Store := {}

/-- The files with one more, in the place that the components `steps` of its path give it. A file
under the same key is replaced, and the key keeps its spelling. -/
def insertFile (steps : List Component) (path : Path) (content : ByteArray) :
    List (Path × ByteArray) → List (Path × ByteArray)
  | [] => [(path, content)]
  | (key, old) :: rest =>
      match compare steps key.components with
      | .lt => (path, content) :: (key, old) :: rest
      | .eq => (key, content) :: rest
      | .gt => (key, old) :: insertFile steps path content rest

theorem key_of_mem_insertFile {steps : List Component} {path : Path} {content : ByteArray}
    {files : List (Path × ByteArray)} {entry : Path × ByteArray}
    (member : entry ∈ insertFile steps path content files) :
    entry.1 = path ∨ ∃ other ∈ files, entry.1 = other.1 := by
  induction files with
  | nil =>
      left
      rw [insertFile, List.mem_singleton] at member
      rw [member]
  | cons first rest ih =>
      rw [insertFile] at member
      split at member
      · rcases List.mem_cons.1 member with rfl | old
        · exact Or.inl rfl
        · exact Or.inr ⟨entry, old, rfl⟩
      · rcases List.mem_cons.1 member with rfl | old
        · exact Or.inr ⟨first, List.mem_cons_self .., rfl⟩
        · exact Or.inr ⟨entry, List.mem_cons_of_mem _ old, rfl⟩
      · rcases List.mem_cons.1 member with rfl | later
        · exact Or.inr ⟨first, List.mem_cons_self .., rfl⟩
        · rcases ih later with isNew | ⟨other, otherMem, same⟩
          · exact Or.inl isNew
          · exact Or.inr ⟨other, List.mem_cons_of_mem _ otherMem, same⟩

/-- Inserting a file keeps the order. -/
theorem ordered_insertFile (path : Path) (content : ByteArray) {files : List (Path × ByteArray)}
    (ordered : files.Pairwise fun earlier later => earlier.1.order later.1 = .lt) :
    (insertFile path.components path content files).Pairwise
      fun earlier later => earlier.1.order later.1 = .lt := by
  induction files with
  | nil => simp [insertFile]
  | cons first rest ih =>
      rcases List.pairwise_cons.1 ordered with ⟨firstBefore, restOrdered⟩
      rw [insertFile]
      split
      next before =>
        refine List.pairwise_cons.2 ⟨?_, ordered⟩
        intro later member
        rcases List.mem_cons.1 member with rfl | old
        · exact before
        · exact Std.TransCmp.lt_trans before (firstBefore later old)
      next => exact List.pairwise_cons.2 ⟨firstBefore, restOrdered⟩
      next behind =>
        refine List.pairwise_cons.2 ⟨?_, ih restOrdered⟩
        intro later member
        rcases key_of_mem_insertFile member with isNew | ⟨other, otherMem, same⟩
        · rw [isNew]
          exact Std.OrientedCmp.lt_of_gt behind
        · rw [same]
          exact firstBefore other otherMem

/-- Places a file without asking what is there. -/
def place (store : Store) (path : Path) (content : ByteArray) : Store :=
  { store with
    files := insertFile path.components path content store.files
    ordered := ordered_insertFile path content store.ordered }

/-- Creates a directory. -/
def createDirectory (store : Store) (path : Path) : Store :=
  { store with directories := path :: store.directories }

/-- The content of the file at a path. -/
def content? (store : Store) (path : Path) : Option ByteArray :=
  let steps := path.components
  (store.files.find? fun (key, _) => key.components == steps).map Prod.snd

/-- Whether there is a file at a path. -/
def isFile (store : Store) (path : Path) : Bool :=
  let steps := path.components
  store.files.any fun (key, _) => key.components == steps

/-- Whether a path is a directory: it was created as one or above one, or a file lies below it. -/
def isDirectory (store : Store) (path : Path) : Bool :=
  let steps := path.components
  store.directories.any (steps.isPrefixOf ·.components) ||
    store.files.any fun (key, _) =>
      let inner := key.components
      steps.isPrefixOf inner && inner != steps

/-- The content of a file. -/
def readBytes (store : Store) (path : Path) : Except FileError ByteArray :=
  match store.content? path with
  | some content => .ok content
  | none => .error (.noFile path)

/-- The content of a file that holds text. -/
def readText (store : Store) (path : Path) : Except FileError String :=
  match store.readBytes path with
  | .error error => .error error
  | .ok content => (Text.Utf8.decode content).mapError .notText

/-- Creates or overwrites a file, unless there is a directory. -/
def write (store : Store) (path : Path) (text : String) : Except FileError Unit × Store :=
  if store.isDirectory path then (.error (.directoryInTheWay path), store)
  else (.ok (), store.place path text.toUTF8)

/-- Whether there is a file or a directory at a path. -/
def isTaken (store : Store) (path : Path) : Bool :=
  store.isFile path || store.isDirectory path

/-- The files below a directory. -/
def list (store : Store) (root : Path) : Except FileError (List Path) :=
  if store.isDirectory root then
    let steps := root.components
    .ok ((store.files.map Prod.fst).filter (steps.isPrefixOf ·.components))
  else .error (.noDirectory root)

instance : FileSystem Store where
  readBytes := readBytes
  readText := readText
  write := write
  isTaken := isTaken
  isFile := isFile
  list := list

end Store

end SourceTree
