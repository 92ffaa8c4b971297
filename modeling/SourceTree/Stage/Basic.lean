import SourceTree.Event.Basic
import SourceTree.Files.Basic

/-!
# Stages

A stage works on the files of a session and leaves events behind. When it fails, the files and
events stay as they were at that moment: nothing is undone. So the failure is returned beside the
session, and not in place of it.
-/

namespace SourceTree

/-- A failure that ends the work on a record. -/
inductive StageError where
  | read (path : Path) (error : FileError)
  | write (path : Path) (error : FileError)
  | list (path : Path) (error : FileError)
  /-- A record that is not well-formed or cannot be used. -/
  | record (path : Path) (message : String)
  deriving DecidableEq, Repr

/-- The wording of a failure. -/
def StageError.message : StageError → String
  | .read path error => "failed to read " ++ path.text ++ ": " ++ error.message
  | .write path error => "failed to write " ++ path.text ++ ": " ++ error.message
  | .list path error => "failed to scan " ++ path.text ++ ": " ++ error.message
  | .record path message => "invalid configuration " ++ path.text ++ ": " ++ message

/-- The files that stages work on, and the events so far. -/
structure Session (σ : Type) where
  files : σ
  events : Array Event := #[]

/-- A step that may fail, on a session. -/
abbrev Stage (σ : Type) := ExceptT StageError (StateM (Session σ))

namespace Stage

variable {σ : Type}

/-- Tells something. -/
def tell (level : Level) (origin : Origin) (message : String) : Stage σ Unit :=
  modify fun session => { session with events := session.events.push ⟨level, origin, message⟩ }

/-- The files as they are now. -/
def files : Stage σ σ := do
  return (← get).files

variable [FileSystem σ]

/-- Every file below a directory. -/
def list (root : Path) : Stage σ (List Path) := do
  match FileSystem.list (← files) root with
  | .ok paths => return paths
  | .error error => throw (.list root error)

/-- The content of a file, read as text with a replacement for bytes that are none. -/
def readLossy (path : Path) : Stage σ String := do
  match FileSystem.readBytes (← files) path with
  | .ok content => return Text.Utf8.decodeLossy content
  | .error error => throw (.read path error)

/-- The content of a file that holds text. -/
def readText (path : Path) : Stage σ String := do
  match FileSystem.readText (← files) path with
  | .ok text => return text
  | .error error => throw (.read path error)

/-- Writes a file. -/
def write (path : Path) (text : String) : Stage σ Unit := do
  let session ← get
  let (result, files) := FileSystem.write session.files path text
  set { session with files }
  match result with
  | .ok () => return
  | .error error => throw (.write path error)

end Stage

end SourceTree
