import SourceTree.Path.Basic
import SourceTree.Text.Utf8

/-!
# File systems

The stages of a rebuild read, write, test and list files, and nothing else. Any type whose values
can answer these questions is a file system; a write gives the changed file system, and also says
whether it succeeded, because a failed write may still have created directories.
-/

namespace SourceTree

/-- Contents are compared in one way, whatever other instances are in scope. -/
instance (priority := high) decideContentEq : DecidableEq ByteArray :=
  ByteArray.instDecidableEq

/-- A refusal of the operating system. -/
inductive SystemError where
  /-- No name can hold a NUL character. -/
  | nulInName
  | notFound
  | alreadyExists
  | notDirectory
  | isDirectory
  | nameTooLong
  | tooManyLinks
  deriving DecidableEq, Repr

/-- The wording of a refusal, with its number if it has one. -/
def SystemError.message : SystemError → String
  | .nulInName => "file name contained an unexpected NUL byte"
  | .notFound => "No such file or directory (os error 2)"
  | .alreadyExists => "File exists (os error 17)"
  | .notDirectory => "Not a directory (os error 20)"
  | .isDirectory => "Is a directory (os error 21)"
  | .nameTooLong => "File name too long (os error 36)"
  | .tooManyLinks => "Too many levels of symbolic links (os error 40)"

/-- Why a file operation failed. -/
inductive FileError where
  /-- A store holds no file at the path. -/
  | noFile (path : Path)
  /-- A store has a directory where a file was to be written. -/
  | directoryInTheWay (path : Path)
  /-- A store has no directory to list. -/
  | noDirectory (path : Path)
  /-- The content of a stored file is not text. -/
  | notText (fault : Text.Utf8.Fault)
  /-- The operating system refused. -/
  | system (error : SystemError)
  /-- The content of a file on disk is not text. -/
  | unreadableText
  /-- The operating system refused while a directory was listed. -/
  | listing (path : Path) (error : SystemError)
  /-- A link leads back to a directory that is being listed. -/
  | loop (path ancestor : Path)
  deriving DecidableEq, Repr

/-- The wording of a failure. -/
def FileError.message : FileError → String
  | .noFile path => "File not found: " ++ path.text
  | .directoryInTheWay path => "Is a directory: " ++ path.text
  | .noDirectory path => "No such directory: " ++ path.text
  | .notText fault => fault.message
  | .system error => error.message
  | .unreadableText => "stream did not contain valid UTF-8"
  | .listing path error => "IO error for operation on " ++ path.text ++ ": " ++ error.message
  | .loop path ancestor =>
      "File system loop found: " ++ path.text ++ " points to an ancestor " ++ ancestor.text

/-- What the stages ask of a file system. -/
class FileSystem (σ : Type) where
  /-- The content of a file. -/
  readBytes : σ → Path → Except FileError ByteArray
  /-- The content of a file that holds text. -/
  readText : σ → Path → Except FileError String
  /-- Creates or overwrites a file, with the directories above it. -/
  write : σ → Path → String → Except FileError Unit × σ
  /-- Whether there is a file or a directory at a path. -/
  isTaken : σ → Path → Bool
  /-- Whether there is a file at a path. -/
  isFile : σ → Path → Bool
  /-- Every file below a directory, in the order of paths. -/
  list : σ → Path → Except FileError (List Path)

end SourceTree
