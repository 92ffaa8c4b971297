import SourceTree.Document.Read
import SourceTree.Files.Basic

/-!
# Loading map documents

A map document that cannot be read or is not well-formed is no reason to stop: it is skipped. So
its failure is kept apart from those that end a stage.
-/

namespace SourceTree.MapDocument

/-- Why a map document is skipped. -/
inductive LoadError where
  | unreadable (error : FileError)
  /-- The text of the file and what is wrong with it. -/
  | malformed (text : String) (fault : Json.Fault)

/-- The wording of a failure. -/
def LoadError.message : LoadError → String
  | .unreadable error => "unreadable mapping document: " ++ error.message
  | .malformed text fault => "malformed mapping document: " ++ fault.message text

/-- The document that a text holds, with the text kept for the message. -/
def ofText (text : String) : Except LoadError MapDocument :=
  (parse text).mapError (.malformed text)

/-- The document in the file at `path`. -/
def load [FileSystem σ] (files : σ) (path : Path) : Except LoadError MapDocument :=
  match FileSystem.readText files path with
  | .error error => .error (.unreadable error)
  | .ok text => ofText text

end SourceTree.MapDocument
