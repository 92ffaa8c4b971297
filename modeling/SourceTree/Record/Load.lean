import SourceTree.Record.Json
import SourceTree.Record.Yaml
import SourceTree.Stage.Basic

/-!
# Records in files

Records are kept as files in a sources directory. The extension of a file says which format it has.
Commands work on the records that are named to them, or else on all records directly in the
directory.
-/

namespace SourceTree.Record

/-- Where records are kept if nothing else is said. -/
def defaultSourcesDir : Path := ⟨"sources"⟩

/-- The extensions of record files. -/
def fileExtensions : List String := ["json", "yaml", "yml"]

/-- Whether a file holds YAML. Any other file holds JSON. -/
def isYaml (path : Path) : Bool :=
  ["yaml", "yml"].contains ((path.extension?.getD "").map Char.toLower)

/-- The record that a text from the file at `path` holds, or what is wrong with the text. -/
def parse (path : Path) (text : String) : Except String Record :=
  if isYaml path then (parseYaml text).mapError YamlFault.message
  else (parseJson text).mapError (Json.Fault.message text)

/-- The record that a text holds, if it can be used. -/
def parseValid (path : Path) (text : String) : Except String Record :=
  match parse path text with
  | .error message => .error message
  | .ok record =>
      match record.defect? with
      | some defect => .error defect.message
      | none => .ok record

variable {σ : Type} [FileSystem σ]

/-- The record in the file at `path`. -/
def load (files : σ) (path : Path) : Except StageError Record :=
  match FileSystem.readText files path with
  | .error error => .error (.read path error)
  | .ok text => (parseValid path text).mapError (.record path)

/-- Whether a file is a record that lies directly in `directory`. -/
def isRecordIn (directory path : Path) : Bool :=
  path.parent?.any (·.same directory) && path.extension?.any fileExtensions.contains

/-- The files of the records to work on: those named, seen from `directory`, or else all in it. -/
def discover (files : σ) (directory : Path) (named : List Path) :
    Except StageError (List Path) :=
  if named.isEmpty then
    match FileSystem.list files directory with
    | .error error => .error (.list directory error)
    | .ok paths => .ok (paths.filter (isRecordIn directory))
  else .ok (named.map directory.join)

end SourceTree.Record
