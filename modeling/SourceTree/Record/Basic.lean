import SourceTree.Path.Basic
import SourceTree.Text.Quoted

/-!
# Configuration records

One record describes one site: where its compiled bundles are, where their map documents can be
fetched, and where the documents and the rebuilt tree go.
-/

namespace SourceTree

/-- How one site is rebuilt. -/
structure Record where
  /-- The directory with the compiled bundles. -/
  inputDir : Path
  /-- What the names of map documents are appended to for fetching. -/
  baseUrl : String
  /-- The directory below which everything is written. -/
  baseOutputDir : Path
  /-- Where map documents are kept, seen from `baseOutputDir`. -/
  mapsDir : Path
  /-- Where the tree is rebuilt, seen from `baseOutputDir`. -/
  decompiledDir : Path
  /-- Extensions of source files with their leading dots, those tried first coming first. -/
  extensions : List String
  /-- The name under which the bundler shows the modules of this site. -/
  bundle : Option String
  deriving DecidableEq, Repr

namespace Record

/-- The bundle name of records that give none. -/
def defaultBundle : String := "_N_E"

/-- Why a record cannot be used. -/
inductive Defect where
  /-- Without extensions no reference could ever be found missing. -/
  | noExtensions
  /-- An extension that is no dot followed by something. -/
  | badExtension (extension : String)
  deriving DecidableEq, Repr

/-- The wording of a defect. -/
def Defect.message : Defect → String
  | .noExtensions => "exts must list at least one extension"
  | .badExtension extension => "extension " ++ Text.quote extension ++ " must start with '.'"

/-- Whether a text is a dot followed by something. -/
def isExtension (extension : String) : Bool :=
  match extension.toList with
  | '.' :: _ :: _ => true
  | _ => false

/-- The first defect of a record. -/
def defect? (record : Record) : Option Defect :=
  if record.extensions.isEmpty then some .noExtensions
  else (record.extensions.find? fun extension => !isExtension extension).map .badExtension

/-- The directory of the map documents. -/
def mapsPath (record : Record) : Path :=
  record.baseOutputDir.join record.mapsDir

/-- The root of the rebuilt tree. -/
def treePath (record : Record) : Path :=
  record.baseOutputDir.join record.decompiledDir

/-- The name under which the bundler shows the modules of this site. -/
def bundleName (record : Record) : String :=
  record.bundle.getD defaultBundle

end Record

end SourceTree
