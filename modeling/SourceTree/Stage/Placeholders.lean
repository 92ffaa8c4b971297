import SourceTree.Record.Basic
import SourceTree.Reference.Resolve
import SourceTree.Reference.Scan
import SourceTree.Reference.Stub
import SourceTree.Stage.Basic

/-!
# Writing placeholders

The source files of the tree are scanned for relative references. References that nothing answers
get a placeholder, but only below the tree root. The scan ends before the first placeholder is
written, so it sees the tree as it was rebuilt.
-/

namespace SourceTree.Placeholders

/-- What the scan found. -/
structure Survey where
  /-- Number of source files scanned. -/
  scanned : Nat := 0
  /-- Number of references, repeated ones included. -/
  references : Nat := 0
  /-- Number of references whose placeholder would lie outside the tree. -/
  outside : Nat := 0
  /-- The distinct places for placeholders, as they were first met. -/
  candidates : List Path := []
  deriving DecidableEq, Repr

/-- What one pass did. -/
structure Report where
  /-- Number of source files scanned. -/
  scanned : Nat := 0
  /-- Number of references, repeated ones included. -/
  references : Nat := 0
  /-- Number of distinct places for placeholders. -/
  missing : Nat := 0
  /-- Number of references whose placeholder would lie outside the tree. -/
  outside : Nat := 0
  /-- The placeholders written. -/
  created : List Path := []
  deriving DecidableEq, Repr

/-- The closing message of a pass. -/
def Report.summary (report : Report) : String :=
  s!"Scanned {report.scanned} files, {report.references} relative references: " ++
  s!"{report.created.length} placeholders created"

/-- The survey with one more candidate, unless it has one of the same place. -/
def Survey.insert (survey : Survey) (candidate : Path) : Survey :=
  if survey.candidates.any (·.same candidate) then survey
  else { survey with candidates := survey.candidates ++ [candidate] }

variable {σ : Type} [FileSystem σ]

/-- Looks into one reference in `source`. -/
def examine (record : Record) (source : Path) (survey : Survey) (specifier : String) :
    Stage σ Survey := do
  let survey := { survey with references := survey.references + 1 }
  let reference := source.text ++ ": " ++ specifier
  match Reference.resolve (← Stage.files) record.extensions source specifier with
  | .found path =>
      Stage.tell .debug .placeholders (reference ++ " -> " ++ path.text)
      return survey
  | .missing candidate =>
      if candidate.isWithin record.treePath.normalize then
        return survey.insert candidate
      else
        Stage.tell .debug .placeholders
          (reference ++ " -> " ++ candidate.text ++ " is outside " ++ record.treePath.text ++
            ", not stubbed")
        return { survey with outside := survey.outside + 1 }
  | .unresolvable =>
      Stage.tell .debug .placeholders (reference ++ " has no candidate")
      return survey

/-- Looks into the references of one source file. -/
def scan (record : Record) (survey : Survey) (source : Path) : Stage σ Survey := do
  let text ← Stage.readLossy source
  let survey := { survey with scanned := survey.scanned + 1 }
  (Reference.extract text).foldlM (examine record source) survey

/-- Writes a placeholder, unless one written before it has taken its place. -/
def create (created : List Path) (candidate : Path) : Stage σ (List Path) := do
  if FileSystem.isTaken (← Stage.files) candidate then
    return created
  Stage.write candidate (Reference.stub candidate)
  Stage.tell .info .placeholders ("Created placeholder: " ++ candidate.text)
  return created ++ [candidate]

/-- Writes a placeholder for every reference that nothing answers. Without a tree there is
nothing to do. -/
def fill (record : Record) : Stage σ Report := do
  let root := record.treePath
  if !FileSystem.isTaken (← Stage.files) root then
    Stage.tell .info .placeholders
      ("No decompiled tree at " ++ root.text ++ ", nothing to stub")
    return {}
  let paths ← Stage.list root
  let survey ← (paths.filter Reference.isSourceFile).foldlM (scan record) {}
  let created ← survey.candidates.foldlM create []
  let report : Report := {
    scanned := survey.scanned
    references := survey.references
    missing := survey.candidates.length
    outside := survey.outside
    created }
  Stage.tell .info .placeholders report.summary
  return report

end SourceTree.Placeholders
