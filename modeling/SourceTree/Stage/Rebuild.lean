import SourceTree.Document.Load
import SourceTree.Record.Basic
import SourceTree.SourceName
import SourceTree.Stage.Basic

/-!
# Rebuilding the tree

Every source that a map document embeds is written below the tree root. Documents are worked
through in the order of their paths, so of two sources with the same cleaned name the later one
stays. Documents that cannot be loaded are skipped, and so are sources whose cleaned name is empty.
-/

namespace SourceTree.Rebuild

/-- What one pass did. -/
structure Report where
  /-- Number of documents written out. -/
  documents : Nat := 0
  /-- Documents that could not be loaded. -/
  skipped : List Path := []
  /-- Number of files written, overwriting included. -/
  filesWritten : Nat := 0
  /-- Number of sources whose cleaned name is empty. -/
  emptyPaths : Nat := 0
  deriving DecidableEq, Repr

/-- The closing message of a pass. -/
def Report.summary (report : Report) (tree : Path) : String :=
  s!"Decompiled {report.documents} map documents into " ++ tree.text ++
  s!": {report.filesWritten} files written, " ++
  s!"{report.skipped.length} malformed documents skipped"

variable {σ : Type} [FileSystem σ]

/-- Writes one source of `document`. -/
def writeEntry (record : Record) (document : Path) (report : Report) (entry : String × String) :
    Stage σ Report := do
  let (source, content) := entry
  let cleaned := SourceName.clean source record.bundleName
  if cleaned.isEmpty then
    Stage.tell .warn .decompile
      ("Skipping source " ++ Text.quote source ++ " in " ++ document.text ++ ": empty path")
    return { report with emptyPaths := report.emptyPaths + 1 }
  else
    let target := record.treePath.join ⟨cleaned⟩
    Stage.write target content
    Stage.tell .debug .decompile ("Wrote " ++ target.text)
    return { report with filesWritten := report.filesWritten + 1 }

/-- Writes the sources of one document. -/
def writeDocument (record : Record) (report : Report) (document : Path) : Stage σ Report := do
  match MapDocument.load (← Stage.files) document with
  | .error error =>
      Stage.tell .warn .decompile ("Skipping " ++ document.text ++ ": " ++ error.message)
      return { report with skipped := report.skipped ++ [document] }
  | .ok loaded =>
      let report ← loaded.entries.foldlM (writeEntry record document) report
      return { report with documents := report.documents + 1 }

/-- Writes every source embedded below the maps directory. -/
def rebuild (record : Record) : Stage σ Report := do
  let paths ← Stage.list record.mapsPath
  let documents := paths.filter MapDocument.isMapDocument
  let report ← documents.foldlM (writeDocument record) {}
  Stage.tell .info .decompile (report.summary record.treePath)
  return report

end SourceTree.Rebuild
