import SourceTree.Bundle.Trailer
import SourceTree.Record.Basic
import SourceTree.Remote
import SourceTree.Stage.Basic

/-!
# Acquiring map documents

Every bundle below the input directory is asked for the name of its map document, and documents
that the maps directory lacks are fetched. A document that cannot be fetched is reported and
skipped; the rest of the work never sees it. A dry run only reports what is missing.
-/

namespace SourceTree.Acquire

/-- What one pass did. -/
structure Report where
  /-- Number of bundles looked at. -/
  bundles : Nat := 0
  /-- Number of bundles that name a document. -/
  references : Nat := 0
  /-- Number of named documents that were there already. -/
  present : Nat := 0
  /-- Documents that were fetched. -/
  downloaded : List Path := []
  /-- Addresses that could not be fetched. -/
  failed : List String := []
  /-- Documents that a dry run found missing. -/
  missing : List Path := []
  deriving DecidableEq, Repr

/-- The closing message of a pass. -/
def Report.summary (report : Report) : String :=
  s!"Inspected {report.bundles} bundles: {report.references} map references, " ++
  s!"{report.present} already present, {report.downloaded.length} downloaded, " ++
  s!"{report.failed.length} failed"

variable {σ : Type} [FileSystem σ]

/-- Fetches one document. -/
def download (remote : Remote) (address : String) (target : Path) (report : Report) :
    Stage σ Report := do
  Stage.tell .info .acquire ("Downloading " ++ address ++ " ...")
  match remote address with
  | .ok text =>
      Stage.write target text
      Stage.tell .info .acquire ("Downloaded: " ++ target.text)
      return { report with downloaded := report.downloaded ++ [target] }
  | .error reason =>
      Stage.tell .warn .acquire ("Failed: " ++ address ++ " -> " ++ reason)
      return { report with failed := report.failed ++ [address] }

/-- Sees to the document called `name`. -/
def provide (remote : Remote) (record : Record) (dryRun : Bool) (name : String)
    (report : Report) : Stage σ Report := do
  let target := Bundle.localPath record.mapsPath name
  if FileSystem.isTaken (← Stage.files) target then
    return { report with present := report.present + 1 }
  let address := Bundle.address record.baseUrl name
  if dryRun then
    Stage.tell .info .acquire
      ("Missing: " ++ target.text ++ " (would download from " ++ address ++ ")")
    return { report with missing := report.missing ++ [target] }
  download remote address target report

/-- Sees to the document of one bundle. -/
def inspect (remote : Remote) (record : Record) (dryRun : Bool) (report : Report)
    (bundle : Path) : Stage σ Report := do
  let report := { report with bundles := report.bundles + 1 }
  let text ← Stage.readLossy bundle
  match Bundle.mapName? text with
  | none =>
      Stage.tell .debug .acquire (bundle.text ++ ": no sourceMappingURL")
      return report
  | some name =>
      provide remote record dryRun name { report with references := report.references + 1 }

/-- Fetches every document that a bundle names and the maps directory lacks. -/
def acquire (remote : Remote) (record : Record) (dryRun : Bool) : Stage σ Report := do
  let paths ← Stage.list record.inputDir
  let bundles := paths.filter (Bundle.isBundle record.extensions)
  let report ← bundles.foldlM (inspect remote record dryRun) {}
  Stage.tell .info .acquire report.summary
  return report

end SourceTree.Acquire
