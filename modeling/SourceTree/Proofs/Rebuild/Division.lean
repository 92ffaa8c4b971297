import Mathlib.Data.List.Basic
import SourceTree.Proofs.Stage.Ends
import SourceTree.Stage.Rebuild

/-!
# What becomes of the listed documents

A rebuild works through the files that are listed below the maps directory and called like map
documents. Whatever it finds in them and wherever it writes, also over a document whose turn is yet
to come, each one is either written out or skipped, and the report of a rebuild that gets through
says how many are written out and which are skipped.
-/

namespace SourceTree.Rebuild

/-- The documents are those that the report counts, and those that it lists as skipped. -/
def Report.Divides (report : Report) (documents : List Path) : Prop :=
  ∃ written : List Path, written.length = report.documents ∧
    (written ++ report.skipped).Perm documents

variable {σ : Type} [FileSystem σ] {record : Record} {session after : Session σ}
  {report next : Report} {document : Path} {seen rest : List Path}

theorem Report.Divides.count (divides : report.Divides seen) (document : Path) :
    Report.Divides { report with documents := report.documents + 1 } (seen ++ [document]) := by
  rcases divides with ⟨written, count, parts⟩
  refine ⟨document :: written, by simp [count], ?_⟩
  exact (parts.cons document).trans (List.perm_append_singleton document seen).symm

theorem Report.Divides.skip (divides : report.Divides seen) (document : Path) :
    Report.Divides { report with skipped := report.skipped ++ [document] }
      (seen ++ [document]) := by
  rcases divides with ⟨written, count, parts⟩
  refine ⟨written, count, ?_⟩
  rw [← List.append_assoc]
  exact parts.append_right [document]

/-- A source does not change what is said about documents. -/
theorem eq_of_writeEntry {entry : String × String}
    (ran : writeEntry record document report entry session = (.ok next, after)) :
    next.documents = report.documents ∧ next.skipped = report.skipped := by
  rcases entry with ⟨source, content⟩
  rw [writeEntry] at ran
  dsimp only at ran
  split at ran
  · rcases Stage.run_bind_eq_ok_iff.1 ran with ⟨_, _, _, answer⟩
    cases answer
    exact ⟨rfl, rfl⟩
  · rcases Stage.run_bind_eq_ok_iff.1 ran with ⟨_, _, _, told⟩
    rcases Stage.run_bind_eq_ok_iff.1 told with ⟨_, _, _, answer⟩
    cases answer
    exact ⟨rfl, rfl⟩

theorem divides_of_writeDocument (divides : report.Divides seen)
    (ran : writeDocument record report document session = (.ok next, after)) :
    next.Divides (seen ++ [document]) := by
  rcases Stage.run_bind_eq_ok_iff.1 ran with ⟨files, between, _, worked⟩
  cases loaded : MapDocument.load files document with
  | error error =>
      rw [loaded] at worked
      rcases Stage.run_bind_eq_ok_iff.1 worked with ⟨_, _, _, answer⟩
      cases answer
      exact divides.skip document
  | ok contents =>
      rw [loaded] at worked
      rcases Stage.run_bind_eq_ok_iff.1 worked with ⟨counted, _, written, answer⟩
      cases answer
      have kept : counted.documents = report.documents ∧ counted.skipped = report.skipped := by
        refine Stage.foldlM_invariant (fun counted _ =>
          counted.documents = report.documents ∧ counted.skipped = report.skipped) ?_
          ⟨rfl, rfl⟩ written
        rintro value entry session next after _ ⟨documents, skipped⟩ ran
        rcases eq_of_writeEntry ran with ⟨nextDocuments, nextSkipped⟩
        exact ⟨nextDocuments.trans documents, nextSkipped.trans skipped⟩
      have same : counted.Divides seen := by
        rw [Report.Divides, kept.1, kept.2]
        exact divides
      exact same.count document

theorem divides_of_writeDocuments (divides : report.Divides seen)
    (ran : rest.foldlM (writeDocument record) report session = (.ok next, after)) :
    next.Divides (seen ++ rest) := by
  induction rest generalizing seen report session with
  | nil =>
      cases ran
      simpa using divides
  | cons document rest ih =>
      rw [List.foldlM_cons] at ran
      rcases Stage.run_bind_eq_ok_iff.1 ran with ⟨middle, between, first, later⟩
      rw [List.append_cons]
      exact ih (divides_of_writeDocument divides first) later

/-- A rebuild that gets through has listed the maps directory, and its report divides the documents
found there. -/
theorem exists_divides_of_rebuild (ran : rebuild record session = (.ok report, after)) :
    ∃ paths, FileSystem.list session.files record.mapsPath = .ok paths ∧
      report.Divides (paths.filter MapDocument.isMapDocument) := by
  rcases Stage.run_bind_eq_ok_iff.1 ran with ⟨paths, between, listed, worked⟩
  rcases Stage.run_bind_eq_ok_iff.1 worked with ⟨counted, _, written, told⟩
  rcases Stage.run_bind_eq_ok_iff.1 told with ⟨_, _, _, answer⟩
  cases answer
  have nothing : Report.Divides {} [] := ⟨[], rfl, List.Perm.refl _⟩
  refine ⟨paths, ?_, divides_of_writeDocuments nothing written⟩
  cases outcome : FileSystem.list session.files record.mapsPath with
  | error error => cases ((Stage.Ends.list_error outcome).eq_of_run listed).1
  | ok found => rw [Except.ok.inj ((Stage.Ends.list_ok outcome).eq_of_run listed).1]

end SourceTree.Rebuild
