import SourceTree.Proofs.Reference.Resolve
import SourceTree.Proofs.Stage.Ends
import SourceTree.Stage.Placeholders

/-!
# What a scan finds

Looking into a reference tells an event and adds to the survey, and the files stay as they are. So
the survey of a tree is a function of what its references lead to, one after the other: a fold over
resolutions. The places for placeholders in it are the missing candidates within the tree, each
place once.
-/

namespace SourceTree.Placeholders

open Stage (Ends)

/-- The survey with one more reference, given what it leads to. -/
def Survey.note (record : Record) (survey : Survey) (resolution : Reference.Resolution) : Survey :=
  let counted := { survey with references := survey.references + 1 }
  match resolution with
  | .found _ => counted
  | .missing candidate =>
      if candidate.isWithin record.treePath.normalize then counted.insert candidate
      else { counted with outside := counted.outside + 1 }
  | .unresolvable => counted

section Examine

variable {σ : Type} [FileSystem σ] {files : σ}

theorem ends_examine (record : Record) (source : Path) (survey : Survey) (specifier : String) :
    Ends (examine record source survey specifier) files
      (.ok (survey.note record (Reference.resolve files record.extensions source specifier)))
      files := by
  apply Ends.files_ok.bind
  cases Reference.resolve files record.extensions source specifier with
  | found path =>
      apply Ends.after_tell
      exact Ends.pure _
  | missing candidate =>
      simp only [Survey.note]
      split
      · exact Ends.pure _
      · apply Ends.after_tell
        exact Ends.pure _
  | unresolvable =>
      apply Ends.after_tell
      exact Ends.pure _

/-- What the references of a source file with a given text lead to. -/
def resolutionsIn (files : σ) (record : Record) (source : Path) (text : String) :
    List Reference.Resolution :=
  (Reference.extract text).map (Reference.resolve files record.extensions source)

/-- Scanning a readable file notes what each of its references leads to. -/
theorem ends_scan {record : Record} {source : Path} {content : ByteArray} (survey : Survey)
    (readable : FileSystem.readBytes files source = .ok content) :
    Ends (scan record survey source) files
      (.ok ((resolutionsIn files record source (Text.Utf8.decodeLossy content)).foldl
        (Survey.note record) { survey with scanned := survey.scanned + 1 })) files := by
  apply (Ends.readLossy_ok readable).bind
  rw [resolutionsIn, List.foldl_map]
  apply Ends.foldlM_keep
  intro survey specifier _
  exact ends_examine record source survey specifier

end Examine

section Candidates

variable {record : Record} {survey : Survey} {resolutions : List Reference.Resolution}
  {candidate : Path}

theorem mem_candidates_insert_iff {place : Path} :
    candidate ∈ (survey.insert place).candidates ↔
      candidate ∈ survey.candidates ∨
        candidate = place ∧ survey.candidates.any (·.same place) = false := by
  rw [Survey.insert]
  split
  next known => simp [known]
  next fresh => simp [fresh]

theorem mem_candidates_note_iff {resolution : Reference.Resolution} :
    candidate ∈ (survey.note record resolution).candidates ↔
      candidate ∈ survey.candidates ∨
        resolution = .missing candidate ∧ candidate.isWithin record.treePath.normalize = true ∧
          survey.candidates.any (·.same candidate) = false := by
  cases resolution with
  | found path => simp [Survey.note]
  | unresolvable => simp [Survey.note]
  | missing place =>
      simp only [Survey.note]
      split
      next within =>
        rw [mem_candidates_insert_iff]
        constructor
        · rintro (known | ⟨rfl, fresh⟩)
          · exact Or.inl known
          · exact Or.inr ⟨rfl, within, fresh⟩
        · rintro (known | ⟨same, _, fresh⟩)
          · exact Or.inl known
          · cases same
            exact Or.inr ⟨rfl, fresh⟩
      next outside =>
        constructor
        · exact Or.inl
        · rintro (known | ⟨same, within, _⟩)
          · exact known
          · cases same
            exact absurd within outside

/-- A survey of resolutions has only missing candidates within the tree. -/
theorem mem_candidates_of_mem_foldl_note
    (member : candidate ∈ (resolutions.foldl (Survey.note record) survey).candidates) :
    candidate ∈ survey.candidates ∨
      .missing candidate ∈ resolutions ∧
        candidate.isWithin record.treePath.normalize = true := by
  induction resolutions generalizing survey with
  | nil => exact Or.inl member
  | cons resolution resolutions ih =>
      rcases ih member with noted | ⟨later, within⟩
      · rcases mem_candidates_note_iff.1 noted with known | ⟨rfl, within, _⟩
        · exact Or.inl known
        · exact Or.inr ⟨by simp, within⟩
      · exact Or.inr ⟨List.mem_cons_of_mem _ later, within⟩

theorem mem_candidates_foldl_note_of_mem (member : candidate ∈ survey.candidates) :
    candidate ∈ (resolutions.foldl (Survey.note record) survey).candidates := by
  induction resolutions generalizing survey with
  | nil => exact member
  | cons resolution resolutions ih => exact ih (mem_candidates_note_iff.2 (Or.inl member))

/-- Every missing candidate within the tree is in the survey, in some spelling. -/
theorem exists_same_of_missing_mem (missing : .missing candidate ∈ resolutions)
    (within : candidate.isWithin record.treePath.normalize = true) :
    ∃ place ∈ (resolutions.foldl (Survey.note record) survey).candidates,
      place.components = candidate.components := by
  induction resolutions generalizing survey with
  | nil => cases missing
  | cons resolution resolutions ih =>
      rcases List.mem_cons.1 missing with rfl | later
      · rw [List.foldl_cons]
        cases known : survey.candidates.any (·.same candidate) with
        | true =>
            rcases List.any_eq_true.1 known with ⟨place, member, same⟩
            refine ⟨place, ?_, by simpa [Path.same] using same⟩
            exact mem_candidates_foldl_note_of_mem (mem_candidates_note_iff.2 (Or.inl member))
        | false =>
            refine ⟨candidate, ?_, rfl⟩
            apply mem_candidates_foldl_note_of_mem
            exact mem_candidates_note_iff.2 (Or.inr ⟨rfl, within, known⟩)
      · exact ih later

end Candidates

end SourceTree.Placeholders
