import SourceTree.Proofs.Placeholders.Survey

/-!
# Where placeholders are put

On whatever file system, a placeholder that a pass reports is the place of a reference that was
missing when the pass began, and has the normal form of the tree root in front. Nothing else is
ever checked of it.
-/

namespace SourceTree.Placeholders

variable {σ : Type} [FileSystem σ] {files : σ} {record : Record} {session after : Session σ}

/-- A place that a reference asks for and that the check against the tree root lets through. -/
structure IsPlace (files : σ) (record : Record) (place : Path) : Prop where
  within : place.isWithin record.treePath.normalize = true
  missing : ∃ source specifier,
    Reference.resolve files record.extensions source specifier = .missing place

/-- Surveys of the files as they are, with places only. -/
def IsSurvey (files : σ) (record : Record) (survey : Survey) (now : σ) : Prop :=
  now = files ∧ ∀ place ∈ survey.candidates, IsPlace files record place

theorem isSurvey_of_examine {source : Path} {survey next : Survey} {specifier : String}
    (known : IsSurvey files record survey session.files)
    (ran : examine record source survey specifier session = (.ok next, after)) :
    IsSurvey files record next after.files := by
  rcases known with ⟨rfl, places⟩
  rcases (ends_examine record source survey specifier).eq_of_run ran with ⟨answer, unchanged⟩
  cases answer
  refine ⟨unchanged, ?_⟩
  intro place member
  rcases mem_candidates_note_iff.1 member with old | ⟨missing, within, _⟩
  · exact places place old
  · exact ⟨within, source, specifier, missing⟩

theorem isSurvey_of_scan {source : Path} {survey next : Survey}
    (known : IsSurvey files record survey session.files)
    (ran : scan record survey source session = (.ok next, after)) :
    IsSurvey files record next after.files := by
  rcases Stage.run_bind_eq_ok_iff.1 ran with ⟨text, between, read, rest⟩
  rw [← Stage.files_of_readLossy read] at known
  have counted : IsSurvey files record { survey with scanned := survey.scanned + 1 }
      between.files := known
  refine Stage.foldlM_invariant (IsSurvey files record) ?_ counted rest
  intro survey specifier session next after _ known ran
  exact isSurvey_of_examine known ran

theorem eq_of_create {created next : List Path} {candidate : Path}
    (ran : create created candidate session = (.ok next, after)) :
    next = created ∨ next = created ++ [candidate] := by
  rcases Stage.run_bind_eq_ok_iff.1 ran with ⟨files, between, _, rest⟩
  split at rest
  · cases rest
    exact Or.inl rfl
  · rcases Stage.run_bind_eq_ok_iff.1 rest with ⟨_, _, _, told⟩
    rcases Stage.run_bind_eq_ok_iff.1 told with ⟨_, _, _, answer⟩
    cases answer
    exact Or.inr rfl

/-- Every placeholder of a pass is a place that a reference asks for. -/
theorem isPlace_of_mem_created {report : Report} {place : Path}
    (ran : fill record session = (.ok report, after)) (member : place ∈ report.created) :
    IsPlace session.files record place := by
  rcases Stage.run_bind_eq_ok_iff.1 ran with ⟨files, between, seen, rest⟩
  have unchanged := (Stage.Ends.files_ok.eq_of_run seen).2
  split at rest
  · rcases Stage.run_bind_eq_ok_iff.1 rest with ⟨_, _, _, answer⟩
    cases answer
    cases member
  · rcases Stage.run_bind_eq_ok_iff.1 rest with ⟨paths, _, list, listed⟩
    rcases Stage.run_bind_eq_ok_iff.1 listed with ⟨survey, later, scanned, surveyed⟩
    rcases Stage.run_bind_eq_ok_iff.1 surveyed with ⟨created, _, written, told⟩
    rcases Stage.run_bind_eq_ok_iff.1 told with ⟨_, _, _, answer⟩
    cases answer
    have known : IsSurvey session.files record survey later.files := by
      refine Stage.foldlM_invariant (IsSurvey session.files record) ?_ ⟨?_, by simp⟩ scanned
      · intro survey source session next after _ known ran
        exact isSurvey_of_scan known ran
      · rw [Stage.files_of_list list, unchanged]
    have kept : ∀ place ∈ created, place ∈ survey.candidates := by
      refine Stage.foldlM_invariant
        (fun created _ => ∀ place ∈ created, place ∈ survey.candidates) ?_ (by simp) written
      intro created candidate session next after candidateMem known ran
      rcases eq_of_create ran with rfl | rfl
      · exact known
      · intro place member
        rcases List.mem_append.1 member with old | new
        · exact known place old
        · rw [List.mem_singleton.1 new]
          exact candidateMem
    exact known.2 place (kept place member)

end SourceTree.Placeholders
