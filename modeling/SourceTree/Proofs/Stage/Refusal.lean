import SourceTree.Proofs.Acquire.Turns
import SourceTree.Proofs.Placeholders.Fill

/-!
# What stages on a store can fail with

Two of the stages ask whether a path is taken before they write there, and this guards all of their
writes on a store: only a directory is in the way of a file, and a directory is taken. It does not
matter what the pass has written before, since the question is put to the files of that moment. All
that such a pass reads was listed before, and a listed file keeps its content, because only free
paths are written. So these stages fail at their first step or not at all: a root that is no
directory cannot be listed. No file is half written then, and nothing of the store has changed.
-/

namespace SourceTree.Stage

/-- The stage fails on the files with `isRefused` and on no others. It always fails with `error`, and
leaves the files as they were then. -/
structure FailsExactly {σ α : Type} (stage : Stage σ α) (isRefused : σ → Prop)
    (error : StageError) : Prop where
  fails_iff : ∀ session, (∃ failure, (stage session).1 = .error failure) ↔ isRefused session.files
  eq_error : ∀ session failure, (stage session).1 = .error failure → failure = error
  keeps_files : ∀ session failure,
    (stage session).1 = .error failure → (stage session).2.files = session.files

namespace FailsExactly

variable {σ α : Type} {stage : Stage σ α} {isRefused : σ → Prop} {error : StageError}

/-- It is enough to know both ends of the stage. -/
theorem of_ends (refused : ∀ files, isRefused files → Ends stage files (.error error) files)
    (answers : ∀ files, ¬isRefused files → ∃ value after, Ends stage files (.ok value) after) :
    FailsExactly stage isRefused error := by
  have refuses (session : Session σ) (asked : isRefused session.files) :
      (stage session).1 = .error error ∧ (stage session).2.files = session.files := by
    have ran : stage session = ((stage session).1, (stage session).2) := rfl
    exact (refused session.files asked).eq_of_run ran
  have asked (session : Session σ) (failure : StageError)
      (failed : (stage session).1 = .error failure) : isRefused session.files := by
    by_contra fine
    rcases answers session.files fine with ⟨value, after, ends⟩
    rcases ends session.events with ⟨told, ran⟩
    rw [show stage session = (.ok value, ⟨after, told⟩) from ran] at failed
    cases failed
  constructor
  · intro session
    constructor
    · rintro ⟨failure, failed⟩
      exact asked session failure failed
    · intro isAsked
      exact ⟨error, (refuses session isAsked).1⟩
  · intro session failure failed
    rw [(refuses session (asked session failure failed)).1] at failed
    exact (Except.error.inj failed).symm
  · intro session failure failed
    exact (refuses session (asked session failure failed)).2

end FailsExactly

/-- A pass over bundles fails exactly if the input directory is no directory, and a pass over
references exactly if the tree root is something else than a directory. It fails to list this path
then and has written nothing; nothing that it reads or writes ever fails, whatever the store, the
record, the answers of the remote side and the events so far. -/
theorem failsExactly_guarded (remote : Remote) (record : Record) (dryRun : Bool) :
    FailsExactly (σ := Store) (Acquire.acquire remote record dryRun)
      (fun store => store.isDirectory record.inputDir = false)
      (.list record.inputDir (.noDirectory record.inputDir)) ∧
    FailsExactly (σ := Store) (Placeholders.fill record)
      (fun store => store.isTaken record.treePath = true ∧
        store.isDirectory record.treePath = false)
      (.list record.treePath (.noDirectory record.treePath)) := by
  constructor
  · apply FailsExactly.of_ends
    · exact fun store absent => Acquire.ends_acquire_of_not_isDirectory remote dryRun absent
    · intro store present
      exact ⟨_, _, Acquire.ends_acquire_of_isDirectory remote dryRun
        (eq_true_of_ne_false present)⟩
  · apply FailsExactly.of_ends
    · rintro store ⟨taken, notDirectory⟩
      exact Placeholders.ends_fill_of_not_isDirectory taken notDirectory
    · intro store fine
      cases taken : store.isTaken record.treePath with
      | false => exact ⟨_, _, Placeholders.ends_fill_of_not_isTaken taken⟩
      | true =>
          have directory : store.isDirectory record.treePath = true :=
            eq_true_of_ne_false fun absent => fine ⟨taken, absent⟩
          exact ⟨_, _, Placeholders.ends_fill_of_isDirectory directory⟩

end SourceTree.Stage
