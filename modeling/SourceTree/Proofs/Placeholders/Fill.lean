import SourceTree.Proofs.Files.Store
import SourceTree.Proofs.Placeholders.Survey

/-!
# The whole pass on a store

On a store every step of the pass can be followed. Listed files are stored and so can be read; a
candidate that is not taken is no directory and so can be written. The pass therefore fails only if
the tree root is a file, and otherwise it is two folds: one over the references of the tree, one
over the places that they ask for.
-/

namespace SourceTree

/-- The content of the file at a path as it is scanned, empty where there is no file. -/
def Store.scannedText (store : Store) (path : Path) : String :=
  Text.Utf8.decodeLossy ((store.content? path).getD ByteArray.empty)

/-- A stored file that still has its content can be read, and its text is the same. -/
theorem Store.exists_readBytes_of_mem {store files : Store} {path : Path}
    (stored : path ∈ store.files.map Prod.fst)
    (kept : ∀ content, store.content? path = some content →
      files.content? path = some content) :
    ∃ content, FileSystem.readBytes files path = .ok content ∧
      store.scannedText path = Text.Utf8.decodeLossy content := by
  rcases List.mem_map.1 stored with ⟨entry, member, rfl⟩
  have found := Store.content?_of_mem member
  refine ⟨entry.2, ?_, by simp [scannedText, found]⟩
  change files.readBytes entry.1 = _
  simp [readBytes, kept _ found]

namespace Placeholders

open Stage (Ends)

variable {record : Record} {store : Store}

/-- The source files of the tree, in the order of their paths. -/
def sources (store : Store) (record : Record) : List Path :=
  ((store.files.map Prod.fst).filter (·.isWithin record.treePath)).filter Reference.isSourceFile

/-- What the references of the tree lead to, in the order in which they are met. -/
def resolutions (store : Store) (record : Record) : List Reference.Resolution :=
  (sources store record).flatMap fun source =>
    resolutionsIn store record source (store.scannedText source)

/-- The survey with the number of scanned files set. -/
def Survey.withScanned (survey : Survey) (count : Nat) : Survey :=
  { survey with scanned := count }

/-- The survey of the tree. -/
def surveyed (store : Store) (record : Record) : Survey :=
  ((resolutions store record).foldl (Survey.note record) {}).withScanned
    (sources store record).length

/-- Writes a placeholder unless its place is taken. -/
def put (state : List Path × Store) (candidate : Path) : List Path × Store :=
  if state.2.isTaken candidate then state
  else (state.1 ++ [candidate], state.2.place candidate (Reference.stub candidate).toUTF8)

/-- The placeholders written for the tree, and the store with them. -/
def filled (store : Store) (record : Record) : List Path × Store :=
  (surveyed store record).candidates.foldl put ([], store)

/-- The report of a pass over the tree. -/
def reported (store : Store) (record : Record) : Report where
  scanned := (surveyed store record).scanned
  references := (surveyed store record).references
  missing := (surveyed store record).candidates.length
  outside := (surveyed store record).outside
  created := (filled store record).1

theorem insert_withScanned (survey : Survey) (candidate : Path) (count : Nat) :
    (survey.withScanned count).insert candidate = (survey.insert candidate).withScanned count := by
  change (if survey.candidates.any (·.same candidate) = true then _ else _) = _
  rw [Survey.insert]
  split
  · rfl
  · rfl

theorem note_withScanned (survey : Survey) (resolution : Reference.Resolution) (count : Nat) :
    (survey.withScanned count).note record resolution =
      (survey.note record resolution).withScanned count := by
  cases resolution with
  | found path => rfl
  | unresolvable => rfl
  | missing candidate =>
      simp only [Survey.note]
      split
      · exact insert_withScanned { survey with references := survey.references + 1 } candidate count
      · rfl

theorem foldl_note_withScanned (resolutions : List Reference.Resolution) (survey : Survey)
    (count : Nat) :
    resolutions.foldl (Survey.note record) (survey.withScanned count) =
      (resolutions.foldl (Survey.note record) survey).withScanned count := by
  induction resolutions generalizing survey with
  | nil => rfl
  | cons resolution resolutions ih => rw [List.foldl_cons, note_withScanned, ih, List.foldl_cons]

/-- The survey with one more source file. -/
def surveyFile (store : Store) (record : Record) (survey : Survey) (source : Path) : Survey :=
  (resolutionsIn store record source (store.scannedText source)).foldl (Survey.note record)
    (survey.withScanned (survey.scanned + 1))

theorem foldl_surveyFile (paths : List Path) (survey : Survey) :
    paths.foldl (surveyFile store record) survey =
      ((paths.flatMap fun source =>
        resolutionsIn store record source (store.scannedText source)).foldl
          (Survey.note record) survey).withScanned (survey.scanned + paths.length) := by
  induction paths generalizing survey with
  | nil => rfl
  | cons path paths ih =>
      have count : survey.scanned + 1 + paths.length = survey.scanned + (path :: paths).length := by
        rw [List.length_cons]
        omega
      rw [List.foldl_cons, ih, surveyFile, foldl_note_withScanned, foldl_note_withScanned,
        List.flatMap_cons, List.foldl_append, ← count]
      rfl

theorem ends_scan_source {source : Path} (survey : Survey)
    (member : source ∈ sources store record) :
    Ends (scan record survey source) store (.ok (surveyFile store record survey source)) store := by
  have stored := (List.mem_filter.1 (List.mem_filter.1 member).1).1
  rcases Store.exists_readBytes_of_mem stored fun _ => id with ⟨content, readable, text⟩
  rw [surveyFile, text]
  exact ends_scan survey readable

theorem ends_scan_sources :
    Ends ((sources store record).foldlM (scan record) {}) store (.ok (surveyed store record))
      store := by
  have ended : Ends ((sources store record).foldlM (scan record) {}) store
      (.ok ((sources store record).foldl (surveyFile store record) {})) store :=
    Ends.foldlM_keep {} fun survey _ member => ends_scan_source survey member
  rw [foldl_surveyFile, Nat.zero_add] at ended
  exact ended

theorem ends_create (state : List Path × Store) (candidate : Path) :
    Ends (create state.1 candidate) state.2 (.ok (put state candidate).1)
      (put state candidate).2 := by
  apply Ends.files_ok.bind
  change Ends (if state.2.isTaken candidate = true then _ else _) _ _ _
  rw [put]
  split
  next => exact Ends.pure _
  next taken =>
    have free : state.2.isDirectory candidate = false :=
      Store.not_isDirectory_of_not_isTaken (by simpa using taken)
    apply (Ends.write_ok (Store.write_of_not_isDirectory free _)).bind
    apply Ends.after_tell
    exact Ends.pure _

/-- Without a tree the pass does nothing. -/
theorem ends_fill_of_not_isTaken (free : store.isTaken record.treePath = false) :
    Ends (fill record) store (.ok {}) store := by
  apply Ends.files_ok.bind
  change Ends (if (!store.isTaken record.treePath) = true then _ else _) _ _ _
  rw [free]
  apply Ends.after_tell
  exact Ends.pure _

/-- A tree root that is a file cannot be listed. -/
theorem ends_fill_of_not_isDirectory (taken : store.isTaken record.treePath = true)
    (notDirectory : store.isDirectory record.treePath = false) :
    Ends (fill record) store (.error (.list record.treePath (.noDirectory record.treePath)))
      store := by
  apply Ends.files_ok.bind
  change Ends (if (!store.isTaken record.treePath) = true then _ else _) _ _ _
  rw [taken]
  exact (Ends.list_error (Store.list_of_not_isDirectory notDirectory)).bind_error

/-- On a tree the pass writes what the survey asks for and answers with the report. -/
theorem ends_fill_of_isDirectory (directory : store.isDirectory record.treePath = true) :
    Ends (fill record) store (.ok (reported store record)) (filled store record).2 := by
  have taken : store.isTaken record.treePath = true := by
    rw [Store.isTaken, directory, Bool.or_true]
  apply Ends.files_ok.bind
  change Ends (if (!store.isTaken record.treePath) = true then _ else _) _ _ _
  rw [taken]
  apply (Ends.list_ok (Store.list_of_isDirectory directory)).bind
  apply ends_scan_sources.bind
  apply (Ends.foldlM (surveyed store record).candidates ([], store) ends_create).bind
  apply Ends.after_tell
  exact Ends.pure _

end Placeholders

end SourceTree
