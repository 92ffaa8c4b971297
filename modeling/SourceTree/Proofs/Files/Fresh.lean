import SourceTree.Proofs.Path.Within
import SourceTree.Proofs.Stage.Writes

/-!
# Writing new files

A row of writes takes the paths that it goes to and those above them, and no others. If nothing was
at these paths before, no file is lost: the store has its former files with their contents, and
beside them the new ones, each under the path it was written to.
-/

namespace SourceTree.Store

variable {store : Store} {path query : Path} {content : ByteArray}
  {outputs : List (Path × String)}

theorem isFile_place :
    (store.place path content).isFile query = true ↔
      path.same query = true ∨ store.isFile query = true := by
  rw [isFile_iff_exists_mem, isFile_iff_exists_mem, Path.same_iff]
  exact exists_mem_insertFile_iff (· = query.components)

theorem isDirectory_place :
    (store.place path content).isDirectory query = true ↔
      query.isAbove path = true ∨ store.isDirectory query = true := by
  rw [isDirectory_iff, isDirectory_iff, Path.isAbove_iff]
  simp only [place, exists_mem_insertFile_iff fun steps =>
    query.components <+: steps ∧ steps ≠ query.components]
  exact or_left_comm

/-- Written files make directories of the paths above them. -/
theorem isDirectory_writes :
    (store.writes outputs).isDirectory query = true ↔
      store.isDirectory query = true ∨ ∃ output ∈ outputs, query.isAbove output.1 = true := by
  induction outputs generalizing store with
  | nil => simp [writes]
  | cons output outputs ih =>
      rw [writes_cons, ih, isDirectory_place]
      simp only [List.mem_cons, exists_eq_or_imp]
      exact or_assoc.trans or_left_comm

/-- Written files take their paths and the paths above them. -/
theorem isTaken_writes (store : Store) (outputs : List (Path × String)) (query : Path) :
    (store.writes outputs).isTaken query =
      (store.isTaken query || outputs.any (·.1.isWithin query)) := by
  induction outputs generalizing store with
  | nil => simp [writes]
  | cons output outputs ih =>
      have one : (store.place output.1 output.2.toUTF8).isTaken query =
          (store.isTaken query || output.1.isWithin query) := by
        rw [Bool.eq_iff_iff, Bool.or_eq_true, isTaken_place, Path.isWithin_iff]
      rw [writes_cons, ih, one, List.any_cons, Bool.or_assoc]

theorem isFile_writes :
    (store.writes outputs).isFile query = true ↔
      store.isFile query = true ∨ ∃ output ∈ outputs, output.1.same query = true := by
  induction outputs generalizing store with
  | nil => simp [writes]
  | cons output outputs ih =>
      rw [writes_cons, ih, isFile_place]
      simp only [List.mem_cons, exists_eq_or_imp]
      exact or_assoc.trans or_left_comm

theorem isTaken_writes_of_isTaken (taken : store.isTaken query = true)
    (outputs : List (Path × String)) : (store.writes outputs).isTaken query = true := by
  simp [isTaken_writes, taken]

/-- What is above something taken is taken. -/
theorem isTaken_of_isWithin (taken : store.isTaken path = true)
    (within : path.isWithin query = true) : store.isTaken query = true := by
  rw [Path.isWithin_iff] at within
  rw [isTaken_iff] at taken ⊢
  rcases taken with ⟨directory, member, below⟩ | ⟨entry, member, below⟩
  · exact Or.inl ⟨directory, member, within.trans below⟩
  · exact Or.inr ⟨entry, member, within.trans below⟩

theorem isTaken_of_isFile (known : store.isFile query = true) : store.isTaken query = true := by
  simp [isTaken, known]

theorem not_isFile_of_not_isTaken (free : store.isTaken query = false) :
    store.isFile query = false := by
  rw [isTaken, Bool.or_eq_false_iff] at free
  exact free.1

/-- Outputs to new paths leave every file as it is. -/
theorem content?_writes_of_fresh (fresh : ∀ output ∈ outputs, store.isTaken output.1 = false)
    (found : store.content? query = some content) :
    (store.writes outputs).content? query = some content := by
  rw [content?_writes_of_forall_ne, found]
  intro output member
  rw [Bool.eq_false_iff]
  intro same
  have taken : store.isTaken output.1 = true := by
    rw [isTaken_congr (Path.same_iff.1 same)]
    exact isTaken_of_isFile (isFile_iff_exists_content.2 ⟨content, found⟩)
  simp [fresh output member] at taken

/-- Outputs to new paths add their files and keep all others. -/
theorem mem_files_writes {entry : Path × ByteArray}
    (fresh : ∀ output ∈ outputs, store.isFile output.1 = false)
    (apart : outputs.Pairwise fun earlier later => earlier.1.same later.1 = false) :
    entry ∈ (store.writes outputs).files ↔
      entry ∈ store.files ∨ ∃ output ∈ outputs, entry = (output.1, output.2.toUTF8) := by
  induction outputs generalizing store with
  | nil => simp [writes]
  | cons output outputs ih =>
      rcases List.pairwise_cons.1 apart with ⟨first, rest⟩
      have placed : entry ∈ (store.place output.1 output.2.toUTF8).files ↔
          entry = (output.1, output.2.toUTF8) ∨ entry ∈ store.files := by
        apply mem_insertFile_iff
        intro other member same
        have known := isFile_iff_exists_mem.2 ⟨other, member, same⟩
        simp [fresh output (by simp)] at known
      have still : ∀ other ∈ outputs,
          (store.place output.1 output.2.toUTF8).isFile other.1 = false := by
        intro other member
        rw [Bool.eq_false_iff]
        intro known
        rcases isFile_place.1 known with same | old
        · simp [first other member] at same
        · simp [fresh other (List.mem_cons_of_mem _ member)] at old
      rw [writes_cons, ih still rest, placed]
      simp only [List.mem_cons, exists_eq_or_imp]
      exact or_assoc.trans or_left_comm

end SourceTree.Store
