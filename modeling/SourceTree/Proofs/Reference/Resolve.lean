import SourceTree.Reference.Resolve

/-!
# When references are answered

A reference is missing if nothing is at any of the places looked at. The place for its placeholder
is always the first of them, so it is known from the reference alone: more files can turn a missing
reference into an answered one, but never move its place.
-/

namespace SourceTree.Reference

variable {σ τ : Type} [FileSystem σ] [FileSystem τ] {files : σ} {grown : τ}
variable {extensions : List String} {target candidate source : Path} {specifier : String}

theorem resolveTarget_eq_missing_iff :
    resolveTarget files extensions target = .missing candidate ↔
      (∀ path ∈ modules extensions target, FileSystem.isTaken files path = false) ∧
        FileSystem.isFile files target = false ∧
        (∀ path ∈ indices extensions target, FileSystem.isTaken files path = false) ∧
        (modules extensions target).head? = some candidate := by
  rw [resolveTarget]
  split
  next path found =>
    have member := List.mem_of_find?_eq_some found
    have taken := List.find?_some found
    simp only [reduceCtorEq, false_iff]
    rintro ⟨free, _⟩
    simp [free path member] at taken
  next modulesFree =>
    rw [List.find?_eq_none] at modulesFree
    split
    next isFile => simp [isFile]
    next notFile =>
      split
      next path found =>
        have member := List.mem_of_find?_eq_some found
        have taken := List.find?_some found
        simp only [reduceCtorEq, false_iff]
        rintro ⟨_, _, free, _⟩
        simp [free path member] at taken
      next indicesFree =>
        rw [List.find?_eq_none] at indicesFree
        split
        next first rest shape => simp_all
        next shape => simp [shape]

/-- The place for a placeholder is the target with the first extension. -/
theorem exists_extension_of_resolve_eq_missing
    (missing : resolve files extensions source specifier = .missing candidate) :
    ∃ extension, extensions.head? = some extension ∧
      candidate = (Reference.target source specifier).withSuffix extension := by
  have head := (resolveTarget_eq_missing_iff.1 missing).2.2.2
  rw [modules, List.head?_map, Option.map_eq_some_iff] at head
  rcases head with ⟨extension, first, rfl⟩
  exact ⟨extension, first, rfl⟩

/-- Without extensions, and only then, a reference can have no place for a placeholder. -/
theorem extensions_eq_nil_of_resolve_eq_unresolvable
    (unresolvable : resolve files extensions source specifier = .unresolvable) :
    extensions = [] := by
  rw [resolve, resolveTarget] at unresolvable
  split at unresolvable
  · cases unresolvable
  · split at unresolvable
    · cases unresolvable
    · split at unresolvable
      · cases unresolvable
      · split at unresolvable
        · cases unresolvable
        next empty => exact List.map_eq_nil_iff.1 empty

/-- A missing reference was missing, at the same place, when fewer paths were taken. -/
theorem resolve_eq_missing_of_grown
    (taken : ∀ path, FileSystem.isTaken files path = true → FileSystem.isTaken grown path = true)
    (isFile : ∀ path, FileSystem.isFile files path = true → FileSystem.isFile grown path = true)
    (missing : resolve grown extensions source specifier = .missing candidate) :
    resolve files extensions source specifier = .missing candidate := by
  have free : ∀ path, FileSystem.isTaken grown path = false →
      FileSystem.isTaken files path = false := by
    intro path
    rw [← Bool.not_eq_true, ← Bool.not_eq_true]
    exact mt (taken path)
  rw [resolve, resolveTarget_eq_missing_iff] at missing ⊢
  rcases missing with ⟨modulesFree, notFile, indicesFree, first⟩
  refine ⟨?_, ?_, ?_, first⟩
  · intro path member
    exact free path (modulesFree path member)
  · rw [← Bool.not_eq_true] at notFile ⊢
    exact mt (isFile _) notFile
  · intro path member
    exact free path (indicesFree path member)

/-- The place for a placeholder is not taken. -/
theorem isTaken_eq_false_of_resolve_eq_missing
    (missing : resolve files extensions source specifier = .missing candidate) :
    FileSystem.isTaken files candidate = false := by
  rw [resolve, resolveTarget_eq_missing_iff] at missing
  exact missing.1 candidate (List.mem_of_head? missing.2.2.2)

end SourceTree.Reference
