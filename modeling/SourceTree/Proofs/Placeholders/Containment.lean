import SourceTree.Proofs.Path.Containment
import SourceTree.Proofs.Path.Parent
import SourceTree.Proofs.Path.Suffix
import SourceTree.Proofs.Placeholders.Fill
import SourceTree.Proofs.Placeholders.Places
import SourceTree.Proofs.Record.Valid

/-!
# Which placeholders lie in the tree

A place for a placeholder only has to have the normal form of the tree root in front. If the root
is anchored, that is, if its normal form has a name or the root directory in it, then nothing but
names can follow, and every placeholder is below the root or is the root itself. If the root is a
mere run of `..`s, or empty, then another `..` can follow, and a reference that leaves the tree
gets a placeholder outside.
-/

namespace SourceTree

namespace Record

variable {record : Record}

/-- The extension that placeholders are given has no `..` segment. -/
def HasPlainExtension (record : Record) : Prop :=
  ∀ extension, record.extensions.head? = some extension →
    ['.', '.'] ∉ Text.split '/' extension.toList

theorem exists_head?_of_defect?_eq_none (valid : record.defect? = none) :
    ∃ extension, record.extensions.head? = some extension :=
  ⟨_, List.head?_eq_some_head (defect?_eq_none_iff.1 valid).1⟩

/-- The extensions of a usable record start with a dot. -/
theorem exists_dot_of_defect?_eq_none (valid : record.defect? = none) {extension : String}
    (first : record.extensions.head? = some extension) :
    ∃ rest, extension.toList = '.' :: rest :=
  List.head?_eq_some_iff.1
    ((defect?_eq_none_iff.1 valid).2 extension (List.mem_of_head? first)).1

end Record

namespace Placeholders

open SourceTree.Path (IsNormal)

variable {σ : Type} [FileSystem σ] {files : σ} {record : Record} {place : Path}

theorem IsPlace.prefix_components (isPlace : IsPlace files record place) :
    record.treePath.normalize.components <+: place.components := by
  simpa [Path.isWithin] using isPlace.within

/-- With a plain extension, a place is in normal form, except that an empty root lets through a
place with a leading `.`. -/
theorem IsPlace.isNormal_or (isPlace : IsPlace files record place) (valid : record.defect? = none)
    (plain : record.HasPlainExtension) :
    IsNormal place.components ∨ record.treePath.normalize.components = [] := by
  have cut := isPlace.prefix_components
  rcases isPlace.missing with ⟨source, specifier, missing⟩
  rcases Reference.exists_extension_of_resolve_eq_missing missing with ⟨extension, first, rfl⟩
  rcases Record.exists_dot_of_defect?_eq_none valid first with ⟨rest, dotted⟩
  rcases Path.isNormal_withSuffix (Path.isNormal_normalComponents _) dotted
    (plain extension first) with normal | leading
  · exact Or.inl normal
  · right
    rcases cut with ⟨behind, whole⟩
    have rootKnown := (Path.isNormal_components_normalize record.treePath).known
    cases shape : record.treePath.normalize.components with
    | nil => rfl
    | cons component components =>
        obtain rfl : component = .current := by
          rw [shape, List.cons_append] at whole
          have head := congrArg List.head? whole
          rw [List.head?_cons] at head
          exact Option.some.inj (head.trans leading)
        rcases rootKnown .current (by simp [shape]) with impossible | step
        · cases impossible
        · exact absurd rfl step.ne_current

/-- With a plain extension, what the check lets through keeps the root in front of its normal
form. -/
theorem IsPlace.prefix_normalize (isPlace : IsPlace files record place)
    (valid : record.defect? = none) (plain : record.HasPlainExtension) :
    record.treePath.normalize.components <+: place.normalize.components := by
  rcases isPlace.isNormal_or valid plain with normal | empty
  · rw [Path.components_normalize place, Path.normalComponents_of_isNormal normal]
    exact isPlace.prefix_components
  · rw [empty]
    exact List.nil_prefix

/-- Below an anchored root, a place is in the tree unless it is the root itself. -/
theorem IsPlace.liesBelow_iff_of_isAnchored (isPlace : IsPlace files record place)
    (valid : record.defect? = none) (plain : record.HasPlainExtension)
    (anchored : record.treePath.IsAnchored) :
    place.LiesBelow record.treePath ↔ place.same record.treePath.normalize = false := by
  have normal : IsNormal place.components := by
    rcases isPlace.isNormal_or valid plain with normal | empty
    · exact normal
    · rcases anchored with ⟨component, member, _⟩
      rw [empty] at member
      cases member
  have unchanged : place.normalize.components = place.components := by
    rw [Path.components_normalize, Path.normalComponents_of_isNormal normal]
  rcases isPlace.prefix_components with ⟨behind, whole⟩
  rw [← whole] at normal
  obtain ⟨names, rfl⟩ := Path.exists_map_name (normal.names_of_append anchored)
  rw [Path.LiesBelow, Path.same, beq_eq_false_iff_ne, unchanged, ← whole]
  constructor
  · rintro ⟨texts, nonempty, shape⟩ same
    rw [same] at shape
    have empty : texts.map Component.name = [] := List.self_eq_append_right.1 shape
    exact nonempty (List.map_eq_nil_iff.1 empty)
  · intro differs
    refine ⟨names, ?_, rfl⟩
    rintro rfl
    exact differs (List.append_nil _)

/-- In a store, a root that is spelled in normal form is taken and so gets no placeholder: under an
anchored root of this kind every placeholder is below. -/
theorem liesBelow_of_mem_created {session after : Session Store} {report : Report}
    (valid : record.defect? = none) (plain : record.HasPlainExtension)
    (anchored : record.treePath.IsAnchored)
    (spelled : record.treePath.components = record.treePath.normalize.components)
    (ran : fill record session = (.ok report, after)) (member : place ∈ report.created) :
    place.LiesBelow record.treePath := by
  have isPlace := isPlace_of_mem_created ran member
  rw [isPlace.liesBelow_iff_of_isAnchored valid plain anchored, Path.same, beq_eq_false_iff_ne]
  intro same
  rcases isPlace.missing with ⟨source, specifier, missing⟩
  have free : session.files.isTaken place = false :=
    Reference.isTaken_eq_false_of_resolve_eq_missing missing
  rw [Store.isTaken_congr (same.trans spelled.symm)] at free
  cases ((ends_fill_of_not_isTaken free).eq_of_run ran).1
  cases member

end Placeholders

end SourceTree
