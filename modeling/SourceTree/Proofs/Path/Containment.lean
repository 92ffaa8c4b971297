import SourceTree.Proofs.Path.Normal

/-!
# Containment

A path lies in a directory if its normal form is that of the directory followed by names. This is a
statement about places, not about texts: `out/./a/../b` lies in `out`, and `out/../b` does not.
-/

namespace SourceTree.Path

/-- The path is at or below `root`: the normal form of `root` is followed by names only. -/
def LiesIn (path root : Path) : Prop :=
  ∃ names : List String,
    path.normalize.components = root.normalize.components ++ names.map Component.name

/-- The path is below `root`: the normal form of `root` is followed by at least one name, and by
names only. -/
def LiesBelow (path root : Path) : Prop :=
  ∃ names : List String, names ≠ [] ∧
    path.normalize.components = root.normalize.components ++ names.map Component.name

/-- The normal form of the path has more in it than leading `..`s. -/
def IsAnchored (path : Path) : Prop :=
  ∃ component ∈ path.normalize.components, component ≠ .parent

instance (path : Path) : Decidable path.IsAnchored :=
  inferInstanceAs (Decidable (∃ component ∈ path.normalize.components, component ≠ .parent))

theorem components_eq_replicate_of_not_isAnchored {path : Path} (loose : ¬path.IsAnchored) :
    path.normalize.components = List.replicate path.normalize.components.length .parent := by
  rw [List.eq_replicate_iff]
  refine ⟨rfl, ?_⟩
  intro component member
  exact Decidable.byContradiction fun other => loose ⟨component, member, other⟩

/-- Steps without `..` are the names of their texts. -/
theorem exists_map_name {steps : List Component}
    (names : ∀ step ∈ steps, ∃ text, step = .name text) :
    ∃ texts : List String, steps = texts.map Component.name := by
  induction steps with
  | nil => exact ⟨[], rfl⟩
  | cons step steps ih =>
      obtain ⟨text, rfl⟩ := names step (by simp)
      obtain ⟨texts, rfl⟩ := ih fun other member => names other (List.mem_cons_of_mem _ member)
      exact ⟨text :: texts, rfl⟩

/-- A relative path without `..` segments only adds names to what it is joined onto. -/
theorem liesIn_join {root tail : Path} (relative : tail.isAbsolute = false)
    (noParent : ['.', '.'] ∉ Text.split '/' tail.text.toList) : (root.join tail).LiesIn root := by
  have steps : ∀ step ∈ stepsOf tail.text.toList, step.IsStep :=
    fun step member => isStep_of_mem_stepsOf member
  have names : ∀ step ∈ stepsOf tail.text.toList, ∃ text, step = .name text := by
    intro step member
    rcases (steps step member).eq_parent_or_name with rfl | isName
    · exact absurd (parent_mem_stepsOf_iff.1 member) noParent
    · exact isName
  have normal : IsNormal (normalComponents root.components ++ stepsOf tail.text.toList) :=
    (isNormal_normalComponents root).append_names steps
      fun member => noParent (parent_mem_stepsOf_iff.1 member)
  obtain ⟨texts, shape⟩ := exists_map_name names
  refine ⟨texts, ?_⟩
  rw [components_normalize, components_normalize, normalComponents_join relative,
    foldl_normalStep_eq_append (by simpa using normal), shape]
  simp

end SourceTree.Path
