import SourceTree.Proofs.Bundle.Assignment
import SourceTree.Proofs.Text.Segments

/-!
# Names that bundles give

The value of an assignment has no white space in it, and what it names has no forbidden characters
and no slashes at the end. There are no other conditions: each text of this kind is the name of the
document for some bundle.
-/

namespace SourceTree.Bundle

/-- A text that can be the name of a map document. -/
structure IsGiven (name : List Char) : Prop where
  nonempty : name ≠ []
  unblank : ∀ symbol ∈ name, Text.isBlank symbol = false
  allowed : ∀ symbol ∈ name, isNameCharacter symbol = true
  unslashed : name.getLast? ≠ some '/'

instance (name : List Char) : Decidable (IsGiven name) :=
  decidable_of_iff (name ≠ [] ∧ name.all (!Text.isBlank ·) = true ∧
      name.all isNameCharacter = true ∧ name.getLast? ≠ some '/') <| by
    simp only [List.all_eq_true, Bool.not_eq_true']
    exact ⟨fun ⟨nonempty, unblank, allowed, unslashed⟩ => ⟨nonempty, unblank, allowed, unslashed⟩,
      fun given => ⟨given.nonempty, given.unblank, given.allowed, given.unslashed⟩⟩

variable {text value name : List Char}

section Sound

theorem isGiven_of_nameOfValue? {name : String} (named : nameOfValue? value = some name)
    (unblank : ∀ symbol ∈ value, Text.isBlank symbol = false) : IsGiven name.toList := by
  rw [nameOfValue?] at named
  split at named
  · cases named
  · split at named
    · cases named
    next nonempty =>
      cases named
      rw [String.toList_ofList]
      refine ⟨nonempty, ?_, ?_, Text.getLast?_trimRight_ne '/' _⟩
      · intro symbol member
        exact unblank symbol (List.mem_filter.1 (Text.mem_of_mem_trimRight member)).1
      · intro symbol member
        exact (List.mem_filter.1 (Text.mem_of_mem_trimRight member)).2

theorem isGiven_of_mapName? {text name : String} (named : mapName? text = some name) :
    IsGiven name.toList := by
  rcases Option.bind_eq_some_iff.1 named with ⟨value, assigned, named⟩
  exact isGiven_of_nameOfValue? named (firstAssigned?_eq_some_iff.1 assigned).unblank

end Sound

section Complete

theorem trailer_of_not_mem (absent : '\n' ∉ text) : trailer text = text := by
  simp [trailer, Text.split_of_not_mem absent, trailerLines, Text.join_singleton]

theorem IsGiven.colon_not_mem (given : IsGiven name) : ':' ∉ name := by
  intro colon
  exact absurd (given.allowed ':' colon) (by decide)

theorem IsGiven.filter_eq (given : IsGiven name) : name.filter isNameCharacter = name :=
  List.filter_eq_self.2 given.allowed

/-- A value names what is left of it, unless it is inline. -/
theorem nameOfValue?_of_trimmed (given : IsGiven name) (noColon : ':' ∉ value)
    (trimmed : Text.trimRight '/' (value.filter isNameCharacter) = name) :
    nameOfValue? value = some (String.ofList name) := by
  have notInline : Text.afterWord? "data:".toList value = none := by
    rw [Option.eq_none_iff_forall_ne_some]
    intro rest inline
    apply noColon
    rw [Text.afterWord?_eq_some_iff.1 inline]
    simp
  rw [nameOfValue?, notInline, trimmed]
  cases name with
  | nil => exact absurd rfl given.nonempty
  | cons symbol rest => rfl

theorem IsGiven.trimmed (given : IsGiven name) :
    Text.trimRight '/' (name.filter isNameCharacter) = name := by
  rw [given.filter_eq, Text.trimRight_of_getLast? given.unslashed]

end Complete

/-- The names that bundles give are all texts without white space, forbidden characters and slashes
at the end. -/
theorem exists_mapName?_iff (name : String) :
    (∃ text, mapName? text = some name) ↔ IsGiven name.toList := by
  constructor
  · rintro ⟨text, named⟩
    exact isGiven_of_mapName? named
  · intro given
    have written : Assigns name.toList (marker ++ ([] ++ '=' :: ([] ++ (name.toList ++ [])))) :=
      .written (by simp) (by simp) given.nonempty given.unblank (by simp)
    have first : FirstAssigns name.toList (marker ++ '=' :: name.toList) := by
      simpa using written.first (by decide : ¬marker <:+: [])
    have absent : '\n' ∉ marker ++ '=' :: name.toList := by
      rw [List.mem_append, List.mem_cons, not_or, not_or]
      refine ⟨by decide, by decide, ?_⟩
      intro member
      exact absurd (given.unblank '\n' member) (by decide)
    refine ⟨String.ofList (marker ++ '=' :: name.toList), ?_⟩
    rw [mapName?, String.toList_ofList, trailer_of_not_mem absent,
      firstAssigned?_eq_some_iff.2 first, Option.bind_some,
      nameOfValue?_of_trimmed given given.colon_not_mem given.trimmed, String.ofList_toList]

end SourceTree.Bundle
