import SourceTree.Proofs.Path.Within

/-!
# Texts without names

Segments that are empty or `.` do not count. A text that has no others adds nothing to what it is
joined onto, so the join is the same path, however long the text is. Only behind the empty path is
there a difference: there the text leads the join, and a leading `.` does count.
-/

namespace SourceTree.Path

/-- No segment of the text counts. -/
def IsNameless (text : List Char) : Prop :=
  ∀ segment ∈ Text.split '/' text, segment = [] ∨ segment = ['.']

instance (text : List Char) : Decidable (IsNameless text) :=
  inferInstanceAs (Decidable (∀ segment ∈ Text.split '/' text, _))

variable {text : List Char} {path base tail : Path}

theorem ofSegment?_eq_none_iff {segment : List Char} :
    Component.ofSegment? segment = none ↔ segment = [] ∨ segment = ['.'] := by
  rw [Component.ofSegment?]
  split
  next uncounted => exact iff_of_true rfl uncounted
  next counted =>
    apply iff_of_false _ counted
    split <;> simp

theorem stepsOf_eq_nil_iff : stepsOf text = [] ↔ IsNameless text := by
  simp only [stepsOf, List.filterMap_eq_nil_iff, IsNameless, ofSegment?_eq_none_iff]

/-- Without `..` segments, a text that is not nameless has a name. -/
theorem exists_name_mem_components_iff (noParent : ['.', '.'] ∉ Text.split '/' path.text.toList) :
    (∃ name, .name name ∈ path.components) ↔ ¬IsNameless path.text.toList := by
  rw [components_eq, ← stepsOf_eq_nil_iff]
  constructor
  · rintro ⟨name, member⟩ none
    rw [none, List.append_nil] at member
    cases lead : leadOf path.text.toList <;> simp [lead, Lead.components] at member
  · intro some
    rcases List.exists_mem_of_ne_nil _ some with ⟨step, member⟩
    rcases (isStep_of_mem_stepsOf member).eq_parent_or_name with rfl | ⟨name, rfl⟩
    · exact absurd (parent_mem_stepsOf_iff.1 member) noParent
    · exact ⟨name, List.mem_append_right _ member⟩

/-- A nameless relative text that is not empty starts with a `.` segment. -/
theorem leadOf_eq_current (relative : text.head? ≠ some '/') (nonempty : text ≠ [])
    (nameless : IsNameless text) : leadOf text = .current := by
  rw [leadOf, if_neg relative]
  cases text with
  | nil => exact absurd rfl nonempty
  | cons symbol rest =>
      have differs : symbol ≠ '/' := by simpa using relative
      rw [IsNameless] at nameless
      cases shape : Text.split '/' (symbol :: rest) with
      | nil => exact absurd shape (Text.split_ne_nil '/' _)
      | cons first others =>
          rw [shape] at nameless
          have notEmpty : first ≠ [] := by
            rw [Text.split, if_neg differs] at shape
            split at shape
            · cases shape
              simp
            · cases shape
              simp
          have dot : first = ['.'] := (nameless first (by simp)).resolve_left notEmpty
          simp [dot]

/-- Joining a relative text stays at the base exactly if the text is nameless and has a base that it
does not lead. -/
theorem same_join_iff (relative : tail.isAbsolute = false) (nonempty : tail.text ≠ "") :
    (base.join tail).same base = true ↔ base.text ≠ "" ∧ IsNameless tail.text.toList := by
  rw [same_iff]
  by_cases empty : base.text = ""
  · apply iff_of_false _ (fun both => both.1 empty)
    rw [components_eq_nil_of_text empty, components_eq, text_join_of_empty relative empty,
      List.append_eq_nil_iff, stepsOf_eq_nil_iff]
    rintro ⟨noLead, nameless⟩
    have characters : tail.text.toList ≠ [] := by
      rw [ne_eq, String.toList_eq_nil_iff]
      exact nonempty
    rw [leadOf_eq_current (isAbsolute_eq_false_iff.1 relative) characters nameless] at noLead
    cases noLead
  · rw [components_join relative empty, List.append_right_eq_self, stepsOf_eq_nil_iff]
    simp [empty]

end SourceTree.Path
