import Mathlib.Data.List.TakeWhile
import SourceTree.Text.Blank

/-!
# Laws of white space

A text is its leading white space and the rest, and the rest starts with another symbol. So a run of
white space, or a run without it, ends exactly where the next symbol is of the other kind.
-/

namespace SourceTree.Text

variable {text blank solid rest : List Char}

theorem exists_blank_append_skipBlank (text : List Char) :
    ∃ blank, (∀ symbol ∈ blank, isBlank symbol = true) ∧ text = blank ++ skipBlank text :=
  ⟨text.takeWhile isBlank, List.all_eq_true.1 List.all_takeWhile,
    List.takeWhile_append_dropWhile.symm⟩

/-- Leading white space, and what follows it. -/
theorem exists_blank_append_dark (text : List Char) :
    ∃ blank behind, text = blank ++ behind ∧ (∀ symbol ∈ blank, isBlank symbol = true) ∧
      ∀ symbol ∈ behind.head?, isBlank symbol = false := by
  rcases exists_blank_append_skipBlank text with ⟨blank, areBlank, split⟩
  refine ⟨blank, _, split, areBlank, ?_⟩
  intro symbol isHead
  have stops := List.head?_dropWhile_not isBlank text
  rw [show (text.dropWhile isBlank).head? = some symbol from isHead] at stops
  exact stops

theorem takeWhile_blank_of_head? (dark : ∀ symbol ∈ text.head?, isBlank symbol = false) :
    text.takeWhile isBlank = [] := by
  cases text with
  | nil => rfl
  | cons symbol rest => simp [dark symbol rfl]

theorem skipBlank_of_head? (dark : ∀ symbol ∈ text.head?, isBlank symbol = false) :
    skipBlank text = text := by
  cases text with
  | nil => rfl
  | cons symbol rest => simp [skipBlank, dark symbol rfl]

theorem skipBlank_append (areBlank : ∀ symbol ∈ blank, isBlank symbol = true)
    (dark : ∀ symbol ∈ rest.head?, isBlank symbol = false) : skipBlank (blank ++ rest) = rest := by
  rw [skipBlank, List.dropWhile_append_of_pos areBlank]
  exact skipBlank_of_head? dark

/-- A run without white space ends at the next white space. -/
theorem takeWhile_solid_append (isSolid : ∀ symbol ∈ solid, isBlank symbol = false)
    (ends : ∀ symbol ∈ rest.head?, isBlank symbol = true) :
    (solid ++ rest).takeWhile (!isBlank ·) = solid := by
  rw [List.takeWhile_append_of_pos (by simpa using isSolid)]
  cases rest with
  | nil => simp
  | cons symbol rest => simp [ends symbol rfl]

end SourceTree.Text
