/-!
# Text divided at a separator

Paths, URLs and bundle texts are all cut at a single character. Cutting keeps empty
pieces, so a text with `n` separators always has `n + 1` pieces and joining the pieces
gives the text back.
-/

namespace SourceTree.Text

/-- The pieces of a text between occurrences of `separator`, empty ones included. -/
def split (separator : Char) : List Char → List (List Char)
  | [] => [[]]
  | symbol :: rest =>
      if symbol = separator then
        [] :: split separator rest
      else
        match split separator rest with
        | [] => [[symbol]]
        | piece :: pieces => (symbol :: piece) :: pieces

/-- The pieces with one `separator` between each two. -/
def join (separator : Char) (pieces : List (List Char)) : List Char :=
  [separator].intercalate pieces

/-- The text without leading copies of `symbol`. -/
def trimLeft (symbol : Char) (text : List Char) : List Char :=
  text.dropWhile (· = symbol)

/-- The text without trailing copies of `symbol`. -/
def trimRight (symbol : Char) (text : List Char) : List Char :=
  (text.reverse.dropWhile (· = symbol)).reverse

theorem split_ne_nil (separator : Char) (text : List Char) : split separator text ≠ [] := by
  cases text with
  | nil => simp [split]
  | cons symbol rest =>
      rw [split]
      split
      · simp
      · split <;> simp

/-- Joining the pieces restores the text. -/
theorem join_split (separator : Char) (text : List Char) :
    join separator (split separator text) = text := by
  induction text with
  | nil => rfl
  | cons symbol rest ih =>
      rw [split]
      split
      next same =>
        cases shape : split separator rest with
        | nil => exact absurd shape (split_ne_nil separator rest)
        | cons piece pieces =>
            rw [shape] at ih
            simp only [join, List.intercalate, List.intersperse] at ih ⊢
            simp_all
      next differs =>
        cases shape : split separator rest with
        | nil => exact absurd shape (split_ne_nil separator rest)
        | cons piece pieces =>
            rw [shape] at ih
            cases pieces <;> simp_all [join, List.intercalate, List.intersperse]

/-- No piece holds the separator. -/
theorem not_mem_of_mem_split {separator : Char} {text piece : List Char}
    (member : piece ∈ split separator text) : separator ∉ piece := by
  induction text generalizing piece with
  | nil => simp_all [split]
  | cons symbol rest ih =>
      rw [split] at member
      split at member
      next same =>
        rcases List.mem_cons.1 member with rfl | later
        · simp
        · exact ih later
      next differs =>
        cases shape : split separator rest with
        | nil => exact absurd shape (split_ne_nil separator rest)
        | cons head pieces =>
            rw [shape] at member ih
            rcases List.mem_cons.1 member with rfl | later
            · have absent := ih (List.mem_cons_self ..)
              simp [absent, Ne.symm differs]
            · exact ih (List.mem_cons_of_mem _ later)

end SourceTree.Text
