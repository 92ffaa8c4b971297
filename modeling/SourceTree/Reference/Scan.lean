import SourceTree.Path.Basic
import SourceTree.Text.Blank

/-!
# Relative references in source text

A reference is the quoted specifier of `import … from "./x"`, of a bare `import "./x"` or of
`require("./x")`, and counts if it starts with `./` or `../`. The scan is lexical. It does not know
comments and strings, and it misses specifiers that are put together at run time.

The clause between `import` and `from` is the shortest that leads to a reference, holds at least
one character and no line break. Everything else of a statement may be spread over lines. The scan
goes on behind each statement found, so the statements found never overlap.
-/

namespace SourceTree.Reference

/-- A specifier together with the text behind its statement. -/
abbrev Found := List Char × List Char

/-- Whether a character is one of the two quotes. -/
def isQuote (symbol : Char) : Bool :=
  symbol = '\'' || symbol = '"'

/-- The text behind a leading `./` or `../`. -/
def afterDots? : List Char → Option (List Char)
  | '.' :: '/' :: rest => some rest
  | '.' :: '.' :: '/' :: rest => some rest
  | _ => none

/-- A relative specifier at the front of the text, up to the quote that ends it. -/
def specifier? (text : List Char) : Option Found := do
  let body ← afterDots? text
  match body.takeWhile (!isQuote ·), body.dropWhile (!isQuote ·) with
  | _ :: _, _ :: rest => some (text.takeWhile (!isQuote ·), rest)
  | _, _ => none

/-- A quoted relative specifier at the front of the text, behind white space. -/
def quoted? (text : List Char) : Option Found :=
  match Text.skipBlank text with
  | symbol :: rest => if isQuote symbol then specifier? rest else none
  | [] => none

/-- The text behind a nonempty run of white space at its front. -/
def afterBlank? : List Char → Option (List Char)
  | symbol :: rest => if Text.isBlank symbol then some (Text.skipBlank rest) else none
  | [] => none

/-- The word `from`, white space and a quoted specifier. -/
def fromWord? (text : List Char) : Option Found := do
  let text ← Text.afterWord? "from".toList text
  let text ← afterBlank? text
  quoted? text

/-- White space in front of the part from `from` on. -/
def fromPart? (text : List Char) : Option Found := do
  let text ← afterBlank? text
  fromWord? text

/-- A clause of at least one character, the first of which is not white space, and then the part
from `from` on; the shortest clause wins. What follows white space is the same wherever the clause
ends within it, so it is tried only once. -/
def clause? : List Char → Option Found
  | [] => none
  | symbol :: rest =>
      if symbol = '\n' then none
      else if Text.isBlank symbol then clause? rest
      else
        match fromPart? rest with
        | some found => some found
        | none => clause? rest

/-- A clause within the white space behind `import`, in front of `text`: one character at least
that is no line break, between white space on either side. -/
def blankClause? (blank text : List Char) : Option Found :=
  if blank.tail.dropLast.any (· ≠ '\n') then fromWord? text else none

/-- What follows the word `import`: white space and then a clause with `from`, or the specifier
itself. A clause may also be white space, but only if nothing else fits. -/
def importPart? (text : List Char) : Option Found :=
  let blank := text.takeWhile Text.isBlank
  let behind := Text.skipBlank text
  if blank.isEmpty then none
  else
    match clause? behind with
    | some found => some found
    | none =>
        match quoted? behind with
        | some found => some found
        | none => blankClause? blank behind

/-- A statement at the front of the text. -/
def statement? (text : List Char) : Option Found :=
  match Text.afterWord? "import".toList text with
  | some rest => importPart? rest
  | none =>
      match Text.afterWord? "require(".toList text with
      | some rest => quoted? rest
      | none => none

section Length

theorem length_of_specifier? {text : List Char} {found : Found}
    (success : specifier? text = some found) : found.2.length < text.length := by
  have dots : ∀ {text rest : List Char}, afterDots? text = some rest →
      rest.length ≤ text.length := by
    intro text rest equation
    unfold afterDots? at equation
    split at equation
    · simp only [Option.some.injEq] at equation
      subst equation
      simp only [List.length_cons]
      omega
    · simp only [Option.some.injEq] at equation
      subst equation
      simp only [List.length_cons]
      omega
    · simp at equation
  have drop : ∀ (body : List Char), (body.dropWhile (!isQuote ·)).length ≤ body.length := by
    intro body
    induction body with
    | nil => simp
    | cons symbol body ih =>
        rw [List.dropWhile_cons]
        split
        · simp only [List.length_cons]; omega
        · exact Nat.le_refl _
  unfold specifier? at success
  cases shape : afterDots? text with
  | none => simp [shape] at success
  | some body =>
      have shorter := dots shape
      simp only [shape, Option.bind_eq_bind, Option.bind_some] at success
      split at success
      next rest found =>
        have bound := drop body
        rw [found] at bound
        simp only [Option.some.injEq] at success
        subst success
        simp only [List.length_cons] at bound
        exact Nat.lt_of_lt_of_le (Nat.lt_of_succ_le bound) shorter
      next => simp at success

theorem length_of_quoted? {text : List Char} {found : Found}
    (success : quoted? text = some found) : found.2.length < text.length := by
  have bound := Text.length_skipBlank_le text
  unfold quoted? at success
  split at success
  next symbol rest shape =>
    split at success
    · have shorter := length_of_specifier? success
      rw [shape, List.length_cons] at bound
      omega
    · simp at success
  next => simp at success

theorem length_of_afterBlank? {text rest : List Char} (success : afterBlank? text = some rest) :
    rest.length < text.length := by
  unfold afterBlank? at success
  split at success
  next symbol behind =>
    split at success
    · have bound := Text.length_skipBlank_le behind
      simp only [Option.some.injEq] at success
      subst success
      simp only [List.length_cons]
      omega
    · simp at success
  next => simp at success

theorem length_of_fromWord? {text : List Char} {found : Found}
    (success : fromWord? text = some found) : found.2.length < text.length := by
  unfold fromWord? at success
  simp only [Option.bind_eq_bind, Option.bind_eq_some_iff] at success
  obtain ⟨behind, word, third, blank, success⟩ := success
  have third_lt := length_of_afterBlank? blank
  have found_lt := length_of_quoted? success
  rw [Text.afterWord?_eq_some_iff.1 word, List.length_append]
  omega

theorem length_of_fromPart? {text : List Char} {found : Found}
    (success : fromPart? text = some found) : found.2.length < text.length := by
  unfold fromPart? at success
  simp only [Option.bind_eq_bind, Option.bind_eq_some_iff] at success
  obtain ⟨behind, blank, success⟩ := success
  have behind_lt := length_of_afterBlank? blank
  have found_lt := length_of_fromWord? success
  omega

theorem length_of_clause? {text : List Char} {found : Found}
    (success : clause? text = some found) : found.2.length < text.length := by
  induction text with
  | nil => simp [clause?] at success
  | cons symbol rest ih =>
      rw [List.length_cons]
      unfold clause? at success
      split at success
      · simp at success
      · split at success
        · have := ih success
          omega
        · split at success
          next found' shape =>
            simp only [Option.some.injEq] at success
            subst success
            have := length_of_fromPart? shape
            omega
          next =>
            have := ih success
            omega

theorem length_of_blankClause? {blank text : List Char} {found : Found}
    (success : blankClause? blank text = some found) : found.2.length < text.length := by
  unfold blankClause? at success
  split at success
  · exact length_of_fromWord? success
  · simp at success

theorem length_of_importPart? {text : List Char} {found : Found}
    (success : importPart? text = some found) : found.2.length < text.length := by
  have bound := Text.length_skipBlank_le text
  simp only [importPart?] at success
  split at success
  · simp at success
  · split at success
    next found' shape =>
      simp only [Option.some.injEq] at success
      subst success
      have := length_of_clause? shape
      omega
    next =>
      split at success
      next found' shape =>
        simp only [Option.some.injEq] at success
        subst success
        have := length_of_quoted? shape
        omega
      next =>
        have := length_of_blankClause? success
        omega

/-- A statement is never empty, so the scan behind it comes to an end. -/
theorem length_of_statement? {text : List Char} {found : Found}
    (success : statement? text = some found) : found.2.length < text.length := by
  unfold statement? at success
  split at success
  next rest shape =>
    have := length_of_importPart? success
    rw [Text.afterWord?_eq_some_iff.1 shape, List.length_append]
    omega
  next =>
    split at success
    next rest shape =>
      have := length_of_quoted? success
      rw [Text.afterWord?_eq_some_iff.1 shape, List.length_append]
      omega
    next => simp at success

end Length

/-- The specifiers of the statements in the text, in order. -/
def specifiers (text : List Char) : List (List Char) :=
  match _shape : statement? text with
  | some found => found.1 :: specifiers found.2
  | none =>
      match text with
      | [] => []
      | _ :: rest => specifiers rest
termination_by text.length
decreasing_by
  · exact length_of_statement? _shape
  · simp

/-- Every relative specifier that the text refers to, in order of appearance, duplicates
kept. -/
def extract (text : String) : List String :=
  (specifiers text.toList).map String.ofList

/-- The extensions of files that are scanned. -/
def sourceExtensions : List String := ["js", "jsx", "ts", "tsx"]

/-- Whether a file is scanned for references. -/
def isSourceFile (path : Path) : Bool :=
  match path.extension? with
  | some ending => sourceExtensions.contains ending
  | none => false

end SourceTree.Reference
