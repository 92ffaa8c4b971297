import SourceTree.Proofs.Reference.Statement

/-!
# Programs with one statement on a line

A clause ends with its line, so a statement cannot reach beyond the semicolon behind it. And at no
point of a statement whose specifier is not relative does the scan find anything: the next quote
opens nothing, or it stands behind the semicolon. So the references of a program that has one
statement on a line are exactly the relative specifiers of its statements.
-/

namespace SourceTree.Reference

variable {text front rest part : List Char} {quote : Char} {statement : Statement}

/-- If a specifier follows, there is a semicolon in front of it. -/
def IsQuiet (text : List Char) : Prop :=
  ∀ words found, Announces words text found → ';' ∈ words

section Quiet

theorem isQuiet_semicolon (rest : List Char) : IsQuiet (';' :: rest) := by
  rintro words found ⟨before, -⟩
  have noQuote : isQuote ';' = false := by decide
  have dark : Text.isBlank ';' = false := by decide
  simp only [List.takeWhile_cons, noQuote, Bool.not_false, if_true, List.filter_cons, dark]
    at before
  rw [← before]
  exact List.mem_cons_self ..

theorem IsQuiet.append (quiet : IsQuiet text) (free : IsQuoteFree front) :
    IsQuiet (front ++ text) := by
  have pass : ∀ symbol ∈ front, (!isQuote symbol) = true := by
    intro symbol member
    simp [free symbol member]
  rintro words found ⟨before, behind⟩
  rw [List.takeWhile_append_of_pos pass, List.filter_append] at before
  rw [List.dropWhile_append_of_pos pass] at behind
  rw [← before]
  exact List.mem_append_right _ (quiet _ found ⟨rfl, behind⟩)

theorem isQuiet_quote (isQuote : Reference.isQuote quote = true)
    (nothing : specifier? rest = none) : IsQuiet (quote :: rest) := by
  intro words found announces
  have announced := (announces_append_quote isQuoteFree_nil isQuote).1 announces
  rw [nothing] at announced
  cases announced.2

theorem IsQuiet.quoted?_eq_none (quiet : IsQuiet text) : quoted? text = none := by
  rw [Option.eq_none_iff_forall_ne_some]
  intro found success
  cases quiet _ _ (announces_of_quoted? success)

theorem IsQuiet.fromPart?_eq_none (quiet : IsQuiet text) : fromPart? text = none := by
  rw [Option.eq_none_iff_forall_ne_some]
  intro found success
  exact absurd (quiet _ _ (announces_of_fromPart? success)) (by decide)

theorem IsQuiet.fromWord?_eq_none (quiet : IsQuiet text) : fromWord? text = none := by
  rw [Option.eq_none_iff_forall_ne_some]
  intro found success
  exact absurd (quiet _ _ (announces_of_fromWord? success)) (by decide)

/-- Every point of a statement is quiet up to its semicolon if the specifier is not relative. -/
theorem isQuiet_of_suffix_text (absolute : statement.isRelative = false)
    (suffix : part <:+ statement.text.toList) : IsQuiet (part ++ ';' :: rest) := by
  have ended := isQuiet_semicolon rest
  have closed : IsQuiet (statement.closing.symbol ::
      (statement.opener.closer.toList ++ ';' :: rest)) :=
    isQuiet_quote (Quote.isQuote_symbol _) (statement.specifier?_closer (by simp))
  have opened : IsQuiet (statement.body ++ ';' :: rest) := by
    rw [Statement.body_append]
    apply isQuiet_quote (Quote.isQuote_symbol _)
    rw [Statement.specifier?_statement, absolute]
    rfl
  rw [Statement.toList_text] at suffix
  rcases suffix_or_of_suffix_append suffix with ⟨early, inOpener, rfl⟩ | inBody
  · rw [List.append_assoc]
    exact opened.append (statement.isQuoteFree_opener.of_suffix inOpener)
  rcases List.suffix_cons_iff.1 inBody with rfl | behindOpening
  · exact opened
  rcases suffix_or_of_suffix_append behindOpening with ⟨early, inSpecifier, rfl⟩ | behind
  · rw [List.append_assoc]
    exact closed.append (statement.specifier.isQuoteFree.of_suffix inSpecifier)
  rcases List.suffix_cons_iff.1 behind with rfl | inCloser
  · exact closed
  · exact ended.append (statement.isQuoteFree_closer.of_suffix inCloser)

end Quiet

section Line

theorem afterWord?_append {word : List Char} {separator : Char} (absent : separator ∉ word) :
    Text.afterWord? word (text ++ separator :: rest) =
      (Text.afterWord? word text).map (· ++ separator :: rest) := by
  induction word generalizing text with
  | nil => simp [Text.afterWord?]
  | cons expected word ih =>
      simp only [List.mem_cons, not_or] at absent
      cases text with
      | nil => simp [Text.afterWord?, absent.1]
      | cons symbol text =>
          by_cases same : symbol = expected
          · simp [Text.afterWord?, same, ih absent.2]
          · simp [Text.afterWord?, same]

/-- Nothing is found behind an `import` in a statement whose specifier is not relative. -/
theorem importPart?_eq_none (absolute : statement.isRelative = false)
    (ends : clause? (';' :: rest) = none) (suffix : part <:+ statement.text.toList) :
    importPart? (part ++ ';' :: rest) = none := by
  rcases Text.exists_blank_append_dark part with ⟨blank, behind, rfl, areBlank, headDark⟩
  have inside : behind <:+ statement.text.toList := (List.suffix_append blank behind).trans suffix
  have dark : ∀ symbol ∈ (behind ++ ';' :: rest).head?, Text.isBlank symbol = false := by
    cases behind with
    | nil =>
        intro symbol isHead
        cases isHead
        decide
    | cons first behind => exact headDark
  have quiet : IsQuiet (behind ++ ';' :: rest) := isQuiet_of_suffix_text absolute inside
  have unclaused : clause? (behind ++ ';' :: rest) = none := by
    rw [clause?_append, ends]
    · exact fun member => statement.break_not_mem_text (inside.subset member)
    · intro symbol later within _
      apply IsQuiet.fromPart?_eq_none
      exact isQuiet_of_suffix_text absolute
        ((List.suffix_cons symbol later).trans (within.trans inside))
  by_cases nonempty : blank = []
  · subst nonempty
    exact importPart?_eq_none_of_dark dark
  · rw [List.append_assoc, importPart?_append nonempty areBlank dark, unclaused,
      quiet.quoted?_eq_none, blankClause?, quiet.fromWord?_eq_none]
    simp

theorem statement?_eq_none (absolute : statement.isRelative = false)
    (ends : clause? (';' :: rest) = none) (suffix : part <:+ statement.text.toList) :
    statement? (part ++ ';' :: rest) = none := by
  rw [statement?, afterWord?_append (by decide), afterWord?_append (by decide)]
  cases word : Text.afterWord? "import".toList part with
  | some behind =>
      have inside : behind <:+ part := ⟨_, (Text.afterWord?_eq_some_iff.1 word).symm⟩
      exact importPart?_eq_none absolute ends (inside.trans suffix)
  | none =>
      cases call : Text.afterWord? "require(".toList part with
      | some behind =>
          have inside : behind <:+ part := ⟨_, (Text.afterWord?_eq_some_iff.1 call).symm⟩
          exact (isQuiet_of_suffix_text absolute (inside.trans suffix)).quoted?_eq_none
      | none => rfl

/-- A line is worked off before the next one is looked at. -/
theorem specifiers_line (statement : Statement) (ends : clause? (';' :: rest) = none) :
    specifiers (statement.text.toList ++ ';' :: rest) =
      if statement.isRelative then statement.specifier.text.toList :: specifiers rest
      else specifiers rest := by
  have behindSemicolon : specifiers (';' :: rest) = specifiers rest :=
    specifiers_cons (statement?_cons_of_ne (by decide) (by decide))
  split
  next relative =>
    have success : statement? (statement.text.toList ++ ';' :: rest) =
        some (statement.found (';' :: rest)) := by
      cases reaches : statement.reachesOn with
      | true =>
          rw [Statement.statement?_of_reachesOn relative reaches,
            Statement.clause?_body (Or.inr ⟨rest, rfl⟩), ends]
          rfl
      | false => exact Statement.statement?_of_not_reachesOn relative reaches
    rw [specifiers_of_statement? success, Statement.found, statement.specifiers_closer,
      behindSemicolon]
  next absolute =>
    rw [specifiers_append, behindSemicolon]
    intro symbol behind suffix
    exact statement?_eq_none (Bool.eq_false_iff.2 absolute) ends suffix

end Line

/-- A program with one statement on a line, with or without a line break at its end. -/
def program (statements : List Statement) (isEnded : Bool) : String :=
  "\n".intercalate (statements.map fun statement => statement.text ++ ";") ++
    if isEnded then "\n" else ""

section Ends

theorem clause?_semicolon (next : fromPart? rest = none) (ends : clause? rest = none) :
    clause? (';' :: rest) = none := by
  have dark : Text.isBlank ';' = false := by decide
  simp [clause?, dark, next, ends]

/-- No line goes on with `from`. -/
theorem fromPart?_break_text (statement : Statement) (rest : List Char) :
    fromPart? ('\n' :: (statement.text.toList ++ rest)) = none := by
  rw [Statement.toList_text]
  cases statement.opener with
  | clause words =>
      rw [show (Opener.clause words).text.toList ++ statement.body ++ rest = "import ".toList ++
        (words.text.toList ++ " from ".toList ++ statement.body ++ rest) by simp [Opener.text]]
      rfl
  | bare => rfl
  | call => rfl

end Ends

theorem toList_program_singleton (statement : Statement) (isEnded : Bool) :
    (program [statement] isEnded).toList =
      statement.text.toList ++ ';' :: (program [] isEnded).toList := by
  simp [program]

theorem toList_program_cons (first second : Statement) (statements : List Statement)
    (isEnded : Bool) :
    (program (first :: second :: statements) isEnded).toList =
      first.text.toList ++ ';' :: '\n' :: (program (second :: statements) isEnded).toList := by
  simp [program]

theorem exists_toList_program_eq (first : Statement) (statements : List Statement)
    (isEnded : Bool) :
    ∃ rest, (program (first :: statements) isEnded).toList = first.text.toList ++ rest := by
  cases statements with
  | nil => exact ⟨_, toList_program_singleton first isEnded⟩
  | cons second statements => exact ⟨_, toList_program_cons first second statements isEnded⟩

theorem specifiers_program_nil (isEnded : Bool) : specifiers (program [] isEnded).toList = [] := by
  have nothing : specifiers [] = [] := by
    rw [specifiers]
    rfl
  cases isEnded with
  | false => exact nothing
  | true => exact (specifiers_cons (statement?_cons_of_ne (by decide) (by decide))).trans nothing

theorem specifiers_program (statements : List Statement) (isEnded : Bool) :
    specifiers (program statements isEnded).toList =
      (statements.filter Statement.isRelative).map fun statement =>
        statement.specifier.text.toList := by
  induction statements with
  | nil => exact specifiers_program_nil isEnded
  | cons first statements ih =>
      cases statements with
      | nil =>
          have ends : clause? (';' :: (program [] isEnded).toList) = none := by
            cases isEnded <;> rfl
          rw [toList_program_singleton, specifiers_line first ends, specifiers_program_nil]
          cases relative : first.isRelative <;> simp [relative]
      | cons second statements =>
          have ends : clause? (';' :: '\n' :: (program (second :: statements) isEnded).toList) =
              none := by
            rcases exists_toList_program_eq second statements isEnded with ⟨rest, shape⟩
            apply clause?_semicolon
            · rw [shape]
              exact fromPart?_break_text second rest
            · rfl
          have behindBreak : specifiers ('\n' :: (program (second :: statements) isEnded).toList) =
              specifiers (program (second :: statements) isEnded).toList :=
            specifiers_cons (statement?_cons_of_ne (by decide) (by decide))
          rw [toList_program_cons, specifiers_line first ends, behindBreak, ih]
          cases relative : first.isRelative <;> simp [relative]

/-- The references of a program with one statement on a line are the relative specifiers of its
statements, in order. -/
theorem extract_program (statements : List Statement) (isEnded : Bool) :
    extract (program statements isEnded) =
      (statements.map fun statement => statement.specifier.text).filter fun specifier =>
        isRelative specifier.toList := by
  rw [extract, specifiers_program, List.map_map, List.filter_map]
  simp only [Function.comp_def, String.ofList_toList]
  rfl

end SourceTree.Reference
