import SourceTree.Proofs.Reference.Scan

/-!
# Statements as programs write them

A statement is spelled as `import CLAUSE from "x"`, `import "x"` or `require("x")`. Clauses and
specifiers are phrases: they are not empty, stay on their line and hold no quotes, but may hold any
words, those of statements included.

A statement with a relative specifier is found where it starts. Mostly its own specifier is found.
But a clause is looked for before anything else, and may run over quotes: behind an `import` with
nothing to its right but white space, the scan reaches on for the next `from` of the line.
-/

namespace SourceTree.Reference

/-- One of the two quotes. -/
inductive Quote where
  | single
  | double
  deriving DecidableEq, Repr

/-- How a quote is written. -/
def Quote.symbol : Quote → Char
  | .single => '\''
  | .double => '"'

@[simp]
theorem Quote.isQuote_symbol (quote : Quote) : isQuote quote.symbol = true := by
  cases quote <;> rfl

@[simp]
theorem Quote.symbol_ne_break (quote : Quote) : quote.symbol ≠ '\n' := by
  cases quote <;> decide

/-- A text on one line without quotes. -/
structure Phrase where
  text : String
  nonempty : text ≠ ""
  isQuoteFree : IsQuoteFree text.toList
  break_not_mem : '\n' ∉ text.toList

/-- What a statement starts with. -/
inductive Opener where
  | clause (words : Phrase)
  | bare
  | call

/-- How an opener is written. -/
def Opener.text : Opener → String
  | .clause words => "import " ++ words.text ++ " from "
  | .bare => "import "
  | .call => "require("

/-- What stands behind the closing quote. -/
def Opener.closer : Opener → String
  | .call => ")"
  | _ => ""

/-- A statement that refers to a module by a quoted specifier. -/
structure Statement where
  opener : Opener
  opening : Quote
  specifier : Phrase
  closing : Quote

namespace Statement

/-- A statement as it is written. -/
def text (statement : Statement) : String :=
  statement.opener.text ++ statement.opening.symbol.toString ++ statement.specifier.text ++
    statement.closing.symbol.toString ++ statement.opener.closer

/-- A statement without its opener. -/
def body (statement : Statement) : List Char :=
  statement.opening.symbol :: (statement.specifier.text.toList ++
    statement.closing.symbol :: statement.opener.closer.toList)

theorem toList_text (statement : Statement) :
    statement.text.toList = statement.opener.text.toList ++ statement.body := by
  simp [text, body, Char.toString]

/-- Whether the statement has a `from`. -/
def offersFrom (statement : Statement) : Bool :=
  match statement.opener with
  | .clause _ => true
  | _ => false

/-- Whether only white space follows the `import` of the statement, up to its quote or `from`. -/
def reachesOn (statement : Statement) : Bool :=
  match statement.opener with
  | .clause words => words.text.toList.all Text.isBlank
  | .bare => true
  | .call => false

/-- Whether the specifier is relative. -/
def isRelative (statement : Statement) : Bool :=
  Reference.isRelative statement.specifier.text.toList

variable {statement : Statement} {rest : List Char}

theorem isQuoteFree_opener (statement : Statement) :
    IsQuoteFree statement.opener.text.toList := by
  cases statement.opener with
  | clause words =>
      simp only [Opener.text, String.toList_append, isQuoteFree_append]
      exact ⟨⟨by decide, words.isQuoteFree⟩, by decide⟩
  | bare => decide
  | call => decide

theorem isQuoteFree_closer (statement : Statement) :
    IsQuoteFree statement.opener.closer.toList := by
  cases statement.opener with
  | clause words => exact isQuoteFree_nil
  | bare => decide
  | call => decide

theorem eq_of_mem_closer (statement : Statement) {symbol : Char}
    (member : symbol ∈ statement.opener.closer.toList) : symbol = ')' := by
  cases shape : statement.opener <;> simp_all [Opener.closer]

theorem break_not_mem_body (statement : Statement) : '\n' ∉ statement.body := by
  have closerFree : '\n' ∉ statement.opener.closer.toList := by
    intro member
    cases statement.eq_of_mem_closer member
  simp [body, closerFree, statement.specifier.break_not_mem, Ne.symm (Quote.symbol_ne_break _)]

theorem break_not_mem_text (statement : Statement) : '\n' ∉ statement.text.toList := by
  rw [toList_text, List.mem_append, not_or]
  refine ⟨?_, statement.break_not_mem_body⟩
  cases statement.opener with
  | clause words => simp [Opener.text, words.break_not_mem]
  | bare => decide
  | call => decide

/-- What is found where a statement stands before `rest`. -/
def found (statement : Statement) (rest : List Char) : Found :=
  (statement.specifier.text.toList, statement.opener.closer.toList ++ rest)

theorem specifier?_statement (statement : Statement) (rest : List Char) :
    specifier? (statement.specifier.text.toList ++
        statement.closing.symbol :: (statement.opener.closer.toList ++ rest)) =
      if statement.isRelative then some (statement.found rest) else none :=
  specifier?_append_quote statement.specifier.isQuoteFree (Quote.isQuote_symbol _)

theorem body_append (statement : Statement) (rest : List Char) :
    statement.body ++ rest = statement.opening.symbol :: (statement.specifier.text.toList ++
      statement.closing.symbol :: (statement.opener.closer.toList ++ rest)) := by
  simp [body]

theorem quoted?_body (relative : statement.isRelative = true) :
    quoted? (statement.body ++ rest) = some (statement.found rest) := by
  rw [body_append, quoted?_quote (Quote.isQuote_symbol _), specifier?_statement, if_pos relative]

/-- Nothing is read behind the closing quote of a statement. -/
theorem specifier?_closer (statement : Statement) (closes : rest.head? ≠ some '.') :
    specifier? (statement.opener.closer.toList ++ rest) = none := by
  apply specifier?_eq_none
  cases statement.opener with
  | clause words => exact closes
  | bare => exact closes
  | call => simp [Opener.closer]

/-- A clause runs over the rest of a statement, quotes and all. -/
theorem clause?_body (closes : rest = [] ∨ ∃ more, rest = ';' :: more) :
    clause? (statement.body ++ rest) = clause? rest := by
  apply clause?_append statement.break_not_mem_body
  intro symbol behind suffix _
  have noDot : rest.head? ≠ some '.' := by
    rcases closes with rfl | ⟨more, rfl⟩ <;> simp
  have inside : behind <:+ statement.specifier.text.toList ++
      statement.closing.symbol :: statement.opener.closer.toList := by
    rcases List.suffix_cons_iff.1 suffix with same | inner
    · exact (List.cons.inj same).2 ▸ List.suffix_rfl
    · exact (List.suffix_cons symbol behind).trans inner
  rcases suffix_or_of_suffix_append inside with ⟨part, partSuffix, rfl⟩ | late
  · -- The next quote is the closing one.
    rw [List.append_assoc, List.cons_append]
    apply fromPart?_eq_none_of_specifier? (statement.specifier.isQuoteFree.of_suffix partSuffix)
    · exact Quote.isQuote_symbol _
    · exact statement.specifier?_closer noDot
  · rcases List.suffix_cons_iff.1 late with rfl | behindQuote
    · apply fromPart?_eq_none_of_dark
      simp [isBlank_of_isQuote]
    · apply fromPart?_eq_none_of_dark
      intro next isNext
      cases behind with
      | nil =>
          rcases closes with rfl | ⟨more, rfl⟩
          · cases isNext
          · cases isNext
            decide
      | cons first behind =>
          cases isNext
          have member := behindQuote.subset (List.mem_cons_self ..)
          rw [statement.eq_of_mem_closer member]
          decide

theorem head?_body_dark (statement : Statement) :
    ∀ symbol ∈ (statement.body ++ rest).head?, Text.isBlank symbol = false := by
  intro symbol isHead
  cases isHead
  exact isBlank_of_isQuote (Quote.isQuote_symbol _)

/-- Without its opening quote nothing keeps a clause from running over the word `from`. -/
theorem clause?_from_body (statement : Statement) (rest : List Char) :
    clause? ("from ".toList ++ (statement.body ++ rest)) = clause? (statement.body ++ rest) := by
  apply clause?_append (by decide)
  intro symbol behind suffix _
  have inside : behind <:+ "rom ".toList := by
    rcases List.suffix_cons_iff.1 (show symbol :: behind <:+ 'f' :: "rom ".toList from suffix) with
      same | inner
    · exact (List.cons.inj same).2 ▸ List.suffix_rfl
    · exact (List.suffix_cons symbol behind).trans inner
  have free : IsQuoteFree behind := (by decide : IsQuoteFree "rom ".toList).of_suffix inside
  apply fromPart?_eq_none free (Quote.isQuote_symbol _)
  intro same
  have short := (inside.filter (!Text.isBlank ·)).length_le
  rw [same] at short
  exact absurd short (by decide)

theorem statement?_bare (bare : statement.opener = .bare) (relative : statement.isRelative = true) :
    statement? (statement.text.toList ++ rest) =
      (clause? (statement.body ++ rest)).or (some (statement.found rest)) := by
  have blank : ∀ symbol ∈ [' '], Text.isBlank symbol = true := by simp [Text.isBlank]
  have spelled : statement.text.toList ++ rest =
      "import".toList ++ ([' '] ++ (statement.body ++ rest)) := by
    simp [toList_text, bare, Opener.text]
  rw [spelled, statement?_import, importPart?_append (by simp) blank statement.head?_body_dark,
    quoted?_body relative]
  simp

theorem statement?_call (call : statement.opener = .call) (relative : statement.isRelative = true) :
    statement? (statement.text.toList ++ rest) = some (statement.found rest) := by
  have spelled : statement.text.toList ++ rest =
      "require(".toList ++ (statement.body ++ rest) := by
    simp [toList_text, call, Opener.text]
  rw [spelled, statement?_require]
  exact quoted?_body relative

section Clause

variable {words : Phrase}

theorem toList_text_clause (clause : statement.opener = .clause words) :
    statement.text.toList = "import".toList ++ ' ' :: (words.text.toList ++ " from ".toList ++
      statement.body) := by
  simp [toList_text, clause, Opener.text]

/-- A clause of nothing but white space is the last thing to be tried. -/
theorem statement?_clause_of_blank (clause : statement.opener = .clause words)
    (blank : ∀ symbol ∈ words.text.toList, Text.isBlank symbol = true)
    (relative : statement.isRelative = true) :
    statement? (statement.text.toList ++ rest) =
      (clause? (statement.body ++ rest)).or (some (statement.found rest)) := by
  have gapBlank : ∀ symbol ∈ ' ' :: (words.text.toList ++ [' ']), Text.isBlank symbol = true := by
    intro symbol member
    simp only [List.mem_cons, List.mem_append, List.not_mem_nil, or_false] at member
    rcases member with rfl | member | rfl
    · decide
    · exact blank symbol member
    · decide
  have within : blankClause? (' ' :: (words.text.toList ++ [' ']))
      ("from ".toList ++ (statement.body ++ rest)) = some (statement.found rest) := by
    have symbols : words.text.toList ≠ [] := by simpa using words.nonempty
    rcases List.exists_mem_of_ne_nil _ symbols with ⟨symbol, member⟩
    have notBreak : symbol ≠ '\n' := by
      rintro rfl
      exact words.break_not_mem member
    have long : (words.text.toList).any (· ≠ '\n') = true :=
      List.any_eq_true.2 ⟨symbol, member, by simpa using notBreak⟩
    simp only [blankClause?, List.tail_cons, List.dropLast_concat, long, if_true]
    rw [body_append, fromWord?_from_quote (Quote.isQuote_symbol _), specifier?_statement,
      if_pos relative]
  have dark : ∀ symbol ∈ ("from ".toList ++ (statement.body ++ rest)).head?,
      Text.isBlank symbol = false := by
    intro symbol isHead
    cases isHead
    decide
  have unquoted : quoted? ("from ".toList ++ (statement.body ++ rest)) = none := rfl
  have spelled : statement.text.toList ++ rest = "import".toList ++
      (' ' :: (words.text.toList ++ [' ']) ++ ("from ".toList ++ (statement.body ++ rest))) := by
    simp [toList_text_clause clause]
  rw [spelled, statement?_import, importPart?_append (by simp) gapBlank dark, unquoted, within,
    clause?_from_body]
  simp

theorem statement?_clause_of_dark (clause : statement.opener = .clause words)
    (dark : ∃ symbol ∈ words.text.toList, Text.isBlank symbol = false)
    (relative : statement.isRelative = true) :
    statement? (statement.text.toList ++ rest) = some (statement.found rest) := by
  rcases Text.exists_blank_append_dark words.text.toList with
    ⟨blank, behind, split, areBlank, headDark⟩
  have inside : behind <:+ words.text.toList := ⟨blank, split.symm⟩
  have laterDark : ∃ symbol ∈ behind, Text.isBlank symbol = false := by
    rcases dark with ⟨symbol, member, isDark⟩
    rw [split] at member
    rcases List.mem_append.1 member with early | late
    · rw [areBlank symbol early] at isDark
      cases isDark
    · exact ⟨symbol, late, isDark⟩
  have gapBlank : ∀ symbol ∈ ' ' :: blank, Text.isBlank symbol = true := by
    intro symbol member
    rcases List.mem_cons.1 member with rfl | member
    · decide
    · exact areBlank symbol member
  have oneLine : '\n' ∉ behind := fun member => words.break_not_mem (inside.subset member)
  have success : specifier? _ = some (statement.found rest) :=
    (statement.specifier?_statement rest).trans (if_pos relative)
  have caught := clause?_from oneLine (words.isQuoteFree.of_suffix inside) laterDark
    statement.opening.isQuote_symbol success
  rw [← body_append] at caught
  have wholeDark : ∀ symbol ∈ (behind ++ " from ".toList ++ (statement.body ++ rest)).head?,
      Text.isBlank symbol = false := by
    rcases laterDark with ⟨other, member, -⟩
    rcases List.exists_cons_of_ne_nil (List.ne_nil_of_mem member) with ⟨first, more, rfl⟩
    exact headDark
  have spelled : statement.text.toList ++ rest = "import".toList ++
      (' ' :: blank ++ (behind ++ " from ".toList ++ (statement.body ++ rest))) := by
    simp [toList_text_clause clause, split]
  rw [spelled, statement?_import, importPart?_append (by simp) gapBlank wholeDark, caught]
  rfl

end Clause

/-- Behind an `import` and white space a clause is looked for first. -/
theorem statement?_of_reachesOn (relative : statement.isRelative = true)
    (reaches : statement.reachesOn = true) :
    statement? (statement.text.toList ++ rest) =
      (clause? (statement.body ++ rest)).or (some (statement.found rest)) := by
  cases shape : statement.opener with
  | clause words =>
      have blank : ∀ symbol ∈ words.text.toList, Text.isBlank symbol = true := by
        simpa [reachesOn, shape] using reaches
      exact statement?_clause_of_blank shape blank relative
  | bare => exact statement?_bare shape relative
  | call => simp [reachesOn, shape] at reaches

/-- Every other statement is found with its own specifier. -/
theorem statement?_of_not_reachesOn (relative : statement.isRelative = true)
    (stays : statement.reachesOn = false) :
    statement? (statement.text.toList ++ rest) = some (statement.found rest) := by
  cases shape : statement.opener with
  | clause words =>
      have dark : ∃ symbol ∈ words.text.toList, Text.isBlank symbol = false := by
        simpa [reachesOn, shape] using stays
      exact statement?_clause_of_dark shape dark relative
  | bare => simp [reachesOn, shape] at stays
  | call => exact statement?_call shape relative

/-- Nothing starts in what closes a statement. -/
theorem specifiers_closer (statement : Statement) (rest : List Char) :
    specifiers (statement.opener.closer.toList ++ rest) = specifiers rest := by
  apply specifiers_append
  intro symbol behind suffix
  have member := suffix.subset (List.mem_cons_self ..)
  rw [statement.eq_of_mem_closer member]
  exact statement?_cons_of_ne (by decide) (by decide)

end Statement

end SourceTree.Reference
