import SourceTree.Proofs.Reference.Statement

/-!
# Statements that share a line

On one line a statement can reach into a later one. Behind an `import` whose clause is missing or
blank the scan runs on to the next `from` of the line and takes the specifier there, and everything
in between is lost. All other statements are found with their own specifiers. So nothing is lost
exactly if no such `import` stands anywhere before a `from`.
-/

namespace SourceTree.Reference

variable {statement : Statement} {statements : List Statement} {rest : List Char}

/-- Statements on one line. -/
def row (statements : List Statement) : String :=
  "; ".intercalate (statements.map Statement.text)

/-- The statements of a row whose specifiers are found. If the scan `isReaching` for a `from`,
it passes over statements that have none. -/
def survivors (isReaching : Bool) : List Statement → List Statement
  | [] => []
  | statement :: statements =>
      match isReaching with
      | true =>
          if statement.offersFrom then statement :: survivors false statements
          else survivors true statements
      | false =>
          if statement.reachesOn && statements.any Statement.offersFrom then
            survivors true statements
          else statement :: survivors false statements

/-- What follows a statement if `statements` are still to come. -/
def onward : List Statement → List Char
  | [] => []
  | statement :: statements => "; ".toList ++ (statement.text.toList ++ onward statements)

theorem onward_closes (statements : List Statement) :
    onward statements = [] ∨ ∃ more, onward statements = ';' :: more := by
  cases statements with
  | nil => exact Or.inl rfl
  | cons statement statements => exact Or.inr ⟨_, rfl⟩

theorem toList_row_cons (statement : Statement) (statements : List Statement) :
    (row (statement :: statements)).toList = statement.text.toList ++ onward statements := by
  induction statements generalizing statement with
  | nil => simp [row, onward]
  | cons second statements ih =>
      have later := ih second
      simp only [row, String.toList_intercalate, List.map_cons, List.intercalate_cons_cons,
        List.append_assoc] at later ⊢
      rw [later, onward]

section Reach

/-- No part of a text that does not end with the word leads up to a specifier like a `from`. -/
theorem clause?_append_quote {front : List Char} {quote : Char} (oneLine : '\n' ∉ front)
    (free : IsQuoteFree front) (isQuote : Reference.isQuote quote = true)
    (other : ¬"from".toList <:+ front.filter (!Text.isBlank ·)) :
    clause? (front ++ quote :: rest) = clause? (quote :: rest) := by
  apply clause?_append oneLine
  intro symbol behind suffix _
  have inside : behind <:+ front := (List.suffix_cons symbol behind).trans suffix
  apply fromPart?_eq_none (free.of_suffix inside) isQuote
  intro same
  apply other
  rw [← same]
  exact inside.filter _

/-- A clause that has come to the next statement ends at its `from`, or runs over it. -/
theorem clause?_next (relative : statement.isRelative = true) :
    clause? ("; ".toList ++ (statement.text.toList ++ rest)) =
      if statement.offersFrom then some (statement.found rest)
      else clause? (statement.body ++ rest) := by
  cases shape : statement.opener with
  | clause words =>
      have offers : statement.offersFrom = true := by simp [Statement.offersFrom, shape]
      have oneLine : '\n' ∉ "; import ".toList ++ words.text.toList := by
        simp [words.break_not_mem]
      have free : IsQuoteFree ("; import ".toList ++ words.text.toList) :=
        isQuoteFree_append.2 ⟨by decide, words.isQuoteFree⟩
      have dark : ∃ symbol ∈ "; import ".toList ++ words.text.toList,
          Text.isBlank symbol = false :=
        ⟨';', by simp, by decide⟩
      have success : specifier? _ = some (statement.found rest) :=
        (statement.specifier?_statement rest).trans (if_pos relative)
      have caught := clause?_from oneLine free dark statement.opening.isQuote_symbol success
      rw [← Statement.body_append] at caught
      rw [offers, if_pos rfl, ← caught, Statement.toList_text_clause shape]
      simp
  | bare =>
      have misses : statement.offersFrom = false := by simp [Statement.offersFrom, shape]
      have spelled : "; ".toList ++ (statement.text.toList ++ rest) =
          "; import ".toList ++ (statement.body ++ rest) := by
        simp [Statement.toList_text, shape, Opener.text]
      rw [misses, spelled, Statement.body_append]
      apply clause?_append_quote (by decide) (by decide) (Quote.isQuote_symbol _) (by decide)
  | call =>
      have misses : statement.offersFrom = false := by simp [Statement.offersFrom, shape]
      have spelled : "; ".toList ++ (statement.text.toList ++ rest) =
          "; require(".toList ++ (statement.body ++ rest) := by
        simp [Statement.toList_text, shape, Opener.text]
      rw [misses, spelled, Statement.body_append]
      apply clause?_append_quote (by decide) (by decide) (Quote.isQuote_symbol _) (by decide)

/-- A clause runs over the statement before it and those that follow, up to a `from`. -/
theorem clause?_onward_cons (before : Statement) (relative : statement.isRelative = true) :
    clause? (before.body ++ onward (statement :: statements)) =
      if statement.offersFrom then some (statement.found (onward statements))
      else clause? (statement.body ++ onward statements) := by
  rw [Statement.clause?_body (onward_closes _), onward, clause?_next relative]

theorem clause?_onward_eq_none (before : Statement)
    (relative : ∀ statement ∈ statements, statement.isRelative = true)
    (misses : statements.any Statement.offersFrom = false) :
    clause? (before.body ++ onward statements) = none := by
  induction statements generalizing before with
  | nil =>
      rw [Statement.clause?_body (onward_closes _)]
      rfl
  | cons statement statements ih =>
      rw [List.any_cons, Bool.or_eq_false_iff] at misses
      rw [clause?_onward_cons before (relative statement (by simp)), misses.1]
      apply ih statement _ misses.2
      intro other member
      exact relative other (List.mem_cons_of_mem _ member)

theorem specifiers_onward (statement : Statement) (statements : List Statement) :
    specifiers (statement.opener.closer.toList ++ onward statements) =
      specifiers (row statements).toList := by
  rw [statement.specifiers_closer]
  cases statements with
  | nil => rfl
  | cons second statements =>
      rw [toList_row_cons]
      apply specifiers_append
      intro symbol behind suffix
      have member : symbol ∈ "; ".toList := suffix.subset (List.mem_cons_self ..)
      simp only [String.reduceToList, List.mem_cons, List.not_mem_nil, or_false] at member
      rcases member with rfl | rfl
      · exact statement?_cons_of_ne (by decide) (by decide)
      · exact statement?_cons_of_ne (by decide) (by decide)

end Reach

/-- The scan of a row finds the survivors. Where it is reaching on from the statement `before`, the
clause leads to the first of them. -/
theorem specifiers_row_and_reach
    (relative : ∀ statement ∈ statements, statement.isRelative = true) :
    specifiers (row statements).toList =
        (survivors false statements).map (·.specifier.text.toList) ∧
      (statements.any Statement.offersFrom = true → ∀ before : Statement, ∃ found,
        clause? (before.body ++ onward statements) = some found ∧
          found.1 :: specifiers found.2 =
            (survivors true statements).map (·.specifier.text.toList)) := by
  induction statements with
  | nil =>
      constructor
      · rw [show (row []).toList = [] from rfl, specifiers]
        rfl
      · intro offers
        cases offers
  | cons statement statements ih =>
      have here := relative statement (by simp)
      have later : ∀ other ∈ statements, other.isRelative = true :=
        fun other member => relative other (List.mem_cons_of_mem _ member)
      rcases ih later with ⟨found, reached⟩
      have own : (statement.found (onward statements)).1 ::
          specifiers (statement.found (onward statements)).2 =
            (statement :: survivors false statements).map (·.specifier.text.toList) := by
        rw [List.map_cons, ← found, ← specifiers_onward statement statements]
        rfl
      constructor
      · rw [toList_row_cons, survivors]
        cases reaches : statement.reachesOn with
        | false =>
            have success : statement? (statement.text.toList ++ onward statements) = some _ :=
              Statement.statement?_of_not_reachesOn here reaches
            rw [specifiers_of_statement? success, own]
            rfl
        | true =>
            have success : statement? (statement.text.toList ++ onward statements) = _ :=
              Statement.statement?_of_reachesOn here reaches
            cases offers : statements.any Statement.offersFrom with
            | false =>
                rw [clause?_onward_eq_none statement later offers] at success
                rw [specifiers_of_statement? success, own]
                rfl
            | true =>
                rcases reached offers statement with ⟨caught, clause, rest⟩
                rw [clause] at success
                rw [specifiers_of_statement? success, rest]
                rfl
      · intro offers before
        rw [clause?_onward_cons before here, survivors]
        split
        next => exact ⟨_, rfl, own⟩
        next misses =>
          apply reached
          simpa [misses] using offers

section Loss

theorem survivors_sublist (isReaching : Bool) (statements : List Statement) :
    (survivors isReaching statements).Sublist statements := by
  induction statements generalizing isReaching with
  | nil => exact List.Sublist.slnil
  | cons statement statements ih =>
      cases isReaching with
      | true =>
          rw [survivors]
          split
          · exact (ih false).cons_cons statement
          · exact (ih true).cons statement
      | false =>
          rw [survivors]
          split
          · exact (ih true).cons statement
          · exact (ih false).cons_cons statement

/-- Nothing is lost exactly if no statement that reaches on stands before one with a `from`. -/
theorem survivors_eq_self_iff (statements : List Statement) :
    survivors false statements = statements ↔ statements.Pairwise fun earlier later =>
      ¬(earlier.reachesOn = true ∧ later.offersFrom = true) := by
  induction statements with
  | nil => simp [survivors]
  | cons statement statements ih =>
      rw [survivors, List.pairwise_cons]
      split
      next loses =>
        rw [Bool.and_eq_true, List.any_eq_true] at loses
        rcases loses with ⟨reaches, other, member, offers⟩
        constructor
        · intro same
          have short := (survivors_sublist true statements).length_le
          rw [same, List.length_cons] at short
          omega
        · rintro ⟨kept, -⟩
          exact absurd ⟨reaches, offers⟩ (kept other member)
      next keeps =>
        rw [List.cons_eq_cons, ih]
        constructor
        · rintro ⟨-, later⟩
          refine ⟨fun other member lost => ?_, later⟩
          apply keeps
          rw [Bool.and_eq_true, List.any_eq_true]
          exact ⟨lost.1, other, member, lost.2⟩
        · rintro ⟨-, later⟩
          exact ⟨rfl, later⟩

end Loss

/-- The references of a row of relative statements are the specifiers of the survivors. They are all
there exactly if no `import` with a missing or blank clause stands before a `from`. -/
theorem extract_row (statements : List Statement)
    (relative : ∀ statement ∈ statements, statement.isRelative = true) :
    extract (row statements) = (survivors false statements).map (·.specifier.text) ∧
      (extract (row statements) = statements.map (·.specifier.text) ↔
        statements.Pairwise fun earlier later =>
          ¬(earlier.reachesOn = true ∧ later.offersFrom = true)) := by
  have found : extract (row statements) = (survivors false statements).map (·.specifier.text) := by
    rw [extract, (specifiers_row_and_reach relative).1, List.map_map]
    simp only [Function.comp_def, String.ofList_toList]
  refine ⟨found, ?_⟩
  rw [found, ← survivors_eq_self_iff]
  constructor
  · intro same
    apply (survivors_sublist false statements).eq_of_length
    simpa using congrArg List.length same
  · intro kept
    rw [kept]

/-- A bare import, a call and an import with a clause. -/
def sharedRow : List Statement :=
  [⟨.bare, .single, ⟨"./a", by decide, by decide, by decide⟩, .single⟩,
   ⟨.call, .double, ⟨"../b", by decide, by decide, by decide⟩, .double⟩,
   ⟨.clause ⟨"\x7bc\x7d", by decide, by decide, by decide⟩, .single,
     ⟨"./c", by decide, by decide, by decide⟩, .single⟩]

/-- The bare import takes the specifier of the last statement for its own. -/
theorem extract_row_sharedRow :
    extract "import './a'; require(\"../b\"); import \x7bc\x7d from './c'" = ["./c"] := by
  have relative : ∀ statement ∈ sharedRow, statement.isRelative = true := by decide
  have written :
      row sharedRow = "import './a'; require(\"../b\"); import \x7bc\x7d from './c'" := by
    decide
  have kept : (survivors false sharedRow).map (·.specifier.text) = ["./c"] := by decide
  rw [← written, ← kept]
  exact (extract_row sharedRow relative).1

end SourceTree.Reference
