import SourceTree.Proofs.Reference.Scan

/-!
# Where a statement starts

What may stand in front of the opening quote of a reference is a small language: `require(`, or
`import` and white space, or `import`, a clause on one line and `from` with white space around all
of them. The scan finds a statement at the front of a text exactly if the text starts with such a
lead and a quoted relative specifier.

Only one of the readings of a text is found. That none of them is missed rests on the clause, which
is the only part that can end at several points. The scan does not try the points within white
space, because what follows the white space is the same for all of them, and it looks for a clause
of white space alone at the end.
-/

namespace SourceTree.Reference

/-- A clause of `import`, with the white space before and behind it. -/
inductive IsClause : List Char → Prop where
  | mk {before words behind : List Char} (isBefore : IsSpace before) (nonempty : words ≠ [])
      (oneLine : '\n' ∉ words) (isBehind : IsSpace behind) : IsClause (before ++ words ++ behind)

/-- What stands in front of the opening quote of a reference. -/
inductive Leads : List Char → Prop where
  | call {gap : List Char} (isGap : IsGap gap) : Leads ("require(".toList ++ gap)
  | bare {space : List Char} (isSpace : IsSpace space) : Leads ("import".toList ++ space)
  | clause {clause space : List Char} (isClause : IsClause clause) (isSpace : IsSpace space) :
      Leads ("import".toList ++ clause ++ "from".toList ++ space)

variable {text rest lead behind space gap : List Char} {opening : Char} {found : Found}

section Clause

theorem exists_words_of_clause? (success : clause? text = some found) :
    ∃ words behind, words ≠ [] ∧ '\n' ∉ words ∧ text = words ++ behind ∧
      fromPart? behind = some found := by
  induction text with
  | nil => cases success
  | cons symbol text ih =>
      have later (onward : clause? text = some found) (noBreak : symbol ≠ '\n') :
          ∃ words behind, words ≠ [] ∧ '\n' ∉ words ∧ symbol :: text = words ++ behind ∧
            fromPart? behind = some found := by
        rcases ih onward with ⟨words, behind, -, oneLine, rfl, part⟩
        refine ⟨symbol :: words, behind, by simp, ?_, rfl, part⟩
        simpa [noBreak.symm] using oneLine
      rw [clause?] at success
      split at success
      next => cases success
      next noBreak =>
        split at success
        next => exact later success noBreak
        next =>
          split at success
          next other part =>
            cases success
            exact ⟨[symbol], text, by simp, by simpa using Ne.symm noBreak, rfl, part⟩
          next => exact later success noBreak

/-- No clause is missed that has more in it than white space. -/
theorem isSome_clause? {words : List Char} (oneLine : '\n' ∉ words)
    (dark : ∃ symbol ∈ words, Text.isBlank symbol = false) (isSpace : IsSpace space)
    (success : fromWord? rest = some found) :
    (clause? (words ++ (space ++ rest))).isSome = true := by
  induction words with
  | nil => simp at dark
  | cons symbol words ih =>
      rw [List.mem_cons, not_or] at oneLine
      rw [List.cons_append, clause?, if_neg (Ne.symm oneLine.1)]
      by_cases later : ∃ other ∈ words, Text.isBlank other = false
      · have onward := ih oneLine.2 later
        split
        · exact onward
        · split
          · rfl
          · exact onward
      · -- Behind the last symbol that is not white space stands the part from `from` on.
        have isGap : IsGap words := by simpa [IsGap] using later
        have isDark : Text.isBlank symbol = false := by
          rcases dark with ⟨other, member, isDark⟩
          rcases List.mem_cons.1 member with rfl | inWords
          · exact isDark
          · exact absurd ⟨other, inWords, isDark⟩ later
        have part : fromPart? (words ++ (space ++ rest)) = some found :=
          fromPart?_eq_some_iff.2
            ⟨words ++ space, rest, isGap.append_space isSpace, by simp, success⟩
        simp [isDark, part]

/-- White space that is long enough can be read as a clause of white space. -/
theorem isClause_of_blankClause? (isGap : IsGap gap) (success : blankClause? gap text = some found) :
    IsClause gap ∧ fromWord? text = some found := by
  rw [blankClause?] at success
  split at success
  next inner =>
    rcases List.any_eq_true.1 inner with ⟨symbol, member, notBreak⟩
    cases gap with
    | nil => cases member
    | cons first more =>
        have long : more ≠ [] := by
          rintro rfl
          cases member
        rcases List.append_of_mem member with ⟨before, after, split⟩
        have inner : more = before ++ symbol :: after ++ [more.getLast long] := by
          rw [← show more.dropLast = _ from split, List.dropLast_concat_getLast long]
        have whole : first :: more =
            (first :: before) ++ [symbol] ++ (after ++ [more.getLast long]) := by
          simpa using inner
        rw [whole, isGap_append, isGap_append] at isGap
        have oneLine : '\n' ∉ [symbol] := by
          rw [List.mem_singleton]
          exact Ne.symm (of_decide_eq_true notBreak)
        rw [whole]
        exact ⟨.mk ⟨by simp, isGap.1.1⟩ (by simp) oneLine ⟨by simp, isGap.2⟩, success⟩
  next => cases success

theorem IsClause.blankClause?_eq {clause : List Char} (isClause : IsClause clause)
    (text : List Char) : blankClause? clause text = fromWord? text := by
  cases isClause with
  | @mk before words behind isBefore nonempty oneLine isBehind =>
      rcases List.exists_cons_of_ne_nil isBefore.nonempty with ⟨first, before, rfl⟩
      rcases List.exists_mem_of_ne_nil words nonempty with ⟨symbol, member⟩
      rw [blankClause?, if_pos]
      rw [List.any_eq_true, List.cons_append, List.cons_append, List.tail_cons,
        List.dropLast_append_of_ne_nil isBehind.nonempty]
      refine ⟨symbol, by simp [member], ?_⟩
      simp only [ne_eq, decide_eq_true_eq]
      rintro rfl
      exact oneLine member

end Clause

section Whole

theorem exists_leads_of_importPart? (success : importPart? text = some found) :
    ∃ lead opening behind, Leads ("import".toList ++ lead) ∧ isQuote opening = true ∧
      text = lead ++ opening :: behind ∧ specifier? behind = some found := by
  have closes {clause ending : List Char} (isClause : IsClause clause)
      (word : fromWord? ending = some found) :
      ∃ lead opening behind, Leads ("import".toList ++ lead) ∧ isQuote opening = true ∧
        clause ++ ending = lead ++ opening :: behind ∧ specifier? behind = some found := by
    rcases fromWord?_eq_some_iff.1 word with ⟨space, opening, behind, isSpace, isQuote, rfl, read⟩
    refine ⟨clause ++ "from".toList ++ space, opening, behind, ?_, isQuote, ?_, read⟩
    · have leads := Leads.clause isClause isSpace
      simpa only [List.append_assoc] using leads
    · simp only [List.append_assoc]
  rcases Text.exists_blank_append_dark text with ⟨gap, rest, rfl, isGap, dark⟩
  by_cases empty : gap = []
  · subst empty
    rw [List.nil_append, importPart?_eq_none_of_dark dark] at success
    cases success
  · have isSpace : IsSpace gap := ⟨empty, isGap⟩
    rw [importPart?_append empty isGap dark, Option.or_eq_some_iff, Option.or_eq_some_iff] at success
    rcases success with (inLine | ⟨-, bare⟩) | ⟨-, inBlank⟩
    · rcases exists_words_of_clause? inLine with ⟨words, behind, nonempty, oneLine, rfl, part⟩
      rcases fromPart?_eq_some_iff.1 part with ⟨later, ending, isLater, rfl, word⟩
      have closed := closes (.mk isSpace nonempty oneLine isLater) word
      simpa only [List.append_assoc] using closed
    · rcases quoted?_eq_some_iff.1 bare with ⟨more, opening, behind, isMore, isQuote, rfl, read⟩
      refine ⟨gap ++ more, opening, behind, ?_, isQuote, ?_, read⟩
      · exact Leads.bare (isSpace.append_gap isMore)
      · rw [List.append_assoc]
    · rcases isClause_of_blankClause? isGap inBlank with ⟨isClause, word⟩
      exact closes isClause word

/-- Whatever is found at the front of a text stands there behind a lead, in quotes. -/
theorem exists_leads_of_statement? (success : statement? text = some found) :
    ∃ lead opening behind, Leads lead ∧ isQuote opening = true ∧ text = lead ++ opening :: behind ∧
      specifier? behind = some found := by
  rw [statement?.eq_def] at success
  split at success
  next rest word =>
    rw [Text.afterWord?_eq_some_iff] at word
    rcases exists_leads_of_importPart? success with ⟨lead, opening, behind, leads, isQuote, rfl, read⟩
    exact ⟨_, opening, behind, leads, isQuote, by rw [word, List.append_assoc], read⟩
  next =>
    split at success
    next rest word =>
      rw [Text.afterWord?_eq_some_iff] at word
      rcases quoted?_eq_some_iff.1 success with ⟨gap, opening, behind, isGap, isQuote, rfl, read⟩
      exact ⟨_, opening, behind, .call isGap, isQuote, by rw [word, List.append_assoc], read⟩
    next => cases success

theorem IsClause.isSome_importPart? {clause : List Char} (isClause : IsClause clause)
    (success : fromWord? rest = some found) : (importPart? (clause ++ rest)).isSome = true := by
  have within := isClause.blankClause?_eq rest
  cases isClause with
  | @mk before words behind isBefore nonempty oneLine isBehind =>
      rcases Text.exists_blank_append_dark words with ⟨blank, dark, rfl, isBlank, headDark⟩
      cases dark with
      | nil =>
          -- The clause is white space as well, and ends only at the word `from`.
          have isGap : IsGap (before ++ (blank ++ []) ++ behind) := by
            simpa using ⟨isBefore.isGap, isBlank, isBehind.isGap⟩
          rw [importPart?_append (by simp [isBefore.nonempty]) isGap (dark_of_fromWord? success),
            within, success]
          simp
      | cons first dark =>
          have isDark : Text.isBlank first = false := headDark first rfl
          have restDark : ∀ symbol ∈ (first :: dark ++ (behind ++ rest)).head?,
              Text.isBlank symbol = false := by
            rintro symbol ⟨⟩
            exact isDark
          have shorter : '\n' ∉ first :: dark :=
            fun member => oneLine (List.mem_append_right blank member)
          have caught : (clause? (first :: dark ++ (behind ++ rest))).isSome = true :=
            isSome_clause? shorter ⟨first, by simp, isDark⟩ isBehind success
          have split : before ++ (blank ++ first :: dark) ++ behind ++ rest =
              (before ++ blank) ++ (first :: dark ++ (behind ++ rest)) := by
            simp
          have isSpace := isBefore.append_gap isBlank
          rw [split, importPart?_append isSpace.nonempty isSpace.isGap restDark, Option.isSome_or,
            Option.isSome_or, caught]
          rfl

/-- No lead in front of a quoted specifier is missed, though another specifier may be found. -/
theorem isSome_statement? (leads : Leads lead) (isQuote : Reference.isQuote opening = true)
    (read : specifier? behind = some found) :
    (statement? (lead ++ opening :: behind)).isSome = true := by
  cases leads with
  | @call gap isGap =>
      have quoted := quoted?_eq_some_iff.2 ⟨gap, opening, behind, isGap, isQuote, rfl, read⟩
      rw [List.append_assoc, statement?_require, quoted]
      rfl
  | @bare space isSpace =>
      rw [List.append_assoc, statement?_import,
        importPart?_append isSpace.nonempty isSpace.isGap (dark_quote isQuote),
        quoted?_quote isQuote, read]
      simp
  | @clause clause space isClause isSpace =>
      have word := fromWord?_eq_some_iff.2 ⟨space, opening, behind, isSpace, isQuote, rfl, read⟩
      have part := isClause.isSome_importPart? word
      simpa only [List.append_assoc, statement?_import] using part

end Whole

end SourceTree.Reference
