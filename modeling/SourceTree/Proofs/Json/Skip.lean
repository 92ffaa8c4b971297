import SourceTree.Proofs.Json.Accepted

/-!
# Skipping reaches the end of a value

However deep its brackets are nested, a value is skipped up to its last character. The brackets that
are open when it starts do not matter for it: skipping goes on with them behind the value. This is
shown for everything that has a form at once, along the rules of the form.

The other way round, only what has the form of a value is skipped. Here the open brackets do matter:
what is skipped inside them is a value and all that closes them, and of this the items of a bracket
are put together from the last one to the first.
-/

namespace SourceTree.Json

section Steps

/-- The text behind the values of a bracket, from one of them on, and behind everything that the
brackets around it still hold. -/
def skipInside (bracket : Bracket) (outer : List Bracket) (input : List Char) :
    Except Fault (List Char) :=
  match skipToValue bracket input with
  | .error fault => .error fault
  | .ok start => skipWithin (bracket :: outer) start

variable {bracket : Bracket} {brackets outer : List Bracket} {input space rest behind : List Char}
  {symbol : Char}

theorem skipWithin_skipSpace (brackets : List Bracket) (input : List Char) :
    skipWithin brackets (skipSpace input) = skipWithin brackets input := by
  rw [skipWithin, skipWithin, skipSpace_skipSpace]

theorem skipInside_skipSpace (bracket : Bracket) (outer : List Bracket) (input : List Char) :
    skipInside bracket outer (skipSpace input) = skipInside bracket outer input := by
  cases bracket with
  | list => exact skipWithin_skipSpace _ _
  | object => simp only [skipInside, skipToValue, skipKey, skipSpace_skipSpace]

theorem skipWithin_leaf (leaf : skipLeaf (skipSpace input) = .ok (none, rest)) :
    skipWithin brackets input = skipOnward brackets rest := by
  rw [skipWithin]
  split <;> simp_all

theorem skipLeaf_opener (bracket : Bracket) (rest : List Char) :
    skipLeaf (skipSpace (bracket.opener :: rest)) = .ok (some bracket, rest) := by
  cases bracket <;> rfl

theorem skipWithin_opener (first : skipSpace input = symbol :: behind) :
    skipWithin brackets (bracket.opener :: input) =
      if symbol = bracket.closer then skipOnward brackets behind
      else skipInside bracket brackets (symbol :: behind) := by
  rw [skipWithin]
  split
  next leaf => simp [skipLeaf_opener] at leaf
  next leaf => simp [skipLeaf_opener] at leaf
  next leaf =>
    simp only [skipLeaf_opener, Except.ok.injEq, Prod.mk.injEq, Option.some.injEq] at leaf
    obtain ⟨rfl, rfl⟩ := leaf
    rw [first, skipInside]
    dsimp only
    cases skipToValue bracket (symbol :: behind) <;> rfl

theorem skipOnward_cons (solid : isSpace symbol = false) :
    skipOnward (bracket :: outer) (symbol :: rest) =
      if symbol = ',' then skipInside bracket outer rest
      else if symbol = bracket.closer then skipOnward outer rest
      else .error (.next bracket.unclosed (symbol :: rest)) := by
  rw [skipOnward, skipSpace_cons solid, skipInside]
  dsimp only
  cases skipToValue bracket rest <;> rfl

theorem skipWithin_empty (bracket : Bracket) (blank : IsBlank space) :
    skipWithin brackets (bracket.opener :: (space ++ bracket.closer :: rest)) =
      skipOnward brackets rest := by
  have first : skipSpace (space ++ bracket.closer :: rest) = bracket.closer :: rest := by
    rw [skipSpace_append blank]
    cases bracket <;> rfl
  simp [skipWithin_opener first]

theorem skipWithin_filled (bracket : Bracket) (first : skipSpace input = symbol :: behind)
    (filled : symbol ≠ bracket.closer) :
    skipWithin brackets (bracket.opener :: input) = skipInside bracket brackets input := by
  rw [skipWithin_opener first, if_neg filled, ← first, skipInside_skipSpace]

theorem skipOnward_comma :
    skipOnward (bracket :: outer) (',' :: rest) = skipInside bracket outer rest := by
  simp [skipOnward_cons (by decide : isSpace ',' = false)]

theorem skipOnward_closer (bracket : Bracket) :
    skipOnward (bracket :: outer) (bracket.closer :: rest) = skipOnward outer rest := by
  have solid : isSpace bracket.closer = false := by cases bracket <;> decide
  have notComma : bracket.closer ≠ ',' := by cases bracket <;> decide
  simp [skipOnward_cons solid, notComma]

theorem skipOnward_append (blank : IsBlank space) :
    skipOnward (bracket :: outer) (space ++ rest) = skipOnward (bracket :: outer) rest := by
  rw [skipOnward, skipOnward, skipSpace_append blank]

end Steps

section Values

/-- What skipping makes of a text that has a form: it passes over it and goes on behind, or, for the
items of a bracket, behind the closing bracket. -/
def IsSkipped : Form → List Char → Prop
  | .bare, spelled => ∀ brackets rest, EndsNumber rest →
      skipWithin brackets (spelled ++ rest) = skipOnward brackets rest
  | .padded, spelled => ∀ bracket outer symbol rest, IsSeparator symbol →
      skipWithin (bracket :: outer) (spelled ++ symbol :: rest) =
        skipOnward (bracket :: outer) (symbol :: rest)
  | .items bracket, spelled => ∀ outer rest,
      skipInside bracket outer (spelled ++ bracket.closer :: rest) = skipOnward outer rest

theorem HasForm.skipSpace_eq {spelled : List Char} (form : HasForm .bare spelled)
    (rest : List Char) : skipSpace (spelled ++ rest) = spelled ++ rest := by
  obtain ⟨symbol, behind, rfl, solid, -⟩ := form.exists_cons
  exact skipSpace_cons solid _

/-- The items of a bracket do not start with the character that closes it. -/
theorem HasForm.first_of_items {bracket : Bracket} {spelled : List Char}
    (form : HasForm (.items bracket) spelled) (rest : List Char) :
    ∃ symbol behind, skipSpace (spelled ++ rest) = symbol :: behind ∧ symbol ≠ bracket.closer := by
  have first : ∀ {lead value : List Char}, IsLead bracket lead → HasForm .padded value →
      ∀ more, ∃ symbol behind, skipSpace (lead ++ (value ++ more)) = symbol :: behind ∧
        symbol ≠ bracket.closer := by
    intro lead value isLead padded more
    cases isLead with
    | list =>
        cases padded with
        | padded before bare _ =>
            rw [List.nil_append, List.append_assoc, skipSpace_append before, List.append_assoc,
              bare.skipSpace_eq]
            obtain ⟨symbol, behind, rfl, -, notEnd⟩ := bare.exists_cons
            exact ⟨symbol, _, rfl, notEnd⟩
    | object blank _ _ =>
        rw [List.append_assoc, skipSpace_append blank]
        exact ⟨'"', _, rfl, by decide⟩
  cases form with
  | last isLead padded =>
      rw [List.append_assoc]
      exact first isLead padded rest
  | next isLead padded _ =>
      rw [List.append_assoc, List.append_assoc]
      exact first isLead padded _

theorem Bracket.isSeparator_closer (bracket : Bracket) : IsSeparator bracket.closer := by
  cases bracket <;> simp [Bracket.closer, IsSeparator]

theorem skipInside_lead {lead : List Char} {bracket : Bracket} (isLead : IsLead bracket lead)
    (outer : List Bracket) (rest : List Char) :
    skipInside bracket outer (lead ++ rest) = skipWithin (bracket :: outer) rest := by
  simp only [skipInside, skipToValue_append isLead]

theorem skipLeaf_number {spelled rest : List Char} (isNumber : IsNumber spelled)
    (ends : EndsNumber rest) : skipLeaf (spelled ++ rest) = .ok (none, rest) := by
  rcases isNumber with ⟨sign, isWhole, isFraction, isExponent⟩
  have number := skipNumber_append isWhole isFraction isExponent ends
  simp only [List.mem_cons, List.not_mem_nil, or_false] at sign
  rcases sign with rfl | rfl
  · obtain ⟨digit, behind, rfl, first, -⟩ := isWhole.isDigits.exists_cons
    simp only [List.nil_append, List.cons_append, List.append_assoc] at number ⊢
    rw [skipLeaf.eq_def]
    split <;> simp_all [isDigit, Except.map]
  · simp [skipLeaf, number, Except.map]

theorem HasForm.isSkipped {form : Form} {spelled : List Char} (hasForm : HasForm form spelled) :
    IsSkipped form spelled := by
  induction hasForm with
  | word listed =>
      intro brackets rest _
      simp only [List.mem_cons, List.not_mem_nil, or_false] at listed
      rcases listed with rfl | rfl | rfl <;> exact skipWithin_leaf rfl
  | number isNumber =>
      intro brackets rest ends
      apply skipWithin_leaf
      rw [(HasForm.number isNumber).skipSpace_eq]
      exact skipLeaf_number isNumber ends
  | text form =>
      intro brackets rest _
      apply skipWithin_leaf
      simp [skipSpace_cons, isSpace, skipLeaf, skipText_append form, Except.map]
  | empty bracket blank =>
      intro brackets rest _
      rw [List.cons_append, List.append_assoc, List.singleton_append]
      exact skipWithin_empty bracket blank
  | @filled bracket inside inner ih =>
      intro brackets rest _
      rw [List.cons_append, List.append_assoc, List.singleton_append]
      obtain ⟨symbol, behind, first, filled⟩ := inner.first_of_items (bracket.closer :: rest)
      rw [← ih brackets rest]
      exact skipWithin_filled bracket first filled
  | padded before _ after ih =>
      intro bracket outer symbol rest separator
      rw [← skipWithin_skipSpace, List.append_assoc, skipSpace_append before, skipWithin_skipSpace,
        List.append_assoc, ih _ _ ((separator.endsNumber rest).append after),
        skipOnward_append after]
  | last isLead _ ih =>
      intro outer rest
      rw [List.append_assoc, skipInside_lead isLead, ih _ _ _ _ (Bracket.isSeparator_closer _),
        skipOnward_closer]
  | next isLead _ _ ihValue ihRest =>
      intro outer rest
      rw [List.append_assoc, List.append_assoc, skipInside_lead isLead, List.cons_append,
        ihValue _ _ _ _ (by simp [IsSeparator]), skipOnward_comma, ihRest]

theorem skipValue_append {spelled : List Char} (form : HasForm .bare spelled)
    {space rest : List Char} (blank : IsBlank space) (ends : EndsNumber rest) :
    skipValue (space ++ (spelled ++ rest)) = .ok rest := by
  rw [skipValue, ← skipWithin_skipSpace, skipSpace_append blank, skipWithin_skipSpace]
  refine (form.isSkipped [] rest ends).trans ?_
  rw [skipOnward]

end Values

section Accepted

/-- What stands behind a value inside some open brackets, up to the end of the outermost one. -/
inductive Closes : List Bracket → List Char → Prop
  | nil : Closes [] []
  | last {bracket : Bracket} {outer : List Bracket} {space behind : List Char} :
      IsBlank space → Closes outer behind →
      Closes (bracket :: outer) (space ++ bracket.closer :: behind)
  | next {bracket : Bracket} {outer : List Bracket} {space items behind : List Char} :
      IsBlank space → HasForm (.items bracket) items → Closes outer behind →
      Closes (bracket :: outer) (space ++ ',' :: (items ++ bracket.closer :: behind))

/-- Together with a value, what closes a bracket is its remaining items and its end. -/
theorem Closes.exists_items {bracket : Bracket} {outer : List Bracket}
    {lead before spelled closing : List Char} (closes : Closes (bracket :: outer) closing)
    (isLead : IsLead bracket lead) (blank : IsBlank before) (form : HasForm .bare spelled) :
    ∃ items behind, HasForm (.items bracket) items ∧ Closes outer behind ∧
      lead ++ (before ++ (spelled ++ closing)) = items ++ bracket.closer :: behind := by
  cases closes with
  | last blank' closes => exact ⟨_, _, .last isLead (.padded blank form blank'), closes, by simp⟩
  | next blank' items closes =>
      exact ⟨_, _, .next isLead (.padded blank form blank') items, closes, by simp⟩

theorem exists_form_of_skipLeaf {input rest : List Char}
    (success : skipLeaf input = .ok (none, rest)) :
    ∃ spelled, HasForm .bare spelled ∧ input = spelled ++ rest := by
  rw [skipLeaf.eq_def] at success
  split at success
  next => cases success
  next =>
    rw [eq_append_of_readWord (eq_ok_of_map_none success)]
    exact ⟨"null".toList, .word (by simp), rfl⟩
  next =>
    rw [eq_append_of_readWord (eq_ok_of_map_none success)]
    exact ⟨"true".toList, .word (by simp), rfl⟩
  next =>
    rw [eq_append_of_readWord (eq_ok_of_map_none success)]
    exact ⟨"false".toList, .word (by simp), rfl⟩
  next =>
    rcases exists_form_of_skipText (eq_ok_of_map_none success) with ⟨spelled, form, rfl⟩
    exact ⟨_, .text form, by simp⟩
  next => cases success
  next => cases success
  next =>
    rcases exists_number_of_skipNumber (eq_ok_of_map_none success) with
      ⟨whole, fraction, exponent, isWhole, isFraction, isExponent, rfl⟩
    exact ⟨_, .number (.parts (by simp : ['-'] ∈ _) isWhole isFraction isExponent), by simp⟩
  next =>
    split at success
    next =>
      rcases exists_number_of_skipNumber (eq_ok_of_map_none success) with
        ⟨whole, fraction, exponent, isWhole, isFraction, isExponent, shape⟩
      exact ⟨_, .number (.parts (by simp : [] ∈ _) isWhole isFraction isExponent), by simp [shape]⟩
    next => cases success

theorem eq_cons_of_skipLeaf {bracket : Bracket} {input rest : List Char}
    (success : skipLeaf input = .ok (some bracket, rest)) : input = bracket.opener :: rest := by
  have leaf : ∀ {result : Except Fault (List Char)},
      result.map (Option.none (α := Bracket), ·) ≠ .ok (some bracket, rest) := by
    intro result
    cases result <;> simp [Except.map]
  rw [skipLeaf.eq_def] at success
  split at success
  next => cases success
  next => exact absurd success leaf
  next => exact absurd success leaf
  next => exact absurd success leaf
  next => exact absurd success leaf
  next =>
    cases success
    rfl
  next =>
    cases success
    rfl
  next => exact absurd success leaf
  next =>
    split at success
    next => exact absurd success leaf
    next => cases success

mutual

/-- What is skipped as a value inside open brackets is a value and what closes the brackets. -/
theorem exists_closes_of_skipWithin {brackets : List Bracket} {input rest : List Char}
    (success : skipWithin brackets input = .ok rest) :
    ∃ space spelled closing, IsBlank space ∧ HasForm .bare spelled ∧ Closes brackets closing ∧
      input = space ++ (spelled ++ (closing ++ rest)) := by
  rcases exists_space_append input with ⟨space, blank, cut⟩
  have spaceSize := length_skipSpace_le input
  rw [skipWithin] at success
  split at success
  next => cases success
  next behind leaf =>
    have shorter := length_of_skipLeaf leaf
    rcases exists_form_of_skipLeaf leaf with ⟨spelled, form, shape⟩
    rcases exists_closes_of_skipOnward success with ⟨closing, closes, rfl⟩
    exact ⟨space, spelled, closing, blank, form, closes, by rw [cut, shape]⟩
  next bracket behind leaf =>
    have shorter := length_of_skipLeaf leaf
    have opening := eq_cons_of_skipLeaf leaf
    rcases exists_space_append behind with ⟨inner, innerBlank, innerCut⟩
    split at success
    next => cases success
    next symbol behind' next =>
      have innerSize : (symbol :: behind').length ≤ behind.length :=
        next ▸ length_skipSpace_le behind
      have tail : behind'.length < behind.length := innerSize
      split at success
      next closed =>
        rcases exists_closes_of_skipOnward success with ⟨closing, closes, rfl⟩
        refine ⟨space, _, closing, blank, .empty bracket innerBlank, closes, ?_⟩
        rw [cut, opening, innerCut, next, closed]
        simp
      next =>
        split at success
        next => cases success
        next start begins =>
          have first := length_of_skipToValue begins
          rcases exists_lead_of_skipToValue begins with ⟨lead, isLead, leadCut⟩
          rcases exists_closes_of_skipWithin success with
            ⟨before, spelled, closing, beforeBlank, form, closes, rfl⟩
          rcases closes.exists_items isLead beforeBlank form with
            ⟨items, more, hasForm, closes, shape⟩
          refine ⟨space, _, more, blank, .filled (hasForm.blank_append innerBlank), closes, ?_⟩
          have inside : inner ++ skipSpace behind =
              inner ++ (items ++ bracket.closer :: (more ++ rest)) := by
            rw [next, leadCut]
            simpa using congrArg (· ++ rest) shape
          rw [cut, opening, innerCut, inside]
          simp
termination_by input.length

/-- What is skipped behind a value inside open brackets is what closes them. -/
theorem exists_closes_of_skipOnward {brackets : List Bracket} {input rest : List Char}
    (success : skipOnward brackets input = .ok rest) :
    ∃ closing, Closes brackets closing ∧ input = closing ++ rest := by
  rcases exists_space_append input with ⟨space, blank, cut⟩
  rw [skipOnward.eq_def] at success
  split at success
  next =>
    cases success
    exact ⟨[], .nil, rfl⟩
  next bracket outer =>
    split at success
    next => cases success
    next symbol behind next =>
      have spaceSize : (symbol :: behind).length ≤ input.length := next ▸ length_skipSpace_le input
      have tail : behind.length < input.length := spaceSize
      split at success
      next comma =>
        split at success
        next => cases success
        next start begins =>
          have first := length_of_skipToValue begins
          rcases exists_lead_of_skipToValue begins with ⟨lead, isLead, rfl⟩
          rcases exists_closes_of_skipWithin success with
            ⟨before, spelled, closing, beforeBlank, form, closes, rfl⟩
          rcases closes.exists_items isLead beforeBlank form with
            ⟨items, more, hasForm, closes, shape⟩
          refine ⟨_, .next blank hasForm closes, ?_⟩
          rw [cut, next, comma, ← shape]
          simp
      next =>
        split at success
        next closed =>
          rcases exists_closes_of_skipOnward success with ⟨closing, closes, rfl⟩
          exact ⟨_, .last blank closes, by rw [cut, next, closed]; simp⟩
        next => cases success
termination_by input.length

end

theorem exists_form_of_skipValue {input rest : List Char} (success : skipValue input = .ok rest) :
    ∃ space spelled, IsBlank space ∧ HasForm .bare spelled ∧
      input = space ++ (spelled ++ rest) := by
  rcases exists_closes_of_skipWithin success with
    ⟨space, spelled, closing, blank, form, closes, cut⟩
  cases closes
  exact ⟨space, spelled, blank, form, cut⟩

end Accepted

end SourceTree.Json
