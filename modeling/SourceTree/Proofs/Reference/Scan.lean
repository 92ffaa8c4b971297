import SourceTree.Proofs.Text.Blank
import SourceTree.Reference.Scan

/-!
# Laws of the scan for references

The parts of a statement other than its clause are read in one way only, so each is found exactly
where a text has its form: white space, words and a quoted specifier.

Whether a specifier is found at a point of a text is decided at the next quote. `Announces` says
what has to stand there: the quote opens a relative specifier, and the text before it is made of
certain words and white space. A bare specifier needs no words, the part from `from` on needs that
word alone. So a point of a text is ruled out by looking at the next quote and at what is in front
of it, however white space is spread.
-/

namespace SourceTree.Reference

/-- Whether a specifier starts with `./` or `../` and goes on behind that. -/
def isRelative (specifier : List Char) : Bool :=
  ("./".toList.isPrefixOf specifier && 2 < specifier.length) ||
    ("../".toList.isPrefixOf specifier && 3 < specifier.length)

/-- Whether there is no quote in a text. -/
def IsQuoteFree (text : List Char) : Prop :=
  ∀ symbol ∈ text, isQuote symbol = false

instance (text : List Char) : Decidable (IsQuoteFree text) :=
  List.decidableBAll _ text

/-- White space, or nothing. -/
def IsGap (gap : List Char) : Prop :=
  ∀ symbol ∈ gap, Text.isBlank symbol = true

/-- White space. -/
structure IsSpace (space : List Char) : Prop where
  nonempty : space ≠ []
  isGap : IsGap space

variable {text front rest words gap space : List Char} {quote : Char} {found : Found}

theorem suffix_or_of_suffix_append (suffix : rest <:+ front ++ text) :
    (∃ part, part <:+ front ∧ rest = part ++ text) ∨ rest <:+ text := by
  rcases suffix with ⟨before, whole⟩
  rcases List.append_eq_append_iff.1 whole with ⟨part, rfl, rfl⟩ | ⟨part, rfl, rfl⟩
  · exact Or.inl ⟨part, List.suffix_append before part, rfl⟩
  · exact Or.inr (List.suffix_append part rest)

section Quotes

@[simp]
theorem isQuoteFree_nil : IsQuoteFree [] := by
  simp [IsQuoteFree]

@[simp]
theorem isQuoteFree_cons {symbol : Char} :
    IsQuoteFree (symbol :: text) ↔ isQuote symbol = false ∧ IsQuoteFree text := by
  simp [IsQuoteFree]

@[simp]
theorem isQuoteFree_append :
    IsQuoteFree (front ++ text) ↔ IsQuoteFree front ∧ IsQuoteFree text := by
  simp [IsQuoteFree, or_imp, forall_and]

theorem IsQuoteFree.of_suffix (free : IsQuoteFree text) (suffix : rest <:+ text) :
    IsQuoteFree rest :=
  fun symbol member => free symbol (suffix.subset member)

theorem isQuote_of_isBlank {symbol : Char} (blank : Text.isBlank symbol = true) :
    isQuote symbol = false := by
  rw [isQuote, Bool.or_eq_false_iff, decide_eq_false_iff_not, decide_eq_false_iff_not]
  constructor
  · rintro rfl
    exact absurd blank (by decide)
  · rintro rfl
    exact absurd blank (by decide)

theorem isBlank_of_isQuote (isQuote : isQuote quote = true) : Text.isBlank quote = false := by
  cases blank : Text.isBlank quote with
  | false => rfl
  | true =>
      rw [isQuote_of_isBlank blank] at isQuote
      cases isQuote

theorem IsQuoteFree.takeWhile_append (free : IsQuoteFree front)
    (isQuote : Reference.isQuote quote = true) :
    (front ++ quote :: rest).takeWhile (!Reference.isQuote ·) = front := by
  rw [List.takeWhile_append_of_pos]
  · simp [isQuote]
  · intro symbol member
    simp [free symbol member]

theorem IsQuoteFree.dropWhile_append (free : IsQuoteFree front)
    (isQuote : Reference.isQuote quote = true) :
    (front ++ quote :: rest).dropWhile (!Reference.isQuote ·) = quote :: rest := by
  rw [List.dropWhile_append_of_pos]
  · simp [isQuote]
  · intro symbol member
    simp [free symbol member]

end Quotes

section Specifier

theorem afterDots?_eq_some_iff {body : List Char} :
    afterDots? text = some body ↔ text = '.' :: '/' :: body ∨ text = '.' :: '.' :: '/' :: body := by
  constructor
  · intro success
    rw [afterDots?.eq_def] at success
    split at success <;> simp_all
  · rintro (rfl | rfl) <;> rfl

theorem isRelative_iff {specifier : List Char} :
    isRelative specifier = true ↔ ∃ body, body ≠ [] ∧
      (specifier = '.' :: '/' :: body ∨ specifier = '.' :: '.' :: '/' :: body) := by
  simp only [isRelative, Bool.or_eq_true, Bool.and_eq_true, List.isPrefixOf_iff_prefix,
    decide_eq_true_eq]
  constructor
  · rintro (⟨⟨body, rfl⟩, long⟩ | ⟨⟨body, rfl⟩, long⟩)
    · refine ⟨body, ?_, Or.inl rfl⟩
      rintro rfl
      simp at long
    · refine ⟨body, ?_, Or.inr rfl⟩
      rintro rfl
      simp at long
  · rintro ⟨body, nonempty, rfl | rfl⟩
    · exact Or.inl ⟨⟨body, rfl⟩, by simpa [List.length_pos_iff] using nonempty⟩
    · exact Or.inr ⟨⟨body, rfl⟩, by simpa [List.length_pos_iff] using nonempty⟩

theorem exists_dots_of_afterDots? {body : List Char} (success : afterDots? text = some body) :
    ∃ dots, text = dots ++ body ∧ IsQuoteFree dots ∧
      ∀ more, more ≠ [] → isRelative (dots ++ more) = true := by
  rcases afterDots?_eq_some_iff.1 success with rfl | rfl
  · refine ⟨['.', '/'], rfl, by simp [isQuote], ?_⟩
    intro more nonempty
    exact isRelative_iff.2 ⟨more, nonempty, Or.inl rfl⟩
  · refine ⟨['.', '.', '/'], rfl, by simp [isQuote], ?_⟩
    intro more nonempty
    exact isRelative_iff.2 ⟨more, nonempty, Or.inr rfl⟩

/-- What is read is relative, has no quotes and stands before a quote. -/
theorem specifier?_eq_some_iff {specifier : List Char} :
    specifier? text = some (specifier, rest) ↔
      isRelative specifier = true ∧ IsQuoteFree specifier ∧
        ∃ quote, isQuote quote = true ∧ text = specifier ++ quote :: rest := by
  constructor
  · intro success
    simp only [specifier?, Option.bind_eq_bind, Option.bind_eq_some_iff] at success
    rcases success with ⟨body, behindDots, success⟩
    split at success
    next first more quote behind taken dropped =>
      rcases exists_dots_of_afterDots? behindDots with ⟨dots, rfl, dotsFree, relative⟩
      have isQuote : Reference.isQuote quote = true := by
        have ends := List.head?_dropWhile_not (!Reference.isQuote ·) body
        simpa [dropped] using ends
      have free : IsQuoteFree (dots ++ first :: more) := by
        refine isQuoteFree_append.2 ⟨dotsFree, fun symbol member => ?_⟩
        have all := List.all_takeWhile (p := (!Reference.isQuote ·)) (l := body)
        rw [taken] at all
        simpa using List.all_eq_true.1 all symbol member
      have whole : dots ++ body = (dots ++ first :: more) ++ quote :: behind := by
        rw [List.append_assoc, ← taken, ← dropped, List.takeWhile_append_dropWhile]
      rw [whole, free.takeWhile_append isQuote] at success
      cases success
      exact ⟨relative _ (by simp), free, quote, isQuote, whole⟩
    next => cases success
  · rintro ⟨relative, free, quote, isQuote, rfl⟩
    rcases isRelative_iff.1 relative with ⟨body, nonempty, shape⟩
    have dots : afterDots? (specifier ++ quote :: rest) = some (body ++ quote :: rest) := by
      rcases shape with rfl | rfl <;> rfl
    have bodyFree : IsQuoteFree body := by
      apply free.of_suffix
      rcases shape with rfl | rfl
      · exact ⟨['.', '/'], rfl⟩
      · exact ⟨['.', '.', '/'], rfl⟩
    rcases List.exists_cons_of_ne_nil nonempty with ⟨first, more, rfl⟩
    simp only [specifier?, dots, Option.bind_eq_bind, Option.bind_some,
      free.takeWhile_append isQuote, bodyFree.takeWhile_append isQuote,
      bodyFree.dropWhile_append isQuote]

/-- A specifier is read up to the next quote, and has to be relative. -/
theorem specifier?_append_quote {specifier : List Char} (free : IsQuoteFree specifier)
    (isQuote : Reference.isQuote quote = true) :
    specifier? (specifier ++ quote :: rest) =
      if isRelative specifier then some (specifier, rest) else none := by
  split
  next relative => exact specifier?_eq_some_iff.2 ⟨relative, free, quote, isQuote, rfl⟩
  next absolute =>
    rw [Option.eq_none_iff_forall_ne_some]
    rintro ⟨other, behind⟩ success
    rcases specifier?_eq_some_iff.1 success with ⟨relative, otherFree, closing, isClosing, same⟩
    have cut := congrArg (List.takeWhile (!Reference.isQuote ·)) same
    rw [free.takeWhile_append isQuote, otherFree.takeWhile_append isClosing] at cut
    rw [cut] at absolute
    exact absolute relative

/-- Nothing is read where no dot comes first. -/
theorem specifier?_eq_none (noDot : text.head? ≠ some '.') : specifier? text = none := by
  match text with
  | [] => rfl
  | first :: rest => simp_all [specifier?, afterDots?]

end Specifier

section Gaps

@[simp]
theorem isGap_cons {symbol : Char} :
    IsGap (symbol :: text) ↔ Text.isBlank symbol = true ∧ IsGap text := by
  simp [IsGap]

@[simp]
theorem isGap_append : IsGap (text ++ rest) ↔ IsGap text ∧ IsGap rest := by
  simp [IsGap, or_imp, forall_and]

theorem IsSpace.append_gap (isSpace : IsSpace space) (isGap : IsGap gap) : IsSpace (space ++ gap) :=
  ⟨by simp [isSpace.nonempty], isGap_append.2 ⟨isSpace.isGap, isGap⟩⟩

theorem IsGap.append_space (isGap : IsGap gap) (isSpace : IsSpace space) : IsSpace (gap ++ space) :=
  ⟨by simp [isSpace.nonempty], isGap_append.2 ⟨isGap, isSpace.isGap⟩⟩

end Gaps

section Parts

theorem dark_quote (isQuote : Reference.isQuote quote = true) :
    ∀ symbol ∈ (quote :: rest).head?, Text.isBlank symbol = false := by
  rintro symbol ⟨⟩
  exact isBlank_of_isQuote isQuote

theorem quoted?_quote (isQuote : Reference.isQuote quote = true) :
    quoted? (quote :: rest) = specifier? rest := by
  simp [quoted?, Text.skipBlank, isBlank_of_isQuote isQuote, isQuote]

theorem quoted?_eq_some_iff :
    quoted? text = some found ↔ ∃ gap opening behind, IsGap gap ∧ isQuote opening = true ∧
      text = gap ++ opening :: behind ∧ specifier? behind = some found := by
  constructor
  · intro success
    rcases Text.exists_blank_append_skipBlank text with ⟨gap, isGap, split⟩
    rw [quoted?] at success
    split at success
    next opening behind shape =>
      rw [shape] at split
      split at success
      next isQuote => exact ⟨gap, opening, behind, isGap, isQuote, split, success⟩
      next => cases success
    next => cases success
  · rintro ⟨gap, opening, behind, isGap, isQuote, rfl, success⟩
    rw [quoted?, Text.skipBlank_append isGap (dark_quote isQuote)]
    simp only [isQuote, if_true, success]

theorem afterBlank?_eq_some_iff :
    afterBlank? text = some rest ↔ ∃ space, IsSpace space ∧ text = space ++ rest ∧
      ∀ symbol ∈ rest.head?, Text.isBlank symbol = false := by
  constructor
  · intro success
    rw [afterBlank?.eq_def] at success
    split at success
    next first behind =>
      split at success
      next isBlank =>
        cases success
        rcases Text.exists_blank_append_dark behind with ⟨gap, rest, rfl, isGap, dark⟩
        rw [Text.skipBlank_append isGap dark]
        exact ⟨first :: gap, ⟨by simp, isGap_cons.2 ⟨isBlank, isGap⟩⟩, rfl, dark⟩
      next => cases success
    next => cases success
  · rintro ⟨space, ⟨nonempty, isGap⟩, rfl, dark⟩
    rcases List.exists_cons_of_ne_nil nonempty with ⟨first, gap, rfl⟩
    rw [isGap_cons] at isGap
    simp [afterBlank?, isGap.1, Text.skipBlank_append isGap.2 dark]

theorem fromWord?_eq_some_iff :
    fromWord? text = some found ↔ ∃ space opening behind, IsSpace space ∧ isQuote opening = true ∧
      text = "from".toList ++ space ++ opening :: behind ∧ specifier? behind = some found := by
  simp only [fromWord?, Option.bind_eq_bind, Option.bind_eq_some_iff, Text.afterWord?_eq_some_iff]
  constructor
  · rintro ⟨_, rfl, third, blank, success⟩
    rcases afterBlank?_eq_some_iff.1 blank with ⟨space, isSpace, rfl, dark⟩
    rcases quoted?_eq_some_iff.1 success with ⟨gap, opening, behind, isGap, isQuote, rfl, read⟩
    exact ⟨space ++ gap, opening, behind, isSpace.append_gap isGap, isQuote, by simp, read⟩
  · rintro ⟨space, opening, behind, isSpace, isQuote, rfl, read⟩
    refine ⟨_, List.append_assoc .., opening :: behind, ?_, ?_⟩
    · exact afterBlank?_eq_some_iff.2 ⟨space, isSpace, rfl, dark_quote isQuote⟩
    · rw [quoted?_quote isQuote, read]

theorem dark_of_fromWord? (success : fromWord? text = some found) :
    ∀ symbol ∈ text.head?, Text.isBlank symbol = false := by
  rcases fromWord?_eq_some_iff.1 success with ⟨space, opening, behind, -, -, rfl, -⟩
  rintro symbol ⟨⟩
  decide

theorem fromPart?_eq_some_iff :
    fromPart? text = some found ↔ ∃ space behind, IsSpace space ∧ text = space ++ behind ∧
      fromWord? behind = some found := by
  simp only [fromPart?, Option.bind_eq_bind, Option.bind_eq_some_iff]
  constructor
  · rintro ⟨behind, blank, success⟩
    rcases afterBlank?_eq_some_iff.1 blank with ⟨space, isSpace, rfl, dark⟩
    exact ⟨space, behind, isSpace, rfl, success⟩
  · rintro ⟨space, behind, isSpace, rfl, success⟩
    have dark := dark_of_fromWord? success
    exact ⟨behind, afterBlank?_eq_some_iff.2 ⟨space, isSpace, rfl, dark⟩, success⟩

end Parts

section Announces

/-- The first quote of the text opens a relative specifier, and in front of it stand `words`, with
any white space in and around them. -/
def Announces (words text : List Char) (found : Found) : Prop :=
  (text.takeWhile (!isQuote ·)).filter (!Text.isBlank ·) = words ∧
    ∃ quote rest, text.dropWhile (!isQuote ·) = quote :: rest ∧ specifier? rest = some found

theorem announces_append_quote (free : IsQuoteFree text)
    (isQuote : Reference.isQuote quote = true) :
    Announces words (text ++ quote :: rest) found ↔
      text.filter (!Text.isBlank ·) = words ∧ specifier? rest = some found := by
  simp only [Announces, free.takeWhile_append isQuote, free.dropWhile_append isQuote]
  grind

theorem Announces.append (announces : Announces words text found) (free : IsQuoteFree front) :
    Announces (front.filter (!Text.isBlank ·) ++ words) (front ++ text) found := by
  have pass : ∀ symbol ∈ front, (!isQuote symbol) = true := by
    intro symbol member
    simp [free symbol member]
  rcases announces with ⟨before, behind⟩
  rw [Announces, List.takeWhile_append_of_pos pass, List.dropWhile_append_of_pos pass,
    List.filter_append, before]
  exact ⟨rfl, behind⟩

/-- White space in front makes no difference. -/
theorem Announces.append_blank (announces : Announces words text found)
    (blank : ∀ symbol ∈ front, Text.isBlank symbol = true) :
    Announces words (front ++ text) found := by
  have free : IsQuoteFree front := fun symbol member => isQuote_of_isBlank (blank symbol member)
  have nothing : front.filter (!Text.isBlank ·) = [] := by
    rw [List.filter_eq_nil_iff]
    intro symbol member
    simp [blank symbol member]
  have announced := announces.append free
  rwa [nothing] at announced

theorem announces_of_quoted? (success : quoted? text = some found) : Announces [] text found := by
  rcases quoted?_eq_some_iff.1 success with ⟨gap, opening, behind, isGap, isQuote, rfl, read⟩
  exact ((announces_append_quote isQuoteFree_nil isQuote).2 ⟨rfl, read⟩).append_blank isGap

theorem announces_of_fromWord? (success : fromWord? text = some found) :
    Announces "from".toList text found := by
  rcases fromWord?_eq_some_iff.1 success with ⟨space, opening, behind, isSpace, isQuote, rfl, read⟩
  have announced : Announces [] (opening :: behind) found :=
    (announces_append_quote isQuoteFree_nil isQuote).2 ⟨rfl, read⟩
  have free : IsQuoteFree "from".toList := by decide
  rw [List.append_assoc]
  exact (announced.append_blank isSpace.isGap).append free

theorem announces_of_fromPart? (success : fromPart? text = some found) :
    Announces "from".toList text found := by
  rcases fromPart?_eq_some_iff.1 success with ⟨space, behind, isSpace, rfl, word⟩
  exact (announces_of_fromWord? word).append_blank isSpace.isGap

/-- There is no part from `from` on where other words stand before the next quote. -/
theorem fromPart?_eq_none (free : IsQuoteFree text) (isQuote : Reference.isQuote quote = true)
    (other : text.filter (!Text.isBlank ·) ≠ "from".toList) :
    fromPart? (text ++ quote :: rest) = none := by
  rw [Option.eq_none_iff_forall_ne_some]
  intro found success
  apply other
  exact ((announces_append_quote free isQuote).1 (announces_of_fromPart? success)).1

/-- There is no part from `from` on where the next quote opens nothing. -/
theorem fromPart?_eq_none_of_specifier? (free : IsQuoteFree text)
    (isQuote : Reference.isQuote quote = true) (nothing : specifier? rest = none) :
    fromPart? (text ++ quote :: rest) = none := by
  rw [Option.eq_none_iff_forall_ne_some]
  intro found success
  have announced := (announces_append_quote free isQuote).1 (announces_of_fromPart? success)
  rw [nothing] at announced
  cases announced.2

theorem fromPart?_eq_none_of_dark (dark : ∀ symbol ∈ text.head?, Text.isBlank symbol = false) :
    fromPart? text = none := by
  cases text with
  | nil => rfl
  | cons symbol text => simp [fromPart?, afterBlank?, dark symbol rfl]

end Announces

section Success

theorem isSpace_space : IsSpace [' '] :=
  ⟨by simp, by simp [IsGap, Text.isBlank]⟩

theorem fromWord?_from_quote (isQuote : Reference.isQuote quote = true) :
    fromWord? ("from ".toList ++ quote :: rest) = specifier? rest := by
  have word : Text.afterWord? "from".toList ("from ".toList ++ quote :: rest) =
      some (' ' :: quote :: rest) :=
    Text.afterWord?_eq_some_iff.2 rfl
  have gap : afterBlank? (' ' :: quote :: rest) = some (quote :: rest) :=
    afterBlank?_eq_some_iff.2 ⟨[' '], isSpace_space, rfl, dark_quote isQuote⟩
  simp only [fromWord?, word, gap, Option.bind_eq_bind, Option.bind_some, quoted?_quote isQuote]

/-- The part from `from` on, behind white space. -/
theorem fromPart?_from_quote (blank : ∀ symbol ∈ front, Text.isBlank symbol = true)
    (isQuote : Reference.isQuote quote = true) :
    fromPart? (front ++ " from ".toList ++ quote :: rest) = specifier? rest := by
  have isSpace : IsSpace (front ++ [' ']) := IsGap.append_space blank isSpace_space
  have gap : afterBlank? (front ++ " from ".toList ++ quote :: rest) =
      some ("from ".toList ++ quote :: rest) := by
    apply afterBlank?_eq_some_iff.2
    refine ⟨front ++ [' '], isSpace, by simp, ?_⟩
    rintro symbol ⟨⟩
    decide
  simp only [fromPart?, gap, Option.bind_eq_bind, Option.bind_some]
  exact fromWord?_from_quote isQuote

end Success

section Clause

/-- A clause may go on over everything on the line that is not the part from `from` on. -/
theorem clause?_append (oneLine : '\n' ∉ front)
    (passes : ∀ symbol behind, symbol :: behind <:+ front → Text.isBlank symbol = false →
      fromPart? (behind ++ text) = none) :
    clause? (front ++ text) = clause? text := by
  induction front with
  | nil => rfl
  | cons symbol front ih =>
      have noBreak : symbol ≠ '\n' := by
        rintro rfl
        simp at oneLine
      have onward : clause? (front ++ text) = clause? text := by
        apply ih
        · exact fun member => oneLine (List.mem_cons_of_mem _ member)
        · intro other behind suffix
          exact passes other behind (suffix.trans (List.suffix_cons symbol front))
      rw [List.cons_append, clause?, if_neg noBreak, onward]
      cases blank : Text.isBlank symbol with
      | true => simp
      | false =>
          rw [passes symbol front List.suffix_rfl blank]
          simp

theorem clause?_eq_some {symbol : Char} (noBreak : symbol ≠ '\n')
    (dark : Text.isBlank symbol = false) (success : fromPart? text = some found) :
    clause? (symbol :: text) = some found := by
  simp [clause?, noBreak, dark, success]

theorem exists_last_dark (dark : ∃ symbol ∈ text, Text.isBlank symbol = false) :
    ∃ stem symbol blank, text = stem ++ symbol :: blank ∧ Text.isBlank symbol = false ∧
      ∀ other ∈ blank, Text.isBlank other = true := by
  induction text with
  | nil => simp at dark
  | cons first text ih =>
      by_cases later : ∃ symbol ∈ text, Text.isBlank symbol = false
      · rcases ih later with ⟨stem, symbol, blank, rfl, isDark, areBlank⟩
        exact ⟨first :: stem, symbol, blank, rfl, isDark, areBlank⟩
      · simp only [not_exists, not_and, Bool.not_eq_false] at later
        have isDark : Text.isBlank first = false := by
          rcases dark with ⟨symbol, member, isDark⟩
          rcases List.mem_cons.1 member with rfl | member
          · exact isDark
          · rw [later symbol member] at isDark
            cases isDark
        exact ⟨[], first, text, rfl, isDark, later⟩

/-- The clause in front of the next `from` that has a specifier behind it. -/
theorem clause?_from (oneLine : '\n' ∉ front) (free : IsQuoteFree front)
    (dark : ∃ symbol ∈ front, Text.isBlank symbol = false)
    (isQuote : Reference.isQuote quote = true) (success : specifier? rest = some found) :
    clause? (front ++ " from ".toList ++ quote :: rest) = some found := by
  rcases exists_last_dark dark with ⟨stem, symbol, blank, rfl, isDark, areBlank⟩
  simp only [List.mem_append, List.mem_cons, not_or] at oneLine
  have part : fromPart? (blank ++ " from ".toList ++ quote :: rest) = some found := by
    rw [fromPart?_from_quote areBlank isQuote, success]
  have found := clause?_eq_some (Ne.symm oneLine.2.1) isDark part
  rw [show stem ++ symbol :: blank ++ " from ".toList ++ quote :: rest =
    stem ++ symbol :: (blank ++ " from ".toList ++ quote :: rest) by simp]
  rw [clause?_append oneLine.1, found]
  -- Before the last symbol of the clause there is more than the word itself in front of the quote.
  rintro other behind ⟨before, rfl⟩ _
  have behindFree : IsQuoteFree (behind ++ symbol :: (blank ++ " from ".toList)) := by
    apply (isQuoteFree_append.2 ⟨free, (by decide : IsQuoteFree " from ".toList)⟩).of_suffix
    exact ⟨before ++ [other], by simp⟩
  rw [show behind ++ symbol :: (blank ++ " from ".toList ++ quote :: rest) =
    (behind ++ symbol :: (blank ++ " from ".toList)) ++ quote :: rest by simp]
  apply fromPart?_eq_none behindFree isQuote
  intro same
  have sizes := congrArg List.length same
  have fromSize : (" from ".toList.filter (!Text.isBlank ·)).length = 4 := by decide
  have wordSize : "from".toList.length = 4 := by decide
  simp only [List.filter_append, List.filter_cons, isDark, List.length_append, Bool.not_false,
    if_true, List.length_cons, fromSize, wordSize] at sizes
  omega

end Clause

section Import

theorem importPart?_eq_none_of_dark (dark : ∀ symbol ∈ text.head?, Text.isBlank symbol = false) :
    importPart? text = none := by
  simp [importPart?, Text.takeWhile_blank_of_head? dark]

theorem importPart?_append {blank : List Char} (nonempty : blank ≠ [])
    (areBlank : ∀ symbol ∈ blank, Text.isBlank symbol = true)
    (dark : ∀ symbol ∈ text.head?, Text.isBlank symbol = false) :
    importPart? (blank ++ text) =
      ((clause? text).or (quoted? text)).or (blankClause? blank text) := by
  have behind : Text.skipBlank (blank ++ text) = text := Text.skipBlank_append areBlank dark
  have front : (blank ++ text).takeWhile Text.isBlank = blank := by
    rw [List.takeWhile_append_of_pos areBlank, Text.takeWhile_blank_of_head? dark, List.append_nil]
  simp only [importPart?, behind, front]
  cases clause? text <;> cases quoted? text <;> simp [nonempty]

theorem statement?_import (text : List Char) :
    statement? ("import".toList ++ text) = importPart? text := by
  have word : Text.afterWord? "import".toList ("import".toList ++ text) = some text :=
    Text.afterWord?_eq_some_iff.2 rfl
  simp only [statement?, word]

theorem statement?_require (text : List Char) :
    statement? ("require(".toList ++ text) = quoted? text := by
  have noImport : Text.afterWord? "import".toList ("require(".toList ++ text) = none := rfl
  have word : Text.afterWord? "require(".toList ("require(".toList ++ text) = some text :=
    Text.afterWord?_eq_some_iff.2 rfl
  simp only [statement?, noImport, word]

end Import

section Specifiers

theorem specifiers_of_statement? (success : statement? text = some found) :
    specifiers text = found.1 :: specifiers found.2 := by
  rw [specifiers]
  split
  next other shape =>
    rw [success] at shape
    cases shape
    rfl
  next shape =>
    rw [success] at shape
    cases shape

theorem specifiers_cons {symbol : Char} (failure : statement? (symbol :: text) = none) :
    specifiers (symbol :: text) = specifiers text := by
  rw [specifiers]
  split
  next found shape =>
    rw [failure] at shape
    cases shape
  next => rfl

/-- Statements start with one of two letters. -/
theorem statement?_cons_of_ne {symbol : Char} (noImport : symbol ≠ 'i') (noRequire : symbol ≠ 'r') :
    statement? (symbol :: text) = none := by
  simp [statement?, Text.afterWord?, noImport, noRequire]

/-- A text in which no statement starts is passed over. -/
theorem specifiers_append
    (passes : ∀ symbol behind, symbol :: behind <:+ front →
      statement? (symbol :: (behind ++ text)) = none) :
    specifiers (front ++ text) = specifiers text := by
  induction front with
  | nil => rfl
  | cons symbol front ih =>
      rw [List.cons_append, specifiers_cons (passes symbol front List.suffix_rfl)]
      apply ih
      intro other behind suffix
      exact passes other behind (suffix.trans (List.suffix_cons symbol front))

end Specifiers

end SourceTree.Reference
