import SourceTree.Proofs.Json.Literal

/-!
# The leaves of the format take nothing else

What is read or skipped as a leaf is spelled by the rules of the grammar: the text in front of what
is left is white space, a word, a text between quotes or a number. Together with the fact that each
spelling is read to its end, this says exactly what the leaves are.
-/

namespace SourceTree.Json

variable {input rest : List Char}

theorem exists_space_append (input : List Char) :
    ∃ space, IsBlank space ∧ input = space ++ skipSpace input := by
  refine ⟨input.takeWhile isSpace, ?_, List.takeWhile_append_dropWhile.symm⟩
  intro symbol member
  have space := List.all_eq_true.1 List.all_takeWhile symbol member
  simp only [isSpace, Bool.or_eq_true, decide_eq_true_eq] at space
  rcases space with ((rfl | rfl) | rfl) | rfl <;> simp

theorem eq_append_of_readWord {word : List Char} (success : readWord word input = .ok rest) :
    input = word ++ rest := by
  induction word generalizing input with
  | nil =>
      cases success
      rfl
  | cons expected word ih =>
      cases input with
      | nil => cases success
      | cons symbol input =>
          rw [readWord] at success
          split at success
          next same => rw [ih success, same, List.cons_append]
          next => cases success

section Texts

theorem isHexDigit_of_hexDigit? {digit : Char} {value : Nat}
    (success : Text.hexDigit? digit = some value) : IsHexDigit value digit := by
  have small : digit.toNat < 128 := by
    apply Nat.lt_of_not_le
    intro large
    have beyond (bound : Char) (low : bound.toNat < 128) : decide (digit ≤ bound) = false := by
      rw [decide_eq_false_iff_not]
      intro within
      have : digit.toNat ≤ bound.toNat := within
      omega
    simp [Text.hexDigit?, beyond '9' (by decide), beyond 'f' (by decide),
      beyond 'F' (by decide)] at success
  have all : ∀ code < 128, (Text.hexDigit? (Char.ofNat code)).all
      (fun value => decide (IsHexDigit value (Char.ofNat code))) = true := by
    decide
  have here := all digit.toNat small
  rw [Char.ofNat_toNat, success] at here
  simpa using here

theorem IsHexDigit.lt {value : Nat} {digit : Char} (isHexDigit : IsHexDigit value digit) :
    value < 16 := by
  rcases isHexDigit with lower | upper
  · exact (List.getElem?_eq_some_iff.1 lower).1
  · exact (List.getElem?_eq_some_iff.1 upper).1

theorem exists_isHex_of_readHex {unit : Nat} (success : readHex input = .ok (unit, rest)) :
    unit < 0x10000 ∧ ∃ digits, IsHex unit digits ∧ input = digits ++ rest := by
  rw [readHex.eq_def] at success
  split at success
  next first second third fourth behind =>
    split at success
    next number shape =>
      cases success
      simp only [fourDigits?, Option.bind_eq_bind, Option.bind_eq_some_iff, Option.pure_def,
        Option.some.injEq] at shape
      rcases shape with ⟨a, isFirst, b, isSecond, c, isThird, d, isFourth, rfl⟩
      replace isFirst := isHexDigit_of_hexDigit? isFirst
      replace isSecond := isHexDigit_of_hexDigit? isSecond
      replace isThird := isHexDigit_of_hexDigit? isThird
      replace isFourth := isHexDigit_of_hexDigit? isFourth
      have := isFirst.lt
      have := isSecond.lt
      have := isThird.lt
      have := isFourth.lt
      refine ⟨by omega, [first, second, third, fourth], ?_, rfl⟩
      apply IsHex.digits
      · rwa [show (((a * 16 + b) * 16 + c) * 16 + d) / 0x1000 = a by omega]
      · rwa [show (((a * 16 + b) * 16 + c) * 16 + d) / 0x100 % 0x10 = b by omega]
      · rwa [show (((a * 16 + b) * 16 + c) * 16 + d) / 0x10 % 0x10 = c by omega]
      · rwa [show (((a * 16 + b) * 16 + c) * 16 + d) % 0x10 = d by omega]
    next => cases success
  next => cases success

theorem exists_isHex_of_readTrailing {unit : Nat}
    (success : readTrailing input = .ok (unit, rest)) :
    isTrailingSurrogate unit = true ∧
      ∃ digits, IsHex unit digits ∧ input = '\\' :: 'u' :: (digits ++ rest) := by
  rw [readTrailing.eq_def] at success
  split at success
  next behind =>
    rcases shape : readHex behind with fault | ⟨number, behind'⟩
    · simp [shape, bind, Except.bind] at success
    · simp only [shape, bind, Except.bind] at success
      split at success
      next isTrailing =>
        cases success
        rcases exists_isHex_of_readHex shape with ⟨-, digits, hex, rfl⟩
        exact ⟨isTrailing, digits, hex, rfl⟩
      next => cases success
  all_goals cases success

theorem toNat_ofNat {code : Nat} (valid : code.isValidChar) : (Char.ofNat code).toNat = code := by
  rw [Char.ofNat, dif_pos valid]
  rfl

theorem exists_spells_of_readUnicode {symbol : Char}
    (success : readUnicode input = .ok (symbol, rest)) :
    ∃ part, SpellsSymbol symbol ('\\' :: 'u' :: part) ∧ input = part ++ rest := by
  rw [readUnicode] at success
  split at success
  next => cases success
  next unit behind first =>
    rcases exists_isHex_of_readHex first with ⟨small, digits, hex, rfl⟩
    split at success
    next => cases success
    next notTrailing =>
      simp only [isTrailingSurrogate, Bool.and_eq_true, decide_eq_true_eq, not_and] at notTrailing
      split at success
      next isLeading =>
        simp only [isLeadingSurrogate, Bool.and_eq_true, decide_eq_true_eq] at isLeading
        split at success
        next => cases success
        next trailing behind' second =>
          simp only [Except.ok.injEq, Prod.mk.injEq] at success
          obtain ⟨rfl, rfl⟩ := success
          rcases exists_isHex_of_readTrailing second with ⟨isTrailing, digits', hex', rfl⟩
          simp only [isTrailingSurrogate, Bool.and_eq_true, decide_eq_true_eq] at isTrailing
          have code := toNat_ofNat (show
            ((unit - 0xD800) * 0x400 + (trailing - 0xDC00) + 0x10000).isValidChar by
              refine Or.inr ⟨?_, ?_⟩ <;> omega)
          refine ⟨digits ++ '\\' :: 'u' :: digits', .pair ?_ ?_ ?_, by simp⟩
          · exact Nat.le_trans (Nat.le_add_left _ _) (Nat.le_of_eq code.symm)
          · rwa [code, show 0xD800 + ((unit - 0xD800) * 0x400 + (trailing - 0xDC00) + 0x10000 -
              0x10000) / 0x400 = unit by omega]
          · rwa [code, show 0xDC00 + ((unit - 0xD800) * 0x400 + (trailing - 0xDC00) + 0x10000 -
              0x10000) % 0x400 = trailing by omega]
      next notLeading =>
        simp only [isLeadingSurrogate, Bool.and_eq_true, decide_eq_true_eq, not_and] at notLeading
        cases success
        have code := toNat_ofNat (show unit.isValidChar by
          by_cases low : unit < 0xD800
          · exact Or.inl low
          · refine Or.inr ⟨?_, ?_⟩ <;> omega)
        exact ⟨digits, .unit (by rwa [code]), rfl⟩

theorem mem_escapes_of_shortEscape? {letter symbol : Char}
    (success : shortEscape? letter = some symbol) : (letter, symbol) ∈ escapes := by
  rw [shortEscape?.eq_def] at success
  split at success <;> cases success <;> decide

theorem exists_spells_of_readEscape {symbol : Char}
    (success : readEscape input = .ok (symbol, rest)) :
    ∃ part, SpellsSymbol symbol ('\\' :: part) ∧ input = part ++ rest := by
  rw [readEscape.eq_def] at success
  split at success
  next => cases success
  next behind =>
    rcases exists_spells_of_readUnicode success with ⟨part, spells, rfl⟩
    exact ⟨'u' :: part, spells, rfl⟩
  next letter behind _ =>
    split at success
    next escaped =>
      cases success
      exact ⟨[letter], .letter (mem_escapes_of_shortEscape? escaped), rfl⟩
    next => cases success

theorem exists_spells_of_readTextOnto {done text : List Char}
    (success : readTextOnto done input = .ok (text, rest)) :
    ∃ symbols spelled, SpellsText symbols spelled ∧ text = done.reverse ++ symbols ∧
      input = spelled ++ '"' :: rest := by
  fun_induction readTextOnto done input with
  | case1 => cases success
  | case2 done behind =>
      cases success
      exact ⟨[], [], .nil, by simp, rfl⟩
  | case3 => cases success
  | case4 done behind symbol behind' escape ih =>
      rcases ih success with ⟨symbols, spelled, spells, rfl, rfl⟩
      rcases exists_spells_of_readEscape escape with ⟨part, spellsSymbol, rfl⟩
      exact ⟨symbol :: symbols, _, .cons spellsSymbol spells, by simp, by simp⟩
  | case5 => cases success
  | case6 done symbol behind notQuote notEscape visible ih =>
      rcases ih success with ⟨symbols, spelled, spells, rfl, rfl⟩
      have plain : isPlain symbol = true := by
        simp only [isPlain, Bool.and_eq_true, decide_eq_true_eq]
        exact ⟨⟨Char.not_lt.1 visible, by simpa using notQuote⟩, by simpa using notEscape⟩
      exact ⟨symbol :: symbols, _, .cons (.plain plain) spells, by simp, by simp⟩

theorem exists_spells_of_readText {text : String} (success : readText input = .ok (text, rest)) :
    ∃ spelled, SpellsText text.toList spelled ∧ input = spelled ++ '"' :: rest := by
  rw [readText] at success
  split at success
  next => cases success
  next symbols behind shape =>
    cases success
    rcases exists_spells_of_readTextOnto shape with ⟨symbols, spelled, spells, rfl, rfl⟩
    exact ⟨spelled, by simpa using spells, rfl⟩

theorem exists_form_of_skipEscape (success : skipEscape input = .ok rest) :
    ∃ part, (∀ spelled, HasTextForm spelled → HasTextForm ('\\' :: (part ++ spelled))) ∧
      input = part ++ rest := by
  rw [skipEscape.eq_def] at success
  split at success
  next => cases success
  next behind =>
    split at success
    next => cases success
    next unit behind' hex =>
      cases success
      rcases exists_isHex_of_readHex hex with ⟨-, digits, isHex, rfl⟩
      exact ⟨'u' :: digits, fun spelled form => .unit isHex form, rfl⟩
  next letter behind _ =>
    split at success
    next short =>
      cases success
      rcases Option.isSome_iff_exists.1 short with ⟨symbol, escaped⟩
      have listed := mem_escapes_of_shortEscape? escaped
      exact ⟨[letter], fun spelled form => .letter listed form, rfl⟩
    next => cases success

theorem exists_form_of_skipText (success : skipText input = .ok rest) :
    ∃ spelled, HasTextForm spelled ∧ input = spelled ++ '"' :: rest := by
  fun_induction skipText input with
  | case1 => cases success
  | case2 behind =>
      cases success
      exact ⟨[], .nil, rfl⟩
  | case3 => cases success
  | case4 behind behind' escape ih =>
      rcases ih success with ⟨spelled, form, rfl⟩
      rcases exists_form_of_skipEscape escape with ⟨part, extend, rfl⟩
      exact ⟨'\\' :: (part ++ spelled), extend spelled form, by simp⟩
  | case5 => cases success
  | case6 symbol behind notQuote notEscape visible ih =>
      rcases ih success with ⟨spelled, form, rfl⟩
      have plain : isPlain symbol = true := by
        simp only [isPlain, Bool.and_eq_true, decide_eq_true_eq]
        exact ⟨⟨Char.not_lt.1 visible, by simpa using notQuote⟩, by simpa using notEscape⟩
      exact ⟨symbol :: spelled, .plain plain form, rfl⟩

theorem exists_space_of_readColon (success : readColon input = .ok rest) :
    ∃ space, IsBlank space ∧ input = space ++ ':' :: rest := by
  rcases exists_space_append input with ⟨space, blank, cut⟩
  rw [readColon] at success
  split at success
  next shape =>
    cases success
    exact ⟨space, blank, by rw [cut, shape]⟩
  all_goals cases success

theorem exists_lead_of_skipToValue {bracket : Bracket}
    (success : skipToValue bracket input = .ok rest) :
    ∃ lead, IsLead bracket lead ∧ input = lead ++ rest := by
  cases bracket with
  | list =>
      cases success
      exact ⟨[], .list, rfl⟩
  | object =>
      rcases exists_space_append input with ⟨space, blank, cut⟩
      rw [skipToValue, skipKey] at success
      split at success
      next behind first =>
        split at success
        next => cases success
        next behind' text =>
          rcases exists_form_of_skipText text with ⟨name, form, rfl⟩
          rcases exists_space_of_readColon success with ⟨space', blank', rfl⟩
          refine ⟨_, .object blank form blank', ?_⟩
          rw [cut, first]
          simp
      all_goals cases success

end Texts

section Numbers

theorem exists_digits_append (input : List Char) :
    ∃ digits, digits.all isDigit = true ∧ input = digits ++ skipDigits input :=
  ⟨input.takeWhile isDigit, List.all_takeWhile, List.takeWhile_append_dropWhile.symm⟩

theorem skipDigits_cons {digit : Char} (first : isDigit digit = true) (input : List Char) :
    skipDigits (digit :: input) = skipDigits input := by
  simp [skipDigits, first]

theorem exists_isDigits_append {digit : Char} (first : isDigit digit = true) (input : List Char) :
    ∃ digits, IsDigits (digit :: digits) ∧ input = digits ++ skipDigits input := by
  rcases exists_digits_append input with ⟨digits, all, cut⟩
  exact ⟨digits, ⟨by simp, by simp [first, all]⟩, cut⟩

theorem exists_sign_append (input : List Char) :
    ∃ sign ∈ [[], ['+'], ['-']], input = sign ++ (exponentSign input).2 := by
  rw [exponentSign.eq_def]
  split
  · exact ⟨['+'], by simp, rfl⟩
  · exact ⟨['-'], by simp, rfl⟩
  · exact ⟨[], by simp, rfl⟩

theorem exists_digits_of_skipExponent (success : skipExponent input = .ok rest) :
    ∃ sign ∈ [[], ['+'], ['-']], ∃ digits, IsDigits digits ∧ input = sign ++ (digits ++ rest) := by
  rcases exists_sign_append input with ⟨sign, listed, cut⟩
  rw [skipExponent] at success
  split at success
  next => cases success
  next digit behind shape =>
    split at success
    next first =>
      cases success
      rcases exists_isDigits_append first behind with ⟨digits, isDigits, digitCut⟩
      exact ⟨sign, listed, _, isDigits, by rw [List.cons_append, ← digitCut, ← shape, ← cut]⟩
    next => cases success

theorem exists_exponent_of_skipExponent? (success : skipExponent? input = .ok rest) :
    ∃ exponent, IsExponent exponent ∧ input = exponent ++ rest := by
  rw [skipExponent?.eq_def] at success
  split at success
  next behind =>
    rcases exists_digits_of_skipExponent success with ⟨sign, listed, digits, isDigits, rfl⟩
    exact ⟨'e' :: (sign ++ digits), .digits (by simp) listed isDigits, by simp⟩
  next behind =>
    rcases exists_digits_of_skipExponent success with ⟨sign, listed, digits, isDigits, rfl⟩
    exact ⟨'E' :: (sign ++ digits), .digits (by simp) listed isDigits, by simp⟩
  next =>
    cases success
    exact ⟨[], .missing, rfl⟩

theorem exists_tail_of_skipNumberTail (success : skipNumberTail input = .ok rest) :
    ∃ fraction exponent, IsFraction fraction ∧ IsExponent exponent ∧
      input = fraction ++ (exponent ++ rest) := by
  rw [skipNumberTail.eq_def] at success
  split at success
  next behind =>
    split at success
    next digit behind' =>
      split at success
      next first =>
        rcases exists_exponent_of_skipExponent? success with ⟨exponent, isExponent, shape⟩
        rcases exists_isDigits_append first behind' with ⟨digits, isDigits, cut⟩
        refine ⟨'.' :: digit :: digits, exponent, .digits isDigits, isExponent, ?_⟩
        rw [List.cons_append, List.cons_append, ← shape, skipDigits_cons first, ← cut]
      next => cases success
    next => cases success
  next =>
    rcases exists_exponent_of_skipExponent? success with ⟨exponent, isExponent, rfl⟩
    exact ⟨[], exponent, .missing, isExponent, rfl⟩

theorem exists_number_of_skipNumber (success : skipNumber input = .ok rest) :
    ∃ whole fraction exponent, IsWhole whole ∧ IsFraction fraction ∧ IsExponent exponent ∧
      input = whole ++ (fraction ++ (exponent ++ rest)) := by
  have zero : ∀ {behind : List Char}, skipNumberTail behind = .ok rest →
      ∃ whole fraction exponent, IsWhole whole ∧ IsFraction fraction ∧ IsExponent exponent ∧
        '0' :: behind = whole ++ (fraction ++ (exponent ++ rest)) := by
    intro behind success
    rcases exists_tail_of_skipNumberTail success with
      ⟨fraction, exponent, isFraction, isExponent, rfl⟩
    exact ⟨['0'], fraction, exponent, .zero, isFraction, isExponent, rfl⟩
  rw [skipNumber.eq_def] at success
  split at success
  next => cases success
  next behind =>
    split at success
    next =>
      split at success
      next => cases success
      next => exact zero success
    next => exact zero success
  next digit behind notZero =>
    split at success
    next first =>
      rcases exists_tail_of_skipNumberTail success with
        ⟨fraction, exponent, isFraction, isExponent, shape⟩
      rcases exists_isDigits_append first behind with ⟨digits, isDigits, cut⟩
      have head : (digit :: digits).head? ≠ some '0' := by
        simpa using notZero
      exact ⟨_, fraction, exponent, .digits isDigits head, isFraction, isExponent,
        by rw [List.cons_append, ← shape, ← cut]⟩
    next => cases success

end Numbers

end SourceTree.Json
