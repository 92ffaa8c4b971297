import SourceTree.Proofs.Json.Form

/-!
# Reading the leaves of the format

White space, words, texts and numbers are read up to their end and no further, whatever way they are
written in. The end of a text is marked by its quote. A number has no such mark: it ends where the
text behind it cannot continue it.
-/

namespace SourceTree.Json

section Blank

theorem IsBlank.isSpace {space : List Char} (blank : IsBlank space) :
    ∀ symbol ∈ space, isSpace symbol = true := by
  intro symbol member
  have listed := blank symbol member
  simp only [List.mem_cons, List.not_mem_nil, or_false] at listed
  rcases listed with rfl | rfl | rfl | rfl <;> decide

theorem skipSpace_append {space : List Char} (blank : IsBlank space) (rest : List Char) :
    skipSpace (space ++ rest) = skipSpace rest :=
  List.dropWhile_append_of_pos blank.isSpace

theorem skipSpace_cons {symbol : Char} (solid : isSpace symbol = false) (rest : List Char) :
    skipSpace (symbol :: rest) = symbol :: rest := by
  simp [skipSpace, solid]

@[simp]
theorem skipSpace_skipSpace (input : List Char) :
    skipSpace (skipSpace input) = skipSpace input := by
  induction input with
  | nil => rfl
  | cons symbol rest ih =>
      by_cases blank : isSpace symbol = true
      · simpa [skipSpace, blank] using ih
      · simp [skipSpace, blank]

theorem Spells.skipSpace_eq {value : Value} {spelled : List Char}
    (spells : Spells (.bare value) spelled) (rest : List Char) :
    skipSpace (spelled ++ rest) = spelled ++ rest := by
  obtain ⟨symbol, behind, rfl, opens⟩ := spells.exists_opensWith
  exact skipSpace_cons (Value.isSpace_eq_false opens) _

end Blank

theorem readWord_append (word rest : List Char) : readWord word (word ++ rest) = .ok rest := by
  induction word with
  | nil => rfl
  | cons symbol word ih => simp [readWord, ih]

section Texts

theorem hexDigit?_of_isHexDigit {value : Nat} {digit : Char} (isHexDigit : IsHexDigit value digit) :
    Text.hexDigit? digit = some value := by
  have lower : ∀ value < 16,
      "0123456789abcdef".toList[value]?.bind Text.hexDigit? = some value := by decide
  have upper : ∀ value < 16,
      "0123456789ABCDEF".toList[value]?.bind Text.hexDigit? = some value := by decide
  rcases isHexDigit with isLower | isUpper
  · have listed := lower value (List.getElem?_eq_some_iff.mp isLower).1
    rwa [isLower] at listed
  · have listed := upper value (List.getElem?_eq_some_iff.mp isUpper).1
    rwa [isUpper] at listed

theorem readHex_append {unit : Nat} {digits : List Char} (hex : IsHex unit digits)
    (rest : List Char) : readHex (digits ++ rest) = .ok (unit, rest) := by
  rcases hex with ⟨first, second, third, fourth⟩
  have number : ((unit / 0x1000 * 16 + unit / 0x100 % 0x10) * 16 + unit / 0x10 % 0x10) * 16 +
      unit % 0x10 = unit := by omega
  simp [readHex, fourDigits?, hexDigit?_of_isHexDigit first, hexDigit?_of_isHexDigit second,
    hexDigit?_of_isHexDigit third, hexDigit?_of_isHexDigit fourth, number]

theorem toNat_notSurrogate (symbol : Char) :
    symbol.toNat < 0xD800 ∨ 0xDFFF < symbol.toNat ∧ symbol.toNat < 0x110000 :=
  symbol.valid

theorem readUnicode_unit {symbol : Char} {digits : List Char} (hex : IsHex symbol.toNat digits)
    (rest : List Char) : readUnicode (digits ++ rest) = .ok (symbol, rest) := by
  -- A character is no surrogate, so the unit can neither open nor close a pair.
  have valid := toNat_notSurrogate symbol
  have notTrailing : isTrailingSurrogate symbol.toNat = false := by
    simp only [isTrailingSurrogate, Bool.and_eq_false_iff, decide_eq_false_iff_not]
    omega
  have notLeading : isLeadingSurrogate symbol.toNat = false := by
    simp only [isLeadingSurrogate, Bool.and_eq_false_iff, decide_eq_false_iff_not]
    omega
  simp [readUnicode, readHex_append hex, notTrailing, notLeading]

theorem readUnicode_pair {symbol : Char} {first second : List Char}
    (outside : 0x10000 ≤ symbol.toNat)
    (opening : IsHex (0xD800 + (symbol.toNat - 0x10000) / 0x400) first)
    (closing : IsHex (0xDC00 + (symbol.toNat - 0x10000) % 0x400) second) (rest : List Char) :
    readUnicode (first ++ '\\' :: 'u' :: (second ++ rest)) = .ok (symbol, rest) := by
  have valid := toNat_notSurrogate symbol
  generalize leads : 0xD800 + (symbol.toNat - 0x10000) / 0x400 = leading at opening
  generalize trails : 0xDC00 + (symbol.toNat - 0x10000) % 0x400 = trailing at closing
  have isLeading : isLeadingSurrogate leading = true := by
    simp only [isLeadingSurrogate, Bool.and_eq_true, decide_eq_true_eq]
    omega
  have notTrailing : isTrailingSurrogate leading = false := by
    simp only [isTrailingSurrogate, Bool.and_eq_false_iff, decide_eq_false_iff_not]
    omega
  have isTrailing : isTrailingSurrogate trailing = true := by
    simp only [isTrailingSurrogate, Bool.and_eq_true, decide_eq_true_eq]
    omega
  have number : (leading - 0xD800) * 0x400 + (trailing - 0xDC00) + 0x10000 = symbol.toNat := by
    omega
  simp [readUnicode, readTrailing, readHex_append opening, readHex_append closing, isLeading,
    notTrailing, isTrailing, number, bind, Except.bind]

theorem shortEscape?_of_mem {letter symbol : Char} (listed : (letter, symbol) ∈ escapes) :
    shortEscape? letter = some symbol ∧ letter ≠ 'u' := by
  have all : ∀ escape ∈ escapes,
      shortEscape? escape.1 = some escape.2 ∧ escape.1 ≠ 'u' := by simp [escapes, shortEscape?]
  exact all _ listed

theorem readTextOnto_escape {done rest behind : List Char} {symbol : Char}
    (escape : readEscape rest = .ok (symbol, behind)) :
    readTextOnto done ('\\' :: rest) = readTextOnto (symbol :: done) behind := by
  rw [readTextOnto]
  split <;> simp_all

theorem readTextOnto_symbol {symbol : Char} {part : List Char} (spells : SpellsSymbol symbol part)
    (done rest : List Char) :
    readTextOnto done (part ++ rest) = readTextOnto (symbol :: done) rest := by
  cases spells with
  | plain plain =>
      simp only [isPlain, Bool.and_eq_true, decide_eq_true_eq] at plain
      obtain ⟨⟨visible, notQuote⟩, notEscape⟩ := plain
      simp [readTextOnto, Char.not_lt.mpr visible]
  | letter listed =>
      obtain ⟨escape, notUnicode⟩ := shortEscape?_of_mem listed
      apply readTextOnto_escape
      simp [readEscape, escape]
  | unit hex => exact readTextOnto_escape (readUnicode_unit hex rest)
  | pair outside opening closing =>
      apply readTextOnto_escape
      simp [readEscape, readUnicode_pair outside opening closing]

theorem skipText_escape {rest behind : List Char} (escape : skipEscape rest = .ok behind) :
    skipText ('\\' :: rest) = skipText behind := by
  rw [skipText]
  split <;> simp_all

theorem skipEscape_unit {unit : Nat} {digits : List Char} (hex : IsHex unit digits)
    (rest : List Char) : skipEscape ('u' :: (digits ++ rest)) = .ok rest := by
  simp [skipEscape, readHex_append hex]

theorem readTextOnto_append {symbols spelled : List Char} (spells : SpellsText symbols spelled)
    (done rest : List Char) :
    readTextOnto done (spelled ++ '"' :: rest) = .ok (done.reverse ++ symbols, rest) := by
  induction spells generalizing done with
  | nil => simp [readTextOnto]
  | cons symbol _ ih => simp [readTextOnto_symbol symbol, ih]

theorem readText_append {text : String} {spelled : List Char}
    (spells : SpellsText text.toList spelled) (rest : List Char) :
    readText (spelled ++ '"' :: rest) = .ok (text, rest) := by
  simp [readText, readTextOnto_append spells]

theorem skipText_append {spelled : List Char} (form : HasTextForm spelled) (rest : List Char) :
    skipText (spelled ++ '"' :: rest) = .ok rest := by
  induction form with
  | nil => simp [skipText]
  | plain plain _ ih =>
      simp only [isPlain, Bool.and_eq_true, decide_eq_true_eq] at plain
      obtain ⟨⟨visible, notQuote⟩, notEscape⟩ := plain
      simp [skipText, Char.not_lt.mpr visible, ih]
  | letter listed _ ih =>
      obtain ⟨escape, notUnicode⟩ := shortEscape?_of_mem listed
      rw [← ih]
      apply skipText_escape
      simp [skipEscape, escape]
  | unit hex _ ih =>
      rw [← ih, List.cons_append, List.cons_append, List.append_assoc]
      exact skipText_escape (skipEscape_unit hex _)

theorem readColon_append {space : List Char} (blank : IsBlank space) (rest : List Char) :
    readColon (space ++ ':' :: rest) = .ok rest := by
  simp [readColon, skipSpace_append blank, skipSpace_cons, isSpace]

theorem skipToValue_append {bracket : Bracket} {lead : List Char} (isLead : IsLead bracket lead)
    (rest : List Char) : skipToValue bracket (lead ++ rest) = .ok rest := by
  cases isLead with
  | list => rfl
  | object blank form blank' =>
      simp [skipToValue, skipKey, skipSpace_append blank, skipSpace_cons, isSpace,
        skipText_append form, readColon_append blank']

end Texts

section Numbers

/-- Whether a text does not go on with digits. -/
def NoDigit (rest : List Char) : Prop :=
  ∀ symbol ∈ rest.head?, isDigit symbol = false

/-- A text that cannot continue a number. -/
def EndsNumber (rest : List Char) : Prop :=
  ∀ symbol ∈ rest.head?, isDigit symbol = false ∧ symbol ∉ ['.', 'e', 'E']

theorem EndsNumber.noDigit {rest : List Char} (ends : EndsNumber rest) : NoDigit rest :=
  fun symbol first => (ends symbol first).1

/-- A character that can stand behind a value inside brackets. -/
def IsSeparator (symbol : Char) : Prop :=
  symbol ∈ [',', ']', '\x7d']

theorem IsSeparator.endsNumber {symbol : Char} (separator : IsSeparator symbol)
    (rest : List Char) : EndsNumber (symbol :: rest) := by
  have all : ∀ symbol ∈ [',', ']', '\x7d'], isDigit symbol = false ∧ symbol ∉ ['.', 'e', 'E'] := by
    simp [isDigit]
  simpa [EndsNumber] using all symbol separator

theorem EndsNumber.append {space rest : List Char} (blank : IsBlank space)
    (ends : EndsNumber rest) : EndsNumber (space ++ rest) := by
  rcases space with _ | ⟨symbol, space⟩
  · exact ends
  · have all : ∀ symbol ∈ [' ', '\t', '\n', '\r'],
        isDigit symbol = false ∧ symbol ∉ ['.', 'e', 'E'] := by simp [isDigit]
    simpa [EndsNumber] using all symbol (blank symbol (by simp))

theorem skipDigits_append {digits rest : List Char} (numeric : digits.all isDigit = true)
    (ends : NoDigit rest) : skipDigits (digits ++ rest) = rest := by
  rw [skipDigits, List.dropWhile_append_of_pos (List.all_eq_true.mp numeric)]
  rcases rest with _ | ⟨symbol, rest⟩
  · rfl
  · simp [ends symbol (by simp)]

theorem exponentSign_append {sign : List Char} {digit : Char} (isSign : sign ∈ [[], ['+'], ['-']])
    (numeric : isDigit digit = true) (rest : List Char) :
    (exponentSign (sign ++ digit :: rest)).2 = digit :: rest := by
  simp only [List.mem_cons, List.not_mem_nil, or_false] at isSign
  rcases isSign with rfl | rfl | rfl
  · have notPlus : digit ≠ '+' := by
      rintro rfl
      simp [isDigit] at numeric
    have notMinus : digit ≠ '-' := by
      rintro rfl
      simp [isDigit] at numeric
    rw [exponentSign.eq_def]
    split <;> simp_all
  · rfl
  · rfl

theorem skipExponent_append {sign digits rest : List Char} (isSign : sign ∈ [[], ['+'], ['-']])
    (numeric : IsDigits digits) (ends : NoDigit rest) :
    skipExponent (sign ++ (digits ++ rest)) = .ok rest := by
  obtain ⟨digit, digits, rfl, first, others⟩ := numeric.exists_cons
  simp [skipExponent, exponentSign_append isSign first, first, skipDigits_append others ends]

theorem skipExponent?_append {exponent rest : List Char} (isExponent : IsExponent exponent)
    (ends : EndsNumber rest) : skipExponent? (exponent ++ rest) = .ok rest := by
  cases isExponent with
  | missing =>
      rcases rest with _ | ⟨symbol, rest⟩
      · rfl
      · have other := (ends symbol (by simp)).2
        simp_all [skipExponent?]
  | digits isLetter isSign numeric =>
      simp only [List.mem_cons, List.not_mem_nil, or_false] at isLetter
      rcases isLetter with rfl | rfl <;>
        simpa [skipExponent?] using skipExponent_append isSign numeric ends.noDigit

theorem IsExponent.noDigit {exponent rest : List Char} (isExponent : IsExponent exponent)
    (ends : EndsNumber rest) : NoDigit (exponent ++ rest) := by
  cases isExponent with
  | missing => exact ends.noDigit
  | digits isLetter =>
      simp only [List.mem_cons, List.not_mem_nil, or_false] at isLetter
      rcases isLetter with rfl | rfl <;> simp [NoDigit, isDigit]

theorem IsExponent.noPoint {exponent rest : List Char} (isExponent : IsExponent exponent)
    (ends : EndsNumber rest) : (exponent ++ rest).head? ≠ some '.' := by
  cases isExponent with
  | missing => exact fun point => (ends '.' point).2 (by simp)
  | digits isLetter =>
      simp only [List.mem_cons, List.not_mem_nil, or_false] at isLetter
      rcases isLetter with rfl | rfl <;> simp

theorem skipNumberTail_append {fraction exponent rest : List Char}
    (isFraction : IsFraction fraction) (isExponent : IsExponent exponent)
    (ends : EndsNumber rest) :
    skipNumberTail (fraction ++ (exponent ++ rest)) = .ok rest := by
  have tail := skipExponent?_append isExponent ends
  cases isFraction with
  | missing =>
      have noPoint := isExponent.noPoint ends
      rw [List.nil_append, skipNumberTail.eq_def]
      split
      next point => simp [point] at noPoint
      next => exact tail
  | digits numeric =>
      have digits := skipDigits_append numeric.2 (isExponent.noDigit ends)
      obtain ⟨digit, behind, rfl, first, -⟩ := numeric.exists_cons
      simp only [List.cons_append] at digits
      simp [skipNumberTail, first, digits, tail]

theorem IsFraction.noDigit {fraction rest : List Char} (isFraction : IsFraction fraction)
    (ends : NoDigit rest) : NoDigit (fraction ++ rest) := by
  cases isFraction with
  | missing => exact ends
  | digits => simp [NoDigit, isDigit]

theorem skipNumber_append {whole fraction exponent rest : List Char} (isWhole : IsWhole whole)
    (isFraction : IsFraction fraction) (isExponent : IsExponent exponent)
    (ends : EndsNumber rest) :
    skipNumber (whole ++ (fraction ++ (exponent ++ rest))) = .ok rest := by
  have noDigit := isFraction.noDigit (isExponent.noDigit ends)
  have tail := skipNumberTail_append isFraction isExponent ends
  cases isWhole with
  | zero =>
      generalize fraction ++ (exponent ++ rest) = behind at noDigit tail ⊢
      rcases behind with _ | ⟨symbol, behind⟩
      · simpa [skipNumber] using tail
      · have notDigit := noDigit symbol (by simp)
        simpa [skipNumber, notDigit] using tail
  | digits numeric notZero =>
      obtain ⟨digit, digits, rfl, first, others⟩ := numeric.exists_cons
      have notZero : digit ≠ '0' := by simpa using notZero
      simp [skipNumber, first, skipDigits_append others noDigit, tail]

end Numbers

end SourceTree.Json
