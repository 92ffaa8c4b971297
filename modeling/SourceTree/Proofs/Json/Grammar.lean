import SourceTree.Json.Schema

/-!
# The texts that stand for a value

A value can be written in many ways: with white space around its parts, and with characters that
stand for themselves or are escaped, by a letter, by a UTF-16 unit or by a pair of them. The
predicate `Spells` gives all of them, rule by rule as the grammar of the format has them. Only
numbers are kept as they are written, for nothing here asks what a number is worth.

The parts of a list and the members of an object are spelled too, so the predicate is about nodes:
values with or without the white space around them, and the insides of brackets.
-/

namespace SourceTree.Json

/-- A value of the format. -/
inductive Value where
  | null
  | boolean (truth : Bool)
  | number (spelled : List Char)
  | text (value : String)
  | list (values : List Value)
  | object (members : List (String × Value))

/-- White space, of any length. -/
def IsBlank (space : List Char) : Prop :=
  ∀ symbol ∈ space, symbol ∈ [' ', '\t', '\n', '\r']

instance (space : List Char) : Decidable (IsBlank space) :=
  List.decidableBAll _ space

section Numbers

/-- One digit or more. -/
def IsDigits (digits : List Char) : Prop :=
  digits ≠ [] ∧ digits.all isDigit = true

instance (digits : List Char) : Decidable (IsDigits digits) :=
  inferInstanceAs (Decidable (_ ∧ _))

/-- A whole part, which starts with a zero only if it is zero. -/
inductive IsWhole : List Char → Prop
  | zero : IsWhole ['0']
  | digits {digits : List Char} :
      IsDigits digits → digits.head? ≠ some '0' → IsWhole digits

/-- A decimal part, which may be missing. -/
inductive IsFraction : List Char → Prop
  | missing : IsFraction []
  | digits {digits : List Char} : IsDigits digits → IsFraction ('.' :: digits)

/-- An exponent, which may be missing. -/
inductive IsExponent : List Char → Prop
  | missing : IsExponent []
  | digits {letter : Char} {sign digits : List Char} :
      letter ∈ ['e', 'E'] → sign ∈ [[], ['+'], ['-']] → IsDigits digits →
      IsExponent (letter :: (sign ++ digits))

/-- A number. -/
inductive IsNumber : List Char → Prop
  | parts {sign whole fraction exponent : List Char} :
      sign ∈ [[], ['-']] → IsWhole whole → IsFraction fraction → IsExponent exponent →
      IsNumber (sign ++ (whole ++ (fraction ++ exponent)))

end Numbers

section Texts

/-- A hexadecimal digit and its value. -/
def IsHexDigit (value : Nat) (digit : Char) : Prop :=
  "0123456789abcdef".toList[value]? = some digit ∨
    "0123456789ABCDEF".toList[value]? = some digit

instance (value : Nat) (digit : Char) : Decidable (IsHexDigit value digit) :=
  inferInstanceAs (Decidable (_ ∨ _))

/-- Four hexadecimal digits and the UTF-16 unit that they write. -/
inductive IsHex : Nat → List Char → Prop
  | digits {unit : Nat} {first second third fourth : Char} :
      IsHexDigit (unit / 0x1000) first → IsHexDigit (unit / 0x100 % 0x10) second →
      IsHexDigit (unit / 0x10 % 0x10) third → IsHexDigit (unit % 0x10) fourth →
      IsHex unit [first, second, third, fourth]

/-- The letters of escapes and the characters that they stand for. -/
def escapes : List (Char × Char) :=
  [('"', '"'), ('\\', '\\'), ('/', '/'), ('b', '\x08'), ('f', '\x0c'), ('n', '\n'), ('r', '\r'),
    ('t', '\t')]

/-- Whether a character may stand for itself between quotes. -/
def isPlain (symbol : Char) : Bool :=
  ' ' ≤ symbol && symbol ≠ '"' && symbol ≠ '\\'

/-- The ways to write a character between quotes. -/
inductive SpellsSymbol : Char → List Char → Prop
  | plain {symbol : Char} : isPlain symbol = true → SpellsSymbol symbol [symbol]
  | letter {letter symbol : Char} :
      (letter, symbol) ∈ escapes → SpellsSymbol symbol ['\\', letter]
  | unit {symbol : Char} {digits : List Char} :
      IsHex symbol.toNat digits → SpellsSymbol symbol ('\\' :: 'u' :: digits)
  | pair {symbol : Char} {first second : List Char} :
      0x10000 ≤ symbol.toNat →
      IsHex (0xD800 + (symbol.toNat - 0x10000) / 0x400) first →
      IsHex (0xDC00 + (symbol.toNat - 0x10000) % 0x400) second →
      SpellsSymbol symbol ('\\' :: 'u' :: (first ++ '\\' :: 'u' :: second))

/-- The ways to write a text between quotes. -/
inductive SpellsText : List Char → List Char → Prop
  | nil : SpellsText [] []
  | cons {symbol : Char} {symbols part spelled : List Char} :
      SpellsSymbol symbol part → SpellsText symbols spelled →
      SpellsText (symbol :: symbols) (part ++ spelled)

theorem SpellsText.plain {symbols : List Char} (plain : symbols.all isPlain = true) :
    SpellsText symbols symbols := by
  induction symbols with
  | nil => exact .nil
  | cons symbol symbols ih =>
      rw [List.all_cons, Bool.and_eq_true] at plain
      exact .cons (.plain plain.1) (ih plain.2)

end Texts

/-- A part of a text that stands for something. -/
inductive Node where
  /-- A value with no white space around it. -/
  | bare (value : Value)
  /-- A value and the white space on both sides. -/
  | padded (value : Value)
  /-- What stands between the brackets of a list. -/
  | elements (values : List Value)
  /-- A key and its value. -/
  | member (key : String) (value : Value)
  /-- What stands between the brackets of an object. -/
  | members (members : List (String × Value))

/-- The ways to write what a node stands for. -/
inductive Spells : Node → List Char → Prop
  | null : Spells (.bare .null) "null".toList
  | true : Spells (.bare (.boolean Bool.true)) "true".toList
  | false : Spells (.bare (.boolean Bool.false)) "false".toList
  | number {spelled : List Char} : IsNumber spelled → Spells (.bare (.number spelled)) spelled
  | text {value : String} {spelled : List Char} :
      SpellsText value.toList spelled →
      Spells (.bare (.text value)) ('"' :: (spelled ++ ['"']))
  | list {values : List Value} {spelled : List Char} :
      Spells (.elements values) spelled →
      Spells (.bare (.list values)) ('[' :: (spelled ++ [']']))
  | object {members : List (String × Value)} {spelled : List Char} :
      Spells (.members members) spelled →
      Spells (.bare (.object members)) ('\x7b' :: (spelled ++ ['\x7d']))
  | padded {value : Value} {before spelled after : List Char} :
      IsBlank before → Spells (.bare value) spelled → IsBlank after →
      Spells (.padded value) (before ++ (spelled ++ after))
  | noElement {space : List Char} : IsBlank space → Spells (.elements []) space
  | lastElement {value : Value} {spelled : List Char} :
      Spells (.padded value) spelled → Spells (.elements [value]) spelled
  | element {value next : Value} {values : List Value} {spelled behind : List Char} :
      Spells (.padded value) spelled → Spells (.elements (next :: values)) behind →
      Spells (.elements (value :: next :: values)) (spelled ++ ',' :: behind)
  | member {key : String} {value : Value} {before name after spelled : List Char} :
      IsBlank before → SpellsText key.toList name → IsBlank after →
      Spells (.padded value) spelled →
      Spells (.member key value) (before ++ '"' :: (name ++ '"' :: (after ++ ':' :: spelled)))
  | noMember {space : List Char} : IsBlank space → Spells (.members []) space
  | lastMember {key : String} {value : Value} {spelled : List Char} :
      Spells (.member key value) spelled → Spells (.members [(key, value)]) spelled
  | nextMember {key : String} {value : Value} {next : String × Value}
      {members : List (String × Value)} {spelled behind : List Char} :
      Spells (.member key value) spelled → Spells (.members (next :: members)) behind →
      Spells (.members ((key, value) :: next :: members)) (spelled ++ ',' :: behind)

/-- A text that stands for a value. -/
def Denotes (text : String) (value : Value) : Prop :=
  Spells (.padded value) text.toList

section FirstCharacter

/-- The characters that a value can start with. -/
def Value.opensWith : Value → Char → Bool
  | .null, symbol => symbol = 'n'
  | .boolean _, symbol => symbol = 't' || symbol = 'f'
  | .number _, symbol => symbol = '-' || isDigit symbol
  | .text _, symbol => symbol = '"'
  | .list _, symbol => symbol = '['
  | .object _, symbol => symbol = '\x7b'

theorem IsDigits.exists_cons {digits : List Char} (numeric : IsDigits digits) :
    ∃ digit behind, digits = digit :: behind ∧ isDigit digit = true ∧
      behind.all isDigit = true := by
  rcases digits with _ | ⟨digit, behind⟩
  · exact absurd rfl numeric.1
  · have all := numeric.2
    rw [List.all_cons, Bool.and_eq_true] at all
    exact ⟨digit, behind, rfl, all⟩

theorem IsWhole.isDigits {whole : List Char} (isWhole : IsWhole whole) : IsDigits whole := by
  cases isWhole with
  | zero => decide
  | digits numeric => exact numeric

theorem Spells.exists_opensWith {value : Value} {spelled : List Char}
    (spells : Spells (.bare value) spelled) :
    ∃ symbol behind, spelled = symbol :: behind ∧ value.opensWith symbol = Bool.true := by
  cases spells with
  | null => exact ⟨'n', "ull".toList, by decide, by decide⟩
  | true => exact ⟨'t', "rue".toList, by decide, by decide⟩
  | false => exact ⟨'f', "alse".toList, by decide, by decide⟩
  | number isNumber =>
      rcases isNumber with ⟨sign, isWhole, -, -⟩
      simp only [List.mem_cons, List.not_mem_nil, or_false] at sign
      rcases sign with rfl | rfl
      · obtain ⟨digit, behind, rfl, isDigit, -⟩ := isWhole.isDigits.exists_cons
        exact ⟨digit, _, rfl, by simp [Value.opensWith, isDigit]⟩
      · exact ⟨'-', _, rfl, by simp [Value.opensWith]⟩
  | text _ => exact ⟨'"', _, rfl, by simp [Value.opensWith]⟩
  | list _ => exact ⟨'[', _, rfl, by simp [Value.opensWith]⟩
  | object _ => exact ⟨'\x7b', _, rfl, by simp [Value.opensWith]⟩

theorem Value.isSpace_eq_false {value : Value} {symbol : Char}
    (opens : value.opensWith symbol = true) : isSpace symbol = false := by
  rw [← Bool.not_eq_true]
  intro blank
  simp only [isSpace, Bool.or_eq_true, decide_eq_true_eq] at blank
  rcases blank with ((rfl | rfl) | rfl) | rfl <;> cases value <;>
    simp [opensWith, isDigit] at opens

theorem Value.ne_closer {value : Value} {symbol : Char}
    (opens : value.opensWith symbol = true) : symbol ≠ ']' := by
  rintro rfl
  cases value <;> simp [opensWith, isDigit] at opens

theorem Value.eq_null {value : Value} (opens : value.opensWith 'n' = true) : value = .null := by
  cases value with
  | null => rfl
  | _ => simp [opensWith, isDigit] at opens

end FirstCharacter

end SourceTree.Json
