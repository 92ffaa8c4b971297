import SourceTree.Json.Fault
import SourceTree.Text.Hex

/-!
# Words and quoted text of JSON

The leaves of the format that are spelled with letters: the three words and text in double quotes.
Text can be read for its value, or skipped where only its form matters. Skipping accepts escapes of
lone surrogates, which have no value.
-/

namespace SourceTree.Json

/-- White space between the tokens of the format. -/
def isSpace (symbol : Char) : Bool :=
  symbol = ' ' || symbol = '\n' || symbol = '\t' || symbol = '\r'

/-- The text after leading white space. -/
def skipSpace (input : List Char) : List Char :=
  input.dropWhile isSpace

theorem length_skipSpace_le (input : List Char) : (skipSpace input).length ≤ input.length :=
  (List.dropWhile_sublist isSpace).length_le

/-- The text behind `word`, which its first letter has announced. -/
def readWord : (word input : List Char) → Except Fault (List Char)
  | [], input => .ok input
  | _ :: _, [] => .error (.here .unfinishedValue [])
  | expected :: word, symbol :: rest =>
      if symbol = expected then readWord word rest
      else .error (.next .unknownWord (symbol :: rest))

theorem length_of_readWord {word input rest : List Char}
    (success : readWord word input = .ok rest) : rest.length ≤ input.length := by
  induction word generalizing input with
  | nil => simp_all [readWord]
  | cons expected word ih =>
      cases input with
      | nil => simp [readWord] at success
      | cons symbol input =>
          unfold readWord at success
          split at success
          · exact Nat.le_succ_of_le (ih success)
          · simp at success

/-- The number that four hexadecimal digits write. -/
def fourDigits? (first second third fourth : Char) : Option Nat := do
  let first ← Text.hexDigit? first
  let second ← Text.hexDigit? second
  let third ← Text.hexDigit? third
  let fourth ← Text.hexDigit? fourth
  return ((first * 16 + second) * 16 + third) * 16 + fourth

/-- Why four hexadecimal digits could not be read: there are other characters, or there is too
little text. -/
def hexFault (input : List Char) : Fault :=
  if Text.byteLength input < 4 then .here .unfinishedText [] else ⟨.badEscape, input, 4⟩

/-- Four hexadecimal digits. -/
def readHex : List Char → Except Fault (Nat × List Char)
  | first :: second :: third :: fourth :: rest =>
      match fourDigits? first second third fourth with
      | some number => .ok (number, rest)
      | none => .error (hexFault (first :: second :: third :: fourth :: rest))
  | input => .error (hexFault input)

theorem length_of_readHex {input rest : List Char} {number : Nat}
    (success : readHex input = .ok (number, rest)) : rest.length < input.length := by
  unfold readHex at success
  split at success
  · split at success
    · simp only [Except.ok.injEq, Prod.mk.injEq] at success
      simp only [List.length_cons, ← success.2]
      omega
    · simp at success
  · simp at success

/-- Whether a UTF-16 unit opens a surrogate pair. -/
def isLeadingSurrogate (unit : Nat) : Bool :=
  0xD800 ≤ unit && unit ≤ 0xDBFF

/-- Whether a UTF-16 unit closes a surrogate pair. -/
def isTrailingSurrogate (unit : Nat) : Bool :=
  0xDC00 ≤ unit && unit ≤ 0xDFFF

/-- The second half of a surrogate pair, which must be escaped too. -/
def readTrailing : List Char → Except Fault (Nat × List Char)
  | '\\' :: 'u' :: rest => do
      let (unit, rest) ← readHex rest
      if isTrailingSurrogate unit then .ok (unit, rest) else .error (.here .loneSurrogate rest)
  | ['\\'] => .error (.here .unfinishedText [])
  | '\\' :: rest => .error (.next .unpairedSurrogate rest)
  | [] => .error (.here .unfinishedText [])
  | rest => .error (.next .unpairedSurrogate rest)

theorem length_of_readTrailing {input rest : List Char} {unit : Nat}
    (success : readTrailing input = .ok (unit, rest)) : rest.length < input.length := by
  unfold readTrailing at success
  split at success
  next behind =>
    cases shape : readHex behind with
    | error fault => simp [shape, bind, Except.bind] at success
    | ok read =>
        obtain ⟨unit', rest'⟩ := read
        have := length_of_readHex shape
        simp only [shape, bind, Except.bind] at success
        split at success
        · simp only [Except.ok.injEq, Prod.mk.injEq] at success
          simp only [List.length_cons, ← success.2]
          omega
        · simp at success
  all_goals simp at success

/-- The character that a unicode escape stands for, behind its `u`. -/
def readUnicode (input : List Char) : Except Fault (Char × List Char) :=
  match readHex input with
  | .error fault => .error fault
  | .ok (unit, rest) =>
      if isTrailingSurrogate unit then .error (.here .loneSurrogate rest)
      else if isLeadingSurrogate unit then
        match readTrailing rest with
        | .error fault => .error fault
        | .ok (trailing, rest) =>
            .ok (Char.ofNat ((unit - 0xD800) * 0x400 + (trailing - 0xDC00) + 0x10000), rest)
      else .ok (Char.ofNat unit, rest)

theorem length_of_readUnicode {input rest : List Char} {symbol : Char}
    (success : readUnicode input = .ok (symbol, rest)) : rest.length < input.length := by
  unfold readUnicode at success
  split at success
  · simp at success
  next unit behind first =>
    have first_lt := length_of_readHex first
    split at success
    · simp at success
    · split at success
      · split at success
        · simp at success
        next trailing behind' second =>
          have second_lt := length_of_readTrailing second
          simp only [Except.ok.injEq, Prod.mk.injEq] at success
          simp only [← success.2]
          omega
      · simp only [Except.ok.injEq, Prod.mk.injEq] at success
        simp only [← success.2]
        omega

/-- The character that a one-letter escape stands for. -/
def shortEscape? : Char → Option Char
  | '"' => some '"'
  | '\\' => some '\\'
  | '/' => some '/'
  | 'b' => some '\x08'
  | 'f' => some '\x0c'
  | 'n' => some '\n'
  | 'r' => some '\r'
  | 't' => some '\t'
  | _ => none

/-- The character that an escape stands for, behind its backslash. -/
def readEscape : List Char → Except Fault (Char × List Char)
  | [] => .error (.here .unfinishedText [])
  | 'u' :: rest => readUnicode rest
  | letter :: rest =>
      match shortEscape? letter with
      | some symbol => .ok (symbol, rest)
      | none => .error (.next .badEscape (letter :: rest))

theorem length_of_readEscape {input rest : List Char} {symbol : Char}
    (success : readEscape input = .ok (symbol, rest)) : rest.length < input.length := by
  unfold readEscape at success
  split at success
  · simp at success
  · exact Nat.lt_succ_of_lt (length_of_readUnicode success)
  · split at success
    · simp only [Except.ok.injEq, Prod.mk.injEq] at success
      simp [← success.2]
    · simp at success

/-- Quoted text behind its opening quote, appended to the reversed text `done`. -/
def readTextOnto (done : List Char) : List Char → Except Fault (List Char × List Char)
  | [] => .error (.here .unfinishedText [])
  | '"' :: rest => .ok (done.reverse, rest)
  | '\\' :: rest =>
      match _shape : readEscape rest with
      | .error fault => .error fault
      | .ok (symbol, behind) => readTextOnto (symbol :: done) behind
  | symbol :: rest =>
      if symbol < ' ' then .error (.here .controlCharacter rest)
      else readTextOnto (symbol :: done) rest
termination_by input => input.length
decreasing_by
  · exact Nat.lt_succ_of_lt (length_of_readEscape _shape)
  · simp

/-- Quoted text behind its opening quote. -/
def readText (input : List Char) : Except Fault (String × List Char) :=
  match readTextOnto [] input with
  | .error fault => .error fault
  | .ok (text, rest) => .ok (String.ofList text, rest)

theorem length_of_readTextOnto {done input text rest : List Char}
    (success : readTextOnto done input = .ok (text, rest)) : rest.length < input.length := by
  fun_induction readTextOnto done input with
  | case1 => simp at success
  | case2 done behind =>
      simp only [Except.ok.injEq, Prod.mk.injEq] at success
      simp [← success.2]
  | case3 => simp at success
  | case4 done behind symbol behind' shape ih =>
      have inner := ih success
      have escape := length_of_readEscape shape
      simp only [List.length_cons]
      omega
  | case5 => simp at success
  | case6 done symbol behind _ _ _ ih =>
      have inner := ih success
      simp only [List.length_cons]
      omega

theorem length_of_readText {input rest : List Char} {text : String}
    (success : readText input = .ok (text, rest)) : rest.length < input.length := by
  unfold readText at success
  split at success
  · simp at success
  next text' rest' shape =>
    simp only [Except.ok.injEq, Prod.mk.injEq] at success
    rw [← success.2]
    exact length_of_readTextOnto shape

/-- The text behind an escape whose value does not matter, behind its backslash. -/
def skipEscape : List Char → Except Fault (List Char)
  | [] => .error (.here .unfinishedText [])
  | 'u' :: rest =>
      match readHex rest with
      | .error fault => .error fault
      | .ok (_, behind) => .ok behind
  | letter :: rest =>
      if (shortEscape? letter).isSome then .ok rest
      else .error (.next .badEscape (letter :: rest))

theorem length_of_skipEscape {input rest : List Char} (success : skipEscape input = .ok rest) :
    rest.length < input.length := by
  unfold skipEscape at success
  split at success
  · simp at success
  · split at success
    · simp at success
    next shape =>
      simp only [Except.ok.injEq] at success
      subst success
      exact Nat.lt_succ_of_lt (length_of_readHex shape)
  · split at success
    · simp only [Except.ok.injEq] at success
      simp [← success]
    · simp at success

/-- The text behind quoted text whose value does not matter, behind its opening quote. -/
def skipText : List Char → Except Fault (List Char)
  | [] => .error (.here .unfinishedText [])
  | '"' :: rest => .ok rest
  | '\\' :: rest =>
      match _shape : skipEscape rest with
      | .error fault => .error fault
      | .ok behind => skipText behind
  | symbol :: rest =>
      if symbol < ' ' then .error (.here .controlCharacter (symbol :: rest))
      else skipText rest
termination_by input => input.length
decreasing_by
  · exact Nat.lt_succ_of_lt (length_of_skipEscape _shape)
  · simp

theorem length_of_skipText {input rest : List Char} (success : skipText input = .ok rest) :
    rest.length < input.length := by
  fun_induction skipText input with
  | case1 => simp at success
  | case2 behind =>
      simp only [Except.ok.injEq] at success
      simp [← success]
  | case3 => simp at success
  | case4 behind behind' shape ih =>
      have inner := ih success
      have escape := length_of_skipEscape shape
      simp only [List.length_cons]
      omega
  | case5 => simp at success
  | case6 symbol behind _ _ _ ih =>
      have inner := ih success
      simp only [List.length_cons]
      omega

end SourceTree.Json
