import SourceTree.Json.Literal

/-!
# Numbers of JSON

A number that stands where another kind of value was asked for is read for its value, because the
message shows it. A whole number that fits 64 bits stays whole, every other number becomes a double:
the first digits that fit 64 bits are scaled by a power of ten, and later digits only move the
exponent. Where the value does not matter the form alone is checked, and no number is too large.
-/

namespace SourceTree.Json

/-- The greatest value of 64 bits. -/
def maxSignificand : Nat := Nat.pow 2 64 - 1

/-- The greatest exponent that can be written. -/
def maxExponent : Nat := Nat.pow 2 31 - 1

/-- Whether a character is a decimal digit. -/
def isDigit (symbol : Char) : Bool :=
  '0' ≤ symbol && symbol ≤ '9'

/-- The value of a decimal digit. -/
def digitValue (symbol : Char) : Nat :=
  symbol.toNat - '0'.toNat

/-- The text after leading digits. -/
def skipDigits (input : List Char) : List Char :=
  input.dropWhile isDigit

theorem length_skipDigits_le (input : List Char) : (skipDigits input).length ≤ input.length :=
  (List.dropWhile_sublist isDigit).length_le

/-- The digits taken into a significand of 64 bits, and the digits that were left out because
they did not fit any more. -/
structure Significand where
  value : Nat
  taken : Nat
  left : Nat

/-- Takes in leading digits for as long as they fit. -/
def Significand.extend (start : Nat) (digits : List Char) : Significand :=
  digits.foldl
    (fun significand digit =>
      let larger := significand.value * 10 + digitValue digit
      if significand.left = 0 && larger ≤ maxSignificand then
        { significand with value := larger, taken := significand.taken + 1 }
      else
        { significand with left := significand.left + 1 })
    ⟨start, 0, 0⟩

/-- `significand · 10^exponent`, scaled in steps that doubles can hold; `none` if that is too
large for a double. -/
def scale? (magnitude : Float) (exponent : Int) : (steps : Nat) → Option Float
  | 0 => some 0
  | steps + 1 =>
      if exponent.natAbs ≤ 308 then
        let power := Float.ofScientific 1 false exponent.natAbs
        if exponent ≥ 0 then
          let scaled := magnitude * power
          if scaled.isInf then none else some scaled
        else
          some (magnitude / power)
      else if magnitude == 0 then some magnitude
      else if exponent ≥ 0 then none
      else scale? (magnitude / 1e308) (exponent + 308) steps

/-- The double that a sign, a significand and an exponent stand for. -/
def fraction (positive : Bool) (significand : Nat) (exponent : Int) (rest : List Char) :
    Except Fault (Number × List Char) :=
  match scale? significand.toUInt64.toFloat exponent 8 with
  | some magnitude => .ok (.fraction (if positive then magnitude else -magnitude), rest)
  | none => .error (.here .numberOutOfRange rest)

/-- The digits of an exponent, of which `exponent` have been read. Nothing if they are too
many; then the text behind the digit that was one too much is given. -/
def readExponentDigits (exponent : Nat) : List Char → Except (List Char) (Nat × List Char)
  | [] => .ok (exponent, [])
  | digit :: rest =>
      if isDigit digit then
        if exponent * 10 + digitValue digit ≤ maxExponent then
          readExponentDigits (exponent * 10 + digitValue digit) rest
        else .error rest
      else .ok (exponent, digit :: rest)

/-- The sign of an exponent and the text behind it. -/
def exponentSign : List Char → Bool × List Char
  | '+' :: rest => (true, rest)
  | '-' :: rest => (false, rest)
  | rest => (true, rest)

/-- A number from its exponent on, behind the `e`. -/
def readExponent (positive : Bool) (significand : Nat) (start : Int) (input : List Char) :
    Except Fault (Number × List Char) :=
  let (positiveExponent, input) := exponentSign input
  match input with
  | [] => .error (.here .unfinishedValue [])
  | digit :: rest =>
      if isDigit digit then
        match readExponentDigits (digitValue digit) rest with
        | .ok (exponent, rest) =>
            let exponent : Int := if positiveExponent then exponent else -exponent
            fraction positive significand (start + exponent) rest
        | .error rest =>
            if significand ≠ 0 && positiveExponent then .error (.here .numberOutOfRange rest)
            else fraction positive 0 0 (skipDigits rest)
      else .error (.next .badNumber (digit :: rest))

/-- A number from its decimal part on, behind the point. -/
def readDecimal (positive : Bool) (significand : Nat) (start : Int) (input : List Char) :
    Except Fault (Number × List Char) :=
  let rest := skipDigits input
  let extended := Significand.extend significand (input.takeWhile isDigit)
  if extended.taken = 0 && extended.left = 0 then
    .error (.next (if rest.isEmpty then .unfinishedValue else .badNumber) rest)
  else
    let exponent := start - extended.taken
    match rest with
    | symbol :: behind =>
        if symbol = 'e' || symbol = 'E' then
          readExponent positive extended.value exponent behind
        else fraction positive extended.value exponent rest
    | [] => fraction positive extended.value exponent rest

/-- A whole number, if it fits 64 bits with its sign. -/
def wholeOrFraction (positive : Bool) (significand : Nat) : Number :=
  if positive then .whole significand
  else if 0 < significand && significand ≤ Nat.pow 2 63 then .whole (-significand)
  else .fraction (-significand.toUInt64.toFloat)

/-- A number from the end of its whole part on. -/
def readNumberTail (positive : Bool) (whole : Significand) (rest : List Char) :
    Except Fault (Number × List Char) :=
  match rest with
  | '.' :: behind => readDecimal positive whole.value whole.left behind
  | 'e' :: behind => readExponent positive whole.value whole.left behind
  | 'E' :: behind => readExponent positive whole.value whole.left behind
  | rest =>
      if whole.left = 0 then .ok (wholeOrFraction positive whole.value, rest)
      else fraction positive whole.value whole.left rest

/-- A number behind its sign. -/
def readNumber (positive : Bool) : List Char → Except Fault (Number × List Char)
  | [] => .error (.here .unfinishedValue [])
  | '0' :: rest =>
      match rest with
      | digit :: _ =>
          if isDigit digit then .error (.next .badNumber rest)
          else readNumberTail positive ⟨0, 1, 0⟩ rest
      | [] => readNumberTail positive ⟨0, 1, 0⟩ rest
  | digit :: rest =>
      if isDigit digit then
        readNumberTail positive (Significand.extend (digitValue digit) (rest.takeWhile isDigit))
          (skipDigits rest)
      else .error (.next .badNumber (digit :: rest))

/-- The text behind the exponent of a number, behind the `e`. -/
def skipExponent (input : List Char) : Except Fault (List Char) :=
  match (exponentSign input).2 with
  | [] => .error (.here .badNumber [])
  | digit :: rest =>
      if isDigit digit then .ok (skipDigits rest)
      else .error (.next .badNumber (digit :: rest))

/-- The text behind the exponent of a number, if it has one. -/
def skipExponent? : List Char → Except Fault (List Char)
  | 'e' :: rest => skipExponent rest
  | 'E' :: rest => skipExponent rest
  | rest => .ok rest

/-- The text behind the decimal part and the exponent of a number, if it has them. -/
def skipNumberTail : List Char → Except Fault (List Char)
  | '.' :: rest =>
      match rest with
      | digit :: _ =>
          if isDigit digit then skipExponent? (skipDigits rest)
          else .error (.next .badNumber rest)
      | [] => .error (.next .badNumber rest)
  | rest => skipExponent? rest

/-- The text behind a number whose value does not matter, behind its sign. -/
def skipNumber : List Char → Except Fault (List Char)
  | [] => .error (.here .badNumber [])
  | '0' :: rest =>
      match rest with
      | digit :: _ =>
          if isDigit digit then .error (.next .badNumber rest) else skipNumberTail rest
      | [] => skipNumberTail rest
  | digit :: rest =>
      if isDigit digit then skipNumberTail (skipDigits rest)
      else .error (.next .badNumber (digit :: rest))

theorem length_exponentSign_le (input : List Char) :
    (exponentSign input).2.length ≤ input.length := by
  unfold exponentSign
  split <;> simp

theorem length_of_skipExponent {input rest : List Char} (success : skipExponent input = .ok rest) :
    rest.length ≤ input.length := by
  have sign := length_exponentSign_le input
  unfold skipExponent at success
  split at success
  · simp at success
  next digit behind shape =>
    rw [shape, List.length_cons] at sign
    split at success
    · have digits := length_skipDigits_le behind
      simp only [Except.ok.injEq] at success
      subst success
      omega
    · simp at success

theorem length_of_skipExponent? {input rest : List Char}
    (success : skipExponent? input = .ok rest) : rest.length ≤ input.length := by
  unfold skipExponent? at success
  split at success
  · exact Nat.le_succ_of_le (length_of_skipExponent success)
  · exact Nat.le_succ_of_le (length_of_skipExponent success)
  · simp only [Except.ok.injEq] at success
    simp [success]

theorem length_of_skipNumberTail {input rest : List Char}
    (success : skipNumberTail input = .ok rest) : rest.length ≤ input.length := by
  unfold skipNumberTail at success
  split at success
  · split at success
    · split at success
      · have digits := length_skipDigits_le
        refine Nat.le_trans (length_of_skipExponent? success) ?_
        exact Nat.le_succ_of_le (digits _)
      · simp at success
    · simp at success
  · exact length_of_skipExponent? success

theorem length_of_skipNumber {input rest : List Char} (success : skipNumber input = .ok rest) :
    rest.length < input.length := by
  unfold skipNumber at success
  split at success
  · simp at success
  · split at success
    · split at success
      · simp at success
      · exact Nat.lt_succ_of_le (length_of_skipNumberTail success)
    · exact Nat.lt_succ_of_le (length_of_skipNumberTail success)
  next digit behind _ =>
    split at success
    · refine Nat.lt_succ_of_le (Nat.le_trans (length_of_skipNumberTail success) ?_)
      exact length_skipDigits_le behind
    · simp at success

end SourceTree.Json
