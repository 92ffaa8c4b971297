import SourceTree.Decimal.Notation
import SourceTree.Text.Extent
import SourceTree.Text.Quoted

/-!
# Faults in JSON text

A reader works on the text that is still to be read, so a fault says where it arose by what was
left at that point. Lines and columns are worked out only for the message: lines count from one,
columns count the bytes before the point. A fault about a character that was only looked at points
one byte further, just behind the first byte of that character.
-/

namespace SourceTree.Json

/-- A number as it is held while reading: whole if it was written so and fits 64 bits. -/
inductive Number where
  | whole (value : Int)
  | fraction (value : Float)
  deriving Repr

/-- What a value turned out to be. -/
inductive Kind where
  | null
  | boolean (value : Bool)
  | number (value : Number)
  | text (value : String)
  | list
  | object
  deriving Repr

/-- The words for a kind of value. -/
def Kind.describe : Kind → String
  | .null => "null"
  | .boolean value => "boolean `" ++ toString value ++ "`"
  | .number (.whole value) => "integer `" ++ toString value ++ "`"
  | .number (.fraction value) => "floating point `" ++ Decimal.renderFloat value ++ "`"
  | .text value => "string " ++ Text.quote value
  | .list => "sequence"
  | .object => "map"

/-- What is wrong with a text. -/
inductive Cause where
  | unfinishedList
  | unfinishedObject
  | unfinishedText
  | unfinishedValue
  | missingColon
  | missingListEnd
  | missingObjectEnd
  | unknownWord
  | missingValue
  | badEscape
  | badNumber
  | numberOutOfRange
  | keyNotText
  | controlCharacter
  | loneSurrogate
  | unpairedSurrogate
  | trailingComma
  | trailingText
  /-- A value of another kind than the one asked for. -/
  | wrongKind (found : Kind) (expected : String)
  /-- A list with too few elements for the record it stands for. -/
  | wrongLength (length : Nat) (expected : String)
  | missingField (name : String)
  | duplicateField (name : String)
  deriving Repr

/-- The wording of a cause. -/
def Cause.message : Cause → String
  | .unfinishedList => "EOF while parsing a list"
  | .unfinishedObject => "EOF while parsing an object"
  | .unfinishedText => "EOF while parsing a string"
  | .unfinishedValue => "EOF while parsing a value"
  | .missingColon => "expected `:`"
  | .missingListEnd => "expected `,` or `]`"
  | .missingObjectEnd => "expected `,` or `\x7d`"
  | .unknownWord => "expected ident"
  | .missingValue => "expected value"
  | .badEscape => "invalid escape"
  | .badNumber => "invalid number"
  | .numberOutOfRange => "number out of range"
  | .keyNotText => "key must be a string"
  | .controlCharacter =>
      "control character (\\u0000-\\u001F) found while parsing a string"
  | .loneSurrogate => "lone leading surrogate in hex escape"
  | .unpairedSurrogate => "unexpected end of hex escape"
  | .trailingComma => "trailing comma"
  | .trailingText => "trailing characters"
  | .wrongKind found expected => "invalid type: " ++ found.describe ++ ", expected " ++ expected
  | .wrongLength length expected =>
      "invalid length " ++ toString length ++ ", expected " ++ expected
  | .missingField name => "missing field `" ++ name ++ "`"
  | .duplicateField name => "duplicate field `" ++ name ++ "`"

/-- A cause and the point where it arose: `ahead` bytes into the text that was left. -/
structure Fault where
  cause : Cause
  rest : List Char
  ahead : Nat
  deriving Repr

namespace Fault

/-- A fault at the point reached. -/
def here (cause : Cause) (rest : List Char) : Fault :=
  ⟨cause, rest, 0⟩

/-- A fault about the character that comes next. -/
def next (cause : Cause) (rest : List Char) : Fault :=
  ⟨cause, rest, 1⟩

end Fault

/-- A line, counted from one, and the bytes before a point on it. -/
structure Position where
  line : Nat
  column : Nat
  deriving DecidableEq, Repr

/-- The position behind one more byte. -/
def Position.advance (position : Position) (byte : UInt8) : Position :=
  if byte = 10 then ⟨position.line + 1, 0⟩ else ⟨position.line, position.column + 1⟩

/-- The position behind the first `offset` bytes of a text. -/
def Position.ofOffset (text : String) (offset : Nat) : Position :=
  (text.toUTF8.toList.take offset).foldl Position.advance ⟨1, 0⟩

/-- Where in `text` a fault arose. -/
def Fault.position (text : String) (fault : Fault) : Position :=
  Position.ofOffset text (text.utf8ByteSize - Text.byteLength fault.rest + fault.ahead)

/-- The message for a fault in `text`. -/
def Fault.message (text : String) (fault : Fault) : String :=
  let position := fault.position text
  fault.cause.message ++ " at line " ++ toString position.line ++ " column " ++
    toString position.column

end SourceTree.Json
