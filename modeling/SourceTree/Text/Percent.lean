import SourceTree.Text.Hex
import SourceTree.Text.Utf8

/-!
# Percent-encoded text

A percent sign with two hexadecimal digits stands for one byte. Any other percent sign stands
for itself. The decoded bytes need not be text: a caller that wants text gets nothing when they
are not UTF-8.
-/

namespace SourceTree.Text.Percent

/-- The byte that a percent sign followed by two digits stands for. -/
def escapedByte? (high low : Char) : Option UInt8 := do
  let high ← hexDigit? high
  let low ← hexDigit? low
  return (high * 16 + low).toUInt8

/-- The bytes of a text after each escape is replaced by the byte it stands for. -/
def decodeBytes : List Char → List UInt8
  | [] => []
  | [symbol] => String.utf8EncodeChar symbol
  | [symbol, next] => String.utf8EncodeChar symbol ++ decodeBytes [next]
  | symbol :: high :: low :: rest =>
      match if symbol = '%' then escapedByte? high low else none with
      | some byte => byte :: decodeBytes rest
      | none => String.utf8EncodeChar symbol ++ decodeBytes (high :: low :: rest)

/-- The decoded text, unless the decoded bytes are not UTF-8. -/
def decode? (text : List Char) : Option (List Char) :=
  (String.fromUTF8? (decodeBytes text).toByteArray).map String.toList

end SourceTree.Text.Percent
