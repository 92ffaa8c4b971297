/-!
# Hexadecimal digits

Escapes of several formats give characters and bytes by hexadecimal numbers. They are read in either
case and written in lower case.
-/

namespace SourceTree.Text

/-- The value of a hexadecimal digit. -/
def hexDigit? (digit : Char) : Option Nat :=
  if '0' ≤ digit && digit ≤ '9' then some (digit.toNat - '0'.toNat)
  else if 'a' ≤ digit && digit ≤ 'f' then some (digit.toNat - 'a'.toNat + 10)
  else if 'A' ≤ digit && digit ≤ 'F' then some (digit.toNat - 'A'.toNat + 10)
  else none

/-- The hexadecimal digits of a number. -/
def hexDigits (number : Nat) : String :=
  String.ofList (Nat.toDigits 16 number)

end SourceTree.Text
