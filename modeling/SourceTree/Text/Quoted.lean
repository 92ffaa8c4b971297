import SourceTree.Text.Hex
import SourceTree.Text.Printable

/-!
# Quoted text

Messages quote text that came from a file so that it stays on one line and can be told apart from
the message around it: in double quotes, with a backslash before quotes and backslashes, short
escapes for the common control characters, and the number of any other character that is not
shown as itself.
-/

namespace SourceTree.Text

/-- A character as it stands within quotes. -/
def quoteCharacter (symbol : Char) : String :=
  match symbol with
  | '\x00' => "\\0"
  | '\t' => "\\t"
  | '\r' => "\\r"
  | '\n' => "\\n"
  | '\\' => "\\\\"
  | '"' => "\\\""
  | symbol =>
      if isPrintable symbol then symbol.toString
      else "\\u\x7b" ++ hexDigits symbol.toNat ++ "\x7d"

/-- A text in double quotes. -/
def quote (text : String) : String :=
  "\"" ++ text.foldl (fun quoted symbol => quoted ++ quoteCharacter symbol) "" ++ "\""

end SourceTree.Text
