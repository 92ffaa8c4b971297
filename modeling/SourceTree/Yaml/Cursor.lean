import SourceTree.Text.Extent

/-!
# Reading positions in YAML

Indentation decides about the structure of a YAML text, so a reader has to know its column, and
its line and index as well, because a key of a mapping must end on its line and soon. A cursor
carries the text that is left together with these three numbers. Columns count characters, the
index counts bytes.
-/

namespace SourceTree.Yaml

/-- Whether a character may stand in a YAML text at all. -/
def isAllowed (symbol : Char) : Bool :=
  let code := symbol.toNat
  code == 0x09 || code == 0x0A || code == 0x0D || (0x20 ≤ code && code ≤ 0x7E) ||
    code == 0x85 || (0xA0 ≤ code && code ≤ 0xFFFD) || 0x10000 ≤ code

/-- Whether a character is a space or a tab. -/
def isSpace (symbol : Char) : Bool :=
  symbol = ' ' || symbol = '\t'

/-- Whether a character ends a line. -/
def isBreak (symbol : Char) : Bool :=
  symbol = '\n' || symbol = '\r' || symbol = '\u0085' || symbol = '\u2028' || symbol = '\u2029'

/-- Whether a character may stand in the name of an anchor, a handle or a directive. -/
def isWord (symbol : Char) : Bool :=
  symbol.isAlphanum || symbol = '_' || symbol = '-'

/-- Whether a text starts with a space, a tab or the end of a line or of the whole text. -/
def isOpen : List Char → Bool
  | [] => true
  | symbol :: _ => isSpace symbol || isBreak symbol

/-- Whether a text starts with the end of a line or of the whole text. -/
def isLineEnd : List Char → Bool
  | [] => true
  | symbol :: _ => isBreak symbol

/-- Whether a text starts with `symbol`. -/
def startsWith (symbol : Char) : List Char → Bool
  | [] => false
  | first :: _ => first = symbol

/-- The text that is left, and where it stands. -/
structure Cursor where
  rest : List Char
  /-- Number of bytes in front of it. -/
  index : Nat := 0
  line : Nat := 0
  column : Nat := 0

namespace Cursor

/-- The cursor behind `count` characters of the line. -/
def skip (cursor : Cursor) (count : Nat) : Cursor where
  rest := cursor.rest.drop count
  index := cursor.index + Text.byteLength (cursor.rest.take count)
  line := cursor.line
  column := cursor.column + count

/-- The characters of the line that are as wanted, and the cursor behind them. -/
def takeWhile (cursor : Cursor) (wanted : Char → Bool) : List Char × Cursor :=
  let taken := cursor.rest.takeWhile wanted
  (taken, cursor.skip taken.length)

/-- The cursor behind the characters of the line that are as wanted. -/
def skipWhile (cursor : Cursor) (wanted : Char → Bool) : Cursor :=
  (cursor.takeWhile wanted).2

/-- The cursor at the start of the next line, behind a line break of `width` bytes. -/
def nextLine (cursor : Cursor) (rest : List Char) (width : Nat) : Cursor where
  rest
  index := cursor.index + width
  line := cursor.line + 1
  column := 0

/-- The text of the line break here and the cursor behind it; nothing if there is none. Every
break is a newline, only the two separators of Unicode stand for themselves. -/
def takeBreak (cursor : Cursor) : String × Cursor :=
  match cursor.rest with
  | '\r' :: '\n' :: rest => ("\n", cursor.nextLine rest 2)
  | symbol :: rest =>
      if symbol = '\u2028' || symbol = '\u2029' then
        (String.singleton symbol, cursor.nextLine rest symbol.utf8Size)
      else if isBreak symbol then ("\n", cursor.nextLine rest symbol.utf8Size)
      else ("", cursor)
  | [] => ("", cursor)

/-- The cursor behind spaces and a comment at the end of a line, and behind the line itself. -/
def endLine? (cursor : Cursor) : Option Cursor :=
  let cursor := cursor.skipWhile isSpace
  let cursor := if startsWith '#' cursor.rest then cursor.skipWhile (!isBreak ·) else cursor
  if isLineEnd cursor.rest then some cursor.takeBreak.2 else none

/-- Whether the line starts here with `symbol` written three times and a space behind it. -/
def isMark (cursor : Cursor) (symbol : Char) : Bool :=
  match cursor.rest with
  | first :: second :: third :: rest =>
      cursor.column == 0 && first == symbol && second == symbol && third == symbol && isOpen rest
  | _ => false

/-- Whether a document starts or ends here with a mark. -/
def isDocumentMark (cursor : Cursor) : Bool :=
  cursor.isMark '-' || cursor.isMark '.'

end Cursor

end SourceTree.Yaml
