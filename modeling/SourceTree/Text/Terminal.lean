/-!
# Text without the control sequences of terminals

Text can hold sequences that steer a terminal. Where it is shown without them, control characters
other than blanks are dropped, and so is every sequence: an escape character and what belongs to it.
Commands end with a letter or a similar mark, and a blank ends them as well. Strings end only with
another escape character or where they are cancelled, titles also with a bell.
-/

namespace SourceTree.Text.Terminal

/-- Where a character stands. -/
inductive Place where
  /-- Outside all sequences. -/
  | plain
  /-- Behind an escape character. -/
  | escape
  /-- Behind an escape character and marks that it takes along. -/
  | marked
  /-- Within a command. -/
  | command
  /-- Within a string. -/
  | string
  /-- Within the title of a window, or another string that a bell can end. -/
  | title
  deriving DecidableEq, Repr

/-- Whether a character is shown outside sequences. -/
def isShown (symbol : Char) : Bool :=
  (0x20 ≤ symbol.toNat && symbol.toNat ≠ 0x7F) || "\t\n\r\x0c".toList.contains symbol

/-- Where the character behind an escape character leads. -/
def afterEscape (symbol : Char) : Place :=
  if symbol = '[' then .command
  else if symbol = ']' then .title
  else if "PX^_".toList.contains symbol then .string
  else if symbol.toNat < 0x20 || symbol = '\x7f' then .escape
  else if symbol.toNat < 0x30 then .marked
  else .plain

/-- Where the next character stands, and whether this one is shown. -/
def step (place : Place) (symbol : Char) : Place × Bool :=
  if symbol = '\x1b' then (.escape, false)
  else if symbol = '\x18' || symbol = '\x1a' then (.plain, false)
  else
    match place with
    | .plain => (.plain, isShown symbol)
    | .string => (.string, false)
    | .title => (if symbol = '\x07' then .plain else .title, false)
    | place =>
        if isShown symbol && (symbol.toNat < 0x20 || 0x80 ≤ symbol.toNat) then (.plain, true)
        else
          match place with
          | .escape => (afterEscape symbol, false)
          | .marked => (if '0' ≤ symbol && symbol ≠ '\x7f' then .plain else .marked, false)
          | place => (if '@' ≤ symbol && symbol ≠ '\x7f' then .plain else place, false)

/-- The characters that are shown of a text. -/
def stripFrom : (place : Place) → List Char → List Char
  | _, [] => []
  | place, symbol :: rest =>
      match step place symbol with
      | (place, true) => symbol :: stripFrom place rest
      | (place, false) => stripFrom place rest

/-- A text without control sequences. -/
def strip (text : String) : String :=
  String.ofList (stripFrom .plain text.toList)

end SourceTree.Text.Terminal
