import SourceTree.Text.Hex
import SourceTree.Yaml.Cursor

/-!
# Scalars of YAML

A scalar can be written plainly, in quotes of two kinds, or as an indented block of lines. Except
in literal blocks, line breaks within a scalar are folded: a single one reads as a space, and of
several the first is dropped.

The loops take the number of characters left as fuel, since each round consumes one at least.
-/

namespace SourceTree.Yaml

/-- Spaces and line breaks between two words of a scalar. -/
structure Gap where
  /-- The spaces, which count as long as no line break follows. -/
  spaces : String := ""
  /-- Whether the line has ended. -/
  isBroken : Bool := false
  /-- The first line break. -/
  first : String := ""
  /-- The line breaks after the first. -/
  more : String := ""

/-- The text that a gap stands for. -/
def Gap.fold (gap : Gap) : String :=
  if !gap.isBroken then gap.spaces
  else if gap.first = "\n" then
    if gap.more.isEmpty then " " else gap.more
  else gap.first ++ gap.more

/-- Extends a gap by the spaces and line breaks here. A tab at the start of a line must not stand
left of the column `floor`. -/
def readGap (floor : Nat) : Nat → Gap → Cursor → Option (Gap × Cursor)
  | 0, gap, cursor => some (gap, cursor)
  | fuel + 1, gap, cursor =>
      match cursor.rest with
      | [] => some (gap, cursor)
      | symbol :: _ =>
          if isSpace symbol then
            if !gap.isBroken then
              readGap floor fuel { gap with spaces := gap.spaces.push symbol } (cursor.skip 1)
            else if symbol = '\t' && cursor.column < floor then none
            else readGap floor fuel gap (cursor.skip 1)
          else if isBreak symbol then
            let (text, cursor) := cursor.takeBreak
            if gap.isBroken then
              readGap floor fuel { gap with more := gap.more ++ text } cursor
            else
              readGap floor fuel { gap with isBroken := true, first := text } cursor
          else some (gap, cursor)

/-- The characters that separate entries between brackets. -/
def isFlowIndicator (symbol : Char) : Bool :=
  ",[]\x7b\x7d".toList.contains symbol

/-- The part of a plain scalar up to the next space or indicator. Between brackets a colon must
not be directly in front of an indicator. -/
def plainWord (inFlow : Bool) : List Char → Option (List Char)
  | [] => some []
  | symbol :: rest =>
      if isSpace symbol || isBreak symbol then some []
      else if inFlow && symbol = ':' &&
          rest.head?.any (fun next => isFlowIndicator next || next = '?') then none
      else if symbol = ':' && isOpen rest then some []
      else if inFlow && isFlowIndicator symbol then some []
      else (plainWord inFlow rest).map (symbol :: ·)

/-- A plain scalar, with the gap in front of what remains, and the cursor behind both. Outside
brackets the scalar ends before a line that starts left of the column `floor`. -/
def readPlain (inFlow : Bool) (floor : Nat) : Nat → String → Gap → Cursor →
    Option (String × Gap × Cursor)
  | 0, text, gap, cursor => some (text, gap, cursor)
  | fuel + 1, text, gap, cursor =>
      if cursor.isDocumentMark || startsWith '#' cursor.rest then some (text, gap, cursor)
      else
        match plainWord inFlow cursor.rest with
        | none => none
        | some word =>
            let text := if word.isEmpty then text else text ++ gap.fold ++ String.ofList word
            let gap := if word.isEmpty then gap else {}
            let cursor := cursor.skip word.length
            if cursor.rest.isEmpty || !isOpen cursor.rest then some (text, gap, cursor)
            else
              match readGap floor (cursor.rest.length + 1) gap cursor with
              | none => none
              | some (gap, cursor) =>
                  if !inFlow && cursor.column < floor then some (text, gap, cursor)
                  else readPlain inFlow floor fuel text gap cursor

/-- The character with the number that `count` hexadecimal digits write. -/
def hexEscape? (count : Nat) (rest : List Char) : Option (Char × Nat) := do
  let digits ← (rest.take count).mapM Text.hexDigit?
  let number := digits.foldl (fun number digit => number * 16 + digit) 0
  if digits.length = count && number.isValidChar then
    return (Char.ofNat number, count + 1)
  else none

/-- The character that an escape stands for, and the number of characters it has behind the
backslash. -/
def escape? : List Char → Option (Char × Nat)
  | '0' :: _ => some (Char.ofNat 0, 1)
  | 'a' :: _ => some ('\x07', 1)
  | 'b' :: _ => some ('\x08', 1)
  | 't' :: _ => some ('\t', 1)
  | '\t' :: _ => some ('\t', 1)
  | 'n' :: _ => some ('\n', 1)
  | 'v' :: _ => some ('\x0b', 1)
  | 'f' :: _ => some ('\x0c', 1)
  | 'r' :: _ => some ('\r', 1)
  | 'e' :: _ => some ('\x1b', 1)
  | ' ' :: _ => some (' ', 1)
  | '"' :: _ => some ('"', 1)
  | '/' :: _ => some ('/', 1)
  | '\\' :: _ => some ('\\', 1)
  | 'N' :: _ => some ('\u0085', 1)
  | '_' :: _ => some ('\u00a0', 1)
  | 'L' :: _ => some ('\u2028', 1)
  | 'P' :: _ => some ('\u2029', 1)
  | 'x' :: rest => hexEscape? 2 rest
  | 'u' :: rest => hexEscape? 4 rest
  | 'U' :: rest => hexEscape? 8 rest
  | _ => none

/-- The part of a scalar in single quotes up to the next space or the closing quote. -/
def singleWord : Nat → String → Cursor → String × Cursor
  | 0, text, cursor => (text, cursor)
  | fuel + 1, text, cursor =>
      match cursor.rest with
      | '\'' :: '\'' :: _ => singleWord fuel (text.push '\'') (cursor.skip 2)
      | symbol :: _ =>
          if symbol = '\'' || isSpace symbol || isBreak symbol then (text, cursor)
          else singleWord fuel (text.push symbol) (cursor.skip 1)
      | [] => (text, cursor)

/-- The part of a scalar in double quotes up to the next space or the closing quote, and whether
it ends with an escaped line break, which is passed. -/
def doubleWord : Nat → String → Cursor → Option (String × Bool × Cursor)
  | 0, text, cursor => some (text, false, cursor)
  | fuel + 1, text, cursor =>
      match cursor.rest with
      | '\\' :: rest =>
          if rest.head?.any isBreak then some (text, true, (cursor.skip 1).takeBreak.2)
          else
            match escape? rest with
            | none => none
            | some (symbol, width) => doubleWord fuel (text.push symbol) (cursor.skip (width + 1))
      | symbol :: _ =>
          if symbol = '"' || isSpace symbol || isBreak symbol then some (text, false, cursor)
          else doubleWord fuel (text.push symbol) (cursor.skip 1)
      | [] => some (text, false, cursor)

/-- The rest of a scalar in quotes, and the cursor behind the closing one. -/
def readQuoted (mark : Char) : Nat → String → Cursor → Option (String × Cursor)
  | 0, _, _ => none
  | fuel + 1, text, cursor =>
      if cursor.isDocumentMark || cursor.rest.isEmpty then none
      else
        let count := cursor.rest.length + 1
        let word := if mark = '\'' then
            let (text, cursor) := singleWord count text cursor
            some (text, false, cursor)
          else doubleWord count text cursor
        match word with
        | none => none
        | some (text, isBroken, cursor) =>
            if startsWith mark cursor.rest then some (text, cursor.skip 1)
            else
              match readGap 0 count { isBroken } cursor with
              | none => none
              | some (gap, cursor) => readQuoted mark fuel (text ++ gap.fold) cursor

/-- What becomes of the line breaks at the end of a block. -/
inductive Chomping where
  /-- All are dropped. -/
  | strip
  /-- One is kept. -/
  | clip
  /-- All are kept. -/
  | keep
  deriving DecidableEq, Repr

/-- A sign that says what becomes of the line breaks at the end of a block. -/
def chomping? : List Char → Option Chomping
  | '+' :: _ => some .keep
  | '-' :: _ => some .strip
  | _ => none

/-- The digit here, which must not be zero if there is one. -/
def indentDigit? (cursor : Cursor) : Option (Nat × Cursor) :=
  match cursor.rest with
  | symbol :: _ =>
      if symbol = '0' then none
      else if symbol.isDigit then some (symbol.toNat - '0'.toNat, cursor.skip 1)
      else some (0, cursor)
  | [] => some (0, cursor)

/-- The header of a block: a sign and a digit, in either order, and nothing else. A missing digit
reads as zero. -/
def blockHeader? (cursor : Cursor) : Option (Chomping × Nat × Cursor) := do
  match chomping? cursor.rest with
  | some chomping =>
      let (digit, cursor) ← indentDigit? (cursor.skip 1)
      return (chomping, digit, ← cursor.endLine?)
  | none =>
      let (digit, cursor) ← indentDigit? cursor
      match (if digit = 0 then none else chomping? cursor.rest) with
      | some chomping => return (chomping, digit, ← (cursor.skip 1).endLine?)
      | none => return (.clip, digit, ← cursor.endLine?)

/-- The empty lines here, the widest column that was reached in them, and the cursor behind the
indentation of the next line. An `indent` of zero is not known yet, and then all spaces count as
indentation. A tab cannot indent. -/
def readEmptyLines (indent : Nat) : Nat → Nat → String → Cursor → Option (String × Nat × Cursor)
  | 0, widest, breaks, cursor => some (breaks, widest, cursor)
  | fuel + 1, widest, breaks, cursor =>
      let spaces := (cursor.rest.takeWhile (· = ' ')).length
      let cursor := cursor.skip
        (if indent = 0 then spaces else min spaces (indent - cursor.column))
      let widest := max widest cursor.column
      if (indent = 0 || cursor.column < indent) && startsWith '\t' cursor.rest then none
      else if cursor.rest.head?.any isBreak then
        let (text, cursor) := cursor.takeBreak
        readEmptyLines indent fuel widest (breaks ++ text) cursor
      else some (breaks, widest, cursor)

/-- The lines of a block read so far, and the line breaks behind them. -/
structure Block where
  text : String := ""
  /-- The line break behind the last line. -/
  first : String := ""
  /-- The line breaks of the empty lines behind it. -/
  more : String := ""
  /-- Whether the last line starts with a space. -/
  isIndented : Bool := false

/-- The text in front of a next line. In folded blocks a single break between two lines that are
not indented further reads as a space. -/
def Block.join (block : Block) (isLiteral isIndented : Bool) : String :=
  if !isLiteral && block.first = "\n" && !block.isIndented && !isIndented then
    block.text ++ (if block.more.isEmpty then " " else block.more)
  else block.text ++ block.first ++ block.more

/-- The text of a finished block. -/
def Block.finish (block : Block) : Chomping → String
  | .strip => block.text
  | .clip => block.text ++ block.first
  | .keep => block.text ++ block.first ++ block.more

/-- The lines of a block that are indented by `indent` columns. -/
def readLines (isLiteral : Bool) (indent : Nat) : Nat → Block → Cursor → Option (Block × Cursor)
  | 0, block, cursor => some (block, cursor)
  | fuel + 1, block, cursor =>
      if cursor.column ≠ indent || cursor.rest.isEmpty then some (block, cursor)
      else
        let isIndented := cursor.rest.head?.any isSpace
        let (line, cursor) := cursor.takeWhile (!isBreak ·)
        let (first, cursor) := cursor.takeBreak
        let text := block.join isLiteral isIndented ++ String.ofList line
        match readEmptyLines indent (cursor.rest.length + 1) 0 "" cursor with
        | none => none
        | some (more, _, cursor) =>
            readLines isLiteral indent fuel { text, first, more, isIndented } cursor

/-- A block from its header on, within a structure whose entries start left of the column
`floor`. -/
def readBlock (isLiteral : Bool) (floor : Nat) (cursor : Cursor) : Option (String × Cursor) := do
  let (chomping, digit, cursor) ← blockHeader? cursor
  let given := if digit = 0 then 0 else (floor - 1) + digit
  let count := cursor.rest.length + 1
  let (more, widest, cursor) ← readEmptyLines given count 0 "" cursor
  let indent := if given = 0 then max (max widest floor) 1 else given
  let (block, cursor) ← readLines isLiteral indent count { more } cursor
  return (block.finish chomping, cursor)

end SourceTree.Yaml
