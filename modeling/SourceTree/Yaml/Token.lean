import SourceTree.Text.Percent
import SourceTree.Yaml.Cursor

/-!
# Tokens of YAML

Besides the tokens themselves this module reads those that consist of names: directives, tags and
anchors.
-/

namespace SourceTree.Yaml

/-- How a scalar is written. Only plain ones can stand for a missing value. -/
inductive Style where
  | plain
  | quoted
  | block
  deriving DecidableEq, Repr

/-- The units of a YAML text. Where a block collection or a key starts, and where a block
collection ends, is not written, but shows by indentation and by the colon behind a key. -/
inductive Token where
  | version (major minor : Nat)
  /-- Texts that start with `handle` in tags are short for `expansion`. -/
  | shorthand (handle expansion : String)
  | documentStart
  | documentEnd
  | blockSequenceStart
  | blockMappingStart
  | blockEnd
  | flowSequenceStart
  | flowSequenceEnd
  | flowMappingStart
  | flowMappingEnd
  | blockEntry
  | flowEntry
  | key
  | value
  | alias (name : String)
  | anchor (name : String)
  | tag (handle suffix : String)
  | scalar (style : Style) (text : String)
  deriving DecidableEq, Repr

/-- The name of an anchor or an alias, behind its mark. -/
def readName (cursor : Cursor) : Option (String × Cursor) :=
  let (name, cursor) := cursor.takeWhile isWord
  let isClosed := isOpen cursor.rest || cursor.rest.head?.any ("?:,]\x7d%@`".toList.contains ·)
  if name.isEmpty || !isClosed then none else some (String.ofList name, cursor)

/-- Whether a character may stand in a tag. Brackets and commas may only between angle brackets. -/
def isTagCharacter (isVerbatim : Bool) (symbol : Char) : Bool :=
  isWord symbol || ";/?:@&=+$.!~*'()".toList.contains symbol ||
    (isVerbatim && ",[]".toList.contains symbol)

/-- The byte that a percent escape stands for. -/
def percentByte? : List Char → Option UInt8
  | '%' :: high :: low :: _ => Text.Percent.escapedByte? high low
  | _ => none

/-- Number of bytes in a character that starts with `lead`. -/
def charWidth? (lead : UInt8) : Option Nat :=
  if lead &&& 0x80 = 0 then some 1
  else if lead &&& 0xE0 = 0xC0 then some 2
  else if lead &&& 0xF0 = 0xE0 then some 3
  else if lead &&& 0xF8 = 0xF0 then some 4
  else none

/-- The percent escapes of one character, as bytes. -/
def readEscapes (cursor : Cursor) : Option (List UInt8 × Cursor) := do
  let lead ← percentByte? cursor.rest
  let width ← charWidth? lead
  let tail ← (List.range (width - 1)).mapM fun position => do
    let byte ← percentByte? (cursor.rest.drop (3 * (position + 1)))
    if byte &&& 0xC0 = 0x80 then some byte else none
  return (lead :: tail, cursor.skip (3 * width))

/-- The characters of a tag from here on, as bytes. -/
def readTagBytes (isVerbatim : Bool) : Nat → List UInt8 → Cursor → Option (List UInt8 × Cursor)
  | 0, bytes, cursor => some (bytes, cursor)
  | fuel + 1, bytes, cursor =>
      match cursor.rest with
      | [] => some (bytes, cursor)
      | symbol :: _ =>
          if symbol = '%' then
            match readEscapes cursor with
            | none => none
            | some (escaped, cursor) => readTagBytes isVerbatim fuel (bytes ++ escaped) cursor
          else if isTagCharacter isVerbatim symbol then
            readTagBytes isVerbatim fuel (bytes ++ [symbol.toNat.toUInt8]) (cursor.skip 1)
          else some (bytes, cursor)

/-- The text of a tag from here on, behind what was read of it before. -/
def readTagText (isVerbatim : Bool) (before : List Char) (cursor : Cursor) :
    Option (String × Cursor) := do
  let (bytes, cursor) ← readTagBytes isVerbatim (cursor.rest.length + 1) [] cursor
  return (String.ofList before ++ Text.Utf8.decodeLossy ⟨bytes.toArray⟩, cursor)

/-- The part of a tag that counts: what stands in front of its first NUL. -/
def beforeNul (text : String) : String :=
  String.ofList (text.toList.takeWhile (· ≠ Char.ofNat 0))

/-- A tag between angle brackets, behind the opening one. -/
def readVerbatim (cursor : Cursor) : Option (Token × Cursor) := do
  let (text, cursor) ← readTagText true [] cursor
  if text.isEmpty || !startsWith '>' cursor.rest then none
  else return (.tag "" (beforeNul text), cursor.skip 1)

/-- A tag without angle brackets, behind its first `!`. A second `!` ends the handle; without one
the handle is `!` alone. -/
def readShort (cursor : Cursor) : Option (Token × Cursor) := do
  let (name, after) := cursor.takeWhile isWord
  if startsWith '!' after.rest then
    let (suffix, cursor) ← readTagText false [] (after.skip 1)
    if suffix.isEmpty then none
    else return (.tag ("!" ++ String.ofList name ++ "!") (beforeNul suffix), cursor)
  else
    let (text, cursor) ← readTagText false name after
    let suffix := beforeNul text
    return (if suffix.isEmpty then .tag "" "!" else .tag "!" suffix, cursor)

/-- A tag, behind its mark. -/
def readTag (inFlow : Bool) (cursor : Cursor) : Option (Token × Cursor) := do
  let (token, cursor) ←
    if startsWith '<' cursor.rest then readVerbatim (cursor.skip 1) else readShort cursor
  if isOpen cursor.rest || (inFlow && startsWith ',' cursor.rest) then return (token, cursor)
  else none

/-- A number of at most nine digits. -/
def readNumber (cursor : Cursor) : Option (Nat × Cursor) :=
  let (digits, cursor) := cursor.takeWhile Char.isDigit
  if digits.isEmpty || 9 < digits.length then none
  else some (digits.foldl (fun number digit => number * 10 + (digit.toNat - '0'.toNat)) 0, cursor)

/-- The value of a version directive. -/
def readVersion (cursor : Cursor) : Option (Token × Cursor) := do
  let (major, cursor) ← readNumber (cursor.skipWhile isSpace)
  if !startsWith '.' cursor.rest then none
  else
    let (minor, cursor) ← readNumber (cursor.skip 1)
    return (.version major minor, cursor)

/-- The handle of a shorthand: `!`, or a word between two of them. -/
def readHandle (cursor : Cursor) : Option (String × Cursor) :=
  if !startsWith '!' cursor.rest then none
  else
    let (name, cursor) := (cursor.skip 1).takeWhile isWord
    if startsWith '!' cursor.rest then some ("!" ++ String.ofList name ++ "!", cursor.skip 1)
    else if name.isEmpty then some ("!", cursor)
    else none

/-- The value of a shorthand directive. -/
def readShorthand (cursor : Cursor) : Option (Token × Cursor) := do
  let (handle, cursor) ← readHandle (cursor.skipWhile isSpace)
  if !cursor.rest.head?.any isSpace then none
  else
    let (expansion, cursor) ← readTagText true [] (cursor.skipWhile isSpace)
    if expansion.isEmpty || !isOpen cursor.rest then none
    else return (.shorthand handle (beforeNul expansion), cursor)

/-- A directive, behind its mark, and the cursor at the next line. -/
def readDirective (cursor : Cursor) : Option (Token × Cursor) := do
  let (name, cursor) := cursor.takeWhile isWord
  if !isOpen cursor.rest then none
  else
    let (token, cursor) ←
      if name = "YAML".toList then readVersion cursor
      else if name = "TAG".toList then readShorthand cursor
      else none
    return (token, ← cursor.endLine?)

end SourceTree.Yaml
