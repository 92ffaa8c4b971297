import SourceTree.Yaml.Scalar
import SourceTree.Yaml.Token

/-!
# From text to tokens

Outside brackets, indentation opens and closes collections. A key of a mapping needs no mark of its
own: whatever stands in front of a colon is one, provided that it ends on its line and is not too
long. So the scanner remembers where the last possible key started, on every level of brackets, and
puts the token for it in place once the colon is seen.
-/

namespace SourceTree.Yaml

/-- A place where a key may have started. -/
structure KeyStart where
  /-- Number of tokens in front of it. -/
  position : Nat
  /-- Where it stands in the text. -/
  index : Nat
  line : Nat
  column : Nat
  /-- Whether nothing but a key can stand there. -/
  isRequired : Bool

/-- A key can have this many bytes. -/
def keyLimit : Nat := 1024

/-- A scanner between two tokens. -/
structure Scanner where
  cursor : Cursor
  tokens : Array Token := #[]
  /-- The columns of the open block collections, innermost first. -/
  indents : List Nat := []
  /-- Whether a key may start here. -/
  allowsKey : Bool := true
  /-- Where a key may have started outside all brackets or in the innermost ones. -/
  keyStart : Option KeyStart := none
  /-- The same for each pair of brackets around, and outside of all. -/
  outer : List (Option KeyStart) := []

namespace Scanner

/-- Whether the scanner is between brackets. -/
def inFlow (scanner : Scanner) : Bool :=
  !scanner.outer.isEmpty

/-- The column right of that of the innermost block collection. -/
def floor (scanner : Scanner) : Nat :=
  match scanner.indents with
  | [] => 0
  | column :: _ => column + 1

/-- Adds a token. -/
def emit (scanner : Scanner) (token : Token) : Scanner :=
  { scanner with tokens := scanner.tokens.push token }

/-- Adds a token and passes its characters. -/
def emitMark (scanner : Scanner) (token : Token) (width : Nat) : Scanner :=
  { scanner with tokens := scanner.tokens.push token, cursor := scanner.cursor.skip width }

/-- Closes the block collections whose column is `bound` or further right. -/
def closeFrom (scanner : Scanner) (bound : Nat) : Scanner :=
  if scanner.inFlow then scanner
  else
    let closed := scanner.indents.takeWhile (bound ≤ ·)
    { scanner with
      tokens := closed.foldl (fun tokens _ => tokens.push .blockEnd) scanner.tokens
      indents := scanner.indents.drop closed.length }

/-- Opens a block collection at a column, unless it is open already. Its token stands in front of
the token at `position`. -/
def openAt (scanner : Scanner) (column position : Nat) (token : Token) : Scanner :=
  if scanner.inFlow || column < scanner.floor then scanner
  else
    { scanner with
      indents := column :: scanner.indents
      tokens := scanner.tokens.insertIdxIfInBounds position token }

/-- Opens a block collection here, for a mark that may only stand where a key may. -/
def openHere? (scanner : Scanner) (token : Token) : Option Scanner :=
  if scanner.inFlow then some scanner
  else if scanner.allowsKey then
    some (scanner.openAt scanner.cursor.column scanner.tokens.size token)
  else none

/-- Gives up on the possible key, which must not be a required one. -/
def dropKey? (scanner : Scanner) : Option Scanner :=
  if scanner.keyStart.any (·.isRequired) then none else some { scanner with keyStart := none }

/-- Whether a possible key has ended with its line or is too long. -/
def isStale (cursor : Cursor) (start : KeyStart) : Bool :=
  start.line < cursor.line || start.index + keyLimit < cursor.index

/-- Gives up on the possible keys that cannot be completed any more. -/
def dropStaleKeys? (scanner : Scanner) : Option Scanner :=
  let stale := isStale scanner.cursor
  let keys := scanner.keyStart :: scanner.outer
  if keys.any fun key => key.any fun start => start.isRequired && stale start then none
  else
    some { scanner with
      keyStart := scanner.keyStart.filter (!stale ·)
      outer := scanner.outer.map (·.filter (!stale ·)) }

/-- Remembers that a key may start here. -/
def saveKey? (scanner : Scanner) : Option Scanner :=
  if scanner.allowsKey then
    scanner.dropKey?.map fun scanner =>
      { scanner with keyStart := some {
          position := scanner.tokens.size
          index := scanner.cursor.index
          line := scanner.cursor.line
          column := scanner.cursor.column
          isRequired := !scanner.inFlow && scanner.floor = scanner.cursor.column + 1 } }
  else some scanner

/-- Says whether a key may start behind the next token. -/
def allowKey (scanner : Scanner) (allowsKey : Bool) : Scanner :=
  { scanner with allowsKey }

/-- Passes spaces, comments and line breaks. Outside brackets a key may start on a new line; a tab
cannot stand where a key may start. -/
def skipToToken : Nat → Scanner → Scanner
  | 0, scanner => scanner
  | fuel + 1, scanner =>
      let cursor := scanner.cursor
      let cursor :=
        if cursor.column = 0 && startsWith '\ufeff' cursor.rest then cursor.skip 1 else cursor
      let passesTab := scanner.inFlow || !scanner.allowsKey
      let cursor := cursor.skipWhile fun symbol => symbol = ' ' || (passesTab && symbol = '\t')
      let cursor := if startsWith '#' cursor.rest then cursor.skipWhile (!isBreak ·) else cursor
      if cursor.rest.head?.any isBreak then
        skipToToken fuel { scanner with
          cursor := cursor.takeBreak.2
          allowsKey := scanner.allowsKey || !scanner.inFlow }
      else { scanner with cursor }

/-- Ends the collections and the possible key in front of a document mark or a directive. -/
def endContent? (scanner : Scanner) : Option Scanner :=
  ((scanner.closeFrom 0).dropKey?).map (·.allowKey false)

/-- An opening bracket. -/
def openBracket? (scanner : Scanner) (token : Token) : Option Scanner :=
  scanner.saveKey?.map fun scanner =>
    { (scanner.emitMark token 1).allowKey true with
      keyStart := none
      outer := scanner.keyStart :: scanner.outer }

/-- A closing bracket. -/
def closeBracket? (scanner : Scanner) (token : Token) : Option Scanner :=
  scanner.dropKey?.map fun scanner =>
    let scanner := (scanner.emitMark token 1).allowKey false
    match scanner.outer with
    | [] => scanner
    | keyStart :: outer => { scanner with keyStart, outer }

/-- A comma between brackets. -/
def flowEntry? (scanner : Scanner) : Option Scanner :=
  scanner.dropKey?.map fun scanner => (scanner.emitMark .flowEntry 1).allowKey true

/-- A dash in front of an entry. -/
def blockEntry? (scanner : Scanner) : Option Scanner := do
  let scanner ← scanner.openHere? .blockSequenceStart
  let scanner ← scanner.dropKey?
  return (scanner.emitMark .blockEntry 1).allowKey true

/-- A question mark in front of a key. -/
def key? (scanner : Scanner) : Option Scanner := do
  let scanner ← scanner.openHere? .blockMappingStart
  let scanner ← scanner.dropKey?
  return (scanner.emitMark .key 1).allowKey (!scanner.inFlow)

/-- A colon in front of a value. -/
def value? (scanner : Scanner) : Option Scanner := do
  match scanner.keyStart with
  | some start =>
      let tokens := scanner.tokens.insertIdxIfInBounds start.position .key
      let scanner := { scanner with tokens, keyStart := none }
      let scanner := scanner.openAt start.column start.position .blockMappingStart
      return (scanner.emitMark .value 1).allowKey false
  | none =>
      let scanner ← scanner.openHere? .blockMappingStart
      return (scanner.emitMark .value 1).allowKey (!scanner.inFlow)

/-- A token that may start a key and consists of more than a mark. -/
def content? (scanner : Scanner) (read : Cursor → Option (Token × Cursor)) : Option Scanner := do
  let scanner ← scanner.saveKey?
  let (token, cursor) ← read scanner.cursor
  return { scanner.emit token with cursor, allowsKey := false }

/-- A block scalar. -/
def block? (scanner : Scanner) (isLiteral : Bool) : Option Scanner := do
  let scanner ← scanner.dropKey?
  let (text, cursor) ← readBlock isLiteral scanner.floor (scanner.cursor.skip 1)
  return { scanner.emit (.scalar .block text) with cursor, allowsKey := true }

/-- A plain scalar. When its line has ended, a key may start behind it. -/
def plain? (scanner : Scanner) : Option Scanner := do
  let scanner ← scanner.saveKey?
  let count := scanner.cursor.rest.length + 1
  let (text, gap, cursor) ← readPlain scanner.inFlow scanner.floor count "" {} scanner.cursor
  return { scanner.emit (.scalar .plain text) with cursor, allowsKey := gap.isBroken }

/-- A scalar in quotes, as a token. -/
def readQuotedToken (mark : Char) (cursor : Cursor) : Option (Token × Cursor) := do
  let (text, cursor) ← readQuoted mark (cursor.rest.length + 1) "" (cursor.skip 1)
  return (.scalar .quoted text, cursor)

/-- Whether a plain scalar can start with `symbol` in front of `rest`. -/
def startsPlain (inFlow : Bool) (symbol : Char) (rest : List Char) : Bool :=
  if symbol = '-' then true
  else if symbol = '?' || symbol = ':' then !inFlow && !isOpen rest
  else !isSpace symbol && !isBreak symbol && !",[]\x7b\x7d#&*!|>'\"%@`".toList.contains symbol

/-- Reads the token that starts with `symbol` in front of `rest`. -/
def token? (scanner : Scanner) (symbol : Char) (rest : List Char) : Option Scanner :=
  let cursor := scanner.cursor
  if cursor.column = 0 && symbol = '%' then do
    let scanner ← scanner.endContent?
    let (token, cursor) ← readDirective (scanner.cursor.skip 1)
    return { scanner.emit token with cursor }
  else if cursor.isMark '-' then scanner.endContent?.map (·.emitMark .documentStart 3)
  else if cursor.isMark '.' then scanner.endContent?.map (·.emitMark .documentEnd 3)
  else if symbol = '[' then scanner.openBracket? .flowSequenceStart
  else if symbol = '\x7b' then scanner.openBracket? .flowMappingStart
  else if symbol = ']' then scanner.closeBracket? .flowSequenceEnd
  else if symbol = '\x7d' then scanner.closeBracket? .flowMappingEnd
  else if symbol = ',' then scanner.flowEntry?
  else if symbol = '-' && isOpen rest then scanner.blockEntry?
  else if symbol = '?' && (scanner.inFlow || isOpen rest) then scanner.key?
  else if symbol = ':' && (scanner.inFlow || isOpen rest) then scanner.value?
  else if symbol = '*' then
    scanner.content? fun cursor =>
      (readName (cursor.skip 1)).map fun (name, cursor) => (.alias name, cursor)
  else if symbol = '&' then
    scanner.content? fun cursor =>
      (readName (cursor.skip 1)).map fun (name, cursor) => (.anchor name, cursor)
  else if symbol = '!' then
    scanner.content? fun cursor => readTag scanner.inFlow (cursor.skip 1)
  else if symbol = '|' && !scanner.inFlow then scanner.block? true
  else if symbol = '>' && !scanner.inFlow then scanner.block? false
  else if symbol = '\'' || symbol = '"' then scanner.content? (readQuotedToken symbol)
  else if startsPlain scanner.inFlow symbol rest then scanner.plain?
  else none

/-- Ends the text. -/
def finish? (scanner : Scanner) : Option (List Token) :=
  (scanner.closeFrom 0).dropKey?.map (·.tokens.toList)

/-- Reads tokens to the end of the text. Each takes one character at least, so the number of
characters bounds their number. -/
def run : Nat → Scanner → Option (List Token)
  | 0, _ => none
  | fuel + 1, scanner => do
      let scanner ← (skipToToken (scanner.cursor.rest.length + 1) scanner).dropStaleKeys?
      match scanner.cursor.rest with
      | [] => scanner.finish?
      | symbol :: rest =>
          let scanner ← (scanner.closeFrom (scanner.cursor.column + 1)).token? symbol rest
          run fuel scanner

end Scanner

/-- The tokens of a text, if it has the form of YAML. -/
def tokens? (text : String) : Option (List Token) :=
  if text.toList.all isAllowed then
    let cursor : Cursor := { rest := text.toList }
    Scanner.run (cursor.rest.length + 1) { cursor }
  else none

end SourceTree.Yaml
