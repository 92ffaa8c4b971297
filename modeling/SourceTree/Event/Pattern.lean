import SourceTree.Text.Blank
import SourceTree.Text.Hex
import SourceTree.Text.Letter

/-!
# Patterns

A directive can ask for events with a field whose value fits a pattern. The events of this program
have no such fields, so all that matters about a pattern is whether it has the right form.

Patterns stand between braces and hence hold no closing brace, which leaves out the forms that need
one. A pattern is matched as Unicode text, unless a flag says that it is matched byte by byte: then
it must not be able to match bytes beyond ASCII other than by writing a character down. On the other
hand, the edges of words can only be asked for byte by byte.
-/

namespace SourceTree.Pattern

/-- What is left of a pattern, and what holds for it. -/
structure Reading where
  rest : List Char
  /-- The names of the groups so far. -/
  names : List (List Char) := []
  /-- Whether characters are matched, and not bytes. -/
  isUnicode : Bool := true
  /-- Whether spaces and comments do not count. -/
  isSpaced : Bool := false

/-- A step in reading a pattern. -/
abbrev Parse := StateT Reading Option

/-- The text after spaces and comments. -/
def dropSpace (inComment : Bool) : List Char → List Char
  | [] => []
  | symbol :: rest =>
      if inComment then dropSpace (symbol ≠ '\n') rest
      else if Text.isBlank symbol then dropSpace false rest
      else if symbol = '#' then dropSpace true rest
      else symbol :: rest

/-- The next character. -/
def peek : Parse (Option Char) := do
  return (← get).rest.head?

/-- Passes the next character. -/
def advance : Parse Unit :=
  modify fun reading => { reading with rest := reading.rest.tail }

/-- Passes spaces and comments, where they do not count. -/
def skipSpace : Parse Unit :=
  modify fun reading =>
    if reading.isSpaced then { reading with rest := dropSpace false reading.rest } else reading

/-- Passes the next character and the spaces behind it. -/
def advanceSpaced : Parse Unit := do
  advance
  skipSpace

/-- Passes `word` if it comes next, and says whether it does. -/
def accept (word : String) : Parse Bool := do
  match Text.afterWord? word.toList (← get).rest with
  | some rest =>
      modify ({ · with rest })
      return true
  | none => return false

/-- What a character or an escape stands for. -/
inductive Atom where
  | symbol (symbol : Char)
  /-- Any character of a set. -/
  | set
  /-- A position between characters. -/
  | position
  deriving DecidableEq, Repr

/-- The number that the next `count` hexadecimal digits write behind those of `number`. -/
def hexNumber : (count number : Nat) → Parse Nat
  | 0, number => return number
  | count + 1, number => do
      match (← peek).bind Text.hexDigit? with
      | none => failure
      | some digit =>
          advanceSpaced
          hexNumber count (number * 16 + digit)

/-- A character given by as many digits as its escape asks for. Two digits give a byte where bytes
are matched. -/
def numbered (count : Nat) : Parse Atom := do
  advanceSpaced
  let number ← hexNumber count 0
  let isByte := count = 2 && !(← get).isUnicode
  if number.isValidChar && !(isByte && 0x80 ≤ number) then return .symbol (Char.ofNat number)
  else failure

/-- The characters of a general category, given by its letter. -/
def category : Parse Atom := do
  advanceSpaced
  let isKnown := (← peek).any ("CLMNPSZclmnpsz".toList.contains ·)
  if isKnown && (← get).isUnicode then
    advanceSpaced
    return .set
  else failure

/-- What a letter stands for behind a backslash. -/
def letterEscape? (isUnicode : Bool) : Char → Option Atom
  | 'a' => some (.symbol '\x07')
  | 'f' => some (.symbol '\x0c')
  | 't' => some (.symbol '\t')
  | 'n' => some (.symbol '\n')
  | 'r' => some (.symbol '\r')
  | 'v' => some (.symbol '\x0b')
  | 'd' | 's' | 'w' => some .set
  | 'D' | 'S' | 'W' => if isUnicode then some .set else none
  | 'A' | 'z' => some .position
  | 'b' | 'B' | '<' | '>' => if isUnicode then none else some .position
  | symbol =>
      if symbol.isAlphanum || 0x80 ≤ symbol.toNat then none else some (.symbol symbol)

/-- An escape. -/
def escape : Parse Atom := do
  advance
  match ← peek with
  | none => failure
  | some 'x' => numbered 2
  | some 'u' => numbered 4
  | some 'U' => numbered 8
  | some 'p' => category
  | some 'P' => category
  | some symbol =>
      match letterEscape? (← get).isUnicode symbol with
      | none => failure
      | some atom =>
          advance
          return atom

/-- The depth of parts that stand side by side. -/
def depthOf : (depths : List Nat) → Nat
  | [] => 0
  | [depth] => depth
  | depths => depths.foldl max 0 + 1

/-- A member of a set. -/
def setAtom : Parse Atom := do
  let atom ←
    match ← peek with
    | none => failure
    | some '\\' => escape
    | some symbol => do
        advance
        pure (Atom.symbol symbol)
  let isUnicode := (← get).isUnicode
  match atom with
  | .symbol symbol => if isUnicode || symbol.toNat < 0x80 then return atom else failure
  | .set => return atom
  | .position => failure

/-- The character behind the next one. A first number sign counts as little as spaces. -/
def peekBehind : Parse (Option Char) := do
  let reading ← get
  let behind := reading.rest.tail
  if !reading.isSpaced then return behind.head?
  match behind.filter (!Text.isBlank ·) with
  | '#' :: symbol :: _ => return some symbol
  | ['#'] => return behind.head?
  | symbol :: _ => return some symbol
  | [] => return behind.head?

/-- A member of a set, or a range of members. A dash in front of another one, or at the end, makes
no range. -/
def setItem : Parse Unit := do
  let first ← setAtom
  skipSpace
  if (← peek) = some '-' then
    let behind ← peekBehind
    if behind ≠ some ']' && behind ≠ some '-' then
      advanceSpaced
      match first, ← setAtom with
      | .symbol first, .symbol last => if first ≤ last then return else failure
      | _, _ => failure

/-- The sets that have a name. -/
def setNames : List String :=
  ["alnum", "alpha", "ascii", "blank", "cntrl", "digit", "graph", "lower", "print", "punct",
    "space", "upper", "word", "xdigit"]

/-- Whether the named set that a text starts with is negated, and the text behind it. -/
def namedSet? (text : List Char) : Option (Bool × List Char) := do
  let text ← Text.afterWord? "[:".toList text
  let isNegated := text.head? = some '^'
  let (name, text) := (if isNegated then text.tail else text).span (· ≠ ':')
  let text ← Text.afterWord? ":]".toList text
  if setNames.contains (String.ofList name) then some (isNegated, text) else none

/-- Passes dashes and says how many. -/
def dashes : (fuel : Nat) → Parse Nat
  | 0 => return 0
  | fuel + 1 => do
      if (← peek) = some '-' then
        advanceSpaced
        return (← dashes fuel) + 1
      else return 0

mutual

/-- The depth of a set between brackets. A closing bracket that comes first is a member. -/
def bracket : (fuel : Nat) → Parse Nat
  | 0 => failure
  | fuel + 1 => do
      advanceSpaced
      if ← accept "^" then
        skipSpace
        if !(← get).isUnicode then failure
      let count ← dashes (← get).rest.length
      if count = 0 && (← peek) = some ']' then
        advanceSpaced
        return (← setRest fuel none [0]) + 1
      else return (← setRest fuel none (List.replicate count 0)) + 1

/-- The depth of what a set holds, which ends with a bracket. The depths of its last members and of
the operand in front of them are known. -/
def setRest : (fuel : Nat) → (operand : Option Nat) → (members : List Nat) → Parse Nat
  | 0, _, _ => failure
  | fuel + 1, operand, members => do
      skipSpace
      let reading ← get
      let depth := match operand with
        | none => depthOf members
        | some operand => max operand (depthOf members) + 1
      match reading.rest with
      | [] => failure
      | ']' :: _ =>
          advance
          return depth
      | '[' :: _ =>
          match namedSet? reading.rest with
          | some (isNegated, rest) =>
              if isNegated && !reading.isUnicode then failure
              set { reading with rest }
              setRest fuel operand (0 :: members)
          | none =>
              let member ← bracket fuel
              setRest fuel operand (member :: members)
      | symbol :: rest =>
          if "&-~".toList.contains symbol && rest.head? = some symbol then
            set { reading with rest := rest.tail }
            setRest fuel (some depth) []
          else
            setItem
            setRest fuel operand (0 :: members)

end

/-- The flags up to a colon or parenthesis. None is given twice. -/
def flags : (fuel : Nat) → (before : List Char) → Parse (List Char)
  | 0, _ => failure
  | fuel + 1, before => do
      match ← peek with
      | none => failure
      | some symbol =>
          if symbol = ':' || symbol = ')' then
            if before.getLast? = some '-' then failure else return before
          else if before.contains symbol || !"-imsuxRU".toList.contains symbol then failure
          else
            advance
            flags fuel (before ++ [symbol])

/-- Whether a flag is set, from what holds without the flags. Flags behind a dash are taken back. -/
def isSet (flags : List Char) (flag : Char) (before : Bool) : Bool :=
  let (on, off) := flags.span (· ≠ '-')
  if on.contains flag then true else if off.contains flag then false else before

/-- Lets flags hold from here on. -/
def apply (flags : List Char) : Parse Unit :=
  modify fun reading => { reading with
    isUnicode := isSet flags 'u' reading.isUnicode
    isSpaced := isSet flags 'x' reading.isSpaced }

/-- The name of a group, behind its opening angle bracket. -/
def groupName : Parse Unit := do
  let reading ← get
  match reading.rest.span (· ≠ '>') with
  | (first :: more, '>' :: rest) =>
      let isName := (first = '_' || Text.isAlphabetic first) &&
        more.all fun symbol => "_.[]".toList.contains symbol || Text.isAlphanumeric symbol
      let name := first :: more
      if isName && !reading.names.contains name then
        set { reading with rest, names := name :: reading.names }
      else failure
  | _ => failure

/-- A part of a pattern. -/
structure Part where
  depth : Nat
  /-- Whether it can be repeated. Flags cannot. -/
  isRepeatable : Bool

/-- A single character, an escape or a point. -/
def single : Parse Unit := do
  match ← peek with
  | some '\\' => discard escape
  | some '.' => if (← get).isUnicode then advance else failure
  | _ => advance

mutual

/-- The depth of alternatives, behind those whose depths are known. -/
def alternatives : (fuel : Nat) → (before : List Nat) → Parse Nat
  | 0, _ => failure
  | fuel + 1, before => do
      let depth ← parts fuel []
      if ← accept "|" then alternatives fuel (depth :: before)
      else return depthOf (depth :: before)

/-- The depth of parts in a row, with those read before, the last first. -/
def parts : (fuel : Nat) → (before : List Part) → Parse Nat
  | 0, _ => failure
  | fuel + 1, before => do
      skipSpace
      match ← peek with
      | none | some '|' | some ')' => return depthOf (before.map (·.depth))
      | some '(' =>
          let part ← group fuel
          parts fuel (part :: before)
      | some '[' =>
          let depth ← bracket fuel
          parts fuel (⟨depth, true⟩ :: before)
      | some '\x7b' => failure
      | some symbol =>
          if "?*+".toList.contains symbol then
            match before with
            | ⟨depth, true⟩ :: before =>
                advance
                let _ ← accept "?"
                parts fuel (⟨depth + 1, true⟩ :: before)
            | _ => failure
          else
            single
            parts fuel (⟨0, true⟩ :: before)

/-- A group, or flags that hold for what follows them. -/
def group : (fuel : Nat) → Parse Part
  | 0 => failure
  | fuel + 1 => do
      let outside ← get
      advanceSpaced
      if ← accept "?P<" then
        groupName
        groupRest outside fuel
      else if ← accept "?<" then
        groupName
        groupRest outside fuel
      else if ← accept "?" then
        let flags ← flags (← get).rest.length []
        if ← accept ")" then
          apply flags
          if flags.isEmpty then failure else return ⟨0, false⟩
        else
          advance
          apply flags
          groupRest outside fuel
      else groupRest outside fuel

/-- The rest of a group. Its flags end with it. -/
def groupRest (outside : Reading) : (fuel : Nat) → Parse Part
  | 0 => failure
  | fuel + 1 => do
      let depth ← alternatives fuel []
      if ← accept ")" then
        modify ({ · with isUnicode := outside.isUnicode, isSpaced := outside.isSpaced })
        return ⟨depth + 1, true⟩
      else failure

end

/-- A pattern can be this deep. -/
def depthLimit : Nat := 250

/-- Whether a text without closing braces is a pattern. Every character opens at most four levels
of reading. -/
def isPattern (text : List Char) : Bool :=
  ((alternatives (4 * text.length + 4) []).run { rest := text }).any fun (depth, reading) =>
    reading.rest.isEmpty && depth ≤ depthLimit

end SourceTree.Pattern
