import SourceTree.Yaml.Scan

/-!
# From tokens to nodes

A YAML text holds a node: a scalar, a sequence or a mapping. A node can be anchored and then be
referred to by an alias, even from within itself, so an alias is kept as it is and followed only
when its node is asked for. Anchors are numbered by the count of different anchor names in front of
them, and an alias means the last node that carries its number.
-/

namespace SourceTree.Yaml

/-- A value in a YAML text. -/
inductive Node where
  | scalar (anchor : Option Nat) (tag : Option String) (style : Style) (text : String)
  | sequence (anchor : Option Nat) (items : List Node)
  | mapping (anchor : Option Nat) (entries : List (Node × Node))
  | alias (anchor : Nat)

namespace Node

/-- An empty scalar, which stands where a node was left out. -/
def missing : Node := .scalar none none .plain ""

/-- Nodes by the numbers that they are anchored with, the last first. -/
abbrev Anchored := List (Nat × Node)

/-- The nodes before, and a node if it is anchored. -/
def anchoredAs (node : Node) (anchor : Option Nat) (before : Anchored) : Anchored :=
  match anchor with
  | some number => (number, node) :: before
  | none => before

mutual

/-- The anchored nodes within a node, itself first, behind those before it. -/
def anchored (node : Node) (before : Anchored) : Anchored :=
  match node with
  | .scalar anchor _ _ _ => node.anchoredAs anchor before
  | .sequence anchor items => anchoredInList items (node.anchoredAs anchor before)
  | .mapping anchor entries => anchoredInEntries entries (node.anchoredAs anchor before)
  | .alias _ => before

/-- The anchored nodes within the nodes of a list. -/
def anchoredInList (nodes : List Node) (before : Anchored) : Anchored :=
  match nodes with
  | [] => before
  | node :: rest => anchoredInList rest (node.anchored before)

/-- The anchored nodes within the entries of a mapping. -/
def anchoredInEntries (entries : List (Node × Node)) (before : Anchored) : Anchored :=
  match entries with
  | [] => before
  | entry :: rest => anchoredInEntries rest (anchoredInEntry entry before)

/-- The anchored nodes within a key and its value, the key first. -/
def anchoredInEntry (entry : Node × Node) (before : Anchored) : Anchored :=
  match entry with
  | (key, value) => value.anchored (key.anchored before)

end

/-- The node that a node stands for, among anchored nodes. -/
def follow? (anchored : Anchored) : Node → Option Node
  | .alias number => anchored.lookup number
  | node => some node

end Node

/-- What is left to read, and the numbers of the anchors so far. -/
structure Reading where
  tokens : List Token
  anchors : List (String × Nat) := []
  /-- Number of different names among the anchors. -/
  count : Nat := 0

/-- A step in reading a node. -/
abbrev Parse := StateT Reading Option

namespace Parse

/-- The next token. -/
def peek : Parse (Option Token) := do
  return (← get).tokens.head?

/-- Passes the next token. -/
def advance : Parse Unit :=
  modify fun reading => { reading with tokens := reading.tokens.tail }

/-- Whether the next token is one of those given. -/
def isNext (tokens : List Token) : Parse Bool := do
  match ← peek with
  | some token => return tokens.contains token
  | none => return false

/-- Passes the next token, which must be the given one. -/
def expect (token : Token) : Parse Unit := do
  if ← isNext [token] then advance else failure

/-- The number for an anchor. -/
def number (name : String) : Parse Nat := do
  let reading ← get
  let isKnown := (reading.anchors.lookup name).isSome
  set { reading with
    anchors := (name, reading.count) :: reading.anchors
    count := if isKnown then reading.count else reading.count + 1 }
  return reading.count

/-- An anchor, if there is one. -/
def anchorName? : Parse (Option String) := do
  match ← peek with
  | some (.anchor name) =>
      advance
      return some name
  | _ => return none

/-- A tag, if there is one. -/
def tag? : Parse (Option (String × String)) := do
  match ← peek with
  | some (.tag handle suffix) =>
      advance
      return some (handle, suffix)
  | _ => return none

/-- What stands in front of the content of a node: an anchor and a tag, in either order. -/
def properties : Parse (Option String × Option (String × String)) := do
  match ← anchorName? with
  | some anchor => return (some anchor, ← tag?)
  | none =>
      match ← tag? with
      | some tag => return (← anchorName?, some tag)
      | none => return (none, none)

/-- The full text of a tag. -/
def expand (shorthands : List (String × String)) : Option (String × String) →
    Parse (Option String)
  | none => return none
  | some ("", suffix) => return some suffix
  | some (handle, suffix) =>
      match shorthands.lookup handle with
      | some expansion => return some (expansion ++ suffix)
      | none => failure

mutual

/-- A node. Block collections can only stand outside brackets, and entries with a dash that are
not indented further only behind a key or its colon. -/
def node (shorthands : List (String × String)) (isBlock isFlush : Bool) : Nat → Parse Node
  | 0 => failure
  | fuel + 1 => do
      match ← peek with
      | some (.alias name) =>
          advance
          match (← get).anchors.lookup name with
          | some number => return .alias number
          | none => failure
      | _ =>
          let (name, tag) ← properties
          let isBare := name.isNone && tag.isNone
          let tag ← expand shorthands tag
          let anchor ← name.mapM number
          match ← peek with
          | some (.scalar style text) =>
              advance
              return .scalar anchor tag style text
          | some .flowSequenceStart =>
              advance
              return .sequence anchor (← flowSequence shorthands true fuel)
          | some .flowMappingStart =>
              advance
              return .mapping anchor (← flowMapping shorthands true fuel)
          | some .blockEntry =>
              if isFlush then return .sequence anchor (← flushSequence shorthands fuel)
              else if isBare then failure
              else return .scalar anchor tag .plain ""
          | some .blockSequenceStart =>
              if isBlock then
                advance
                return .sequence anchor (← blockSequence shorthands fuel)
              else if isBare then failure
              else return .scalar anchor tag .plain ""
          | some .blockMappingStart =>
              if isBlock then
                advance
                return .mapping anchor (← blockMapping shorthands fuel)
              else if isBare then failure
              else return .scalar anchor tag .plain ""
          | _ => if isBare then failure else return .scalar anchor tag .plain ""

/-- A node, or a missing one in front of one of the tokens `ends`. -/
def nodeUnless (shorthands : List (String × String)) (isBlock isFlush : Bool)
    (ends : List Token) : Nat → Parse Node
  | 0 => failure
  | fuel + 1 => do
      if ← isNext ends then return .missing else node shorthands isBlock isFlush fuel

/-- The entries of an indented sequence. -/
def blockSequence (shorthands : List (String × String)) : Nat → Parse (List Node)
  | 0 => failure
  | fuel + 1 => do
      match ← peek with
      | some .blockEntry =>
          advance
          let item ← nodeUnless shorthands true false [.blockEntry, .blockEnd] fuel
          return item :: (← blockSequence shorthands fuel)
      | some .blockEnd =>
          advance
          return []
      | _ => failure

/-- The entries of a sequence that is not indented further than the mapping around it. -/
def flushSequence (shorthands : List (String × String)) : Nat → Parse (List Node)
  | 0 => failure
  | fuel + 1 => do
      match ← peek with
      | some .blockEntry =>
          advance
          let item ← nodeUnless shorthands true false [.blockEntry, .key, .value, .blockEnd] fuel
          return item :: (← flushSequence shorthands fuel)
      | _ => return []

/-- The entries of an indented mapping. -/
def blockMapping (shorthands : List (String × String)) : Nat → Parse (List (Node × Node))
  | 0 => failure
  | fuel + 1 => do
      match ← peek with
      | some .key =>
          advance
          let key ← nodeUnless shorthands true true [.key, .value, .blockEnd] fuel
          let value ← blockValue shorthands fuel
          return (key, value) :: (← blockMapping shorthands fuel)
      | some .blockEnd =>
          advance
          return []
      | _ => failure

/-- The value behind a key of an indented mapping. -/
def blockValue (shorthands : List (String × String)) : Nat → Parse Node
  | 0 => failure
  | fuel + 1 => do
      if ← isNext [.value] then
        advance
        nodeUnless shorthands true true [.key, .value, .blockEnd] fuel
      else return .missing

/-- The entries of a sequence between brackets. -/
def flowSequence (shorthands : List (String × String)) (isFirst : Bool) :
    Nat → Parse (List Node)
  | 0 => failure
  | fuel + 1 => do
      if ← isNext [.flowSequenceEnd] then
        advance
        return []
      if !isFirst then
        expect .flowEntry
      match ← peek with
      | some .flowSequenceEnd =>
          advance
          return []
      | some .key =>
          advance
          let key ← soleKey shorthands fuel
          let value ← flowValue shorthands [.flowEntry, .flowSequenceEnd] fuel
          let item := Node.mapping none [(key, value)]
          return item :: (← flowSequence shorthands false fuel)
      | _ =>
          let item ← node shorthands false false fuel
          return item :: (← flowSequence shorthands false fuel)

/-- The key of a mapping with one entry that stands in a sequence without brackets of its own. A
missing key takes the token behind it along. -/
def soleKey (shorthands : List (String × String)) : Nat → Parse Node
  | 0 => failure
  | fuel + 1 => do
      if ← isNext [.value, .flowEntry, .flowSequenceEnd] then
        advance
        return .missing
      node shorthands false false fuel

/-- The value behind a key between brackets. -/
def flowValue (shorthands : List (String × String)) (ends : List Token) : Nat → Parse Node
  | 0 => failure
  | fuel + 1 => do
      if ← isNext [.value] then
        advance
        nodeUnless shorthands false false ends fuel
      else return .missing

/-- The entries of a mapping between braces. -/
def flowMapping (shorthands : List (String × String)) (isFirst : Bool) :
    Nat → Parse (List (Node × Node))
  | 0 => failure
  | fuel + 1 => do
      if ← isNext [.flowMappingEnd] then
        advance
        return []
      if !isFirst then
        expect .flowEntry
      match ← peek with
      | some .flowMappingEnd =>
          advance
          return []
      | some .key =>
          advance
          let ends := [.flowEntry, .flowMappingEnd]
          let key ← nodeUnless shorthands false false (.value :: ends) fuel
          let value ← flowValue shorthands ends fuel
          return (key, value) :: (← flowMapping shorthands false fuel)
      | _ =>
          let key ← node shorthands false false fuel
          return (key, .missing) :: (← flowMapping shorthands false fuel)

end

/-- The shorthands that need no directive. -/
def commonShorthands : List (String × String) :=
  [("!", "!"), ("!!", "tag:yaml.org,2002:")]

/-- The directives in front of a document. Each says something else, and only two versions are
known. -/
def directives (hasVersion : Bool) (shorthands : List (String × String)) :
    List Token → Option (List (String × String) × List Token)
  | .version major minor :: rest =>
      if hasVersion || major ≠ 1 || (minor ≠ 1 && minor ≠ 2) then none
      else directives true shorthands rest
  | .shorthand handle expansion :: rest =>
      if (shorthands.lookup handle).isSome then none
      else directives hasVersion ((handle, expansion) :: shorthands) rest
  | rest => some (shorthands ++ commonShorthands, rest)

/-- Whether a token cannot belong to the content of a document. -/
def endsDocument : Token → Bool
  | .version _ _ => true
  | .shorthand _ _ => true
  | .documentStart => true
  | .documentEnd => true
  | _ => false

/-- The node that tokens start with, and the tokens behind it. Every token opens at most three
levels of reading. -/
def content (shorthands : List (String × String)) (tokens : List Token) :
    Option (Node × List Token) :=
  match tokens with
  | [] => some (.missing, [])
  | token :: _ =>
      if endsDocument token then some (.missing, tokens)
      else
        ((node shorthands true false (3 * tokens.length + 3)).run { tokens }).map
          fun (node, reading) => (node, reading.tokens)

/-- The node of the only document, if tokens hold one. A document may start with a mark, and has to
behind directives. -/
def document (tokens : List Token) : Option Node := do
  let (node, rest) ←
    match tokens with
    | [] => none
    | first :: _ =>
        if !endsDocument first then content commonShorthands tokens
        else
          match directives false [] tokens with
          | some (shorthands, .documentStart :: tokens) => content shorthands tokens
          | _ => none
  if rest.all (· = .documentEnd) then return node else none

end Parse

/-- The node that a text holds. -/
def Node.ofText? (text : String) : Option Node :=
  (tokens? text).bind Parse.document

end SourceTree.Yaml
