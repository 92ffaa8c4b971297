import SourceTree.Event.Basic
import SourceTree.Event.Pattern
import SourceTree.Text.Blank
import SourceTree.Text.Extent
import SourceTree.Text.Hex
import SourceTree.Text.Letter
import SourceTree.Text.Segments

/-!
# Selecting events

A setting says which events are shown. It is a list of directives between commas, such as
`warn,unbundle::acquire=debug`. A directive gives a level to the events whose origin starts with its
target; without a target it is for all events, without a level it selects every level. A directive
can also be limited to events within a span, or with certain fields; of these this program has none,
except that the text of every event is its field `message`.

For each event the directive with the longest target decides.
-/

namespace SourceTree

/-- One rule about which events are shown. -/
structure Directive where
  /-- Events whose origin starts so are meant; without one all are. -/
  target : Option String := none
  /-- The most detailed level that is shown, or none at all. -/
  level : Option Level := some .trace
  /-- Fields that an event must have. -/
  fields : List String := []
  /-- Whether it asks for more than the form of an event, so that it never selects one here. -/
  isConditional : Bool := false
  deriving DecidableEq, Repr

namespace Directive

/-- The number that a text of digits writes, perhaps with a plus sign. -/
def number? (text : List Char) : Option Nat :=
  let digits := match text with
    | '+' :: rest => rest
    | text => text
  if digits.isEmpty || !digits.all Char.isDigit then none
  else some (digits.foldl (fun number digit => number * 10 + (digit.toNat - '0'.toNat)) 0)

/-- The level with a number. -/
def levelOfNumber? : Nat → Option (Option Level)
  | 0 => some none
  | 1 => some (some .error)
  | 2 => some (some .warn)
  | 3 => some (some .info)
  | 4 => some (some .debug)
  | 5 => some (some .trace)
  | _ => none

/-- The level with a name, in letters of either case. -/
def levelOfName? (text : List Char) : Option (Option Level) :=
  match String.ofList (text.map Char.toLower) with
  | "off" => some none
  | "error" => some (some .error)
  | "warn" => some (some .warn)
  | "info" => some (some .info)
  | "debug" => some (some .debug)
  | "trace" => some (some .trace)
  | _ => none

/-- The level that a text gives by number or name. -/
def level? (text : List Char) : Option (Option Level) :=
  ((number? text).bind levelOfNumber?).or (levelOfName? text)

/-- The directive with the level behind its equals sign; without one every level is meant. -/
def withLevel? (directive : Directive) (text : List Char) : Option Directive :=
  if text.isEmpty then some directive
  else (level? text).map fun level => { directive with level }

/-- A text without the sign in front of a number. -/
def unsigned : List Char → List Char
  | '+' :: rest => rest
  | '-' :: rest => rest
  | text => text

/-- Whether a text is empty or an exponent. -/
def isExponent : List Char → Bool
  | [] => true
  | mark :: rest =>
      let digits := unsigned rest
      (mark = 'e' || mark = 'E') && !digits.isEmpty && digits.all Char.isDigit

/-- Whether a text is a number, as a decimal or in words. -/
def isNumber (text : List Char) : Bool :=
  let text := unsigned text
  let (whole, rest) := text.span Char.isDigit
  let (fraction, rest) := if rest.head? = some '.' then rest.tail.span Char.isDigit else ([], rest)
  (!(whole.isEmpty && fraction.isEmpty) && isExponent rest) ||
    ["inf", "infinity", "nan"].contains (String.ofList (text.map Char.toLower))

/-- The directive for events with a field. The field can have a value, which is a number or a
pattern and ends with the text or with another equals sign. -/
def withField? (directive : Directive) (text : List Char) : Option Directive :=
  let (name, rest) := text.span (· ≠ '=')
  let fields := [String.ofList name]
  match rest with
  | [] => if text.isEmpty then none else some { directive with fields }
  | _ :: rest =>
      let value := rest.takeWhile (· ≠ '=')
      if isNumber value || Pattern.isPattern value then
        some { directive with fields, isConditional := true }
      else none

/-- A directive as it is written. Blanks around it do not count for its form, but the parts of its
form are cut out of the whole text at the positions that they have without the blanks in front. -/
structure Written where
  whole : List Char
  /-- What is left of the directive without the blanks. -/
  rest : List Char
  /-- The position of the rest, without the blanks in front. -/
  position : Nat := 0

namespace Written

/-- Blanks at either end are left aside. -/
def ofText (text : List Char) : Written where
  whole := text
  rest := (Text.skipBlank (Text.skipBlank text).reverse).reverse

/-- The part in front of the next of the characters `ends`, which is the first that is left. -/
def upTo? (written : Written) (ends : List Char) : Option (List Char × Written) :=
  let (front, rest) := written.rest.span (!ends.contains ·)
  let position := written.position + Text.byteLength front
  if rest.isEmpty then none
  else
    (Text.slice? written.whole written.position position).map fun part =>
      (part, { written with rest, position })

/-- Passes a character of one byte, which must come next. -/
def pass? (written : Written) (symbol : Char) : Option Written :=
  match written.rest with
  | [] => none
  | first :: rest =>
      if first = symbol then some { written with rest, position := written.position + 1 } else none

end Written

/-- The directive with the level behind an equals sign, up to the end of the text. -/
def atLevel? (directive : Directive) (written : Written) : Option Directive := do
  let written ← written.pass? '='
  directive.withLevel? (← Text.dropBytes? written.position written.whole)

/-- The directive with the span and the fields between brackets, and what follows these. -/
def withSpan? (directive : Directive) (written : Written) : Option Directive := do
  let (name, written) ← (← written.pass? '[').upTo? [']', '\x7b']
  if written.rest.head? = some ']' then
    let written ← written.pass? ']'
    let directive := { directive with isConditional := true }
    if written.rest.isEmpty then return directive else directive.atLevel? written
  else
    let (field, written) ← (← written.pass? '\x7b').upTo? ['\x7d']
    let written ← (← written.pass? '\x7d').pass? ']'
    let directive ← { directive with isConditional := !name.isEmpty }.withField? field
    if written.rest.isEmpty then return directive else directive.atLevel? written

/-- Whether a directive can start with a character. -/
def canStart (symbol : Char) : Bool :=
  "-:_[".toList.contains symbol || Text.isAlphanumeric symbol

/-- The directive that is nothing but a level or a target. -/
def ofWord (text : List Char) : Directive :=
  match level? text with
  | some level => { level }
  | none => { target := some (String.ofList text) }

/-- Reads a directive. -/
def parse? (text : List Char) : Option Directive :=
  let written := Written.ofText text
  if !written.rest.head?.any canStart then none
  else if written.rest.head? = some '[' then ({} : Directive).withSpan? written
  else if !written.rest.any fun symbol => symbol = '=' || symbol = '[' then some (ofWord text)
  else do
    let (target, written) ← written.upTo? ['=', '[']
    let directive : Directive := { target := some (String.ofList target) }
    if written.rest.head? = some '[' then directive.withSpan? written
    else directive.atLevel? written

/-- Whether a directive is about an event. -/
def concerns (directive : Directive) (event : Event) : Bool :=
  !directive.isConditional && directive.fields.all (· = "message") &&
    directive.target.all fun target => target.toList.isPrefixOf event.origin.target.toList

/-- How closely a directive describes its events. -/
def closeness (directive : Directive) : Nat × Nat :=
  ((directive.target.map fun target => target.utf8ByteSize + 1).getD 0, directive.fields.length)

/-- Whether a directive lets an event through. -/
def admits (directive : Directive) (event : Event) : Bool :=
  directive.level.any fun level => event.level.detail ≤ level.detail

end Directive

/-- Rules about which events are shown. -/
abbrev Filter := List Directive

namespace Filter

/-- Shows everything up to a level. -/
def upTo (level : Level) : Filter := [{ level := some level }]

/-- Of two directives the one that decides: the closer, or else the later. -/
def closer (earlier : Option Directive) (later : Directive) : Option Directive :=
  match earlier with
  | none => some later
  | some earlier =>
      if (compare earlier.closeness.1 later.closeness.1).then
          (compare earlier.closeness.2 later.closeness.2) = .gt then some earlier
      else some later

/-- The directive that decides about an event. -/
def deciding? (filter : Filter) (event : Event) : Option Directive :=
  (filter.filter (·.concerns event)).foldl closer none

/-- Whether an event is shown. -/
def shows (filter : Filter) (event : Event) : Bool :=
  (filter.deciding? event).any (·.admits event)

/-- Reads a setting. If it has no directives, errors are shown. -/
def parse? (text : String) : Option Filter :=
  match ((Text.split ',' text.toList).filter (· ≠ [])).mapM Directive.parse? with
  | none => none
  | some [] => some (upTo .error)
  | some directives => some directives

/-- The rules for a setting. Without one, or if it cannot be read, information is shown. -/
def ofSetting (setting : Option String) : Filter :=
  (setting.bind parse?).getD (upTo .info)

end Filter

/-- A character of a message as it is shown. Characters that could steer a terminal are spelled
out. -/
def Event.showCharacter (symbol : Char) : String :=
  match symbol with
  | '\x07' => "\\x07"
  | '\x08' => "\\x08"
  | '\x0c' => "\\x0c"
  | '\x1b' => "\\x1b"
  | '\x7f' => "\\x7f"
  | symbol =>
      if 0x80 ≤ symbol.toNat && symbol.toNat ≤ 0x9f then
        "\\u\x7b" ++ Text.hexDigits symbol.toNat ++ "\x7d"
      else String.singleton symbol

/-- The line that shows an event. Levels are aligned at their ends. -/
def Event.render (event : Event) : String :=
  let label := event.level.label
  String.ofList (List.replicate (5 - label.length) ' ') ++ label ++ " " ++
    String.join (event.message.toList.map Event.showCharacter) ++ "\n"

end SourceTree
