import SourceTree.Command.Help

/-!
# Command lines

A command line is the name of the program followed by words. The first word names a command; the
words behind it are its options.

An option that takes values collects the words that follow it, and is judged only when it is
complete: at the next option or at the end. A word that belongs to nothing is refused at once,
whatever is still open.
-/

namespace SourceTree

/-- Why a command line is not carried out. -/
inductive UsageError where
  /-- A word in the place of a command is none. -/
  | invalidSubcommand
  /-- A word or an option that is not expected. -/
  | unknownArgument
  /-- An option has no value or an empty one. -/
  | invalidValue
  /-- An option is given twice that can be given once. -/
  | argumentConflict
  /-- A value is given to a switch. -/
  | tooManyValues
  /-- There is no command. -/
  | missingCommand (program : Option String)
  /-- Help was asked for. -/
  | help (program : Option String) (topic : Topic)
  /-- The version was asked for. -/
  | version
  deriving DecidableEq, Repr

/-- What is shown instead of carrying out a command line. -/
def UsageError.message : UsageError → String
  | .invalidSubcommand => "error: unrecognized subcommand\n"
  | .unknownArgument => "error: unexpected argument\n"
  | .invalidValue => "error: a value is required\n"
  | .argumentConflict => "error: an argument cannot be used multiple times\n"
  | .tooManyValues => "error: unexpected value\n"
  | .missingCommand program => Help.render program .program
  | .help program topic => Help.render program topic
  | .version => Help.versionText

namespace CommandLine

/-- How a word of the command line reads. -/
inductive Word where
  /-- The mark behind which no more options come. -/
  | separator
  /-- An option with a long name, and the value attached to it. -/
  | long (name : String) (value : Option String)
  /-- Options with short names, of which the first decides. -/
  | short (name : Char)
  /-- Anything else. -/
  | plain (text : String)
  deriving DecidableEq, Repr

/-- Reads a word. A single dash is plain. -/
def Word.of (text : String) : Word :=
  match text.toList with
  | ['-', '-'] => .separator
  | '-' :: '-' :: rest =>
      match rest.span (· ≠ '=') with
      | (name, []) => .long (String.ofList name) none
      | (name, _ :: value) => .long (String.ofList name) (some (String.ofList value))
  | '-' :: name :: _ => .short name
  | _ => .plain text

/-- The options that take values. -/
inductive Valued where
  /-- Names records; takes any number of values, and can be repeated. -/
  | source
  /-- Names the directory of the records; takes one value, once. -/
  | sourcesDir
  deriving DecidableEq, Repr

/-- The option with a name. -/
def Valued.ofName? : String → Option Valued
  | "source" => some .source
  | "sources-dir" => some .sourcesDir
  | _ => none

/-- What the words so far say. -/
structure Draft where
  named : List String := []
  directory : Option String := none
  switch : Bool := false
  /-- The last option that takes values, with its values so far, until it is judged. -/
  pending : Option (Valued × List String) := none
  deriving DecidableEq, Repr

/-- Takes the values of an option. -/
def Draft.take (draft : Draft) (option : Valued) (values : List String) :
    Except UsageError Draft :=
  if values.isEmpty then .error .invalidValue
  else
    match option with
    | .source =>
        if values.any (·.isEmpty) then .error .invalidValue
        else .ok { draft with named := draft.named ++ values }
    | .sourcesDir =>
        if draft.directory.isSome then .error .argumentConflict
        else if values.any (·.isEmpty) then .error .invalidValue
        else .ok { draft with directory := values.head? }

/-- Judges the pending option. -/
def Draft.settle (draft : Draft) : Except UsageError Draft :=
  match draft.pending with
  | none => .ok draft
  | some (option, values) => { draft with pending := none }.take option values

/-- Takes a word that is no option. -/
def Draft.takeWord (draft : Draft) (text : String) : Except UsageError Draft :=
  match draft.pending with
  | some (.source, values) => .ok { draft with pending := some (.source, values ++ [text]) }
  | some (.sourcesDir, []) => .ok { draft with pending := some (.sourcesDir, [text]) }
  | _ => .error .unknownArgument

/-- Takes an option that takes values. An attached value is its only one. -/
def Draft.takeValued (draft : Draft) (option : Valued) (value : Option String) :
    Except UsageError Draft := do
  let draft ← draft.settle
  match value with
  | some value => draft.take option [value]
  | none => return { draft with pending := some (option, []) }

/-- Takes the switch. -/
def Draft.takeSwitch (draft : Draft) : Except UsageError Draft := do
  let draft ← draft.settle
  if draft.switch then .error .argumentConflict
  else return { draft with switch := true }

/-- Takes an option with a long name. -/
def Draft.takeLong (draft : Draft) (program : Option String) (verb : Verb) (name : String)
    (value : Option String) : Except UsageError Draft :=
  match Valued.ofName? name with
  | some option => draft.takeValued option value
  | none =>
      if verb.switch? = some name then
        if value.isSome then .error .tooManyValues else draft.takeSwitch
      else if name = "help" then
        if value.isSome then .error .tooManyValues
        else draft.settle.bind fun _ => .error (.help program (.verb verb))
      else .error .unknownArgument

/-- The command that a complete draft says. -/
def Draft.finish (draft : Draft) (verb : Verb) : Except UsageError Command := do
  let draft ← draft.settle
  let selection : Selection := {
    named := draft.named.map Path.mk
    directory := (draft.directory.map Path.mk).getD Record.defaultSourcesDir }
  return .of verb selection draft.switch

/-- Reads the words behind the name of a command. -/
def parseOptions (program : Option String) (verb : Verb) : List String → Draft →
    Except UsageError Command
  | [], draft => draft.finish verb
  | text :: rest, draft =>
      match Word.of text with
      | .separator => if rest.isEmpty then draft.finish verb else .error .unknownArgument
      | .long name value => do
          parseOptions program verb rest (← draft.takeLong program verb name value)
      | .short name =>
          if name = 'h' then draft.settle.bind fun _ => .error (.help program (.verb verb))
          else .error .unknownArgument
      | .plain text => do
          parseOptions program verb rest (← draft.takeWord text)

/-- What help is asked for by the words behind `help`. -/
def parseHelp (program : Option String) : List String → UsageError
  | [] => .help program .program
  | [name] =>
      if name = Help.helpName then .help program .help
      else
        match Verb.ofName? name with
        | some verb => .help program (.verb verb)
        | none => .invalidSubcommand
  | _ => .invalidSubcommand

/-- What a word in the place of a command means when no more options come. -/
def parseSeparated (program : Option String) : List String → UsageError
  | [] => .missingCommand program
  | name :: _ =>
      if name = Help.helpName || (Verb.ofName? name).isSome then .unknownArgument
      else .invalidSubcommand

/-- What a word in the place of a command means that names none. -/
def parseOther (program : Option String) (text : String) (rest : List String) : UsageError :=
  match Word.of text with
  | .separator => parseSeparated program rest
  | .long "help" value => if value.isSome then .tooManyValues else .help program .program
  | .long "version" value => if value.isSome then .tooManyValues else .version
  | .long _ _ => .unknownArgument
  | .short 'h' => .help program .program
  | .short 'V' => .version
  | .short _ => .unknownArgument
  | .plain _ => .invalidSubcommand

/-- Reads the words behind the name of the program. -/
def parseWords (program : Option String) : List String → Except UsageError Command
  | [] => .error (.missingCommand program)
  | text :: rest =>
      match Verb.ofName? text with
      | some verb => parseOptions program verb rest {}
      | none =>
          if text = Help.helpName then .error (parseHelp program rest)
          else .error (parseOther program text rest)

/-- Reads a command line. Help texts call the program by the name in its first word. -/
def parse : List String → Except UsageError Command
  | [] => .error (.missingCommand none)
  | first :: rest => parseWords (Path.mk first).fileName? rest

end CommandLine

end SourceTree
