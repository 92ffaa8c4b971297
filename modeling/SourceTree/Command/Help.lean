import SourceTree.Command.Basic
import SourceTree.Text.Terminal

/-!
# Help texts

A help text explains the program or one command: what it does, how it is called, and a table for
each kind of argument. All tables of a text are laid out alike: names are padded to the longest, and
their explanations stand in one column.
-/

namespace SourceTree

/-- What help can be asked for. -/
inductive Topic where
  | program
  | verb (verb : Verb)
  | help
  deriving DecidableEq, Repr

namespace Help

/-- The name of the program where it cannot tell how it was called. -/
def programName : String := "unbundle"

/-- The name and version of the program. -/
def versionText : String := programName ++ " 0.1.0\n"

/-- A name and its explanation. -/
structure Row where
  name : String
  text : String
  deriving DecidableEq, Repr

/-- Rows under a heading. -/
structure Table where
  heading : String
  rows : List Row
  deriving DecidableEq, Repr

/-- The width of the longest name. -/
def Table.width (table : Table) : Nat :=
  (table.rows.map fun row => row.name.length).foldl max 0

/-- The line of a row whose name is padded to `width`. -/
def Row.render (width : Nat) (row : Row) : String :=
  "  " ++ row.name ++ String.ofList (List.replicate (width - row.name.length) ' ') ++ "  " ++
    row.text ++ "\n"

/-- The lines of a table. -/
def Table.render (table : Table) : String :=
  table.heading ++ ":\n" ++ String.join (table.rows.map (Row.render table.width))

/-- What a command does. -/
def verbText : Verb → String
  | .run => "Fetch maps, rebuild the source tree, then stub dangling imports"
  | .fetch => "Download map documents referenced by the compiled bundles"
  | .decompile => "Rebuild the source tree from the downloaded maps"
  | .stubs => "Write placeholder modules for unresolved relative imports"

/-- What the help command does. -/
def helpText : String :=
  "Print this message or the help of the given subcommand(s)"

/-- What a topic is about. -/
def about : Topic → String
  | .program => "Rebuild source trees from bundle source maps"
  | .verb verb => verbText verb
  | .help => helpText

/-- The name of the command that explains the others. -/
def helpName : String := "help"

/-- The command that a topic is about. -/
def commandName? : Topic → Option String
  | .program => none
  | .verb verb => some verb.name
  | .help => some helpName

/-- The words that call a topic. A program that cannot tell how it was called has a name of its own,
but its commands are then called by theirs alone. -/
def call (program : Option String) (topic : Topic) : String :=
  match commandName? topic, program with
  | none, _ => program.getD programName
  | some name, none => name
  | some name, some program => program ++ " " ++ name

/-- What follows the words that call a topic. -/
def usage : Topic → String
  | .program => "<COMMAND>"
  | .verb _ => "[OPTIONS]"
  | .help => "[COMMAND]..."

/-- The row of the option that asks for help. -/
def helpRow : Row := ⟨"-h, --help", "Print help"⟩

/-- What the switch of a command does. -/
def switchText : Verb → String
  | .run => "Use only the maps already on disk"
  | .fetch => "List missing maps without downloading them"
  | .decompile => ""
  | .stubs => ""

/-- The row of the switch of a command. -/
def switchRows (verb : Verb) : List Row :=
  match verb.switch? with
  | some name => [⟨"    --" ++ name, switchText verb⟩]
  | none => []

/-- The options of a command. -/
def verbOptions (verb : Verb) : Table where
  heading := "Options"
  rows :=
    [⟨"    --source <FILE>...",
       "Config file(s) to process, relative to the sources directory or absolute"⟩,
     ⟨"    --sources-dir <DIR>",
       "Directory holding configuration records [default: " ++ Record.defaultSourcesDir.text ++
         "]"⟩] ++
    switchRows verb ++ [helpRow]

/-- The tables of a topic. -/
def tables : Topic → List Table
  | .program =>
      [{ heading := "Commands"
         rows := Verb.all.map (fun verb => ⟨verb.name, verbText verb⟩) ++ [⟨helpName, helpText⟩] },
       { heading := "Options"
         rows := [helpRow, ⟨"-V, --version", "Print version"⟩] }]
  | .verb verb => [verbOptions verb]
  | .help =>
      [{ heading := "Arguments"
         rows := [⟨"[COMMAND]...", "Print help for the subcommand(s)"⟩] }]

/-- The help text for a topic, when the program is called `program`. A name that could steer a
terminal is shown without what does. -/
def render (program : Option String) (topic : Topic) : String :=
  about topic ++ "\n\nUsage: " ++ Text.Terminal.strip (call program topic) ++ " " ++
    usage topic ++ "\n" ++
    String.join ((tables topic).map fun table => "\n" ++ table.render)

end Help

end SourceTree
