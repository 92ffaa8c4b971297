import SourceTree.Record.Load

/-!
# Commands

A command says which stages to run and on which records.
-/

namespace SourceTree

/-- Which records a command works on. -/
structure Selection where
  /-- Record files named one by one; if there are none, all in `directory` are meant. -/
  named : List Path := []
  /-- The directory that holds the records. -/
  directory : Path := Record.defaultSourcesDir
  deriving DecidableEq, Repr

/-- The commands of the program. -/
inductive Verb where
  /-- Acquires documents, rebuilds the tree and writes placeholders. -/
  | run
  /-- Acquires documents. -/
  | fetch
  /-- Rebuilds the tree. -/
  | decompile
  /-- Writes placeholders. -/
  | stubs
  deriving DecidableEq, Repr

/-- The name of a command. -/
def Verb.name : Verb → String
  | .run => "run"
  | .fetch => "fetch"
  | .decompile => "decompile"
  | .stubs => "stubs"

/-- Every command, in the order in which they are explained. -/
def Verb.all : List Verb := [.run, .fetch, .decompile, .stubs]

/-- The command with a name. -/
def Verb.ofName? (name : String) : Option Verb :=
  Verb.all.find? (·.name = name)

/-- The switch that a command has. -/
def Verb.switch? : Verb → Option String
  | .run => some "skip-download"
  | .fetch => some "dry-run"
  | .decompile => none
  | .stubs => none

/-- A command to carry out. -/
inductive Command where
  | run (selection : Selection) (skipDownload : Bool)
  | fetch (selection : Selection) (dryRun : Bool)
  | decompile (selection : Selection)
  | stubs (selection : Selection)
  deriving DecidableEq, Repr

/-- The command for a verb, a selection and the state of the switch. -/
def Command.of (verb : Verb) (selection : Selection) (switch : Bool) : Command :=
  match verb with
  | .run => .run selection switch
  | .fetch => .fetch selection switch
  | .decompile => .decompile selection
  | .stubs => .stubs selection

end SourceTree
