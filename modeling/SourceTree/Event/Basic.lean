/-!
# Events

The program tells what it does by events. An event has a level, the part of the program that it
comes from, and a message.
-/

namespace SourceTree

/-- How much an event matters. -/
inductive Level where
  | error
  | warn
  | info
  | debug
  | trace
  deriving DecidableEq, Repr

/-- The rank of a level: the more detail, the higher. -/
def Level.detail : Level → Nat
  | .error => 1
  | .warn => 2
  | .info => 3
  | .debug => 4
  | .trace => 5

/-- The name of a level as it is shown. -/
def Level.label : Level → String
  | .error => "ERROR"
  | .warn => "WARN"
  | .info => "INFO"
  | .debug => "DEBUG"
  | .trace => "TRACE"

/-- The part of the program that an event comes from. -/
inductive Origin where
  | acquire
  | decompile
  | placeholders
  | commands
  | run
  deriving DecidableEq, Repr

/-- The name under which events of a part can be selected. -/
def Origin.target : Origin → String
  | .acquire => "unbundle::acquire"
  | .decompile => "unbundle::decompile"
  | .placeholders => "unbundle::placeholders"
  | .commands => "unbundle::commands"
  | .run => "unbundle::commands::run"

/-- Something that the program tells. -/
structure Event where
  level : Level
  origin : Origin
  message : String
  deriving DecidableEq, Repr

end SourceTree
