import SourceTree.Command.Execute
import SourceTree.Command.Line
import SourceTree.Event.Filter

/-!
# The program

The program reads its command line, carries the command out, and shows the events that its setting
selects, and the failure if there is one.
-/

namespace SourceTree.Program

/-- Why the program ends without success. -/
inductive Failure where
  | usage (error : UsageError)
  | command (error : CommandError)
  deriving DecidableEq, Repr

/-- The wording of a failure. -/
def Failure.message : Failure → String
  | .usage error => error.message
  | .command error => error.message

/-- Reads a command line and carries it out on a session. -/
def run [FileSystem σ] (remote : Remote) (arguments : List String) (session : Session σ) :
    Except Failure Unit × Session σ :=
  match CommandLine.parse arguments with
  | .error error => (.error (.usage error), session)
  | .ok command =>
      let (result, session) := (command.execute remote).run session
      (result.mapError .command, session)

/-- The exit code of a run. -/
def exitCode : Except Failure Unit → Nat
  | .ok () => 0
  | .error _ => 1

/-- What a run shows: the selected events, and its failure. -/
def report (filter : Filter) (result : Except Failure Unit) (events : List Event) : String :=
  String.join ((events.filter filter.shows).map Event.render) ++
    match result with
    | .ok () => ""
    | .error failure => failure.message ++ "\n"

end SourceTree.Program
