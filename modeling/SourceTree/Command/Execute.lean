import SourceTree.Command.Basic
import SourceTree.Stage.Acquire
import SourceTree.Stage.Placeholders
import SourceTree.Stage.Rebuild

/-!
# Carrying out commands

A command works through its records one after the other, and stops at the first failure. What was
written until then stays.
-/

namespace SourceTree

/-- A failure of a command. -/
inductive CommandError where
  /-- The records could not be listed, or one could not be loaded. -/
  | records (error : StageError)
  /-- A stage failed on the record called `name`. -/
  | stage (name : String) (error : StageError)
  deriving DecidableEq, Repr

/-- The wording of a failure. -/
def CommandError.message : CommandError → String
  | .records error => error.message
  | .stage name error => name ++ ": " ++ error.message

namespace Command

variable {σ : Type} [FileSystem σ]

/-- A command at work on a session. -/
abbrev Work (σ : Type) := ExceptT CommandError (StateM (Session σ))

/-- A stage as part of the work on the record called `name`. -/
def Work.ofStage (name : String) (stage : Stage σ α) : Work σ α :=
  fun session =>
    match stage session with
    | (.ok value, session) => (.ok value, session)
    | (.error error, session) => (.error (.stage name error), session)

/-- Tells something. -/
def tell (origin : Origin) (message : String) : Work σ Unit :=
  modify fun session => { session with events := session.events.push ⟨.info, origin, message⟩ }

/-- The name under which a record file is shown. -/
def recordName (path : Path) : String :=
  path.fileName?.getD path.text

/-- Loads a record and runs stages on it. -/
def workOn (stages : Record → Stage σ Unit) (path : Path) : Work σ Unit := do
  let name := recordName path
  tell .commands ("Processing config: " ++ name)
  match Record.load (← get).files path with
  | .error error => throw (.records error)
  | .ok record =>
      Work.ofStage name (stages record)
      tell .commands ("Finished: " ++ name)

/-- Runs stages on every selected record. -/
def forEachRecord (selection : Selection) (stages : Record → Stage σ Unit) : Work σ Unit := do
  match Record.discover (← get).files selection.directory selection.named with
  | .error error => throw (.records error)
  | .ok paths =>
      if paths.isEmpty then
        tell .commands ("No configuration records in " ++ selection.directory.text)
      paths.forM (workOn stages)

/-- All stages on one record. Each ends before the next starts, since placeholders depend on the
complete tree. -/
def allStages (remote : Remote) (skipDownload : Bool) (record : Record) : Stage σ Unit := do
  if !skipDownload then
    discard (Acquire.acquire remote record false)
  discard (Rebuild.rebuild record)
  discard (Placeholders.fill record)

/-- Carries out a command. -/
def execute (remote : Remote) : Command → Work σ Unit
  | .run selection skipDownload => do
      forEachRecord selection (allStages remote skipDownload)
      tell .run "All configs processed."
  | .fetch selection dryRun =>
      forEachRecord selection fun record => discard (Acquire.acquire remote record dryRun)
  | .decompile selection =>
      forEachRecord selection fun record => discard (Rebuild.rebuild record)
  | .stubs selection =>
      forEachRecord selection fun record => discard (Placeholders.fill record)

/-- The selection of a command. -/
def selection : Command → Selection
  | .run selection _ => selection
  | .fetch selection _ => selection
  | .decompile selection => selection
  | .stubs selection => selection

/-- The places that a command works on, as far as the files tell: those of the selected records, and
those that the records name. -/
def places (files : σ) (command : Command) : List Path :=
  let selection := command.selection
  let paths := (Record.discover files selection.directory selection.named).toOption.getD []
  let records := paths.filterMap fun path => (Record.load files path).toOption
  selection.directory :: paths ++
    records.flatMap fun record => [record.inputDir, record.mapsPath, record.treePath]

end Command

end SourceTree
