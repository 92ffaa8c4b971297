import SourceTree.Proofs.Command.Schedule
import SourceTree.Proofs.Stage.Unheard

/-!
# Records in batches

A command on named records comes to the same as the command on the first of them and then, if that
succeeded, the command on the others. Every record is loaded from the files that the records before
it have left. Once a record has failed nothing else happens at all: the session stays as it is, so
no later record is even looked at.

The two runs differ in what they tell, since a run announces its end. Nothing hears it.
-/

namespace SourceTree

namespace Command

variable {σ : Type}

section Events

theorem ignoresEvents_tell (origin : Origin) (message : String) :
    IgnoresEvents (tell origin message : Work σ Unit) :=
  ⟨fun _ _ _ => rfl⟩

theorem ignoresEvents_ofStage {α : Type} {stage : Stage σ α} (ignores : IgnoresEvents stage)
    (name : String) : IgnoresEvents (Work.ofStage name stage) := by
  refine ⟨fun files events others => ?_⟩
  have same := ignores.same files events others
  simp only [outcome, Work.ofStage] at same ⊢
  generalize stage ⟨files, events⟩ = ended at same ⊢
  generalize stage ⟨files, others⟩ = endedAgain at same ⊢
  rcases ended with ⟨result, between, told⟩
  rcases endedAgain with ⟨answer, middle, heard⟩
  rcases Prod.mk.inj same with ⟨rfl, rfl⟩
  cases result <;> rfl

end Events

/-- What a command tells behind its last record. -/
def close : Command → Work σ Unit
  | .run _ _ => tell .run "All configs processed."
  | _ => pure ()

theorem close_eq_ok (command : Command) (session : Session σ) :
    ∃ events, (command.close : Work σ Unit) session = (.ok (), ⟨session.files, events⟩) := by
  cases command <;> exact ⟨_, rfl⟩

theorem ignoresEvents_close (command : Command) :
    IgnoresEvents (command.close : Work σ Unit) := by
  cases command with
  | run selection skipDownload => apply ignoresEvents_tell
  | fetch selection dryRun => apply IgnoresEvents.pure
  | decompile selection => apply IgnoresEvents.pure
  | stubs selection => apply IgnoresEvents.pure

variable [FileSystem σ]

/-- The stages of a command on one record. -/
def stages (remote : Remote) : Command → Record → Stage σ Unit
  | .run _ skipDownload => allStages remote skipDownload
  | .fetch _ dryRun => fun record => discard (Acquire.acquire remote record dryRun)
  | .decompile _ => fun record => discard (Rebuild.rebuild record)
  | .stubs _ => fun record => discard (Placeholders.fill record)

/-- The same command on the records called `names`. -/
def withNames (names : List Path) : Command → Command
  | .run selection skipDownload => .run { selection with named := names } skipDownload
  | .fetch selection dryRun => .fetch { selection with named := names } dryRun
  | .decompile selection => .decompile { selection with named := names }
  | .stubs selection => .stubs { selection with named := names }

/-- The work on the records called `names`, from the first to the last. -/
def batch (remote : Remote) (command : Command) (names : List Path) : Work σ Unit :=
  (names.map command.selection.directory.join).forM (workOn (command.stages remote))

section Ignores

open IgnoresEvents

theorem ignoresEvents_stages (remote : Remote) (command : Command) (record : Record) :
    IgnoresEvents (command.stages remote record : Stage σ Unit) := by
  cases command with
  | run selection skipDownload => exact IgnoresEvents.allStages remote skipDownload record
  | fetch selection dryRun => exact (IgnoresEvents.acquire remote record dryRun).discard
  | decompile selection => exact (IgnoresEvents.rebuild record).discard
  | stubs selection => exact (IgnoresEvents.fill record).discard

theorem ignoresEvents_workOn {stages : Record → Stage σ Unit}
    (ignores : ∀ record, IgnoresEvents (stages record)) (path : Path) :
    IgnoresEvents (workOn stages path) := by
  apply (ignoresEvents_tell _ _).bind
  intro _
  apply get_bind
  · intros
    rfl
  · intro session
    split
    · apply IgnoresEvents.throw
    · apply (ignoresEvents_ofStage (ignores _) _).bind
      intro _
      apply ignoresEvents_tell

theorem ignoresEvents_batch (remote : Remote) (command : Command) (names : List Path) :
    IgnoresEvents (command.batch remote names : Work σ Unit) := by
  apply IgnoresEvents.forM
  intro path
  exact ignoresEvents_workOn (ignoresEvents_stages remote command) path

end Ignores

/-- On named records there is nothing to discover. -/
theorem forEachRecord_eq {selection : Selection} (named : selection.named ≠ [])
    (stages : Record → Stage σ Unit) (session : Session σ) :
    forEachRecord selection stages session =
      (selection.named.map selection.directory.join).forM (workOn stages) session := by
  have found : Record.discover session.files selection.directory selection.named =
      .ok (selection.named.map selection.directory.join) := by
    simp [Record.discover, named]
  have some : (selection.named.map selection.directory.join).isEmpty = false := by
    simpa using named
  have reached : (get : Work σ (Session σ)) session = (.ok session, session) := rfl
  rw [forEachRecord, Stage.run_bind, reached]
  simp only [found, some]
  rfl

/-- A command on named records is their batch, and then its close. -/
theorem execute_withNames (remote : Remote) (command : Command) {names : List Path}
    (named : names ≠ []) (session : Session σ) :
    execute remote (command.withNames names) session =
      (do command.batch remote names; command.close : Work σ Unit) session := by
  cases command with
  | run selection skipDownload =>
      have batched : forEachRecord { selection with named := names }
          (allStages remote skipDownload) session = _ := forEachRecord_eq named _ session
      simp only [withNames, execute, Stage.run_bind, batched]
      rfl
  | fetch selection dryRun =>
      simp only [withNames, execute, close, bind_pure_unit]
      exact forEachRecord_eq named _ session
  | decompile selection =>
      simp only [withNames, execute, close, bind_pure_unit]
      exact forEachRecord_eq named _ session
  | stubs selection =>
      simp only [withNames, execute, close, bind_pure_unit]
      exact forEachRecord_eq named _ session

theorem batch_cons (remote : Remote) (command : Command) (path : Path) (names : List Path) :
    (command.batch remote (path :: names) : Work σ Unit) = (do
      workOn (command.stages remote) (command.selection.directory.join path)
      command.batch remote names) := by
  simp [batch]

theorem batch_append (remote : Remote) (command : Command) (first second : List Path) :
    (command.batch remote (first ++ second) : Work σ Unit) =
      (do command.batch remote first; command.batch remote second) := by
  simp [batch, List.forM_append]

/-- A batch that fails does so at one of its records: those before it have succeeded, and it works
on the files that they have left. -/
theorem exists_failing_of_batch {remote : Remote} {command : Command} {names : List Path}
    {session stopped : Session σ} {error : CommandError}
    (failed : command.batch remote names session = (.error error, stopped)) :
    ∃ before path later reached, names = before ++ path :: later ∧
      command.batch remote before session = (.ok (), reached) ∧
        workOn (command.stages remote) (command.selection.directory.join path) reached =
          (.error error, stopped) := by
  induction names generalizing session with
  | nil => cases failed
  | cons path names ih =>
      rw [batch_cons, Stage.run_bind] at failed
      rcases ran : workOn (command.stages remote) (command.selection.directory.join path) session
        with ⟨refusal | value, between⟩
      · rw [ran] at failed
        cases failed
        exact ⟨[], path, names, session, rfl, rfl, ran⟩
      · rw [ran] at failed
        rcases ih failed with ⟨before, failing, later, reached, rfl, early, late⟩
        refine ⟨path :: before, failing, later, reached, rfl, ?_, late⟩
        simp only [batch_cons, Stage.run_bind, ran]
        exact early

/-- A command on two batches of named records answers and leaves what it does on the first batch and
then, if that succeeded, on the second. If the first batch fails, that is the end: nothing is done
or told behind the record that failed, which has worked on what the records before it left. -/
theorem execute_append (remote : Remote) (command : Command) {first second : List Path}
    (firstNamed : first ≠ []) (secondNamed : second ≠ []) (session : Session σ) :
    (∀ between, execute remote (command.withNames first) session = (.ok (), between) → ∀ events,
      outcome (execute remote (command.withNames (first ++ second))) session =
        outcome (execute remote (command.withNames second)) ⟨between.files, events⟩) ∧
    ∀ error stopped, execute remote (command.withNames first) session = (.error error, stopped) →
      execute remote (command.withNames (first ++ second)) session = (.error error, stopped) ∧
        ∃ before path later reached, first = before ++ path :: later ∧
          command.batch remote before session = (.ok (), reached) ∧
            workOn (command.stages remote) (command.selection.directory.join path) reached =
              (.error error, stopped) := by
  have bothNamed : first ++ second ≠ [] := by simp [firstNamed]
  have whole : execute remote (command.withNames (first ++ second)) session =
      (do command.batch remote first; command.batch remote second; command.close :
        Work σ Unit) session := by
    rw [execute_withNames remote command bothNamed, batch_append, bind_assoc]
  rw [Stage.run_bind] at whole
  rw [execute_withNames remote command firstNamed, Stage.run_bind]
  rcases ran : (command.batch remote first : Work σ Unit) session with ⟨refusal | value, reached⟩
  · simp only [ran] at whole ⊢
    constructor
    · intro between answered
      cases answered
    · intro error stopped failed
      cases failed
      exact ⟨whole, exists_failing_of_batch ran⟩
  · rcases close_eq_ok command reached with ⟨told, closed⟩
    simp only [ran, closed] at whole ⊢
    constructor
    · intro between answered events
      cases answered
      have rest : IgnoresEvents (do command.batch remote second; command.close : Work σ Unit) :=
        (ignoresEvents_batch remote command second).bind fun _ => ignoresEvents_close command
      calc outcome (execute remote (command.withNames (first ++ second))) session
          = outcome (do command.batch remote second; command.close) reached := by
            simp only [outcome, whole]
        _ = outcome (do command.batch remote second; command.close) ⟨reached.files, events⟩ :=
            rest.same reached.files reached.events events
        _ = outcome (execute remote (command.withNames second)) ⟨reached.files, events⟩ := by
            simp only [outcome, execute_withNames remote command secondNamed]
    · intro error stopped failed
      cases failed

/-- The first site is rebuilt, the next record is missing, and the second site is not looked at. -/
theorem execute_append_sitesStore :
    ∃ stopped,
      execute sitesRemote (.run { sites with named := [⟨"a.json"⟩, ⟨"c.json"⟩, ⟨"b.json"⟩] } false)
          ⟨sitesStore, #[]⟩ =
        (.error (.records (.read ⟨"r/c.json"⟩ (.noFile ⟨"r/c.json"⟩))), stopped) ∧
      stopped.files.isFile ⟨"a/src/x.js"⟩ = true ∧ stopped.files.isDirectory ⟨"b/src"⟩ = false := by
  have ended : (execute sitesRemote ((Command.run sites false).withNames [⟨"a.json"⟩, ⟨"c.json"⟩])
      ⟨sitesStore, #[]⟩).1 = .error (.records (.read ⟨"r/c.json"⟩ (.noFile ⟨"r/c.json"⟩))) ∧
      (execute sitesRemote ((Command.run sites false).withNames [⟨"a.json"⟩, ⟨"c.json"⟩])
        ⟨sitesStore, #[]⟩).2.files.isFile ⟨"a/src/x.js"⟩ = true ∧
      (execute sitesRemote ((Command.run sites false).withNames [⟨"a.json"⟩, ⟨"c.json"⟩])
        ⟨sitesStore, #[]⟩).2.files.isDirectory ⟨"b/src"⟩ = false := by
    decide +kernel
  rcases ran : execute sitesRemote ((Command.run sites false).withNames [⟨"a.json"⟩, ⟨"c.json"⟩])
    ⟨sitesStore, #[]⟩ with ⟨result, stopped⟩
  rw [ran] at ended
  rcases ended with ⟨rfl, rebuilt, untouched⟩
  have named : [(⟨"a.json"⟩ : Path), ⟨"c.json"⟩] ≠ [] ∧ [(⟨"b.json"⟩ : Path)] ≠ [] := by simp
  have composed := (execute_append sitesRemote (.run sites false) named.1 named.2 _).2 _ _ ran
  exact ⟨stopped, composed.1, rebuilt, untouched⟩

end Command

end SourceTree
