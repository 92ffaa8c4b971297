import Mathlib.Data.List.Basic
import SourceTree.Proofs.Record.Valid
import SourceTree.Proofs.Stage.Footprint

/-!
# The effect of a command

A command on named records runs its stages on one record after the other. Since the stages never
write to a record file, each record is the same whenever it is loaded. What a command leaves behind
is therefore settled beforehand: the effects of the stages on the records, one behind the other,
and nothing once one of them fails.
-/

namespace SourceTree

/-- The files of the records that are named one by one. -/
def Selection.files (selection : Selection) : List Path :=
  selection.named.map selection.directory.join

namespace Record

variable {store : Store} {path : Path}

/-- A record is the same whatever is written to directories that its file is not in. -/
theorem load_writes {roots : List Path} {outputs : List (Path × String)}
    (inside : ∀ output ∈ outputs, output.1.isIn roots = true) (outside : path.isIn roots = false) :
    load (store.writes outputs) path = load store path := by
  have same : (store.writes outputs).content? path = store.content? path := by
    apply Store.content?_writes_of_forall_ne
    intro output member
    rw [Bool.eq_false_iff]
    intro same
    rw [← Path.isIn_congr (Path.same_iff.1 same), inside output member] at outside
    cases outside
  have read : FileSystem.readText (store.writes outputs) path = FileSystem.readText store path := by
    change (store.writes outputs).readText path = store.readText path
    rw [Store.readText, Store.readText, Store.readBytes, Store.readBytes, same]
  rw [load, load, read]

end Record

namespace Command

open Stage (Ends IsLocalTo)

variable {α β : Type} {store : Store} {outcome : Option Store} {paths : List Path}
  {recordOf : Path → Record}

/-- Whatever was told before, the work on `store` leaves the files of `outcome`, and it fails if
there are none. -/
structure Leaves (work : Work Store α) (store : Store) (outcome : Option Store) : Prop where
  ran : ∀ events, match work ⟨store, events⟩ with
    | (.ok _, after) => outcome = some after.files
    | (.error _, _) => outcome = none

namespace Leaves

theorem bind {work : Work Store α} {next : α → Work Store β} {second : Store → Option Store}
    (first : Leaves work store outcome)
    (rest : ∀ value after, outcome = some after → Leaves (next value) after (second after)) :
    Leaves (work >>= next) store (outcome.bind second) := by
  refine ⟨fun events => ?_⟩
  have firstRan := first.ran events
  rw [Stage.run_bind]
  rcases ran : work ⟨store, events⟩ with ⟨error | value, after⟩
  · rw [ran] at firstRan
    cases firstRan
    rfl
  · rw [ran] at firstRan
    cases firstRan
    exact (rest value after.files rfl).ran after.events

theorem tell (origin : Origin) (message : String) :
    Leaves (Command.tell origin message) store (some store) :=
  ⟨fun _ => rfl⟩

theorem after_tell {origin : Origin} {message : String} {next : Unit → Work Store α}
    (rest : Leaves (next ()) store outcome) :
    Leaves (Command.tell origin message >>= next) store outcome :=
  ⟨fun events => rest.ran (events.push ⟨.info, origin, message⟩)⟩

theorem before_tell {origin : Origin} {message : String} {work : Work Store α}
    (rest : Leaves work store outcome) :
    Leaves (work >>= fun _ => Command.tell origin message) store outcome := by
  rw [← Option.bind_fun_some outcome]
  apply rest.bind
  intro _ after _
  exact tell origin message

theorem after_get {next : Session Store → Work Store α}
    (rest : ∀ events, Leaves (next ⟨store, events⟩) store outcome) :
    Leaves (get >>= next) store outcome :=
  ⟨fun events => (rest events).ran events⟩

theorem ofStage {stage : Stage Store α} {name : String} {result : Except StageError α}
    {after : Store} (ends : Ends stage store result after) :
    Leaves (Work.ofStage name stage) store (stage.effect store) := by
  refine ⟨fun events => ?_⟩
  rcases ends events with ⟨told, ran⟩
  rw [ends.effect_eq, Work.ofStage, ran]
  cases result with
  | ok value => rfl
  | error error => rfl

theorem workOn {stages : Record → Stage Store Unit} {path : Path} {record : Record}
    {result : Except StageError Unit} {after : Store}
    (loaded : Record.load store path = .ok record)
    (ends : Ends (stages record) store result after) :
    Leaves (workOn stages path) store ((stages record).effect store) := by
  apply after_tell
  apply after_get
  intro events
  dsimp only
  rw [loaded]
  apply before_tell
  exact ofStage ends

/-- What a work leaves is all there is to say about its success and its files. -/
theorem exists_run_iff {work : Work Store Unit} {files : Store}
    (leaves : Leaves work store outcome) (events : Array Event) :
    (∃ after, work ⟨store, events⟩ = (.ok (), after) ∧ after.files = files) ↔
      outcome = some files := by
  have ran := leaves.ran events
  rcases shape : work ⟨store, events⟩ with ⟨error | value, after⟩
  · rw [shape] at ran
    cases ran
    constructor
    · rintro ⟨_, refused, _⟩
      cases refused
    · intro nothing
      cases nothing
  · rw [shape] at ran
    cases ran
    constructor
    · rintro ⟨_, same, rfl⟩
      cases same
      rfl
    · intro same
      cases same
      exact ⟨after, rfl, rfl⟩

end Leaves

/-- The record files hold the records that `recordOf` gives, which can be used. The trees are plain,
and nothing is written to the record files. -/
structure Loaded (store : Store) (paths : List Path) (recordOf : Path → Record) : Prop where
  load : ∀ path ∈ paths, Record.load store path = .ok (recordOf path)
  plain : ∀ path ∈ paths, (recordOf path).HasPlainTree
  unwritten : ∀ path ∈ paths, ∀ other ∈ paths, path.isIn (recordOf other).writeRoots = false

namespace Loaded

variable {path : Path} {others : List Path}

theorem of_subset (loaded : Loaded store paths recordOf) (subset : others ⊆ paths) :
    Loaded store others recordOf where
  load path member := loaded.load path (subset member)
  plain path member := loaded.plain path (subset member)
  unwritten path member other otherMem :=
    loaded.unwritten path (subset member) other (subset otherMem)

theorem valid (loaded : Loaded store paths recordOf) (member : path ∈ paths) :
    (recordOf path).defect? = none :=
  Record.defect?_of_load (loaded.load path member)

/-- The stages on one of the records change none of the records. -/
theorem of_effect (loaded : Loaded store paths recordOf) (member : path ∈ paths)
    {stage : Stage Store α} {after : Store} (isLocal : IsLocalTo (recordOf path) stage)
    (left : stage.effect store = some after) : Loaded after paths recordOf where
  plain := loaded.plain
  unwritten := loaded.unwritten
  load other otherMem := by
    rcases isLocal.exists_effect store with ⟨outputs?, inside, effect⟩
    rw [effect store rfl] at left
    rcases Option.map_eq_some_iff.1 left with ⟨outputs, shape, rfl⟩
    rw [← loaded.load other otherMem]
    exact Record.load_writes (inside outputs shape) (loaded.unwritten other otherMem path member)

end Loaded

/-- The effects of stages on the records one behind the other, and nothing once one fails. -/
def pass (effect : Path → Store → Option Store) (paths : List Path) (outcome : Option Store) :
    Option Store :=
  paths.foldl (fun current path => current.bind (effect path)) outcome

theorem pass_none (effect : Path → Store → Option Store) (paths : List Path) :
    pass effect paths none = none := by
  induction paths with
  | nil => rfl
  | cons path paths ih => exact ih

/-- A pass behind a step. -/
theorem bind_pass (effect : Path → Store → Option Store) (paths : List Path)
    (outcome : Option Store) :
    (outcome.bind fun store => pass effect paths (some store)) = pass effect paths outcome := by
  cases outcome with
  | none => exact (pass_none effect paths).symm
  | some store => rfl

section Records

variable {stages : Record → Stage Store Unit}

theorem leaves_forM (loaded : Loaded store paths recordOf)
    (each : ∀ path ∈ paths, IsLocalTo (recordOf path) (stages (recordOf path))) :
    Leaves (paths.forM (workOn stages)) store
      (pass (fun path => (stages (recordOf path)).effect) paths (some store)) := by
  induction paths generalizing store with
  | nil => exact ⟨fun _ => rfl⟩
  | cons path paths ih =>
      have member : path ∈ path :: paths := by simp
      have isLocal := each path member
      rcases isLocal store with ⟨result, outputs, _, ended⟩
      change Leaves _ store (pass _ paths ((stages (recordOf path)).effect store))
      rw [← bind_pass]
      apply (Leaves.workOn (loaded.load path member) (ended store rfl)).bind
      intro _ after left
      apply ih
      · exact (loaded.of_effect member isLocal left).of_subset (List.subset_cons_self _ _)
      · intro other otherMem
        exact each other (List.mem_cons_of_mem _ otherMem)

/-- A command on named records works through their files. -/
theorem Leaves.forEachRecord {selection : Selection} (named : selection.named ≠ [])
    (each : Leaves (selection.files.forM (Command.workOn stages)) store outcome) :
    Leaves (Command.forEachRecord selection stages) store outcome := by
  have found : Record.discover store selection.directory selection.named = .ok selection.files := by
    simp [Record.discover, named, Selection.files]
  have some : selection.files.isEmpty = false := by
    simpa [Selection.files] using named
  apply Leaves.after_get
  intro events
  dsimp only
  rw [found]
  dsimp only
  rw [some]
  exact each

end Records

section Stages

variable {record : Record}

/-- Acquiring as the stage of a command. -/
def fetching (remote : Remote) (record : Record) : Stage Store Unit :=
  discard (Acquire.acquire remote record false)

/-- Rebuilding as the stage of a command. -/
def rebuilding (record : Record) : Stage Store Unit :=
  discard (Rebuild.rebuild record)

/-- Writing placeholders as the stage of a command. -/
def stubbing (record : Record) : Stage Store Unit :=
  discard (Placeholders.fill record)

theorem isLocal_fetching (remote : Remote) (record : Record) :
    IsLocalTo record (fetching remote record) :=
  (Acquire.isLocal_acquire remote record false).discard

theorem isLocal_rebuilding (record : Record) :
    IsLocalTo record (rebuilding record) :=
  (Rebuild.isLocal_rebuild record).discard

theorem isLocal_stubbing (plain : record.HasPlainTree) (valid : record.defect? = none) :
    IsLocalTo record (stubbing record) :=
  Placeholders.isLocal_fill plain valid (by simp [Record.readRoots]) (by simp [Record.writeRoots])

theorem isLocal_allStages (remote : Remote) (skipDownload : Bool) (plain : record.HasPlainTree)
    (valid : record.defect? = none) :
    IsLocalTo record (allStages remote skipDownload record) := by
  have later : IsLocalTo record (rebuilding record >>= fun _ => stubbing record) :=
    (isLocal_rebuilding record).andThen fun _ => isLocal_stubbing plain valid
  cases skipDownload with
  | true => exact later
  | false => exact (isLocal_fetching remote record).andThen fun _ => later

end Stages

end Command

end SourceTree
