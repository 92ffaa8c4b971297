import SourceTree.Stage.Basic

/-!
# How stages end

A stage reads and changes the files of its session and only ever adds events. So what it answers
and what it does to the files depends on the files alone, and `Ends` says exactly that: on these
files, whatever was told before, the stage ends with this answer and leaves these files. Each way
of putting stages together has a rule for `Ends`, and a stage ends in one way only, so a rule about
the end of a stage is a rule about every run of it.
-/

namespace SourceTree.Stage

variable {σ : Type} {α β : Type}

/-- On `files`, the stage ends with `result` and leaves `after`. -/
def Ends (stage : Stage σ α) (files : σ) (result : Except StageError α) (after : σ) : Prop :=
  ∀ events, ∃ told, stage ⟨files, events⟩ = (result, ⟨after, told⟩)

/-- A stage ends in one way only. -/
theorem Ends.eq_of_run {stage : Stage σ α} {session after : Session σ} {files : σ}
    {result answer : Except StageError α} (ends : Ends stage session.files result files)
    (ran : stage session = (answer, after)) : answer = result ∧ after.files = files := by
  rcases ends session.events with ⟨told, shape⟩
  rw [show (⟨session.files, session.events⟩ : Session σ) = session from rfl, ran] at shape
  cases shape
  exact ⟨rfl, rfl⟩

@[inherit_doc Ends.eq_of_run]
theorem Ends.unique {stage : Stage σ α} {files after other : σ}
    {result answer : Except StageError α} (first : Ends stage files result after)
    (second : Ends stage files answer other) : result = answer ∧ after = other := by
  rcases first #[] with ⟨told, ran⟩
  exact second.eq_of_run ran

/-- How two steps run one behind the other, whatever they fail with and work on. -/
theorem run_bind {ε ρ : Type} (stage : ExceptT ε (StateM ρ) α) (next : α → ExceptT ε (StateM ρ) β)
    (session : ρ) :
    (stage >>= next) session =
      match stage session with
      | (.ok value, between) => next value between
      | (.error error, between) => (.error error, between) := by
  change (match stage session with
    | (result, between) => ExceptT.bindCont next result between) = _
  rcases stage session with ⟨_ | _, between⟩ <;> rfl

/-- A step that answers has each of its parts answer. -/
theorem run_bind_eq_ok_iff {ε ρ : Type} {stage : ExceptT ε (StateM ρ) α}
    {next : α → ExceptT ε (StateM ρ) β} {session after : ρ} {value : β} :
    (stage >>= next) session = (.ok value, after) ↔
      ∃ middle between, stage session = (.ok middle, between) ∧
        next middle between = (.ok value, after) := by
  rw [run_bind]
  constructor
  · intro ran
    rcases outcome : stage session with ⟨_ | middle, between⟩
    · rw [outcome] at ran
      cases ran
    · rw [outcome] at ran
      exact ⟨middle, between, rfl, ran⟩
  · rintro ⟨middle, between, first, second⟩
    rw [first]
    exact second

/-- What every answering step of a loop preserves holds at the end of an answering loop. -/
theorem foldlM_invariant {step : β → α → Stage σ β} {items : List α} (invariant : β → σ → Prop)
    (preserved : ∀ value item session next after, item ∈ items → invariant value session.files →
      step value item session = (.ok next, after) → invariant next after.files)
    {start last : β} {session after : Session σ} (initially : invariant start session.files)
    (ran : items.foldlM step start session = (.ok last, after)) : invariant last after.files := by
  induction items generalizing start session with
  | nil =>
      cases ran
      exact initially
  | cons item items ih =>
      rw [List.foldlM_cons, run_bind_eq_ok_iff] at ran
      rcases ran with ⟨middle, between, first, rest⟩
      refine ih ?_ (preserved _ item _ _ _ (by simp) initially first) rest
      intro value other session next after member
      exact preserved value other session next after (List.mem_cons_of_mem _ member)

/-- Two loops run alike if their steps do on the files at the start and leave these alone. -/
theorem foldlM_congr {step other : β → α → Stage σ β} {files : σ} {items : List α}
    (alike : ∀ value, ∀ item ∈ items, ∀ events,
      other value item ⟨files, events⟩ = step value item ⟨files, events⟩)
    (keep : ∀ value, ∀ item ∈ items, ∃ next, Ends (step value item) files (.ok next) files)
    (start : β) (events : Array Event) :
    items.foldlM other start ⟨files, events⟩ = items.foldlM step start ⟨files, events⟩ := by
  induction items generalizing start events with
  | nil => rfl
  | cons item items ih =>
      rcases keep start item (by simp) with ⟨next, ends⟩
      rcases ends events with ⟨told, ran⟩
      rw [List.foldlM_cons, List.foldlM_cons, run_bind, run_bind, alike start item (by simp), ran]
      apply ih
      · intro value later member
        exact alike value later (List.mem_cons_of_mem _ member)
      · intro value later member
        exact keep value later (List.mem_cons_of_mem _ member)

namespace Ends

variable {files between after : σ}

theorem pure (value : α) : Ends (pure value : Stage σ α) files (.ok value) files := by
  intro events
  exact ⟨events, rfl⟩

theorem throw (error : StageError) : Ends (throw error : Stage σ α) files (.error error) files := by
  intro events
  exact ⟨events, rfl⟩

theorem bind {stage : Stage σ α} {next : α → Stage σ β} {value : α}
    {result : Except StageError β} (first : Ends stage files (.ok value) between)
    (second : Ends (next value) between result after) :
    Ends (stage >>= next) files result after := by
  intro events
  rcases first events with ⟨told, firstRan⟩
  rcases second told with ⟨told, secondRan⟩
  refine ⟨told, ?_⟩
  rw [run_bind, firstRan]
  exact secondRan

theorem bind_error {stage : Stage σ α} {next : α → Stage σ β} {error : StageError}
    (first : Ends stage files (.error error) after) :
    Ends (stage >>= next) files (.error error) after := by
  intro events
  rcases first events with ⟨told, firstRan⟩
  refine ⟨told, ?_⟩
  rw [run_bind, firstRan]

theorem tell (level : Level) (origin : Origin) (message : String) :
    Ends (Stage.tell level origin message) files (.ok ()) files := by
  intro events
  exact ⟨events.push ⟨level, origin, message⟩, rfl⟩

/-- Telling something first changes nothing. -/
theorem after_tell {level : Level} {origin : Origin} {message : String} {next : Unit → Stage σ α}
    {result : Except StageError α} (rest : Ends (next ()) files result after) :
    Ends (Stage.tell level origin message >>= next) files result after :=
  (tell level origin message).bind rest

theorem files_ok : Ends Stage.files files (.ok files) files := by
  intro events
  exact ⟨events, rfl⟩

/-- A loop that always answers and leaves the files alone is a loop over values. -/
theorem foldlM_keep {step : β → α → Stage σ β} {advance : β → α → β} {items : List α} (start : β)
    (each : ∀ value, ∀ item ∈ items,
      Ends (step value item) files (.ok (advance value item)) files) :
    Ends (items.foldlM step start) files (.ok (items.foldl advance start)) files := by
  induction items generalizing start with
  | nil => exact pure start
  | cons item items ih =>
      apply (each start item (by simp)).bind
      apply ih
      intro value other member
      exact each value other (List.mem_cons_of_mem _ member)

/-- A loop that always answers is a loop over values and files. -/
theorem foldlM {step : β → α → Stage σ β} {advance : β × σ → α → β × σ} (items : List α)
    (start : β × σ)
    (each : ∀ state item, Ends (step state.1 item) state.2 (.ok (advance state item).1)
      (advance state item).2) :
    Ends (items.foldlM step start.1) start.2 (.ok (items.foldl advance start).1)
      (items.foldl advance start).2 := by
  induction items generalizing start with
  | nil => exact pure start.1
  | cons item items ih => exact (each start item).bind (ih (advance start item))

variable [FileSystem σ]

theorem list_ok {root : Path} {paths : List Path}
    (listed : FileSystem.list files root = .ok paths) :
    Ends (Stage.list root) files (.ok paths) files := by
  apply files_ok.bind
  rw [listed]
  exact pure paths

theorem list_error {root : Path} {error : FileError}
    (refused : FileSystem.list files root = .error error) :
    Ends (Stage.list root) files (.error (.list root error)) files := by
  apply files_ok.bind
  rw [refused]
  exact throw (.list root error)

theorem readLossy_ok {path : Path} {content : ByteArray}
    (found : FileSystem.readBytes files path = .ok content) :
    Ends (Stage.readLossy path) files (.ok (Text.Utf8.decodeLossy content)) files := by
  apply files_ok.bind
  rw [found]
  exact pure _

theorem readLossy_error {path : Path} {error : FileError}
    (refused : FileSystem.readBytes files path = .error error) :
    Ends (Stage.readLossy path) files (.error (.read path error)) files := by
  apply files_ok.bind
  rw [refused]
  exact throw (.read path error)

theorem write (path : Path) (text : String) :
    Ends (Stage.write path text) files
      ((FileSystem.write files path text).1.mapError (.write path))
      (FileSystem.write files path text).2 := by
  intro events
  refine ⟨events, ?_⟩
  simp only [Stage.write, run_bind]
  rw [show (get : Stage σ (Session σ)) ⟨files, events⟩ = (.ok ⟨files, events⟩, ⟨files, events⟩)
    from rfl]
  dsimp only
  rcases FileSystem.write files path text with ⟨_ | _, after⟩
  · rfl
  · rfl

theorem write_ok {path : Path} {text : String}
    (written : FileSystem.write files path text = (.ok (), after)) :
    Ends (Stage.write path text) files (.ok ()) after := by
  have ended : Ends (Stage.write path text) files _ _ := write path text
  rw [written] at ended
  exact ended

theorem write_error {path : Path} {text : String} {error : FileError}
    (refused : FileSystem.write files path text = (.error error, after)) :
    Ends (Stage.write path text) files (.error (.write path error)) after := by
  have ended : Ends (Stage.write path text) files _ _ := write path text
  rw [refused] at ended
  exact ended

end Ends

section Reading

variable [FileSystem σ] {session after : Session σ}

theorem files_of_list {root : Path} {result : Except StageError (List Path)}
    (ran : Stage.list root session = (result, after)) : after.files = session.files := by
  cases listed : FileSystem.list session.files root with
  | ok paths => exact ((Ends.list_ok listed).eq_of_run ran).2
  | error error => exact ((Ends.list_error listed).eq_of_run ran).2

theorem files_of_readLossy {path : Path} {result : Except StageError String}
    (ran : Stage.readLossy path session = (result, after)) : after.files = session.files := by
  cases found : FileSystem.readBytes session.files path with
  | ok content => exact ((Ends.readLossy_ok found).eq_of_run ran).2
  | error error => exact ((Ends.readLossy_error found).eq_of_run ran).2

end Reading

end SourceTree.Stage
