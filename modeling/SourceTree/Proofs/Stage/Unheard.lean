import SourceTree.Command.Execute
import SourceTree.Proofs.Stage.Ends

/-!
# Events are told and not heard

No stage and no command looks at the events so far. So what it answers and the files it leaves
depend on the files alone, whatever was told before. This is closed under putting steps together,
so it is shown by going through the definitions.
-/

namespace SourceTree

variable {σ ε α β : Type}

/-- What a step answers and the files it leaves. -/
def outcome (work : ExceptT ε (StateM (Session σ)) α) (session : Session σ) : Except ε α × σ :=
  ((work session).1, (work session).2.files)

/-- The events so far make no difference to the outcome. -/
structure IgnoresEvents (work : ExceptT ε (StateM (Session σ)) α) : Prop where
  same : ∀ files events others, outcome work ⟨files, events⟩ = outcome work ⟨files, others⟩

theorem outcome_bind (work : ExceptT ε (StateM (Session σ)) α)
    (next : α → ExceptT ε (StateM (Session σ)) β) (session : Session σ) :
    outcome (work >>= next) session =
      match work session with
      | (.ok value, between) => outcome (next value) between
      | (.error error, between) => (.error error, between.files) := by
  simp only [outcome, Stage.run_bind]
  rcases work session with ⟨_ | _, between⟩ <;> rfl

namespace IgnoresEvents

theorem pure (value : α) : IgnoresEvents (pure value : ExceptT ε (StateM (Session σ)) α) :=
  ⟨fun _ _ _ => rfl⟩

theorem throw (error : ε) : IgnoresEvents (throw error : ExceptT ε (StateM (Session σ)) α) :=
  ⟨fun _ _ _ => rfl⟩

theorem bind {work : ExceptT ε (StateM (Session σ)) α}
    {next : α → ExceptT ε (StateM (Session σ)) β} (first : IgnoresEvents work)
    (rest : ∀ value, IgnoresEvents (next value)) : IgnoresEvents (work >>= next) := by
  refine ⟨fun files events others => ?_⟩
  have same := first.same files events others
  simp only [outcome_bind]
  simp only [outcome] at same
  generalize work ⟨files, events⟩ = ended at same ⊢
  generalize work ⟨files, others⟩ = endedAgain at same ⊢
  rcases ended with ⟨result, between, told⟩
  rcases endedAgain with ⟨answer, middle, heard⟩
  rcases Prod.mk.inj same with ⟨rfl, rfl⟩
  cases result with
  | error error => rfl
  | ok value => exact (rest value).same _ told heard

/-- A step that looks at the session, but only at its files. -/
theorem get_bind {next : Session σ → ExceptT ε (StateM (Session σ)) α}
    (same : ∀ files events others, next ⟨files, events⟩ = next ⟨files, others⟩)
    (each : ∀ session, IgnoresEvents (next session)) : IgnoresEvents (get >>= next) := by
  refine ⟨fun files events others => ?_⟩
  change outcome (next ⟨files, events⟩) _ = outcome (next ⟨files, others⟩) _
  rw [same files events others]
  apply (each _).same

theorem foldlM {step : β → α → ExceptT ε (StateM (Session σ)) β} {items : List α} (start : β)
    (each : ∀ value item, IgnoresEvents (step value item)) :
    IgnoresEvents (items.foldlM step start) := by
  induction items generalizing start with
  | nil => exact pure start
  | cons item items ih => exact (each start item).bind ih

theorem forM {step : α → ExceptT ε (StateM (Session σ)) PUnit} {items : List α}
    (each : ∀ item, IgnoresEvents (step item)) : IgnoresEvents (items.forM step) := by
  induction items with
  | nil => exact pure _
  | cons item items ih => exact (each item).bind fun _ => ih

theorem discard {stage : Stage σ α} (ignores : IgnoresEvents stage) :
    IgnoresEvents (discard stage : Stage σ Unit) :=
  ignores.bind fun _ => pure _

/-- A stage that ends in some way on all files ends in that way whatever was told. -/
theorem of_ends {stage : Stage σ α}
    (ends : ∀ files, ∃ result after, Stage.Ends stage files result after) :
    IgnoresEvents stage := by
  refine ⟨fun files events others => ?_⟩
  rcases ends files with ⟨result, after, ended⟩
  rcases ended events with ⟨told, ran⟩
  rcases ended others with ⟨heard, ranAgain⟩
  simp [outcome, ran, ranAgain]

theorem tell (level : Level) (origin : Origin) (message : String) :
    IgnoresEvents (Stage.tell level origin message : Stage σ Unit) :=
  of_ends fun _ => ⟨_, _, .tell level origin message⟩

theorem after_tell {level : Level} {origin : Origin} {message : String} {next : Unit → Stage σ α}
    (rest : IgnoresEvents (next ())) : IgnoresEvents (Stage.tell level origin message >>= next) :=
  (tell level origin message).bind fun _ => rest

theorem files : IgnoresEvents (Stage.files : Stage σ σ) :=
  of_ends fun _ => ⟨_, _, .files_ok⟩

variable [FileSystem σ]

theorem list (root : Path) : IgnoresEvents (Stage.list root : Stage σ (List Path)) := by
  apply files.bind
  intro files
  split
  · apply pure
  · apply throw

theorem readLossy (path : Path) : IgnoresEvents (Stage.readLossy path : Stage σ String) := by
  apply files.bind
  intro files
  split
  · apply pure
  · apply throw

theorem write (path : Path) (text : String) :
    IgnoresEvents (Stage.write path text : Stage σ Unit) :=
  of_ends fun _ => ⟨_, _, .write path text⟩

theorem acquire (remote : Remote) (record : Record) (dryRun : Bool) :
    IgnoresEvents (Acquire.acquire remote record dryRun : Stage σ Acquire.Report) := by
  have download : ∀ address target report,
      IgnoresEvents (Acquire.download remote address target report : Stage σ _) := by
    intro address target report
    apply after_tell
    split
    · apply (write ..).bind
      intro _
      exact after_tell (pure _)
    · exact after_tell (pure _)
  have provide : ∀ name report,
      IgnoresEvents (Acquire.provide remote record dryRun name report : Stage σ _) := by
    intro name report
    apply files.bind
    intro files
    split
    · apply pure
    · cases dryRun with
      | true => exact after_tell (pure _)
      | false => apply download
  apply (list _).bind
  intro paths
  apply IgnoresEvents.bind
  · apply foldlM
    intro report bundle
    apply (readLossy _).bind
    intro text
    split
    · exact after_tell (pure _)
    · apply provide
  · intro report
    exact after_tell (pure _)

theorem rebuild (record : Record) :
    IgnoresEvents (Rebuild.rebuild record : Stage σ Rebuild.Report) := by
  have writeEntry : ∀ document report entry,
      IgnoresEvents (Rebuild.writeEntry record document report entry : Stage σ _) := by
    intro document report entry
    simp only [Rebuild.writeEntry]
    split
    · exact after_tell (pure _)
    · apply (write ..).bind
      intro _
      exact after_tell (pure _)
  apply (list _).bind
  intro paths
  apply IgnoresEvents.bind
  · apply foldlM
    intro report document
    apply files.bind
    intro files
    split
    · exact after_tell (pure _)
    · apply (foldlM _ (writeEntry document)).bind
      intro report
      apply pure
  · intro report
    exact after_tell (pure _)

theorem fill (record : Record) :
    IgnoresEvents (Placeholders.fill record : Stage σ Placeholders.Report) := by
  have examine : ∀ source survey specifier,
      IgnoresEvents (Placeholders.examine record source survey specifier : Stage σ _) := by
    intro source survey specifier
    apply files.bind
    intro files
    split
    · exact after_tell (pure _)
    · split
      · apply pure
      · exact after_tell (pure _)
    · exact after_tell (pure _)
  have scan : ∀ survey source,
      IgnoresEvents (Placeholders.scan record survey source : Stage σ _) := by
    intro survey source
    apply (readLossy _).bind
    intro text
    exact foldlM _ (examine source)
  have create : ∀ created candidate,
      IgnoresEvents (Placeholders.create created candidate : Stage σ _) := by
    intro created candidate
    apply files.bind
    intro files
    split
    · apply pure
    · apply (write ..).bind
      intro _
      exact after_tell (pure _)
  apply files.bind
  intro files
  split
  · exact after_tell (pure _)
  · apply (list _).bind
    intro paths
    apply (foldlM {} scan).bind
    intro survey
    apply (foldlM [] create).bind
    intro created
    exact after_tell (pure _)

theorem allStages (remote : Remote) (skipDownload : Bool) (record : Record) :
    IgnoresEvents (Command.allStages remote skipDownload record : Stage σ Unit) := by
  have later : IgnoresEvents (σ := σ) (do
      Functor.discard (Rebuild.rebuild record)
      Functor.discard (Placeholders.fill record)) :=
    (rebuild record).discard.bind fun _ => (fill record).discard
  cases skipDownload with
  | true => exact later
  | false => exact (acquire remote record false).discard.bind fun _ => later

end IgnoresEvents

end SourceTree
