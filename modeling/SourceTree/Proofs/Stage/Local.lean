import SourceTree.Proofs.Files.Region

/-!
# Stages with a footprint

A stage is local if it reads in some directories only and writes in some directories only: on two
stores with the same part in what it reads, it answers the same and writes the same files. The
writes of one stage are then invisible to another that reads elsewhere, so two such stages can be
run in either order: whether both answer, and the files behind them, is the same.

Locality is closed under putting stages together, so it is shown by going through the definition of
a stage. A step may rely on what the step before it can answer: a listing of a directory answers
with paths in it.
-/

namespace SourceTree.Stage

variable {α β : Type} {reads writes : List Path}

/-- What the stage does is settled by the part of the store in `reads`, and it writes in `writes`
only. -/
def IsLocal (reads writes : List Path) (stage : Stage Store α) : Prop :=
  ∀ store : Store, ∃ result outputs, (∀ output ∈ outputs, output.1.isIn writes = true) ∧
    ∀ other : Store, other.restrict reads = store.restrict reads →
      Ends stage other result (other.writes outputs)

theorem Ends.discard {stage : Stage Store α} {store after : Store} {result : Except StageError α}
    (ends : Ends stage store result after) :
    Ends (discard stage) store (result.map fun _ => ()) after := by
  intro events
  rcases ends events with ⟨told, ran⟩
  refine ⟨told, ?_⟩
  have mapped : (Functor.discard stage : Stage Store Unit) = stage >>= fun _ => Pure.pure () := rfl
  rw [mapped, run_bind, ran]
  cases result <;> rfl

namespace IsLocal

/-- A stage that leaves the files alone and answers the same on stores with the same part. -/
theorem of_ends {stage : Stage Store α}
    (ends : ∀ store : Store, ∃ result, ∀ other : Store,
      other.restrict reads = store.restrict reads → Ends stage other result other) : IsLocal reads writes stage := by
  intro store
  rcases ends store with ⟨result, ended⟩
  exact ⟨result, [], by simp, ended⟩

theorem pure (value : α) : IsLocal reads writes (pure value : Stage Store α) :=
  of_ends fun _ => ⟨.ok value, fun _ _ => Ends.pure value⟩

theorem tell (level : Level) (origin : Origin) (message : String) :
    IsLocal reads writes (Stage.tell level origin message) :=
  of_ends fun _ => ⟨.ok (), fun _ _ => Ends.tell level origin message⟩

theorem list {root : Path} (inside : root.isIn reads = true) :
    IsLocal reads writes (Stage.list root) := by
  apply of_ends
  intro store
  cases listed : FileSystem.list store root with
  | ok paths =>
      refine ⟨.ok paths, fun other agree => Ends.list_ok ?_⟩
      rw [Store.list_of_agree agree inside, listed]
  | error error =>
      refine ⟨.error (.list root error), fun other agree => Ends.list_error ?_⟩
      rw [Store.list_of_agree agree inside, listed]

theorem readLossy {path : Path} (inside : path.isIn reads = true) :
    IsLocal reads writes (Stage.readLossy path) := by
  apply of_ends
  intro store
  cases found : FileSystem.readBytes store path with
  | ok content =>
      refine ⟨.ok (Text.Utf8.decodeLossy content), fun other agree => Ends.readLossy_ok ?_⟩
      rw [Store.readBytes_of_agree agree inside, found]
  | error error =>
      refine ⟨.error (.read path error), fun other agree => Ends.readLossy_error ?_⟩
      rw [Store.readBytes_of_agree agree inside, found]

theorem write {path : Path} (readable : path.isIn reads = true) (writable : path.isIn writes = true)
    (text : String) : IsLocal reads writes (Stage.write path text) := by
  intro store
  cases directory : store.isDirectory path with
  | false =>
      refine ⟨.ok (), [(path, text)], by simpa using writable, fun other agree => ?_⟩
      have free := (Store.isDirectory_of_agree agree readable).trans directory
      exact Ends.write_ok (Store.write_of_not_isDirectory free text)
  | true =>
      refine ⟨.error (.write path (.directoryInTheWay path)), [], by simp, fun other agree => ?_⟩
      have blocked := (Store.isDirectory_of_agree agree readable).trans directory
      exact Ends.write_error (Store.write_of_isDirectory blocked text)

theorem bind {stage : Stage Store α} {next : α → Stage Store β}
    (first : IsLocal reads writes stage)
    (second : ∀ store value after, Ends stage store (.ok value) after →
      IsLocal reads writes (next value)) : IsLocal reads writes (stage >>= next) := by
  intro store
  rcases first store with ⟨result, outputs, inside, ended⟩
  cases result with
  | error error => exact ⟨.error error, outputs, inside, fun other agree =>
      (ended other agree).bind_error⟩
  | ok value =>
      rcases second _ _ _ (ended store rfl) (store.writes outputs) with
        ⟨answer, later, laterInside, laterEnded⟩
      refine ⟨answer, outputs ++ later, ?_, ?_⟩
      · intro output member
        rcases List.mem_append.1 member with early | late
        · exact inside output early
        · exact laterInside output late
      · intro other agree
        rw [Store.writes_append]
        apply (ended other agree).bind
        exact laterEnded _ (Store.restrict_writes_congr agree outputs)

/-- The next step is local whatever the first one answers. -/
theorem andThen {stage : Stage Store α} {next : α → Stage Store β}
    (first : IsLocal reads writes stage) (second : ∀ value, IsLocal reads writes (next value)) :
    IsLocal reads writes (stage >>= next) :=
  first.bind fun _ value _ _ => second value

theorem after_tell {level : Level} {origin : Origin} {message : String}
    {next : Unit → Stage Store α} (rest : IsLocal reads writes (next ())) :
    IsLocal reads writes (Stage.tell level origin message >>= next) :=
  (tell level origin message).andThen fun _ => rest

/-- A step that looks at the files, but cannot tell apart stores with the same part. -/
theorem files {next : Store → Stage Store α}
    (same : ∀ store other : Store, other.restrict reads = store.restrict reads →
      next other = next store)
    (each : ∀ store, IsLocal reads writes (next store)) :
    IsLocal reads writes (Stage.files >>= next) := by
  intro store
  rcases each store store with ⟨result, outputs, inside, ended⟩
  refine ⟨result, outputs, inside, fun other agree => Ends.files_ok.bind ?_⟩
  rw [same store other agree]
  exact ended other agree

theorem foldlM {step : β → α → Stage Store β} {items : List α} (start : β)
    (each : ∀ value, ∀ item ∈ items, IsLocal reads writes (step value item)) :
    IsLocal reads writes (items.foldlM step start) := by
  induction items generalizing start with
  | nil => exact pure start
  | cons item items ih =>
      apply (each start item (by simp)).andThen
      intro value
      apply ih
      intro other later member
      exact each other later (List.mem_cons_of_mem _ member)

theorem discard {stage : Stage Store α} (isLocal : IsLocal reads writes stage) :
    IsLocal reads writes (discard stage) := by
  intro store
  rcases isLocal store with ⟨result, outputs, inside, ended⟩
  exact ⟨_, outputs, inside, fun other agree => (ended other agree).discard⟩

end IsLocal

/-- What is listed below a directory is within it. -/
theorem isWithin_of_ends_list {root path : Path} {store after : Store} {paths : List Path}
    (ends : Ends (Stage.list root) store (.ok paths) after) (member : path ∈ paths) :
    path.isWithin root = true := by
  cases directory : store.isDirectory root with
  | true =>
      have listed := Ends.list_ok (Store.list_of_isDirectory directory)
      cases (ends.unique listed).1
      exact (List.mem_filter.1 member).2
  | false =>
      have refused := Ends.list_error (Store.list_of_not_isDirectory directory)
      cases (ends.unique refused).1

/-- The files behind a stage that answers. -/
def effect (stage : Stage Store α) (store : Store) : Option Store :=
  match stage ⟨store, #[]⟩ with
  | (.ok _, after) => some after.files
  | (.error _, _) => none

theorem Ends.effect_eq {stage : Stage Store α} {store after : Store}
    {result : Except StageError α} (ends : Ends stage store result after) :
    stage.effect store = result.toOption.map fun _ => after := by
  rcases ends #[] with ⟨told, ran⟩
  rw [effect, ran]
  cases result <;> rfl

section Effects

variable {otherReads otherWrites : List Path} {first : Stage Store α} {second : Stage Store β}

/-- The effect of a local stage is a row of writes, or nothing, on all stores with the same part. -/
theorem IsLocal.exists_effect (isLocal : IsLocal reads writes first) (store : Store) :
    ∃ outputs? : Option (List (Path × String)),
      (∀ outputs ∈ outputs?, ∀ output ∈ outputs, output.1.isIn writes = true) ∧
        ∀ other : Store, other.restrict reads = store.restrict reads →
          first.effect other = outputs?.map other.writes := by
  rcases isLocal store with ⟨result, outputs, inside, ended⟩
  refine ⟨result.toOption.map fun _ => outputs, ?_, ?_⟩
  · intro _ member
    rcases Option.map_eq_some_iff.1 member with ⟨_, _, rfl⟩
    exact inside
  · intro other agree
    rw [(ended other agree).effect_eq, Option.map_map]
    rfl

/-- What lies in directories that are not nested with others does not lie in the others. -/
theorem isIn_eq_false_of_apart {roots others : List Path} {path : Path}
    (apart : ∀ root ∈ roots, ∀ other ∈ others, root.isNested other = false)
    (inside : path.isIn roots = true) : path.isIn others = false := by
  rw [Bool.eq_false_iff]
  intro insideOther
  rcases Path.isIn_iff.1 inside with ⟨root, member, within⟩
  rcases Path.isIn_iff.1 insideOther with ⟨other, otherMember, otherWithin⟩
  have nested := Path.isNested_of_isWithin within otherWithin
  simp [apart root member other otherMember] at nested

/-- Stages that write where the other does not read can be run in either order. -/
theorem IsLocal.effect_comm (firstLocal : IsLocal reads writes first)
    (secondLocal : IsLocal otherReads otherWrites second)
    (unread : ∀ root ∈ writes, ∀ other ∈ otherReads, root.isNested other = false)
    (otherUnread : ∀ root ∈ otherWrites, ∀ other ∈ reads, root.isNested other = false)
    (covered : ∀ root ∈ otherWrites, root ∈ otherReads) (store : Store) :
    (first.effect store).bind second.effect = (second.effect store).bind first.effect := by
  rcases firstLocal.exists_effect store with ⟨firstOutputs?, firstInside, firstEffect⟩
  rcases secondLocal.exists_effect store with ⟨secondOutputs?, secondInside, secondEffect⟩
  rw [firstEffect store rfl, secondEffect store rfl]
  -- Behind the writes of one stage, the other finds its part as it was.
  have afterFirst : ∀ outputs ∈ firstOutputs?,
      second.effect (store.writes outputs) = secondOutputs?.map (store.writes outputs).writes := by
    intro outputs member
    apply secondEffect
    apply Store.restrict_writes_of_outside
    intro output outputMem
    exact isIn_eq_false_of_apart unread (firstInside outputs member output outputMem)
  have afterSecond : ∀ outputs ∈ secondOutputs?,
      first.effect (store.writes outputs) = firstOutputs?.map (store.writes outputs).writes := by
    intro outputs member
    apply firstEffect
    apply Store.restrict_writes_of_outside
    intro output outputMem
    exact isIn_eq_false_of_apart otherUnread (secondInside outputs member output outputMem)
  cases firstOutputs? with
  | none =>
      cases secondOutputs? with
      | none => rfl
      | some outputs => exact (afterSecond outputs rfl).symm
  | some outputs =>
      cases secondOutputs? with
      | none => exact afterFirst outputs rfl
      | some others =>
          refine (afterFirst outputs rfl).trans (Eq.trans ?_ (afterSecond others rfl).symm)
          refine congrArg some (Store.writes_comm ?_)
          intro output outputMem other otherMem
          rw [Bool.eq_false_iff]
          intro same
          have outside := isIn_eq_false_of_apart unread (firstInside outputs rfl output outputMem)
          have inWrites := secondInside others rfl other otherMem
          rcases Path.isIn_iff.1 inWrites with ⟨root, member, within⟩
          rw [Path.isIn_congr (Path.same_iff.1 same),
            Path.isIn_of_mem (covered root member) within] at outside
          cases outside

end Effects

end SourceTree.Stage
