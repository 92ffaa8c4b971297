import SourceTree.Proofs.Files.Store
import SourceTree.Proofs.Stage.Ends

/-!
# Stages that write files in a row

A stage on a store often writes a list of files known beforehand. Either all of them get written, or
the stage stops in front of the first one whose path is a directory at its turn, which may have come
about by the writes before it. `WritesOut` says that a stage does so, and it is closed under putting
stages in sequence. What is in the store then is a matter of the list alone: each path has the
content of the last write to it.
-/

namespace SourceTree

/-- The store with files written one after the other, without asking what is there. -/
def Store.writes (store : Store) (outputs : List (Path × String)) : Store :=
  outputs.foldl (fun store output => store.place output.1 output.2.toUTF8) store

/-- Whether each output can be written at its turn: nothing that is there, or was written before it,
makes a directory of its path. -/
def Store.Admits (store : Store) (outputs : List (Path × String)) : Prop :=
  ∀ before output later, outputs = before ++ output :: later →
    (store.writes before).isDirectory output.1 = false

/-- The content of the last output to a path, whatever the spelling. -/
def lastOutput? (outputs : List (Path × String)) (query : Path) : Option ByteArray :=
  (outputs.filter (·.1.same query)).getLast?.map (·.2.toUTF8)

namespace Store

variable {store : Store} {first second : List (Path × String)}

theorem writes_cons (store : Store) (output : Path × String) (outputs : List (Path × String)) :
    store.writes (output :: outputs) = (store.place output.1 output.2.toUTF8).writes outputs :=
  rfl

theorem writes_append (store : Store) (first second : List (Path × String)) :
    store.writes (first ++ second) = (store.writes first).writes second :=
  List.foldl_append

theorem directories_writes (store : Store) (outputs : List (Path × String)) :
    (store.writes outputs).directories = store.directories := by
  induction outputs generalizing store with
  | nil => rfl
  | cons output outputs ih => exact ih (store.place output.1 output.2.toUTF8)

/-- Each path has the content of the last output to it, and what no output went to is kept. -/
theorem content?_writes (store : Store) (outputs : List (Path × String)) (query : Path) :
    (store.writes outputs).content? query =
      (lastOutput? outputs query).or (store.content? query) := by
  induction outputs generalizing store with
  | nil => rfl
  | cons output outputs ih =>
      rw [writes_cons, ih, content?_place, lastOutput?, lastOutput?]
      by_cases key : query.components = output.1.components
      · have same : output.1.same query = true := by simp [Path.same, key]
        rw [if_pos key, List.filter_cons, if_pos same, List.getLast?_cons]
        cases (outputs.filter (·.1.same query)).getLast? <;> rfl
      · have other : ¬output.1.same query = true := by simpa [Path.same] using Ne.symm key
        rw [if_neg key, List.filter_cons, if_neg other]

/-- Outputs elsewhere leave a file alone. -/
theorem content?_writes_of_forall_ne {outputs : List (Path × String)} {query : Path}
    (elsewhere : ∀ output ∈ outputs, output.1.same query = false) :
    (store.writes outputs).content? query = store.content? query := by
  have none : outputs.filter (·.1.same query) = [] := by
    simpa [List.filter_eq_nil_iff] using elsewhere
  rw [content?_writes, lastOutput?, none]
  rfl

theorem Admits.nil : store.Admits [] := by
  intro before output later cut
  simp at cut

theorem Admits.singleton {output : Path × String} (free : store.isDirectory output.1 = false) :
    store.Admits [output] := by
  intro before other later cut
  rw [List.singleton_eq_append_iff] at cut
  rcases cut with ⟨rfl, cut⟩ | ⟨_, cut⟩
  · cases cut
    exact free
  · cases cut

theorem Admits.append (firstAdmitted : store.Admits first)
    (secondAdmitted : (store.writes first).Admits second) : store.Admits (first ++ second) := by
  intro before output later cut
  rcases List.append_eq_append_iff.1 cut with ⟨middle, rfl, behind⟩ | ⟨middle, rfl, behind⟩
  · rw [writes_append]
    exact secondAdmitted middle output later behind
  · cases middle with
    | nil =>
        rw [List.append_nil] at secondAdmitted
        exact secondAdmitted [] output later behind.symm
    | cons other middle =>
        rw [List.cons_append] at behind
        cases behind
        exact firstAdmitted before output middle rfl

end Store

namespace Stage

/-- The stage writes `outputs` in turn and answers `value`, or it stops in front of the first one
whose path is a directory then. -/
def WritesOut {α : Type} (stage : Stage Store α) (store : Store) (outputs : List (Path × String))
    (value : α) : Prop :=
  store.Admits outputs ∧ Ends stage store (.ok value) (store.writes outputs) ∨
    ∃ before output later, outputs = before ++ output :: later ∧ store.Admits before ∧
      (store.writes before).isDirectory output.1 = true ∧
      Ends stage store (.error (.write output.1 (.directoryInTheWay output.1)))
        (store.writes before)

namespace WritesOut

variable {α β : Type} {store : Store} {first second : List (Path × String)}

/-- A stage that leaves the files alone writes out nothing. -/
theorem of_ends {stage : Stage Store α} {value : α}
    (ends : Ends stage store (.ok value) store) : WritesOut stage store [] value :=
  Or.inl ⟨Store.Admits.nil, ends⟩

theorem write (store : Store) (path : Path) (text : String) :
    WritesOut (Stage.write path text) store [(path, text)] () := by
  cases directory : store.isDirectory path with
  | false =>
      left
      exact ⟨Store.Admits.singleton directory,
        Ends.write_ok (Store.write_of_not_isDirectory directory text)⟩
  | true =>
      right
      refine ⟨[], (path, text), [], rfl, Store.Admits.nil, directory, ?_⟩
      exact Ends.write_error (Store.write_of_isDirectory directory text)

theorem bind {stage : Stage Store α} {next : α → Stage Store β} {middle : α} {value : β}
    (firstOut : WritesOut stage store first middle)
    (secondOut : WritesOut (next middle) (store.writes first) second value) :
    WritesOut (stage >>= next) store (first ++ second) value := by
  rcases firstOut with ⟨admitted, ended⟩ | ⟨before, output, later, rfl, admitted, blocked, ended⟩
  · rcases secondOut with ⟨rest, endedRest⟩ | ⟨before, output, later, rfl, rest, blocked, endedRest⟩
    · left
      refine ⟨admitted.append rest, ?_⟩
      rw [Store.writes_append]
      exact ended.bind endedRest
    · right
      refine ⟨first ++ before, output, later, by simp, admitted.append rest, ?_⟩
      rw [Store.writes_append]
      exact ⟨blocked, ended.bind endedRest⟩
  · right
    exact ⟨before, output, later ++ second, by simp, admitted, blocked, ended.bind_error⟩

/-- A stage followed by one that leaves the files alone. -/
theorem bind_ends {stage : Stage Store α} {next : α → Stage Store β} {middle : α} {value : β}
    (firstOut : WritesOut stage store first middle)
    (rest : Ends (next middle) (store.writes first) (.ok value) (store.writes first)) :
    WritesOut (stage >>= next) store first value := by
  have whole := firstOut.bind (of_ends rest)
  rw [List.append_nil] at whole
  exact whole

/-- A stage behind one that leaves the files alone. -/
theorem after_ends {stage : Stage Store α} {next : α → Stage Store β} {middle : α} {value : β}
    (start : Ends stage store (.ok middle) store)
    (rest : WritesOut (next middle) store first value) :
    WritesOut (stage >>= next) store first value :=
  (of_ends start).bind rest

/-- A loop whose steps write out, as long as the store satisfies what each of them needs. -/
theorem foldlM {step : β → α → Stage Store β} {advance : β → α → β}
    {outputs : α → List (Path × String)} {items : List α} (needed : Store → Prop) (start : β)
    (each : ∀ value, ∀ item ∈ items, ∀ store, needed store →
      WritesOut (step value item) store (outputs item) (advance value item))
    (kept : ∀ item ∈ items, ∀ store, needed store → needed (store.writes (outputs item)))
    (initially : needed store) :
    WritesOut (items.foldlM step start) store (items.flatMap outputs)
      (items.foldl advance start) := by
  induction items generalizing start store with
  | nil => exact of_ends (Ends.pure start)
  | cons item items ih =>
      have member : item ∈ item :: items := by simp
      apply (each start item member store initially).bind
      apply ih
      · intro value other otherMem
        exact each value other (List.mem_cons_of_mem _ otherMem)
      · intro other otherMem
        exact kept other (List.mem_cons_of_mem _ otherMem)
      · exact kept item member store initially

/-- A loop whose steps write out on every store. -/
theorem foldlM_always {step : β → α → Stage Store β} {advance : β → α → β}
    {outputs : α → List (Path × String)} {items : List α} (start : β)
    (each : ∀ value item store, WritesOut (step value item) store (outputs item)
      (advance value item)) :
    WritesOut (items.foldlM step start) store (items.flatMap outputs)
      (items.foldl advance start) :=
  foldlM (fun _ => True) start (fun value item _ store _ => each value item store)
    (fun _ _ _ _ => True.intro) True.intro

/-- Outputs that are admitted get written. -/
theorem ends {stage : Stage Store α} {value : α} (out : WritesOut stage store first value)
    (admitted : store.Admits first) : Ends stage store (.ok value) (store.writes first) := by
  rcases out with ⟨_, ended⟩ | ⟨before, output, later, cut, _, blocked, _⟩
  · exact ended
  · rw [admitted before output later cut] at blocked
    cases blocked

/-- If the stage answers, its outputs were admitted. -/
theorem admits_of_ends {stage : Stage Store α} {value answer : α} {after : Store}
    (out : WritesOut stage store first value) (ends : Ends stage store (.ok answer) after) :
    store.Admits first ∧ after = store.writes first := by
  rcases out with ⟨admitted, ended⟩ | ⟨_, _, _, _, _, _, ended⟩
  · exact ⟨admitted, (ends.unique ended).2⟩
  · cases (ends.unique ended).1

end WritesOut

end Stage

end SourceTree
