import Mathlib.Data.List.Induction
import SourceTree.Proofs.Files.Fresh
import SourceTree.Proofs.Stage.Footprint

/-!
# The turns of a pass

A pass gives every document that a bundle names its turn, in the order of the bundles. What a turn
comes to depends on the files at that moment, and these are the files from before the pass with the
documents written that earlier turns have fetched. So a pass on a store is a row of turns, computed
from the names alone, and its report is a tally of them.

Bundles are read as they were before the pass, even where documents are kept among them: a document
is only written where nothing was.
-/

namespace SourceTree

namespace Record

/-- Where the document called `name` is kept. -/
def documentPath (record : Record) (name : String) : Path :=
  Bundle.localPath record.mapsPath name

/-- Where the document called `name` is fetched from: the base address, with the name behind it less
the slashes at its front. -/
def documentAddress (record : Record) (name : String) : String :=
  record.baseUrl ++ String.ofList (name.toList.dropWhile (· = '/'))

theorem address_baseUrl (record : Record) (name : String) :
    Bundle.address record.baseUrl name = record.documentAddress name :=
  rfl

theorem isWithin_documentPath (record : Record) (name : String) :
    (record.documentPath name).isWithin record.mapsPath = true :=
  Bundle.isWithin_localPath record.mapsPath name

end Record

namespace Acquire

open Stage (Ends)

/-- The bundles below the input directory, in the order of their paths. -/
def bundles (store : Store) (record : Record) : List Path :=
  ((store.files.map Prod.fst).filter (·.isWithin record.inputDir)).filter
    (Bundle.isBundle record.extensions)

/-- The name that a bundle gives to its map document. -/
def named? (store : Store) (bundle : Path) : Option String :=
  Bundle.mapName? (store.scannedText bundle)

/-- A file is a bundle of a record if it lies below the input directory and its name ends with one
of the extensions. -/
theorem mem_bundles_iff {store : Store} {record : Record} {path : Path} :
    path ∈ bundles store record ↔
      path ∈ store.files.map Prod.fst ∧ path.isWithin record.inputDir = true ∧
        ∃ name, path.fileName? = some name ∧
          ∃ ending ∈ record.extensions, ending.toList <:+ name.toList := by
  rw [bundles, List.mem_filter, List.mem_filter, and_assoc, Bundle.isBundle]
  cases path.fileName? with
  | none => simp
  | some name => simp

theorem mapName?_scannedText (store : Store) (bundle : Path) :
    Bundle.mapName? (store.scannedText bundle) = named? store bundle :=
  rfl

/-- The names of map documents, in the order of the bundles that give them. -/
def names (store : Store) (record : Record) : List String :=
  (bundles store record).filterMap (named? store)

/-- What the turn of a document comes to. -/
inductive Outcome where
  | present
  | missing
  | fetched (text : String)
  | failed
  deriving DecidableEq, Repr

/-- The turn of the document called `name`. -/
structure Turn where
  name : String
  outcome : Outcome
  deriving DecidableEq, Repr

/-- What is written in a turn. -/
def Turn.output? (record : Record) (turn : Turn) : Option (Path × String) :=
  match turn.outcome with
  | .fetched text => some (record.documentPath turn.name, text)
  | _ => none

/-- The address that is reported for a turn. -/
def Turn.failed? (record : Record) (turn : Turn) : Option String :=
  if turn.outcome = .failed then some (record.documentAddress turn.name) else none

/-- The document that a dry run reports for a turn. -/
def Turn.missing? (record : Record) (turn : Turn) : Option Path :=
  if turn.outcome = .missing then some (record.documentPath turn.name) else none

/-- The documents written in some turns. -/
def outputs (record : Record) (turns : List Turn) : List (Path × String) :=
  turns.filterMap (Turn.output? record)

/-- The report of some turns. -/
def tally (record : Record) (bundles : Nat) (turns : List Turn) : Report where
  bundles
  references := turns.length
  present := turns.countP (·.outcome = .present)
  downloaded := (outputs record turns).map Prod.fst
  failed := turns.filterMap (Turn.failed? record)
  missing := turns.filterMap (Turn.missing? record)

/-- The report with one more turn. -/
def Report.note (report : Report) (record : Record) (turn : Turn) : Report :=
  let counted := { report with references := report.references + 1 }
  match turn.outcome with
  | .present => { counted with present := counted.present + 1 }
  | .missing => { counted with missing := counted.missing ++ [record.documentPath turn.name] }
  | .fetched _ =>
      { counted with downloaded := counted.downloaded ++ [record.documentPath turn.name] }
  | .failed => { counted with failed := counted.failed ++ [record.documentAddress turn.name] }

variable {remote : Remote} {record : Record} {dryRun : Bool} {store : Store} {name : String}

/-- What the turn of a document comes to on a store. -/
def outcome (remote : Remote) (record : Record) (dryRun : Bool) (store : Store) (name : String) :
    Outcome :=
  if store.isTaken (record.documentPath name) then .present
  else if dryRun then .missing
  else
    match remote (record.documentAddress name) with
    | .ok text => .fetched text
    | .error _ => .failed

/-- The turns of some documents, one after the other. -/
def turns (remote : Remote) (record : Record) (dryRun : Bool) (store : Store)
    (names : List String) : List Turn :=
  names.foldl (fun turns name =>
    turns ++ [⟨name, outcome remote record dryRun (store.writes (outputs record turns)) name⟩]) []

/-- The files behind the turns of some documents. -/
def supplied (remote : Remote) (record : Record) (dryRun : Bool) (store : Store)
    (names : List String) : Store :=
  store.writes (outputs record (turns remote record dryRun store names))

section Outcome

theorem outcome_eq_present_iff :
    outcome remote record dryRun store name = .present ↔
      store.isTaken (record.documentPath name) = true := by
  rw [outcome]
  split
  · simp [*]
  · cases dryRun
    · cases remote (record.documentAddress name) <;> simp [*]
    · simp [*]

theorem outcome_eq_missing_iff :
    outcome remote record dryRun store name = .missing ↔
      store.isTaken (record.documentPath name) = false ∧ dryRun = true := by
  rw [outcome]
  split
  · simp [*]
  · cases dryRun
    · cases remote (record.documentAddress name) <;> simp [*]
    · simp [*]

theorem outcome_eq_fetched_iff {text : String} :
    outcome remote record dryRun store name = .fetched text ↔
      store.isTaken (record.documentPath name) = false ∧ dryRun = false ∧
        remote (record.documentAddress name) = .ok text := by
  rw [outcome]
  split
  · simp [*]
  · cases dryRun
    · cases remote (record.documentAddress name) <;> simp [*]
    · simp [*]

theorem outcome_eq_failed_iff :
    outcome remote record dryRun store name = .failed ↔
      store.isTaken (record.documentPath name) = false ∧ dryRun = false ∧
        ∃ reason, remote (record.documentAddress name) = .error reason := by
  rw [outcome]
  split
  · simp [*]
  · cases dryRun
    · cases remote (record.documentAddress name) <;> simp [*]
    · simp [*]

end Outcome

section Turns

variable {turn : Turn} {given : List String}

theorem turns_concat (given : List String) (name : String) :
    turns remote record dryRun store (given ++ [name]) =
      turns remote record dryRun store given ++
        [⟨name, outcome remote record dryRun
          (store.writes (outputs record (turns remote record dryRun store given))) name⟩] := by
  simp [turns]

theorem map_name_turns (given : List String) :
    (turns remote record dryRun store given).map Turn.name = given := by
  induction given using List.reverseRecOn with
  | nil => rfl
  | append_singleton given name ih => simp [turns_concat, ih]

theorem length_turns (given : List String) :
    (turns remote record dryRun store given).length = given.length := by
  rw [← List.length_map Turn.name, map_name_turns]

theorem output?_eq_some_iff {output : Path × String} :
    turn.output? record = some output ↔
      turn.outcome = .fetched output.2 ∧ output.1 = record.documentPath turn.name := by
  rcases output with ⟨path, text⟩
  rw [Turn.output?]
  split
  next fetched shape =>
    simp only [Option.some.injEq, Prod.mk.injEq, shape, Outcome.fetched.injEq]
    constructor
    · rintro ⟨rfl, rfl⟩
      exact ⟨rfl, rfl⟩
    · rintro ⟨rfl, rfl⟩
      exact ⟨rfl, rfl⟩
  next other =>
    simp only [reduceCtorEq, false_iff]
    rintro ⟨shape, _⟩
    exact other text shape

theorem outputs_concat (before : List Turn) (turn : Turn) :
    outputs record (before ++ [turn]) = outputs record before ++ (turn.output? record).toList := by
  rw [outputs, List.filterMap_append, ← outputs]
  cases shape : turn.output? record with
  | none => simp [shape]
  | some output => simp [shape]

theorem tally_concat (count : Nat) (before : List Turn) (turn : Turn) :
    tally record count (before ++ [turn]) = (tally record count before).note record turn := by
  rcases turn with ⟨name, outcome⟩
  cases outcome <;>
    simp [tally, Report.note, outputs, Turn.output?, Turn.failed?, Turn.missing?]

/-- Later documents do not change the turns of earlier ones. -/
theorem turns_prefix_append (given later : List String) :
    turns remote record dryRun store given <+:
      turns remote record dryRun store (given ++ later) := by
  induction later using List.reverseRecOn with
  | nil => simp
  | append_singleton later name ih =>
      rw [← List.append_assoc, turns_concat]
      exact ih.trans (List.prefix_append _ _)

theorem mem_turns_append_cons (given : List String) (name : String) (later : List String) :
    ⟨name, outcome remote record dryRun
        (store.writes (outputs record (turns remote record dryRun store given))) name⟩ ∈
      turns remote record dryRun store (given ++ name :: later) := by
  rw [List.append_cons]
  apply (turns_prefix_append (given ++ [name]) later).subset
  simp [turns_concat]

theorem supplied_concat (given : List String) (name : String) :
    supplied remote record dryRun store (given ++ [name]) =
      (supplied remote record dryRun store given).writes (Turn.output? record
        ⟨name, outcome remote record dryRun (supplied remote record dryRun store given)
          name⟩).toList := by
  rw [supplied, turns_concat, outputs_concat, Store.writes_append]
  rfl

/-- What is taken at some point of a pass stays taken. -/
theorem isTaken_supplied_append {path : Path} (later : List String)
    (taken : (supplied remote record dryRun store given).isTaken path = true) :
    (supplied remote record dryRun store (given ++ later)).isTaken path = true := by
  induction later using List.reverseRecOn with
  | nil => simpa using taken
  | append_singleton later name ih =>
      rw [← List.append_assoc, supplied_concat]
      exact Store.isTaken_writes_of_isTaken ih _

/-- Each turn comes to what the files at its time make of it. -/
theorem exists_cut_of_mem_turns (member : turn ∈ turns remote record dryRun store given) :
    ∃ before later, given = before ++ turn.name :: later ∧
      turn.outcome =
        outcome remote record dryRun (supplied remote record dryRun store before) turn.name := by
  induction given using List.reverseRecOn with
  | nil => cases member
  | append_singleton given name ih =>
      rw [turns_concat, List.mem_append, List.mem_singleton] at member
      rcases member with earlier | rfl
      · rcases ih earlier with ⟨before, later, rfl, shape⟩
        exact ⟨before, later ++ [name], by simp, shape⟩
      · exact ⟨given, [], rfl, rfl⟩

/-- A document is written for a name that was given, if nothing was at its path, with the text found
at its address. -/
theorem exists_of_mem_outputs {output : Path × String}
    (member : output ∈ outputs record (turns remote record dryRun store given)) :
    ∃ name ∈ given, output.1 = record.documentPath name ∧ store.isTaken output.1 = false ∧
      dryRun = false ∧ remote (record.documentAddress name) = .ok output.2 := by
  rcases List.mem_filterMap.1 member with ⟨turn, turnMem, shape⟩
  rcases output?_eq_some_iff.1 shape with ⟨fetched, path⟩
  rcases exists_cut_of_mem_turns turnMem with ⟨before, later, cut, outcome⟩
  rw [fetched, eq_comm, outcome_eq_fetched_iff, supplied, Store.isTaken_writes,
    Bool.or_eq_false_iff] at outcome
  rcases outcome with ⟨⟨free, _⟩, real, answer⟩
  exact ⟨turn.name, by simp [cut], path, path ▸ free, real, answer⟩

theorem isTaken_eq_false_of_mem_outputs {output : Path × String}
    (member : output ∈ outputs record (turns remote record dryRun store given)) :
    store.isTaken output.1 = false := by
  rcases exists_of_mem_outputs member with ⟨_, _, _, free, _⟩
  exact free

end Turns

section Pass

/-- A bundle that still has its content is read as before. -/
theorem ends_readLossy_bundle {files : Store} {bundle : Path}
    (member : bundle ∈ bundles store record)
    (kept : ∀ content, store.content? bundle = some content →
      files.content? bundle = some content) :
    Ends (Stage.readLossy bundle) files (.ok (store.scannedText bundle)) files := by
  have stored := (List.mem_filter.1 (List.mem_filter.1 member).1).1
  rcases Store.exists_readBytes_of_mem stored kept with ⟨content, readable, text⟩
  rw [text]
  exact Ends.readLossy_ok readable

/-- A document has its turn: the report and the files have it added. -/
theorem ends_provide (remote : Remote) (record : Record) (dryRun : Bool) (store : Store)
    (name : String) (report : Report) :
    Ends (provide remote record dryRun name { report with references := report.references + 1 })
      store (.ok (report.note record ⟨name, outcome remote record dryRun store name⟩))
      (store.writes (Turn.output? record
        ⟨name, outcome remote record dryRun store name⟩).toList) := by
  apply Ends.files_ok.bind
  change Ends (if store.isTaken (record.documentPath name) = true then _ else _) _ _ _
  cases taken : store.isTaken (record.documentPath name) with
  | true =>
      rw [outcome_eq_present_iff.2 taken]
      exact Ends.pure _
  | false =>
      cases dryRun with
      | true =>
          rw [outcome_eq_missing_iff.2 ⟨taken, rfl⟩]
          apply Ends.after_tell
          exact Ends.pure _
      | false =>
          change Ends (download remote (Bundle.address record.baseUrl name) _ _) _ _ _
          rw [record.address_baseUrl]
          apply Ends.after_tell
          change Ends (match remote (record.documentAddress name) with
            | .ok text => _
            | .error reason => _) _ _ _
          cases answer : remote (record.documentAddress name) with
          | ok text =>
              have free : store.isDirectory (record.documentPath name) = false :=
                Store.not_isDirectory_of_not_isTaken taken
              rw [outcome_eq_fetched_iff.2 ⟨taken, rfl, answer⟩]
              apply (Ends.write_ok (Store.write_of_not_isDirectory free text)).bind
              apply Ends.after_tell
              exact Ends.pure _
          | error reason =>
              rw [outcome_eq_failed_iff.2 ⟨taken, rfl, reason, answer⟩]
              apply Ends.after_tell
              exact Ends.pure _

theorem content?_supplied {given : List String} {query : Path} {content : ByteArray}
    (found : store.content? query = some content) :
    (supplied remote record dryRun store given).content? query = some content :=
  Store.content?_writes_of_fresh (fun _ => isTaken_eq_false_of_mem_outputs) found

/-- A bundle is looked at as it was before the pass, and what it names has its turn. -/
theorem ends_inspect {bundle : Path} (member : bundle ∈ bundles store record) (seen : List Path) :
    Ends (inspect remote record dryRun
        (tally record seen.length
          (turns remote record dryRun store (seen.filterMap (named? store)))) bundle)
      (supplied remote record dryRun store (seen.filterMap (named? store)))
      (.ok (tally record (seen ++ [bundle]).length
        (turns remote record dryRun store ((seen ++ [bundle]).filterMap (named? store)))))
      (supplied remote record dryRun store ((seen ++ [bundle]).filterMap (named? store))) := by
  apply (ends_readLossy_bundle member fun _ => content?_supplied).bind
  rw [mapName?_scannedText, List.filterMap_append, List.length_append]
  cases named : named? store bundle with
  | none =>
      simp only [List.filterMap_cons, named, List.filterMap_nil, List.append_nil]
      apply Ends.after_tell
      exact Ends.pure _
  | some name =>
      simp only [List.filterMap_cons, named, List.filterMap_nil]
      have turn := ends_provide remote record dryRun
        (supplied remote record dryRun store (seen.filterMap (named? store))) name
        (tally record (seen.length + 1)
          (turns remote record dryRun store (seen.filterMap (named? store))))
      rw [turns_concat, supplied_concat, tally_concat]
      exact turn

theorem ends_inspect_all (rest : List Path) (seen : List Path)
    (listed : ∀ bundle ∈ rest, bundle ∈ bundles store record) :
    Ends (rest.foldlM (inspect remote record dryRun)
        (tally record seen.length
          (turns remote record dryRun store (seen.filterMap (named? store)))))
      (supplied remote record dryRun store (seen.filterMap (named? store)))
      (.ok (tally record (seen ++ rest).length
        (turns remote record dryRun store ((seen ++ rest).filterMap (named? store)))))
      (supplied remote record dryRun store ((seen ++ rest).filterMap (named? store))) := by
  induction rest generalizing seen with
  | nil =>
      rw [List.append_nil]
      exact Ends.pure _
  | cons bundle rest ih =>
      rw [List.append_cons]
      apply (ends_inspect (listed bundle (by simp)) seen).bind
      apply ih
      intro other member
      exact listed other (List.mem_cons_of_mem _ member)

variable (remote) (dryRun) in
/-- On an existing input directory, the pass gives every named document its turn. -/
theorem ends_acquire_of_isDirectory (directory : store.isDirectory record.inputDir = true) :
    Ends (acquire remote record dryRun) store
      (.ok (tally record (bundles store record).length
        (turns remote record dryRun store (names store record))))
      (supplied remote record dryRun store (names store record)) := by
  apply (Ends.list_ok (Store.list_of_isDirectory directory)).bind
  apply (ends_inspect_all (bundles store record) [] fun _ => id).bind
  apply Ends.after_tell
  exact Ends.pure _

variable (remote) (dryRun) in
theorem ends_acquire_of_not_isDirectory (absent : store.isDirectory record.inputDir = false) :
    Ends (acquire remote record dryRun) store
      (.error (.list record.inputDir (.noDirectory record.inputDir))) store :=
  (Ends.list_error (Store.list_of_not_isDirectory absent)).bind_error

/-- A pass that answers has given every named document its turn. -/
theorem eq_of_acquire {session after : Session Store} {report : Report}
    (ran : acquire remote record dryRun session = (.ok report, after)) :
    report = tally record (bundles session.files record).length
        (turns remote record dryRun session.files (names session.files record)) ∧
      after.files = supplied remote record dryRun session.files (names session.files record) := by
  cases directory : session.files.isDirectory record.inputDir with
  | false => cases ((ends_acquire_of_not_isDirectory remote dryRun directory).eq_of_run ran).1
  | true =>
      rcases (ends_acquire_of_isDirectory remote dryRun directory).eq_of_run ran with
        ⟨answer, files⟩
      cases answer
      exact ⟨rfl, files⟩

end Pass

end Acquire

end SourceTree
