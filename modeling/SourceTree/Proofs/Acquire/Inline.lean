import SourceTree.Proofs.Acquire.Account
import SourceTree.Proofs.Bundle.Names

/-!
# Inline documents

A value that starts with `data:` carries its document and names none, so a pass neither counts the
bundle as a reference nor asks for anything on its behalf. The start of the value is looked at
before the forbidden characters are removed. Behind a quote it goes unnoticed, and what is left of
the value without quotes and colon is taken for a name: the bundle counts as a reference, and a
document of that name is asked for like any other.
-/

namespace SourceTree

namespace Bundle

variable {payload : List Char}

/-- What an inline document in quotes is taken to be called. -/
def inlineName (payload : List Char) : String :=
  String.ofList ("data".toList ++ Text.trimRight '/' (payload.filter isNameCharacter))

theorem nameOfValue?_inline (payload : List Char) :
    nameOfValue? ("data:".toList ++ payload) = none := by
  have inline : Text.afterWord? "data:".toList ("data:".toList ++ payload) = some payload :=
    Text.afterWord?_eq_some_iff.2 rfl
  rw [nameOfValue?, inline, Option.isSome_some, if_pos rfl]

theorem nameOfValue?_quoted_inline (payload : List Char) :
    nameOfValue? ('"' :: ("data:".toList ++ payload ++ ['"'])) = some (inlineName payload) := by
  have unnoticed :
      Text.afterWord? "data:".toList ('"' :: ("data:".toList ++ payload ++ ['"'])) = none := by
    rw [Option.eq_none_iff_forall_ne_some]
    intro rest inline
    cases Text.afterWord?_eq_some_iff.1 inline
  have left : ('"' :: ("data:".toList ++ payload ++ ['"'])).filter isNameCharacter =
      "data".toList ++ payload.filter isNameCharacter := by
    have letters : "data:".toList.filter isNameCharacter = "data".toList := by decide
    have quote : isNameCharacter '"' = false := by decide
    simp only [List.filter_cons, List.filter_append, letters, quote, List.filter_nil,
      Bool.false_eq_true, if_false, List.append_nil]
  rw [nameOfValue?, unnoticed, left, Text.trimRight_append (by decide)]
  rfl

variable {text : String}

theorem mapName?_of_inline
    (first : FirstAssigns ("data:".toList ++ payload) (trailer text.toList)) :
    mapName? text = none := by
  rw [mapName?, firstAssigned?_eq_some_iff.2 first, Option.bind_some, nameOfValue?_inline]

theorem mapName?_of_quoted_inline
    (first : FirstAssigns ('"' :: ("data:".toList ++ payload ++ ['"'])) (trailer text.toList)) :
    mapName? text = some (inlineName payload) := by
  rw [mapName?, firstAssigned?_eq_some_iff.2 first, Option.bind_some, nameOfValue?_quoted_inline]

end Bundle

namespace Acquire

open SourceTree.Bundle (FirstAssigns inlineName)

variable {remote : Remote} {record : Record} {dryRun : Bool} {store : Store}
  {before later : List Path} {bundle : Path}

theorem names_of_cut (cut : bundles store record = before ++ bundle :: later) :
    names store record = before.filterMap (named? store) ++
      ((named? store bundle).toList ++ later.filterMap (named? store)) := by
  rw [names, cut, List.filterMap_append, List.filterMap_cons]
  cases named? store bundle <;> rfl

/-- The turn of a document at a free path asks for it, and the report shows the answer. -/
theorem reported_of_free {given : List String} {name : String} (count : Nat)
    (rest : List String) (real : dryRun = false)
    (free : (supplied remote record dryRun store given).isTaken (record.documentPath name) =
      false) :
    match remote (record.documentAddress name) with
    | .ok _ => record.documentPath name ∈
        (tally record count (turns remote record dryRun store (given ++ name :: rest))).downloaded
    | .error _ => record.documentAddress name ∈
        (tally record count (turns remote record dryRun store (given ++ name :: rest))).failed := by
  have turn :
      ⟨name, outcome remote record dryRun (supplied remote record dryRun store given) name⟩ ∈
        turns remote record dryRun store (given ++ name :: rest) :=
    mem_turns_append_cons given name rest
  split
  next text answer =>
    rw [outcome_eq_fetched_iff.2 ⟨free, real, answer⟩] at turn
    have written : (record.documentPath name, text) ∈
        outputs record (turns remote record dryRun store (given ++ name :: rest)) :=
      List.mem_filterMap.2 ⟨_, turn, rfl⟩
    exact List.mem_map_of_mem written
  next reason answer =>
    rw [outcome_eq_failed_iff.2 ⟨free, real, reason, answer⟩] at turn
    exact List.mem_filterMap.2 ⟨_, turn, rfl⟩

/-- A bundle in whose last lines the first assignment has an inline document as its value names
none, and a pass goes as if only the other bundles were there: each turn, and with it each address
that is asked for, is that of a name given by another bundle. This holds for a document without
quotes. In double quotes it is taken for a name. The bundle counts as a reference, and unless the
run is dry or something is at the path of that name by then, the name is asked for: what is found is
stored, and if nothing is found the address is reported. -/
theorem acquire_inline {session after : Session Store} {report : Report}
    (ran : acquire remote record dryRun session = (.ok report, after))
    (cut : bundles session.files record = before ++ bundle :: later) (payload : List Char) :
    (∀ text : String,
      (FirstAssigns ("data:".toList ++ payload) (Bundle.trailer text.toList) →
        Bundle.mapName? text = none) ∧
      (FirstAssigns ('"' :: ("data:".toList ++ payload ++ ['"'])) (Bundle.trailer text.toList) →
        Bundle.mapName? text = some (inlineName payload))) ∧
    (FirstAssigns ("data:".toList ++ payload)
        (Bundle.trailer (session.files.scannedText bundle).toList) →
      report = tally record (before.length + later.length + 1)
        (turns remote record dryRun session.files
          ((before ++ later).filterMap (named? session.files))) ∧
      after.files = supplied remote record dryRun session.files
        ((before ++ later).filterMap (named? session.files))) ∧
    (FirstAssigns ('"' :: ("data:".toList ++ payload ++ ['"']))
        (Bundle.trailer (session.files.scannedText bundle).toList) →
      report.references = ((before ++ later).filterMap (named? session.files)).length + 1 ∧
      (dryRun = false →
        (supplied remote record dryRun session.files
          (before.filterMap (named? session.files))).isTaken
            (record.documentPath (inlineName payload)) = false →
        match remote (record.documentAddress (inlineName payload)) with
        | .ok _ => record.documentPath (inlineName payload) ∈ report.downloaded
        | .error _ => record.documentAddress (inlineName payload) ∈ report.failed)) := by
  refine ⟨fun text => ⟨Bundle.mapName?_of_inline, Bundle.mapName?_of_quoted_inline⟩, ?_⟩
  rcases eq_of_acquire ran with ⟨rfl, files⟩
  rw [files, names_of_cut cut]
  constructor
  · intro first
    have unnamed : named? session.files bundle = none := Bundle.mapName?_of_inline first
    have count : (bundles session.files record).length =
        before.length + later.length + 1 := by
      rw [cut, List.length_append, List.length_cons]
      omega
    rw [unnamed, count, Option.toList_none, List.nil_append, ← List.filterMap_append]
    exact ⟨rfl, rfl⟩
  · intro first
    have named : named? session.files bundle = some (inlineName payload) :=
      Bundle.mapName?_of_quoted_inline first
    rw [named, Option.toList_some, List.singleton_append]
    constructor
    · simp only [tally, length_turns, List.filterMap_append, List.length_append,
        List.length_cons]
      omega
    · intro real free
      exact reported_of_free _ _ real free

/-- Two bundles with the same inline document, the second one in quotes. -/
def embeddedStore : Store :=
  (Store.empty.place ⟨"in/1.js"⟩ "//# sourceMappingURL=data:text/json;e30\n".toUTF8).place
    ⟨"in/2.js"⟩ "//# sourceMappingURL=\"data:text/json;e30\"\n".toUTF8

/-- Only the second bundle counts, and what is asked for is made of its document. -/
theorem acquire_inline_embeddedStore :
    ∃ report after, acquire .offline sharedRecord false ⟨embeddedStore, #[]⟩ =
        (.ok report, after) ∧
      report = tally sharedRecord 2 (turns .offline sharedRecord false embeddedStore
        ["datatext/json;e30"]) ∧
      report.references = 1 ∧ "u/datatext/json;e30" ∈ report.failed := by
  have directory : embeddedStore.isDirectory sharedRecord.inputDir = true := by decide
  have cutFirst : bundles embeddedStore sharedRecord =
      ([] : List Path) ++ ⟨"in/1.js"⟩ :: [⟨"in/2.js"⟩] := by decide +kernel
  have cutSecond : bundles embeddedStore sharedRecord =
      ([⟨"in/1.js"⟩] : List Path) ++ ⟨"in/2.js"⟩ :: [] := by decide +kernel
  have bare : FirstAssigns ("data:".toList ++ "text/json;e30".toList)
      (Bundle.trailer (embeddedStore.scannedText ⟨"in/1.js"⟩).toList) :=
    Bundle.firstAssigned?_eq_some_iff.1 (by decide +kernel)
  have quoted : FirstAssigns ('"' :: ("data:".toList ++ "text/json;e30".toList ++ ['"']))
      (Bundle.trailer (embeddedStore.scannedText ⟨"in/2.js"⟩).toList) :=
    Bundle.firstAssigned?_eq_some_iff.1 (by decide +kernel)
  have named : named? embeddedStore ⟨"in/2.js"⟩ = some "datatext/json;e30" := by decide +kernel
  have unnamed : named? embeddedStore ⟨"in/1.js"⟩ = none := by decide +kernel
  have called : inlineName "text/json;e30".toList = "datatext/json;e30" := by decide
  have free : embeddedStore.isTaken (sharedRecord.documentPath "datatext/json;e30") = false := by
    decide +kernel
  rcases ends_acquire_of_isDirectory .offline false directory #[] with ⟨told, ran⟩
  rcases acquire_inline ran cutFirst "text/json;e30".toList with ⟨_, passed, _⟩
  rcases acquire_inline ran cutSecond "text/json;e30".toList with ⟨_, _, asked⟩
  rcases passed bare with ⟨counted, _⟩
  rcases asked quoted with ⟨references, reported⟩
  have start : [⟨"in/1.js"⟩].filterMap (named? embeddedStore) = [] := by simp [unnamed]
  rw [called, start] at reported
  simp only [List.nil_append, List.append_nil, List.filterMap_cons, List.filterMap_nil, named,
    unnamed] at counted references
  exact ⟨_, _, ran, counted, references, reported rfl free⟩

end Acquire

end SourceTree
