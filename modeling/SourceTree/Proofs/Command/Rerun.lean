import SourceTree.Proofs.Command.Schedule
import SourceTree.Proofs.Files.Overwrite
import SourceTree.Proofs.Placeholders.Closure
import SourceTree.Proofs.Rebuild.LastWrite

/-!
# Running again

A second run over the documents that are there finds the tree of the first, with its placeholders.
It writes every source again, over the file that the source already has, and since the documents are
as they were, every file ends with the content that it had. Placeholders were only written where
nothing was, so no source goes to one of them. The tree is closed behind the first run, so nothing
is left for the second pass over it.

The one thing in the way of a second run would be a directory at the path of a source. A write does
not ask what is above its path, so a source or a placeholder may have come to lie below a file. The
second run is sure to get through if there is no such file.
-/

namespace SourceTree

open Stage (Ends WritesOut)

variable {record : Record} {store other between after : Store} {roots : List Path}

namespace Rebuild

theorem isWithin_of_mem_mapFiles {file : Path × ByteArray}
    (member : file ∈ mapFiles store record) : file.1.isWithin record.mapsPath = true := by
  rw [mapFiles] at member
  split at member
  · exact (Bool.and_eq_true_iff.1 (List.mem_filter.1 member).2).1
  · cases member

/-- What is to be written is settled by the part of the store in the maps directory. -/
theorem outputs_of_agree (agree : other.restrict roots = store.restrict roots)
    (inside : record.mapsPath.isIn roots = true) :
    outputs other record = outputs store record := by
  have documents : ∀ store : Store,
      (store.files.filter fun file =>
        file.1.isWithin record.mapsPath && MapDocument.isMapDocument file.1) =
      (store.files.filter (·.1.isWithin record.mapsPath)).filter
        (MapDocument.isMapDocument ·.1) := by
    intro store
    rw [List.filter_filter]
    congr 1
    funext file
    exact Bool.and_comm _ _
  have listed : mapFiles other record = mapFiles store record := by
    rw [mapFiles, mapFiles, Store.isDirectory_of_agree agree inside, documents, documents,
      Store.filter_isWithin_of_agree agree inside]
  rw [outputs, outputs, entries, entries, listed]

/-- A rebuild is a row of writes if the tree and the maps directory have nothing in common. -/
theorem writesOut_rebuild_of_apart (apart : record.mapsPath.isNested record.treePath = false)
    (directory : store.isDirectory record.mapsPath = true) :
    WritesOut (rebuild record) store (outputs store record) (counted store record) := by
  apply writesOut_rebuild directory
  intro output outputMem file fileMem
  rw [Bool.eq_false_iff]
  intro same
  have inTree := isWithin_of_mem_outputs outputMem
  rw [Path.isWithin_congr (Path.same_iff.1 same)] at inTree
  have nested := Path.isNested_of_isWithin (isWithin_of_mem_mapFiles fileMem) inTree
  simp [apart] at nested

/-- What is written in the tree leaves the documents as they are. -/
theorem restrict_mapsPath_writes {written : List (Path × String)}
    (apart : record.mapsPath.isNested record.treePath = false)
    (inTree : ∀ output ∈ written, output.1.isWithin record.treePath = true) :
    (store.writes written).restrict [record.mapsPath] = store.restrict [record.mapsPath] := by
  apply Store.restrict_writes_of_outside
  intro output member
  rw [Bool.eq_false_iff]
  intro inside
  rcases Path.isIn_iff.1 inside with ⟨maps, mapsMem, within⟩
  cases List.mem_singleton.1 mapsMem
  have nested := Path.isNested_of_isWithin within (inTree output member)
  simp [apart] at nested

/-- A rebuild that answers has written every source. -/
theorem admits_of_ends_rebuild {report : Report}
    (apart : record.mapsPath.isNested record.treePath = false)
    (ends : Ends (rebuild record) store (.ok report) after) :
    store.isDirectory record.mapsPath = true ∧ store.Admits (outputs store record) ∧
      after = store.writes (outputs store record) := by
  cases directory : store.isDirectory record.mapsPath with
  | true => exact ⟨rfl, (writesOut_rebuild_of_apart apart directory).admits_of_ends ends⟩
  | false => cases (ends.unique (ends_rebuild_of_not_isDirectory directory)).1

/-- A rebuild that got through gets through again, and changes nothing, once files have been added
to the tree where nothing was, unless one of the files is above another. -/
theorem ends_rebuild_again {report : Report} {added : List (Path × String)}
    (apart : record.mapsPath.isNested record.treePath = false)
    (first : Ends (rebuild record) store (.ok report) between)
    (inTree : ∀ output ∈ added, output.1.isWithin record.treePath = true)
    (fresh : ∀ output ∈ added, between.isTaken output.1 = false)
    (flat : (between.writes added).IsFlat) :
    ∃ again, Ends (rebuild record) (between.writes added) (.ok again) (between.writes added) := by
  rcases admits_of_ends_rebuild apart first with ⟨directory, admitted, rfl⟩
  rw [← Store.writes_append] at flat ⊢
  have agree : (store.writes (outputs store record ++ added)).restrict [record.mapsPath] =
      store.restrict [record.mapsPath] := by
    apply restrict_mapsPath_writes apart
    intro output member
    rcases List.mem_append.1 member with isOutput | isAdded
    · exact isWithin_of_mem_outputs isOutput
    · exact inTree output isAdded
  have inside : record.mapsPath.isIn [record.mapsPath] = true :=
    Path.isIn_self (List.mem_singleton_self _)
  have known : ∀ output ∈ outputs store record,
      (store.writes (outputs store record ++ added)).isFile output.1 = true := by
    intro output member
    rcases exists_lastOutput? member with ⟨content, last⟩
    exact Store.isFile_iff_exists_content.2 ⟨content, Store.content?_writes_append fresh last⟩
  have free : ∀ output ∈ outputs store record,
      (store.writes (outputs store record ++ added)).isDirectory output.1 = false := by
    intro output member
    apply flat.isDirectory_eq_false (known output member)
    rw [Store.directories_writes]
    exact admitted.not_created member
  -- The same sources are written again, each over itself.
  have again := writesOut_rebuild_of_apart apart
    ((Store.isDirectory_of_agree agree inside).trans directory)
  rw [outputs_of_agree agree inside] at again
  have ended := again.ends (Store.admits_of_isFile known free)
  rw [Store.writes_eq_self known fun _ _ => Store.content?_writes_append fresh] at ended
  exact ⟨_, ended⟩

end Rebuild

namespace Placeholders

/-- How a pass that answers ends: with placeholders in the tree, where nothing was, and with nothing
left for another pass. -/
theorem exists_writes_of_ends_fill {report : Report} (plain : record.treePath.IsPlain)
    (ends : Ends (fill record) store (.ok report) after) :
    (∃ added, after = store.writes added ∧
      (∀ output ∈ added, output.1.isWithin record.treePath = true) ∧
      ∀ output ∈ added, store.isTaken output.1 = false) ∧
    ∃ again : Report, Ends (fill record) after (.ok again) after ∧ again.created = [] := by
  cases taken : store.isTaken record.treePath with
  | false =>
      have ended := ends_fill_of_not_isTaken taken
      cases (ends.unique ended).2
      exact ⟨⟨[], rfl, by simp, by simp⟩, {}, ended, rfl⟩
  | true =>
      cases directory : store.isDirectory record.treePath with
      | false => cases (ends.unique (ends_fill_of_not_isDirectory taken directory)).1
      | true =>
          cases (ends.unique (ends_fill_of_isDirectory directory)).2
          constructor
          · rw [filled_eq]
            refine ⟨_, rfl, ?_, ?_⟩
            · intro output member
              exact isWithin_of_mem_stubbed member plain
            · intro output member
              exact isTaken_eq_false_of_mem_stubbed member
          · have still := (grown_filled store record).isDirectory _ directory
            rcases ends_fill_of_isClosed still (isClosed_filled store record) with
              ⟨again, ended, _, created⟩
            exact ⟨again, ended, created⟩

theorem exists_ends_fill (store : Store) (record : Record) :
    ∃ result after, Ends (fill record) store result after := by
  cases taken : store.isTaken record.treePath with
  | false => exact ⟨_, _, ends_fill_of_not_isTaken taken⟩
  | true =>
      cases directory : store.isDirectory record.treePath with
      | false => exact ⟨_, _, ends_fill_of_not_isDirectory taken directory⟩
      | true => exact ⟨_, _, ends_fill_of_isDirectory directory⟩

end Placeholders

namespace Command

variable {remote : Remote} {selection : Selection} {path : Path}

/-- Without downloads, the stages on a record are a rebuild and a pass over the tree. -/
theorem exists_ends_allStages (remote : Remote) (record : Record) (store : Store) :
    ∃ result after, Ends (allStages remote true record) store result after ∧
      ∀ value, result = .ok value → ∃ rebuilt between filled,
        Ends (Rebuild.rebuild record) store (.ok rebuilt) between ∧
          Ends (Placeholders.fill record) between (.ok filled) after := by
  rcases Rebuild.isLocal_rebuild record store with ⟨result, outputs, _, ended⟩
  have first := ended store rfl
  cases result with
  | error error =>
      refine ⟨_, _, first.discard.bind_error, ?_⟩
      intro value answered
      cases answered
  | ok rebuilt =>
      rcases Placeholders.exists_ends_fill (store.writes outputs) record with
        ⟨answer, after, second⟩
      refine ⟨_, _, first.discard.bind second.discard, ?_⟩
      intro value answered
      cases answer with
      | error error => cases answered
      | ok filled => exact ⟨rebuilt, _, filled, first, second⟩

theorem leaves_run_one {skipDownload : Bool} {result : Except StageError Unit}
    (named : selection.named = [path])
    (loaded : Record.load store (selection.directory.join path) = .ok record)
    (ends : Ends (allStages remote skipDownload record) store result after) :
    Leaves (execute remote (.run selection skipDownload)) store
      ((allStages remote skipDownload record).effect store) := by
  have files : selection.files = [selection.directory.join path] := by
    rw [Selection.files, named, List.map_singleton]
  apply Leaves.before_tell
  apply Leaves.forEachRecord (by simp [named])
  rw [files, ← Option.bind_fun_some (Stage.effect _ _)]
  apply (Leaves.workOn loaded ends).bind
  intro _ after _
  exact ⟨fun _ => rfl⟩

/-- Running again is a no-op. If a run over a named record, without downloads, succeeds and no file
behind it is a proper ancestor of another, then the same run succeeds on the files behind it and
leaves them as they are. It loads the same record, and each of its two stages leaves the files
alone; the second creates no placeholder. The tree has to be plain and apart from the maps
directory, and the record file must not be in the tree. -/
theorem run_again {session after : Session Store} (named : selection.named = [path])
    (loaded : Record.load session.files (selection.directory.join path) = .ok record)
    (plain : record.treePath.IsPlain)
    (apart : record.mapsPath.isNested record.treePath = false)
    (outside : (selection.directory.join path).isWithin record.treePath = false)
    (ran : execute remote (.run selection true) session = (.ok (), after))
    (flat : after.files.IsFlat) :
    (∃ later, execute remote (.run selection true) after = (.ok (), later) ∧
      later.files = after.files) ∧
    Record.load after.files (selection.directory.join path) = .ok record ∧
    ∃ rebuilt filled, Ends (Rebuild.rebuild record) after.files (.ok rebuilt) after.files ∧
      Ends (Placeholders.fill record) after.files (.ok filled) after.files ∧
      filled.created = [] := by
  rcases exists_ends_allStages remote record session.files with ⟨result, final, ends, stages⟩
  have left := ((leaves_run_one named loaded ends).exists_run_iff session.events).1
    ⟨after, ran, rfl⟩
  rw [ends.effect_eq] at left
  rcases Option.map_eq_some_iff.1 left with ⟨value, answered, shape⟩
  cases result with
  | error error => cases answered
  | ok value =>
      subst shape
      rcases stages value rfl with ⟨rebuilt, between, filled, rebuildEnds, fillEnds⟩
      rcases Placeholders.exists_writes_of_ends_fill plain fillEnds with
        ⟨⟨added, same, inTree, fresh⟩, filledAgain, fillAgain, created⟩
      have rebuildAgain : ∃ again,
          Ends (Rebuild.rebuild record) after.files (.ok again) after.files := by
        rw [same] at flat ⊢
        exact Rebuild.ends_rebuild_again apart rebuildEnds inTree fresh flat
      rcases rebuildAgain with ⟨rebuiltAgain, rebuildAgain⟩
      -- The record is still the same, since all was written in the tree.
      have outsideTree : (selection.directory.join path).isIn [record.treePath] = false := by
        simpa [Path.isIn] using outside
      have loadedAgain : Record.load after.files (selection.directory.join path) = .ok record := by
        have written := (Rebuild.admits_of_ends_rebuild apart rebuildEnds).2.2
        rw [same, written, Record.load_writes _ outsideTree, Record.load_writes _ outsideTree,
          loaded]
        · intro output member
          exact Path.isIn_of_mem (List.mem_singleton_self _)
            (Rebuild.isWithin_of_mem_outputs member)
        · intro output member
          exact Path.isIn_of_mem (List.mem_singleton_self _) (inTree output member)
      have endsAgain : Ends (allStages remote true record) after.files (.ok ()) after.files :=
        rebuildAgain.discard.bind fillAgain.discard
      refine ⟨?_, loadedAgain, rebuiltAgain, filledAgain, rebuildAgain, fillAgain, created⟩
      apply ((leaves_run_one named loadedAgain endsAgain).exists_run_iff after.events).2
      rw [endsAgain.effect_eq]
      rfl

/-- A site with a document, whose source refers to a module that is not there. -/
def againStore : Store :=
  (Store.empty.place ⟨"r/a.json"⟩ (siteText "a").toUTF8).place ⟨"a/maps/m.map"⟩
    "\x7b\"sources\":[\"x.js\"],\"sourcesContent\":[\"import './y'\"]\x7d".toUTF8

@[inherit_doc againStore]
def againSite : Selection :=
  { named := [⟨"a.json"⟩], directory := ⟨"r"⟩ }

/-- The first run writes the source and its placeholder, and the second finds both. -/
theorem run_again_againStore :
    ∃ after later,
      execute .offline (.run againSite true) ⟨againStore, #[]⟩ = (.ok (), after) ∧
      after.files.isFile ⟨"a/src/y.js"⟩ = true ∧
      execute .offline (.run againSite true) after = (.ok (), later) ∧
      later.files = after.files := by
  have loaded : Record.load againStore ⟨"r/a.json"⟩ = .ok (siteRecord "a") := by decide +kernel
  have succeeds : ((allStages .offline true (siteRecord "a")).effect againStore).any
      (fun files => decide files.IsFlat && files.isFile ⟨"a/src/y.js"⟩) = true := by
    decide +kernel
  rcases (Option.any_eq_true _ _).1 succeeds with ⟨files, left, sound⟩
  rcases Bool.and_eq_true_iff.1 sound with ⟨flat, stubbed⟩
  rcases exists_ends_allStages .offline (siteRecord "a") againStore with ⟨_, _, ends, _⟩
  have joined : againSite.directory.join ⟨"a.json"⟩ = ⟨"r/a.json"⟩ := by decide
  rw [← joined] at loaded
  have leaves : Leaves (execute .offline (.run againSite true)) againStore _ :=
    leaves_run_one rfl loaded ends
  rcases (leaves.exists_run_iff #[]).2 left with ⟨after, ran, rfl⟩
  have plain : (siteRecord "a").treePath.IsPlain := ⟨["a", "src"], Or.inl (by decide)⟩
  rcases run_again rfl loaded plain (by decide) (by decide) ran (of_decide_eq_true flat) with
    ⟨⟨later, again, same⟩, _⟩
  exact ⟨after, later, ran, stubbed, again, same⟩

end Command

end SourceTree
