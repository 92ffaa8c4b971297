import SourceTree.Proofs.Acquire.Account
import SourceTree.Proofs.Rebuild.Division
import SourceTree.Proofs.Rebuild.LastWrite

/-!
# Acquired documents in a rebuild

A rebuild finds the documents that a pass has fetched by their place and by the ending of their file
names. The place is settled by the ordinary segments of a document's name: whatever else the name
holds is dropped on the way, so with one such segment left the document is below the maps directory
and is listed there. The file name is the last of them. A name that ends like a map document keeps
that ending; one that goes on behind it, as with a query, loses the document for the rebuild.
-/

namespace SourceTree

namespace Bundle

variable {name own : String}

/-- The ordinary segments of the name of a document. -/
def ownNames (name : String) : List String :=
  ((Text.split '/' name.toList).filter fun segment =>
    segment ≠ [] ∧ segment ≠ ['.'] ∧ segment ≠ ['.', '.']).map String.ofList

theorem stepsOf_foldl_join (segments : List (List Char)) (base : Path)
    (slashless : ∀ segment ∈ segments, '/' ∉ segment) :
    Path.stepsOf (segments.foldl (fun path segment =>
        path.join ⟨String.ofList segment⟩) base).text.toList =
      Path.stepsOf base.text.toList ++ segments.filterMap Component.ofSegment? := by
  induction segments generalizing base with
  | nil => simp
  | cons segment segments ih =>
      have absent := slashless segment (by simp)
      have own : Path.stepsOf segment = (Component.ofSegment? segment).toList := by
        rw [Path.stepsOf, Text.split_of_not_mem absent]
        cases shape : Component.ofSegment? segment <;> simp [shape]
      rw [List.foldl_cons, ih _ fun other member => slashless other (List.mem_cons_of_mem _ member),
        Path.stepsOf_join (Path.isAbsolute_of_slash_not_mem absent), String.toList_ofList, own,
        List.append_assoc]
      cases shape : Component.ofSegment? segment <;> simp [shape]

/-- A document is kept behind the maps directory, by the ordinary segments of its name. -/
theorem stepsOf_localPath (maps : Path) (name : String) :
    Path.stepsOf (localPath maps name).text.toList =
      Path.stepsOf maps.text.toList ++ (ownNames name).map .name := by
  have kept : ∀ segments : List (List Char),
      (segments.filter fun segment => segment ≠ [] ∧ segment ≠ ['.', '.']).filterMap
          Component.ofSegment? =
        ((segments.filter fun segment => segment ≠ [] ∧ segment ≠ ['.'] ∧
          segment ≠ ['.', '.']).map String.ofList).map .name := by
    intro segments
    induction segments with
    | nil => rfl
    | cons segment segments ih =>
        by_cases empty : segment = []
        · simpa [empty] using ih
        · by_cases dots : segment = ['.', '.']
          · simpa [dots] using ih
          · by_cases dot : segment = ['.']
            · simpa [dot, Component.ofSegment?] using ih
            · simpa [empty, dots, dot, Component.ofSegment?] using ih
  rw [localPath, stepsOf_foldl_join, kept, ownNames]
  intro segment member
  exact Text.not_mem_of_mem_split (List.mem_filter.1 member).1

/-- With an ordinary segment, a document does not go to the maps directory itself. -/
theorem components_localPath_ne (maps : Path) (last : (ownNames name).getLast? = some own) :
    (localPath maps name).components ≠ maps.components := by
  intro same
  have none : ownNames name = [] := by
    simpa [stepsOf_localPath] using Path.stepsOf_congr same
  simp [none] at last

theorem fileName?_localPath (maps : Path) (last : (ownNames name).getLast? = some own) :
    (localPath maps name).fileName? = some own := by
  simp [Path.fileName?, Path.components_eq, stepsOf_localPath, List.getLast?_append, last]

theorem isMapDocument_localPath_iff (maps : Path) (last : (ownNames name).getLast? = some own) :
    MapDocument.isMapDocument (localPath maps name) = true ↔
      MapDocument.ending.toList <:+ own.toList := by
  simp [MapDocument.isMapDocument, fileName?_localPath maps last]

/-- The ending of a name is the ending of its last segment, which is an ordinary one. -/
theorem exists_own_of_ending (ends : MapDocument.ending.toList <:+ name.toList) :
    ∃ own, (ownNames name).getLast? = some own ∧ MapDocument.ending.toList <:+ own.toList := by
  have slashless : '/' ∉ MapDocument.ending.toList := by decide
  rcases Text.exists_split_of_suffix slashless ends with ⟨init, last, pieces, lastEnds⟩
  have long : 4 ≤ last.length := lastEnds.length_le
  have ordinary : last ≠ [] ∧ last ≠ ['.'] ∧ last ≠ ['.', '.'] := by
    refine ⟨?_, ?_, ?_⟩
    · rintro rfl
      simp at long
    · rintro rfl
      simp at long
    · rintro rfl
      simp at long
  refine ⟨String.ofList last, ?_, by simpa using lastEnds⟩
  rw [ownNames, pieces, List.filter_append]
  simp [ordinary]

end Bundle

namespace Acquire

variable {remote : Remote} {record : Record} {dryRun : Bool} {store : Store}

/-- What a pass writes is listed below the maps directory, if it does not go to the directory
itself. -/
theorem exists_list_supplied {given : List String} {output : Path × String}
    (member : output ∈ outputs record (turns remote record dryRun store given))
    (below : output.1.components ≠ record.mapsPath.components) :
    ∃ paths, FileSystem.list (supplied remote record dryRun store given) record.mapsPath =
      .ok paths ∧ output.1 ∈ paths := by
  have stored := mem_files_supplied member
  have within : output.1.isWithin record.mapsPath = true := by
    rcases exists_of_mem_outputs member with ⟨name, _, path, _⟩
    rw [path]
    exact record.isWithin_documentPath name
  have directory : (supplied remote record dryRun store given).isDirectory record.mapsPath =
      true := by
    rw [Store.isDirectory_iff]
    exact Or.inr ⟨_, stored, Path.isWithin_iff.1 within, below⟩
  refine ⟨_, Store.list_of_isDirectory directory, ?_⟩
  exact List.mem_filter.2 ⟨List.mem_map.2 ⟨_, stored, rfl⟩, within⟩

/-- Every document that a pass has fetched is kept for a name that a bundle gives. If the name has
an ordinary segment, the document is listed below the maps directory behind the pass, and it is
called like a map document exactly if the last such segment is; a name with the ending of a map
document always has one. The documents that a rebuild directly behind the pass counts or skips are
those listed ones, and no others. -/
theorem downloaded_divided {session after : Session Store} {report : Report} {path : Path}
    (ran : acquire remote record dryRun session = (.ok report, after))
    (member : path ∈ report.downloaded) :
    ∃ name ∈ names session.files record, path = record.documentPath name ∧
      (MapDocument.ending.toList <:+ name.toList →
        ∃ own, (Bundle.ownNames name).getLast? = some own ∧
          MapDocument.ending.toList <:+ own.toList) ∧
      ∀ own, (Bundle.ownNames name).getLast? = some own →
        ∃ paths, FileSystem.list after.files record.mapsPath = .ok paths ∧ path ∈ paths ∧
          (MapDocument.isMapDocument path = true ↔ MapDocument.ending.toList <:+ own.toList) ∧
          ∀ rebuilt final, Rebuild.rebuild record after = (.ok rebuilt, final) →
            ∃ written : List Path, written.length = rebuilt.documents ∧
              (written ++ rebuilt.skipped).Perm (paths.filter MapDocument.isMapDocument) ∧
              (path ∈ written ++ rebuilt.skipped ↔
                MapDocument.ending.toList <:+ own.toList) := by
  rcases eq_of_acquire ran with ⟨rfl, files⟩
  rcases List.mem_map.1 member with ⟨output, outputMem, rfl⟩
  rcases exists_of_mem_outputs outputMem with ⟨name, given, path, _⟩
  refine ⟨name, given, path, Bundle.exists_own_of_ending, ?_⟩
  intro own last
  have below : output.1.components ≠ record.mapsPath.components := by
    rw [path]
    exact Bundle.components_localPath_ne record.mapsPath last
  have called : MapDocument.isMapDocument output.1 = true ↔
      MapDocument.ending.toList <:+ own.toList := by
    rw [path]
    exact Bundle.isMapDocument_localPath_iff record.mapsPath last
  rcases exists_list_supplied outputMem below with ⟨paths, listed, pathMem⟩
  rw [← files] at listed
  refine ⟨paths, listed, pathMem, called, ?_⟩
  intro rebuilt final rebuiltRan
  rcases Rebuild.exists_divides_of_rebuild rebuiltRan with
    ⟨again, relisted, written, count, parts⟩
  cases listed.symm.trans relisted
  refine ⟨written, count, parts, ?_⟩
  rw [parts.mem_iff, List.mem_filter, ← called]
  exact and_iff_right pathMem

/-- Two bundles, one of which names its document with a query. -/
def taggedStore : Store :=
  (Store.empty.place ⟨"in/1.js"⟩ "//# sourceMappingURL=./a.map".toUTF8).place
    ⟨"in/2.js"⟩ "//# sourceMappingURL=b.map?v=2".toUTF8

@[inherit_doc taggedStore]
def taggedRemote : Remote :=
  .ofList [("u/./a.map", "\x7b\x7d"), ("u/b.mapv=2", "\x7b\x7d")]

theorem names_taggedStore : names taggedStore sharedRecord = ["./a.map", "b.mapv=2"] := by
  decide +kernel

theorem outputs_taggedStore :
    outputs sharedRecord (turns taggedRemote sharedRecord false taggedStore
      (names taggedStore sharedRecord)) =
        [(⟨"out/maps/./a.map"⟩, "\x7b\x7d"), (⟨"out/maps/b.mapv=2"⟩, "\x7b\x7d")] := by
  rw [names_taggedStore]
  decide +kernel

/-- Both documents are fetched, both are listed behind the pass, and the rebuild there gets
through. -/
theorem exists_runs_taggedStore :
    ∃ report after rebuilt final,
      acquire taggedRemote sharedRecord false ⟨taggedStore, #[]⟩ = (.ok report, after) ∧
      report.downloaded = [⟨"out/maps/./a.map"⟩, ⟨"out/maps/b.mapv=2"⟩] ∧
      FileSystem.list after.files sharedRecord.mapsPath =
        .ok [⟨"out/maps/./a.map"⟩, ⟨"out/maps/b.mapv=2"⟩] ∧
      Rebuild.rebuild sharedRecord after = (.ok rebuilt, final) ∧
      rebuilt.documents = 1 ∧ rebuilt.skipped = [] := by
  have directory : taggedStore.isDirectory sharedRecord.inputDir = true := by decide
  rcases ends_acquire_of_isDirectory taggedRemote false directory #[] with ⟨told, ran⟩
  rw [supplied, outputs_taggedStore] at ran
  generalize stored : taggedStore.writes _ = store at ran
  have maps : store.isDirectory sharedRecord.mapsPath = true := by
    rw [← stored]
    decide +kernel
  have nothing : Rebuild.outputs store sharedRecord = [] := by
    rw [← stored]
    decide +kernel
  have out := Rebuild.writesOut_rebuild maps (by simp [nothing])
  rw [nothing] at out
  rcases out.ends Store.Admits.nil told with ⟨_, rebuilt⟩
  refine ⟨_, _, _, _, ran, ?_, ?_, rebuilt, ?_, ?_⟩
  · simp [tally, outputs_taggedStore]
  · rw [Store.list_of_isDirectory maps, ← stored]
    decide +kernel
  · rw [← stored]
    decide +kernel
  · rw [← stored]
    decide +kernel

/-- The name without a query leads to the one document that the rebuild counts. -/
theorem downloaded_divided_taggedStore :
    ∃ report after rebuilt final,
      acquire taggedRemote sharedRecord false ⟨taggedStore, #[]⟩ = (.ok report, after) ∧
      report.downloaded = [⟨"out/maps/./a.map"⟩, ⟨"out/maps/b.mapv=2"⟩] ∧
      Rebuild.rebuild sharedRecord after = (.ok rebuilt, final) ∧
      ∃ written : List Path, written.length = rebuilt.documents ∧
        written = [⟨"out/maps/./a.map"⟩] ∧ rebuilt.skipped = [] := by
  rcases exists_runs_taggedStore with
    ⟨report, after, rebuilt, final, ran, downloaded, listing, rebuiltRan, _, skipped⟩
  have member : ⟨"out/maps/./a.map"⟩ ∈ report.downloaded := by simp [downloaded]
  rcases downloaded_divided ran member with ⟨name, given, path, ending, listed⟩
  have named : name = "./a.map" := by
    change name ∈ names taggedStore sharedRecord at given
    rw [names_taggedStore] at given
    rcases List.mem_pair.1 given with rfl | rfl
    · rfl
    · exact absurd path (by decide +kernel)
  subst named
  rcases ending (by decide) with ⟨own, last, _⟩
  rcases listed own last with ⟨paths, relisted, _, _, divided⟩
  rcases divided rebuilt final rebuiltRan with ⟨written, count, parts, _⟩
  cases listing.symm.trans relisted
  have documents : [⟨"out/maps/./a.map"⟩, ⟨"out/maps/b.mapv=2"⟩].filter
      MapDocument.isMapDocument = [⟨"out/maps/./a.map"⟩] := by
    decide +kernel
  rw [skipped, List.append_nil, documents] at parts
  exact ⟨report, after, rebuilt, final, ran, downloaded, rebuiltRan, written, count,
    List.perm_singleton.1 parts, skipped⟩

/-- The query stays in the file name of the other, and the rebuild does not look at it: it is
neither counted nor skipped. -/
theorem downloaded_undivided_taggedStore :
    ∃ report after rebuilt final,
      acquire taggedRemote sharedRecord false ⟨taggedStore, #[]⟩ = (.ok report, after) ∧
      ⟨"out/maps/b.mapv=2"⟩ ∈ report.downloaded ∧
      MapDocument.isMapDocument ⟨"out/maps/b.mapv=2"⟩ = false ∧
      Rebuild.rebuild sharedRecord after = (.ok rebuilt, final) ∧
      rebuilt.documents + rebuilt.skipped.length < report.downloaded.length ∧
      ⟨"out/maps/b.mapv=2"⟩ ∉ rebuilt.skipped := by
  rcases exists_runs_taggedStore with
    ⟨report, after, rebuilt, final, ran, downloaded, _, rebuiltRan, count, skipped⟩
  refine ⟨report, after, rebuilt, final, ran, ?_, ?_, rebuiltRan, ?_, ?_⟩
  · simp [downloaded]
  · decide +kernel
  · simp [downloaded, count, skipped]
  · simp [skipped]

end Acquire

end SourceTree
