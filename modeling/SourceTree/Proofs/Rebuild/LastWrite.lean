import Mathlib.Data.List.Basic
import SourceTree.Proofs.Path.Within
import SourceTree.Proofs.SourceName.Containment
import SourceTree.Proofs.Stage.Writes
import SourceTree.Stage.Rebuild

/-!
# The last write wins

Rebuilding reads its documents from the store that it writes to. As long as no source is written
over a document, what each document says is known before the first write: the rebuild is then a row
of writes, one for each source with a name, in the order of the documents and of the sources in
them. It stops only in front of a path that is a directory at its turn. Skipped documents and
nameless sources write nothing.
-/

namespace SourceTree.Rebuild

open Stage (Ends WritesOut)

variable {record : Record} {store : Store}

/-- The map documents that are listed, with their contents and in the order of their paths. -/
def mapFiles (store : Store) (record : Record) : List (Path × ByteArray) :=
  if store.isDirectory record.mapsPath then
    store.files.filter fun file =>
      file.1.isWithin record.mapsPath && MapDocument.isMapDocument file.1
  else []

/-- The document in a file, if the content is text and the text parses. -/
def document? (content : ByteArray) : Option MapDocument :=
  match Text.Utf8.decode content with
  | .ok text => (MapDocument.parse text).toOption
  | .error _ => none

/-- The sources in a file: those of its document, none without one. -/
def entriesOf (file : Path × ByteArray) : List (String × String) :=
  ((document? file.2).map MapDocument.entries).getD []

/-- Every embedded source with its content, document after document. -/
def entries (store : Store) (record : Record) : List (String × String) :=
  (mapFiles store record).flatMap entriesOf

/-- Where a source is written and with what content, unless its cleaned name is empty. -/
def output? (record : Record) (entry : String × String) : Option (Path × String) :=
  let cleaned := SourceName.clean entry.1 record.bundleName
  if cleaned.isEmpty then none else some (record.treePath.join ⟨cleaned⟩, entry.2)

/-- What is to be written, in order. -/
def outputs (store : Store) (record : Record) : List (Path × String) :=
  (entries store record).filterMap (output? record)

/-- Where a source is written, if it is. -/
def target (record : Record) (entry : String × String) : Path :=
  record.treePath.join ⟨SourceName.clean entry.1 record.bundleName⟩

/-- The report with one more source. -/
def countEntry (record : Record) (report : Report) (entry : String × String) : Report :=
  if (output? record entry).isSome then { report with filesWritten := report.filesWritten + 1 }
  else { report with emptyPaths := report.emptyPaths + 1 }

/-- The report with one more document. -/
def countFile (record : Record) (report : Report) (file : Path × ByteArray) : Report :=
  match document? file.2 with
  | some document =>
      let counted := document.entries.foldl (countEntry record) report
      { counted with documents := counted.documents + 1 }
  | none => { report with skipped := report.skipped ++ [file.1] }

section Outputs

variable {entry : String × String} {output : Path × String}

theorem output?_eq_some_iff :
    output? record entry = some output ↔
      SourceName.clean entry.1 record.bundleName ≠ "" ∧
        (target record entry, entry.2) = output := by
  simp [output?, target]

theorem mem_outputs_iff :
    output ∈ outputs store record ↔
      ∃ entry ∈ entries store record, SourceName.clean entry.1 record.bundleName ≠ "" ∧
        (target record entry, entry.2) = output := by
  simp only [outputs, List.mem_filterMap, output?_eq_some_iff]

/-- Sources are written within the tree. -/
theorem isWithin_of_mem_outputs (member : output ∈ outputs store record) :
    output.1.isWithin record.treePath = true := by
  rcases mem_outputs_iff.1 member with ⟨entry, _, _, rfl⟩
  dsimp only [target]
  exact Path.isWithin_join (SourceName.isAbsolute_clean entry.1 record.bundleName)

end Outputs

section Steps

variable {file : Path × ByteArray}

theorem writesOut_writeEntry (record : Record) (document : Path) (report : Report)
    (entry : String × String) (store : Store) :
    WritesOut (writeEntry record document report entry) store (output? record entry).toList
      (countEntry record report entry) := by
  rcases entry with ⟨source, content⟩
  rw [writeEntry, countEntry, output?]
  dsimp only
  by_cases empty : (SourceName.clean source record.bundleName).isEmpty = true
  · rw [if_pos empty, if_pos empty]
    apply WritesOut.of_ends
    apply Ends.after_tell
    exact Ends.pure _
  · rw [if_neg empty, if_neg empty]
    apply (WritesOut.write store _ content).bind_ends
    apply Ends.after_tell
    exact Ends.pure _

theorem load_of_content? (found : store.content? file.1 = some file.2) :
    (MapDocument.load store file.1).toOption = document? file.2 := by
  have readable : FileSystem.readText store file.1 =
      (Text.Utf8.decode file.2).mapError .notText := by
    change store.readText file.1 = _
    simp [Store.readText, Store.readBytes, found]
  rw [MapDocument.load, readable, document?]
  cases Text.Utf8.decode file.2 with
  | error fault => rfl
  | ok text =>
      change (MapDocument.ofText text).toOption = (MapDocument.parse text).toOption
      rw [MapDocument.ofText]
      cases MapDocument.parse text <;> rfl

theorem writesOut_writeDocument (report : Report)
    (found : store.content? file.1 = some file.2) :
    WritesOut (writeDocument record report file.1) store
      ((entriesOf file).filterMap (output? record)) (countFile record report file) := by
  have loaded := load_of_content? found
  cases outcome : MapDocument.load store file.1 with
  | error error =>
      have unloadable : document? file.2 = none := by rw [← loaded, outcome]; rfl
      rw [countFile, entriesOf, unloadable]
      apply WritesOut.after_ends Ends.files_ok
      rw [outcome]
      apply WritesOut.of_ends
      apply Ends.after_tell
      exact Ends.pure _
  | ok document =>
      have loadable : document? file.2 = some document := by rw [← loaded, outcome]; rfl
      rw [countFile, entriesOf, loadable]
      have written : WritesOut (document.entries.foldlM (writeEntry record file.1) report) store
          (document.entries.filterMap (output? record))
          (document.entries.foldl (countEntry record) report) := by
        rw [List.filterMap_eq_flatMap_toList]
        apply WritesOut.foldlM_always
        intro report entry store
        exact writesOut_writeEntry record file.1 report entry store
      apply WritesOut.after_ends Ends.files_ok
      rw [outcome]
      exact written.bind_ends (Ends.pure _)

end Steps

theorem mem_files_of_mem_mapFiles {file : Path × ByteArray}
    (member : file ∈ mapFiles store record) : file ∈ store.files := by
  rw [mapFiles] at member
  split at member
  · exact (List.mem_filter.1 member).1
  · cases member

/-- Documents are worked through in the order of their paths. -/
theorem pairwise_mapFiles (store : Store) (record : Record) :
    (mapFiles store record).Pairwise fun earlier later => earlier.1.order later.1 = .lt := by
  rw [mapFiles]
  split
  · exact store.ordered.filter _
  · exact List.Pairwise.nil

/-- The report of a pass that gets through. -/
def counted (store : Store) (record : Record) : Report :=
  (mapFiles store record).foldl (countFile record) {}

/-- Where no output goes to a listed document, a rebuild is a row of writes. -/
theorem writesOut_rebuild (directory : store.isDirectory record.mapsPath = true)
    (apart : ∀ output ∈ outputs store record, ∀ file ∈ mapFiles store record,
      output.1.same file.1 = false) :
    WritesOut (rebuild record) store (outputs store record) (counted store record) := by
  have paths : ((store.files.map Prod.fst).filter (·.isWithin record.mapsPath)).filter
      MapDocument.isMapDocument = (mapFiles store record).map Prod.fst := by
    rw [mapFiles, if_pos directory, List.filter_filter, List.filter_map]
    congr 2
    funext file
    exact Bool.and_comm _ _
  -- Every document can still be read as it was at the start.
  have written : WritesOut
      ((mapFiles store record).foldlM (fun report file => writeDocument record report file.1) {})
      store ((mapFiles store record).flatMap fun file =>
        (entriesOf file).filterMap (output? record)) (counted store record) := by
    apply WritesOut.foldlM
      (fun between => ∀ file ∈ mapFiles store record, between.content? file.1 = some file.2)
    · intro report file member between readable
      exact writesOut_writeDocument report (readable file member)
    · intro file member between readable other otherMem
      rw [Store.content?_writes_of_forall_ne, readable other otherMem]
      intro output outputMem
      apply apart output _ other otherMem
      rcases List.mem_filterMap.1 outputMem with ⟨entry, entryMem, shape⟩
      exact List.mem_filterMap.2 ⟨entry, List.mem_flatMap.2 ⟨file, member, entryMem⟩, shape⟩
    · intro file member
      exact Store.content?_of_mem (mem_files_of_mem_mapFiles member)
  rw [← List.filterMap_flatMap] at written
  apply WritesOut.after_ends (Ends.list_ok (Store.list_of_isDirectory directory))
  dsimp only
  rw [paths, List.foldlM_map]
  apply written.bind_ends
  apply Ends.after_tell
  exact Ends.pure _

theorem ends_rebuild_of_not_isDirectory (absent : store.isDirectory record.mapsPath = false) :
    Ends (rebuild record) store (.error (.list record.mapsPath (.noDirectory record.mapsPath)))
      store :=
  (Ends.list_error (Store.list_of_not_isDirectory absent)).bind_error

section Counts

theorem foldl_countEntry (entries : List (String × String)) (report : Report) :
    entries.foldl (countEntry record) report =
      { report with
        filesWritten := report.filesWritten + (entries.filterMap (output? record)).length
        emptyPaths := report.emptyPaths +
          (entries.filter fun entry => (output? record entry).isNone).length } := by
  induction entries generalizing report with
  | nil => rfl
  | cons entry entries ih =>
      rw [List.foldl_cons, ih, countEntry]
      cases shape : output? record entry with
      | some output => simp [shape, Nat.add_assoc, Nat.add_comm]
      | none => simp [shape, Nat.add_assoc, Nat.add_comm]

theorem foldl_countFile (files : List (Path × ByteArray)) (report : Report) :
    files.foldl (countFile record) report =
      { documents := report.documents + (files.filter fun file => (document? file.2).isSome).length
        skipped := report.skipped ++
          (files.filter fun file => (document? file.2).isNone).map Prod.fst
        filesWritten := report.filesWritten +
          ((files.flatMap entriesOf).filterMap (output? record)).length
        emptyPaths := report.emptyPaths + ((files.flatMap entriesOf).filter
          fun entry => (output? record entry).isNone).length } := by
  induction files generalizing report with
  | nil => simp
  | cons file files ih =>
      rw [List.foldl_cons, ih, countFile]
      cases shape : document? file.2 with
      | none => simp [shape, entriesOf]
      | some document =>
          simp [shape, entriesOf, foldl_countEntry]
          omega

theorem length_filter_isSome_add {α β : Type} (value? : α → Option β) (items : List α) :
    (items.filter fun item => (value? item).isSome).length +
      (items.filter fun item => (value? item).isNone).length = items.length := by
  have parts := List.length_eq_length_filter_add (l := items) fun item => (value? item).isSome
  simp only [Option.not_isSome] at parts
  exact parts.symm

theorem counted_eq (store : Store) (record : Record) :
    counted store record =
      { documents := ((mapFiles store record).filter fun file => (document? file.2).isSome).length
        skipped :=
          ((mapFiles store record).filter fun file => (document? file.2).isNone).map Prod.fst
        filesWritten := (outputs store record).length
        emptyPaths :=
          ((entries store record).filter fun entry => (output? record entry).isNone).length } := by
  rw [counted, foldl_countFile]
  simp [outputs, entries]

/-- Every listed document is written out or skipped. -/
theorem documents_counted (store : Store) (record : Record) :
    (counted store record).documents + (counted store record).skipped.length =
      (mapFiles store record).length := by
  simp only [counted_eq, List.length_map]
  exact length_filter_isSome_add (fun file : Path × ByteArray => document? file.2)
    (mapFiles store record)

/-- Every source is written or has no name. -/
theorem entries_counted (store : Store) (record : Record) :
    (counted store record).filesWritten + (counted store record).emptyPaths =
      (entries store record).length := by
  simp only [counted_eq, outputs, List.length_filterMap_eq_countP, List.countP_eq_length_filter]
  exact length_filter_isSome_add (output? record) (entries store record)

end Counts

/-- Where no output goes to a listed document, rebuilding is last-write-wins over the sources of the
documents in the order of their paths. Behind a pass that gets through, each output path holds the
last source written to it, every other file is as it was, and every document and every source is
counted once. A refused write leaves exactly the writes before it, and it is the first one in whose
way a directory is. A failed listing changes nothing, and nothing else can fail. -/
theorem rebuild_lastWrite {session after : Session Store} {result : Except StageError Report}
    (apart : ∀ output ∈ outputs session.files record, ∀ file ∈ mapFiles session.files record,
      output.1.same file.1 = false)
    (ran : rebuild record session = (result, after)) :
    ((mapFiles session.files record).Pairwise
      fun earlier later => earlier.1.order later.1 = .lt) ∧
    match result with
    | .ok report =>
        (∀ query, after.files.content? query =
          (lastOutput? (outputs session.files record) query).or (session.files.content? query)) ∧
        report.documents + report.skipped.length = (mapFiles session.files record).length ∧
        report.skipped = ((mapFiles session.files record).filter
          fun file => (document? file.2).isNone).map Prod.fst ∧
        report.filesWritten = (outputs session.files record).length ∧
        report.filesWritten + report.emptyPaths = (entries session.files record).length
    | .error (.write path error) =>
        error = .directoryInTheWay path ∧
        ∃ before output later, outputs session.files record = before ++ output :: later ∧
          output.1 = path ∧ session.files.Admits before ∧
          (session.files.writes before).isDirectory path = true ∧
          after.files = session.files.writes before
    | .error (.list _ _) => after.files = session.files
    | .error _ => False := by
  refine ⟨pairwise_mapFiles session.files record, ?_⟩
  cases directory : session.files.isDirectory record.mapsPath with
  | false =>
      rcases (ends_rebuild_of_not_isDirectory directory).eq_of_run ran with ⟨rfl, files⟩
      exact files
  | true =>
      rcases writesOut_rebuild directory apart with
        ⟨_, ended⟩ | ⟨before, output, later, cut, admitted, blocked, ended⟩
      · rcases ended.eq_of_run ran with ⟨rfl, files⟩
        refine ⟨?_, documents_counted session.files record, ?_, ?_,
          entries_counted session.files record⟩
        · intro query
          rw [files, Store.content?_writes]
        · rw [counted_eq]
        · rw [counted_eq]
      · rcases ended.eq_of_run ran with ⟨rfl, files⟩
        exact ⟨rfl, before, output, later, cut, rfl, admitted, blocked, files⟩

/-- A site with two documents for one source, spelled in two ways. Below its maps directory there
are also a document that does not parse and a text that is not called like a document. -/
def sharedRecord : Record :=
  { inputDir := ⟨"in"⟩, baseUrl := "", baseOutputDir := ⟨"out"⟩, mapsDir := ⟨"maps"⟩,
    decompiledDir := ⟨"src"⟩, extensions := [".js"], bundle := none }

@[inherit_doc sharedRecord]
def sharedStore : Store :=
  (((Store.empty.place ⟨"out/maps/b.map"⟩
    "\x7b\"sources\":[\"webpack://_N_E/../x//%79\"],\"sourcesContent\":[\"B\"]\x7d".toUTF8).place
    ⟨"out/maps/a.map"⟩
    "\x7b\"sources\":[\"x/./y\",\"..\"],\"sourcesContent\":[\"A\",\"E\"]\x7d".toUTF8).place
    ⟨"out/maps/c.map"⟩ "\x7b".toUTF8).place
    ⟨"out/maps/notes.txt"⟩ "\x7b\"sources\":[\"x/y\"],\"sourcesContent\":[\"C\"]\x7d".toUTF8

/-- The later document wins. One source has no name, one document is skipped, and the text that is
none stays as it is without being counted. -/
theorem rebuild_lastWrite_sharedStore :
    ∃ report after, rebuild sharedRecord ⟨sharedStore, #[]⟩ = (.ok report, after) ∧
      report.documents = 2 ∧ report.skipped = [⟨"out/maps/c.map"⟩] ∧
      report.filesWritten = 2 ∧ report.emptyPaths = 1 ∧
      after.files.content? ⟨"out/src/x/y"⟩ = some "B".toUTF8 ∧
      sharedStore.isFile ⟨"out/maps/notes.txt"⟩ = true ∧
      after.files.content? ⟨"out/maps/notes.txt"⟩ =
        sharedStore.content? ⟨"out/maps/notes.txt"⟩ := by
  have given : entries sharedStore sharedRecord =
      [("x/./y", "A"), ("..", "E"), ("webpack://_N_E/../x//%79", "B")] := by
    decide +kernel
  have last : outputs sharedStore sharedRecord =
      [(⟨"out/src/x/./y"⟩, "A"), (⟨"out/src/x//y"⟩, "B")] := by
    rw [outputs, given]
    decide +kernel
  have apart : ∀ output ∈ outputs sharedStore sharedRecord,
      ∀ file ∈ mapFiles sharedStore sharedRecord, output.1.same file.1 = false := by
    rw [last]
    decide +kernel
  have directory : sharedStore.isDirectory sharedRecord.mapsPath = true := by decide +kernel
  have admitted : sharedStore.Admits (outputs sharedStore sharedRecord) := by
    rw [last, ← List.singleton_append]
    exact .append (.singleton (by decide +kernel)) (.singleton (by decide +kernel))
  rcases (writesOut_rebuild directory apart).ends admitted #[] with ⟨told, ran⟩
  rcases @rebuild_lastWrite _ ⟨sharedStore, #[]⟩ _ _ apart ran with
    ⟨_, contents, documents, skipped, written, sources⟩
  have listed : (mapFiles sharedStore sharedRecord).length = 3 := by decide +kernel
  have unparsed : (counted sharedStore sharedRecord).skipped = [⟨"out/maps/c.map"⟩] := by
    rw [skipped]
    decide +kernel
  have two : (counted sharedStore sharedRecord).filesWritten = 2 := by
    rw [written, last]
    rfl
  rw [unparsed, listed] at documents
  rw [two, given] at sources
  refine ⟨_, _, ran, Nat.add_right_cancel documents, unparsed, two, Nat.add_left_cancel sources,
    ?_, ?_, ?_⟩
  · have replaced : lastOutput? (outputs sharedStore sharedRecord) ⟨"out/src/x/y"⟩ =
        some "B".toUTF8 := by
      rw [last]
      decide +kernel
    rw [contents, replaced, Option.some_or]
  · decide +kernel
  · have untouched : lastOutput? (outputs sharedStore sharedRecord) ⟨"out/maps/notes.txt"⟩ =
        none := by
      rw [last]
      decide +kernel
    rw [contents, untouched, Option.none_or]

end SourceTree.Rebuild
