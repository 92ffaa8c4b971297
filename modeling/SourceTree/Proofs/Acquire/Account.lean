import SourceTree.Proofs.Acquire.Turns

/-!
# The account of a pass

Each named document is there already, fetched, refused or, in a dry run, missing, and the report
counts it once. A document is fetched at its first turn at which nothing is at its path and its
address is answered. Later turns for the same path find it there, whatever their addresses would
have given, so the text in it is the one served for the first name that leads to the path and can be
fetched at all.
-/

namespace SourceTree.Acquire

open Stage (Ends)

variable {remote : Remote} {record : Record} {dryRun : Bool} {store : Store}
  {given : List String}

/-- The text served for the first of some documents that belongs at a path and can be fetched. -/
def served? (remote : Remote) (record : Record) (given : List String) (path : Path) :
    Option String :=
  given.findSome? fun name =>
    if (record.documentPath name).same path then
      (remote (record.documentAddress name)).toOption
    else none

section Counts

theorem references_tally (count : Nat) (turns : List Turn) :
    (tally record count turns).references = (tally record count turns).present +
      (tally record count turns).downloaded.length + (tally record count turns).failed.length +
      (tally record count turns).missing.length := by
  induction turns with
  | nil => rfl
  | cons turn turns ih =>
      rcases turn with ⟨name, outcome⟩
      simp only [tally, outputs, List.length_map] at ih ⊢
      cases outcome <;>
        simp [List.filterMap_cons, Turn.output?, Turn.failed?, Turn.missing?] <;> omega

/-- A dry run fetches nothing and asks for nothing. -/
theorem outputs_eq_nil_of_dryRun (dry : dryRun = true) :
    outputs record (turns remote record dryRun store given) = [] := by
  rw [List.eq_nil_iff_forall_not_mem]
  intro output member
  rcases exists_of_mem_outputs member with ⟨_, _, _, _, real, _⟩
  simp [dry] at real

theorem missing_eq_nil_of_not_dryRun (real : dryRun = false) :
    (turns remote record dryRun store given).filterMap (Turn.missing? record) = [] := by
  rw [List.filterMap_eq_nil_iff]
  intro turn member
  rcases exists_cut_of_mem_turns member with ⟨before, later, _, shape⟩
  rw [Turn.missing?, if_neg]
  intro missing
  rw [missing, eq_comm, outcome_eq_missing_iff] at shape
  simp [real] at shape

/-- Only refused addresses are reported as failed, and a dry run has none. -/
theorem refused_of_mem_failed {address : String}
    (member : address ∈
      (turns remote record dryRun store given).filterMap (Turn.failed? record)) :
    dryRun = false ∧ ∃ reason, remote address = .error reason := by
  rcases List.mem_filterMap.1 member with ⟨turn, turnMem, shape⟩
  rw [Turn.failed?, Option.ite_none_right_eq_some, Option.some.injEq] at shape
  rcases shape with ⟨failed, rfl⟩
  rcases exists_cut_of_mem_turns turnMem with ⟨before, later, _, outcome⟩
  rw [failed, eq_comm, outcome_eq_failed_iff] at outcome
  exact outcome.2

end Counts

section Served

/-- Behind a pass, a named document is there, or its address was refused. -/
theorem isTaken_supplied_or_refused (real : dryRun = false) {name : String}
    (member : name ∈ given) :
    (supplied remote record dryRun store given).isTaken (record.documentPath name) = true ∨
      ∃ reason, remote (record.documentAddress name) = .error reason := by
  rcases List.append_of_mem member with ⟨before, later, rfl⟩
  rw [List.append_cons]
  cases answer : remote (record.documentAddress name) with
  | error reason => exact Or.inr ⟨reason, rfl⟩
  | ok text =>
      left
      apply isTaken_supplied_append
      rw [supplied_concat]
      cases taken :
        (supplied remote record dryRun store before).isTaken (record.documentPath name) with
      | true => exact Store.isTaken_writes_of_isTaken taken _
      | false =>
          rw [outcome_eq_fetched_iff.2 ⟨taken, real, answer⟩, Store.isTaken_writes]
          simp [Turn.output?, Path.isWithin]

theorem served?_concat (given : List String) (name : String) (path : Path) :
    served? remote record (given ++ [name]) path =
      (served? remote record given path).or
        (if (record.documentPath name).same path then
          (remote (record.documentAddress name)).toOption
        else none) := by
  simp [served?, List.findSome?_append]

/-- Until something is at a path, no document that belongs there could be fetched. -/
theorem served?_eq_none (real : dryRun = false) {path : Path}
    (free : (supplied remote record dryRun store given).isTaken path = false) :
    served? remote record given path = none := by
  rw [served?, List.findSome?_eq_none_iff]
  intro name member
  split
  next same =>
    rcases isTaken_supplied_or_refused real member with taken | ⟨reason, refused⟩
    · rw [Store.isTaken_congr (Path.same_iff.1 same), free] at taken
      cases taken
    · rw [refused]
      rfl
  next => rfl

theorem served?_of_mem_outputs {output : Path × String}
    (member : output ∈ outputs record (turns remote record dryRun store given)) :
    served? remote record given output.1 = some output.2 := by
  induction given using List.reverseRecOn with
  | nil => cases member
  | append_singleton given name ih =>
      rw [turns_concat, outputs_concat, List.mem_append, Option.mem_toList] at member
      rw [served?_concat]
      rcases member with earlier | now
      · rw [ih earlier]
        rfl
      · rcases output?_eq_some_iff.1 now with ⟨fetched, path⟩
        rcases outcome_eq_fetched_iff.1 fetched with ⟨free, real, answer⟩
        rw [path, served?_eq_none real free]
        simp [Path.same, answer, Except.toOption]

/-- No two documents are written to the same path. -/
theorem pairwise_outputs :
    (outputs record (turns remote record dryRun store given)).Pairwise
      fun earlier later => earlier.1.same later.1 = false := by
  induction given using List.reverseRecOn with
  | nil => exact List.Pairwise.nil
  | append_singleton given name ih =>
      rw [turns_concat, outputs_concat, List.pairwise_append]
      refine ⟨ih, ?_, ?_⟩
      · cases Turn.output? record _ <;> simp
      · intro earlier earlierMem now nowMem
        rcases output?_eq_some_iff.1 (Option.mem_toList.1 nowMem) with ⟨fetched, path⟩
        have free := (outcome_eq_fetched_iff.1 fetched).1
        rw [← path, Store.isTaken_writes, Bool.or_eq_false_iff, List.any_eq_false] at free
        rw [Bool.eq_false_iff]
        intro same
        apply free.2 earlier earlierMem
        exact Path.isWithin_iff.2 (Path.same_iff.1 same ▸ List.prefix_rfl)

theorem isFile_eq_false_of_mem_outputs {output : Path × String}
    (member : output ∈ outputs record (turns remote record dryRun store given)) :
    store.isFile output.1 = false :=
  Store.not_isFile_of_not_isTaken (isTaken_eq_false_of_mem_outputs member)

/-- Fetched documents are stored under the paths they are reported with. -/
theorem mem_files_supplied {output : Path × String}
    (member : output ∈ outputs record (turns remote record dryRun store given)) :
    (output.1, output.2.toUTF8) ∈ (supplied remote record dryRun store given).files :=
  (Store.mem_files_writes (fun _ => isFile_eq_false_of_mem_outputs) pairwise_outputs).2
    (Or.inr ⟨output, member, rfl⟩)

theorem content?_of_mem_outputs {output : Path × String}
    (member : output ∈ outputs record (turns remote record dryRun store given)) :
    (supplied remote record dryRun store given).content? output.1 = some output.2.toUTF8 := by
  have found := Store.content?_of_mem (mem_files_supplied member)
  exact found

end Served

variable (remote dryRun) in
/-- On a store with an input directory a pass always answers. It counts the bundles, which are the
files below that directory with one of the endings, and those of them that name a document; each of
the latter is there already, fetched, refused or missing. No two of the fetched documents have the
same path, and at none of these paths was anything before; each has the text served for the first
name that leads there and can be fetched. Files that were there keep their contents, and nothing
changes outside of the maps directory. Only refused addresses are reported as failed. A dry run
leaves the files alone and, having nothing to ask, is the same for every remote; any other run
reports nothing as missing, and behind it every named document is there or refused. -/
theorem acquire_account (session : Session Store)
    (directory : session.files.isDirectory record.inputDir = true) :
    ∃ report after, acquire remote record dryRun session = (.ok report, after) ∧
      report.bundles = (bundles session.files record).length ∧
      (∀ path, path ∈ bundles session.files record ↔
        path ∈ session.files.files.map Prod.fst ∧ path.isWithin record.inputDir = true ∧
          ∃ name, path.fileName? = some name ∧
            ∃ ending ∈ record.extensions, ending.toList <:+ name.toList) ∧
      report.references = (names session.files record).length ∧
      report.references = report.present + report.downloaded.length + report.failed.length +
        report.missing.length ∧
      report.downloaded.Pairwise (fun earlier later => earlier.same later = false) ∧
      (∀ path ∈ report.downloaded, session.files.isTaken path = false ∧
        ∃ text, served? remote record (names session.files record) path = some text ∧
          after.files.content? path = some text.toUTF8) ∧
      (∀ query content, session.files.content? query = some content →
        after.files.content? query = some content) ∧
      (∀ query, query.isWithin record.mapsPath = false →
        after.files.content? query = session.files.content? query) ∧
      (∀ address ∈ report.failed, ∃ reason, remote address = .error reason) ∧
      (dryRun = true → after.files = session.files ∧ report.downloaded = [] ∧
        report.failed = [] ∧
        ∀ other : Remote, acquire other record dryRun session = (.ok report, after)) ∧
      (dryRun = false → report.missing = [] ∧ ∀ name ∈ names session.files record,
        after.files.isTaken (record.documentPath name) = true ∨
          ∃ reason, remote (record.documentAddress name) = .error reason) := by
  rcases ends_acquire_of_isDirectory remote dryRun directory session.events with ⟨told, ran⟩
  refine ⟨_, _, ran, rfl, fun _ => mem_bundles_iff, length_turns _, references_tally _ _, ?_, ?_, ?_,
    ?_, ?_, ?_, ?_⟩
  · exact List.pairwise_map.2 pairwise_outputs
  · intro path member
    rcases List.mem_map.1 member with ⟨output, outputMem, rfl⟩
    exact ⟨isTaken_eq_false_of_mem_outputs outputMem, output.2, served?_of_mem_outputs outputMem,
      content?_of_mem_outputs outputMem⟩
  · intro query content found
    exact content?_supplied found
  · intro query outside
    apply Store.content?_writes_of_forall_ne
    intro output member
    rcases exists_of_mem_outputs member with ⟨name, _, path, _⟩
    rw [Bool.eq_false_iff]
    intro same
    have within := record.isWithin_documentPath name
    rw [← path, Path.isWithin_congr (Path.same_iff.1 same), outside] at within
    cases within
  · intro address member
    exact (refused_of_mem_failed member).2
  · rintro rfl
    have nothing : outputs record
        (turns remote record true session.files (names session.files record)) = [] :=
      outputs_eq_nil_of_dryRun rfl
    refine ⟨?_, ?_, ?_, ?_⟩
    · simp [supplied, nothing, Store.writes]
    · simp [tally, nothing]
    · rw [List.eq_nil_iff_forall_not_mem]
      intro address member
      cases (refused_of_mem_failed member).1
    · -- The remote is not looked at, so that both runs are the same by definition.
      intro other
      exact ran
  · intro real
    exact ⟨missing_eq_nil_of_not_dryRun real, fun _ => isTaken_supplied_or_refused real⟩

/-- Three bundles that name one document in three ways, and a file that is no bundle. -/
def sharedRecord : Record :=
  { inputDir := ⟨"in"⟩, baseUrl := "u/", baseOutputDir := ⟨"out"⟩, mapsDir := ⟨"maps"⟩,
    decompiledDir := ⟨"src"⟩, extensions := [".js"], bundle := none }

@[inherit_doc sharedRecord]
def sharedStore : Store :=
  (((Store.empty.place ⟨"in/1.js"⟩ "//# sourceMappingURL=../a.map".toUTF8).place
    ⟨"in/2.js"⟩ "//# sourceMappingURL=//a.map".toUTF8).place
    ⟨"in/3.js"⟩ "//# sourceMappingURL=/./a.map".toUTF8).place
    ⟨"in/4.css"⟩ "/*# sourceMappingURL=b.map */".toUTF8

@[inherit_doc sharedRecord]
def sharedRemote : Remote :=
  .ofList [("u/a.map", "two"), ("u///a.map", "slashes"), ("u/./a.map", "three")]

theorem names_sharedStore :
    names sharedStore sharedRecord = ["../a.map", "//a.map", "/./a.map"] := by
  decide +kernel

theorem tally_sharedStore :
    tally sharedRecord (bundles sharedStore sharedRecord).length
      (turns sharedRemote sharedRecord false sharedStore (names sharedStore sharedRecord)) =
        { bundles := 3, references := 3, present := 1, downloaded := [⟨"out/maps/a.map"⟩],
          failed := ["u/../a.map"], missing := [] } := by
  rw [names_sharedStore]
  decide +kernel

/-- The first address is refused, the second one is answered without the slashes of its name, and the
third is not needed. -/
theorem acquire_account_sharedStore :
    sharedStore.isDirectory sharedRecord.inputDir = true ∧
      ∃ report after, acquire sharedRemote sharedRecord false ⟨sharedStore, #[]⟩ =
          (.ok report, after) ∧
        report.bundles = 3 ∧ ⟨"in/4.css"⟩ ∉ bundles sharedStore sharedRecord ∧
        report.references = 3 ∧ report.present = 1 ∧ report.downloaded = [⟨"out/maps/a.map"⟩] ∧
        report.failed = ["u/../a.map"] ∧
        after.files.content? ⟨"out/maps/a.map"⟩ = some "two".toUTF8 := by
  have directory : sharedStore.isDirectory sharedRecord.inputDir = true := by decide
  have first : served? sharedRemote sharedRecord (names sharedStore sharedRecord)
      ⟨"out/maps/a.map"⟩ = some "two" := by
    rw [names_sharedStore]
    decide +kernel
  rcases ends_acquire_of_isDirectory sharedRemote false directory #[] with ⟨told, ran⟩
  rcases acquire_account sharedRemote false ⟨sharedStore, #[]⟩ directory with
    ⟨report, after, again, _, bundle, _, _, _, fetched, _⟩
  cases ran.symm.trans again
  rw [tally_sharedStore] at ran fetched
  have stylesheet : ⟨"in/4.css"⟩ ∉ bundles sharedStore sharedRecord := by
    rw [bundle]
    rintro ⟨_, _, name, called, ends⟩
    obtain rfl : "4.css" = name := Option.some.inj called
    exact absurd ends (by decide)
  rcases fetched ⟨"out/maps/a.map"⟩ (by simp) with ⟨_, text, served, content⟩
  cases first.symm.trans served
  exact ⟨directory, _, _, ran, rfl, stylesheet, rfl, rfl, rfl, rfl, content⟩

end SourceTree.Acquire
