import SourceTree.Proofs.Acquire.Account

/-!
# One pass is enough

Behind a pass each named document is there or refused, and a later pass reads the same bundles as
long as no document is kept among them. So it has nothing to fetch. It can only fail where the first
pass failed too: a document that is not there in the end was not there at any of its turns, so each
of them failed. Documents can be there in the end although a turn of theirs failed, when another
address was answered later or a document was written below their path.
-/

namespace SourceTree.Acquire

open Stage (Ends)

variable {remote : Remote} {record : Record} {dryRun : Bool} {store : Store}
  {given : List String}

/-- The names whose documents are not there. -/
def lacking (store : Store) (record : Record) (given : List String) : List String :=
  given.filter fun name => !store.isTaken (record.documentPath name)

section Failures

/-- Only documents that were not there before the pass can fail. -/
theorem failed_sublist_lacking :
    ((turns remote record dryRun store given).filterMap (Turn.failed? record)).Sublist
      ((lacking store record given).map record.documentAddress) := by
  induction given using List.reverseRecOn with
  | nil => exact List.Sublist.refl []
  | append_singleton given name ih =>
      rw [turns_concat, List.filterMap_append, lacking, List.filter_append, List.map_append]
      apply ih.append
      by_cases failed : outcome remote record dryRun (supplied remote record dryRun store given)
          name = .failed
      · have free := (outcome_eq_failed_iff.1 failed).1
        rw [supplied, Store.isTaken_writes, Bool.or_eq_false_iff] at free
        rw [supplied] at failed
        simp [Turn.failed?, failed, free.1]
      · rw [supplied] at failed
        simp [Turn.failed?, failed]

/-- Every document that is not there behind the pass has failed at each of its turns. -/
theorem lacking_sublist_failed (real : dryRun = false) :
    ((lacking (supplied remote record dryRun store given) record given).map
      record.documentAddress).Sublist
      ((turns remote record dryRun store given).filterMap (Turn.failed? record)) := by
  induction given using List.reverseRecOn with
  | nil => exact List.Sublist.refl []
  | append_singleton given name ih =>
      rw [turns_concat, List.filterMap_append, lacking, List.filter_append, List.map_append]
      apply List.Sublist.append
      · refine List.Sublist.trans (List.Sublist.map _ ?_) ih
        apply List.monotone_filter_right
        intro other
        rw [Bool.not_eq_true', Bool.not_eq_true', ← Bool.not_eq_true, ← Bool.not_eq_true]
        exact mt (isTaken_supplied_append [name])
      · cases taken : (supplied remote record dryRun store (given ++ [name])).isTaken
            (record.documentPath name) with
        | true => simp [taken]
        | false =>
            have refused : ∃ reason, remote (record.documentAddress name) = .error reason := by
              have settled : (supplied remote record dryRun store (given ++ [name])).isTaken
                  (record.documentPath name) = true ∨ _ :=
                isTaken_supplied_or_refused real (by simp)
              simpa [taken] using settled
            have free : (supplied remote record dryRun store given).isTaken
                (record.documentPath name) = false := by
              rw [← Bool.not_eq_true] at taken ⊢
              exact mt (isTaken_supplied_append [name]) taken
            have failed : outcome remote record dryRun
                (supplied remote record dryRun store given) name = .failed :=
              outcome_eq_failed_iff.2 ⟨free, real, refused⟩
            rw [supplied] at failed
            simp [Turn.failed?, taken, failed]

theorem failed_supplied_sublist :
    ((turns remote record false (supplied remote record false store given) given).filterMap
      (Turn.failed? record)).Sublist
      ((turns remote record false store given).filterMap (Turn.failed? record)) :=
  failed_sublist_lacking.trans (lacking_sublist_failed rfl)

theorem isTaken_supplied_of_failed_eq_nil
    (noFailure : (turns remote record false store given).filterMap (Turn.failed? record) = []) :
    ∀ name ∈ given,
      (supplied remote record false store given).isTaken (record.documentPath name) = true := by
  have nothing : lacking (supplied remote record false store given) record given = [] := by
    rw [← List.map_eq_nil_iff, ← List.sublist_nil, ← noFailure]
    exact lacking_sublist_failed rfl
  intro name member
  simpa using List.filter_eq_nil_iff.1 nothing name member

end Failures

section Again

/-- Behind a pass there is nothing to fetch. -/
theorem outputs_supplied_eq_nil :
    outputs record (turns remote record false (supplied remote record false store given) given) =
      [] := by
  rw [List.eq_nil_iff_forall_not_mem]
  intro output member
  rcases exists_of_mem_outputs member with ⟨name, named, path, free, _, answer⟩
  rcases isTaken_supplied_or_refused rfl named with taken | ⟨reason, refused⟩
  · rw [path, taken] at free
    cases free
  · rw [refused] at answer
    cases answer

theorem supplied_supplied :
    supplied remote record false (supplied remote record false store given) given =
      supplied remote record false store given := by
  rw [supplied, outputs_supplied_eq_nil]
  rfl

/-- Documents kept elsewhere leave the input directory as it was. -/
theorem restrict_supplied (apart : record.inputDir.isNested record.mapsPath = false) :
    (supplied remote record dryRun store given).restrict [record.inputDir] =
      store.restrict [record.inputDir] := by
  apply Store.restrict_writes_of_outside
  intro output member
  rcases exists_of_mem_outputs member with ⟨name, _, path, _⟩
  rw [Bool.eq_false_iff]
  intro inside
  rcases Path.isIn_iff.1 inside with ⟨root, rootMem, within⟩
  cases List.mem_singleton.1 rootMem
  have nested := Path.isNested_of_isWithin within (path ▸ record.isWithin_documentPath name)
  simp [apart] at nested

variable {other : Store}
  (agree : other.restrict [record.inputDir] = store.restrict [record.inputDir])

include agree

theorem bundles_of_agree : bundles other record = bundles store record := by
  rw [bundles, bundles, Store.paths_of_agree agree (Path.isIn_self (by simp))]

theorem names_of_agree : names other record = names store record := by
  rw [names, names, bundles_of_agree agree]
  apply List.filterMap_congr
  intro bundle member
  have within := (List.mem_filter.1 (List.mem_filter.1 member).1).2
  have inside : bundle.isIn [record.inputDir] = true := Path.isIn_of_mem (by simp) within
  rw [named?, named?, Store.scannedText, Store.scannedText, Store.content?_of_agree agree inside]

end Again

section Requests

/-- The remote is not asked for a document that is there. -/
theorem run_provide_of_isTaken {name : String}
    (taken : store.isTaken (record.documentPath name) = true) (remote : Remote) (report : Report)
    (events : Array Event) :
    provide remote record dryRun name report ⟨store, events⟩ =
      (.ok { report with present := report.present + 1 }, ⟨store, events⟩) := by
  rw [provide, Stage.run_bind]
  change (if store.isTaken (record.documentPath name) = true then _ else _ : Stage Store Report)
    ⟨store, events⟩ = _
  rw [if_pos taken]
  rfl

theorem present_tally (present : ∀ name ∈ given, store.isTaken (record.documentPath name) = true)
    (count : Nat) :
    (tally record count (turns remote record dryRun store given)).present =
      (tally record count (turns remote record dryRun store given)).references := by
  refine List.countP_eq_length.2 ?_
  intro turn member
  rcases exists_cut_of_mem_turns member with ⟨before, later, cut, outcome⟩
  rw [decide_eq_true_eq, outcome, outcome_eq_present_iff]
  apply Store.isTaken_writes_of_isTaken
  apply present
  simp [cut]

variable (present : ∀ name ∈ names store record, store.isTaken (record.documentPath name) = true)

include present

theorem ends_inspect_of_present {bundle : Path} (member : bundle ∈ bundles store record)
    (remote : Remote) (report : Report) :
    ∃ next, Ends (inspect remote record dryRun report bundle) store (.ok next) store := by
  have read := ends_readLossy_bundle member fun _ => id
  cases named : named? store bundle with
  | none =>
      refine ⟨{ report with bundles := report.bundles + 1 }, read.bind ?_⟩
      rw [mapName?_scannedText, named]
      exact Ends.after_tell (Ends.pure _)
  | some name =>
      have taken := present name (List.mem_filterMap.2 ⟨bundle, member, named⟩)
      refine ⟨{ report with
        bundles := report.bundles + 1
        references := report.references + 1
        present := report.present + 1 }, read.bind ?_⟩
      rw [mapName?_scannedText, named]
      intro events
      exact ⟨events, run_provide_of_isTaken taken remote _ events⟩

theorem run_inspect_congr {bundle : Path} (member : bundle ∈ bundles store record)
    (remote other : Remote) (report : Report) (events : Array Event) :
    inspect other record dryRun report bundle ⟨store, events⟩ =
      inspect remote record dryRun report bundle ⟨store, events⟩ := by
  rcases ends_readLossy_bundle member (fun _ => id) events with ⟨told, read⟩
  rw [inspect, inspect, Stage.run_bind, Stage.run_bind, read]
  dsimp only
  rw [mapName?_scannedText]
  cases named : named? store bundle with
  | none => rfl
  | some name =>
      have taken := present name (List.mem_filterMap.2 ⟨bundle, member, named⟩)
      exact (run_provide_of_isTaken taken other _ _).trans
        (run_provide_of_isTaken taken remote _ _).symm

/-- If all documents are there, the pass is the same for every remote. -/
theorem run_acquire_congr (remote other : Remote) (events : Array Event) :
    acquire other record dryRun ⟨store, events⟩ = acquire remote record dryRun ⟨store, events⟩ := by
  rw [acquire, acquire, Stage.run_bind, Stage.run_bind]
  cases directory : store.isDirectory record.inputDir with
  | false =>
      rcases Ends.list_error (Store.list_of_not_isDirectory directory) events with ⟨told, listed⟩
      rw [listed]
  | true =>
      rcases Ends.list_ok (Store.list_of_isDirectory directory) events with ⟨told, listed⟩
      rw [listed]
      dsimp only
      rw [Stage.run_bind, Stage.run_bind]
      have alike : (bundles store record).foldlM (inspect other record dryRun) {} ⟨store, told⟩ =
          (bundles store record).foldlM (inspect remote record dryRun) {} ⟨store, told⟩ := by
        apply Stage.foldlM_congr
        · intro report bundle member
          exact run_inspect_congr present member remote other report
        · intro report bundle member
          exact ends_inspect_of_present present member remote report
      rw [bundles] at alike
      rw [alike]

end Requests

/-- If the input directory and the maps directory are not nested, a second pass over the files
behind a first one fetches nothing and leaves the files alone. It sees the same bundles and names,
and it fails only for addresses that failed before, in the same order. If none had failed, every
document is there, and the second pass is the same for every remote. A pass that cannot be made
leaves the files alone and cannot be made again. -/
theorem acquire_again {session after : Session Store} {result : Except StageError Report}
    (apart : record.inputDir.isNested record.mapsPath = false)
    (ran : acquire remote record false session = (result, after)) :
    (∀ report, result = .ok report → ∃ again later,
      acquire remote record false after = (.ok again, later) ∧
        again.downloaded = [] ∧ later.files = after.files ∧
        bundles after.files record = bundles session.files record ∧
        again.bundles = report.bundles ∧
        names after.files record = names session.files record ∧
        again.references = report.references ∧
        again.failed.Sublist report.failed ∧
        (report.failed = [] → again.present = again.references ∧
          ∀ other : Remote, acquire other record false after = (.ok again, later))) ∧
    ∀ error, result = .error error → after.files = session.files ∧
      ∃ later, acquire remote record false after = (.error error, later) ∧
        later.files = after.files := by
  cases directory : session.files.isDirectory record.inputDir with
  | false =>
      have refused := ends_acquire_of_not_isDirectory remote false directory
      rcases refused.eq_of_run ran with ⟨rfl, files⟩
      constructor
      · intro report answered
        cases answered
      · intro error answered
        cases answered
        rw [← files] at refused
        rcases refused after.events with ⟨told, again⟩
        exact ⟨files, _, again, rfl⟩
  | true =>
      rcases (ends_acquire_of_isDirectory remote false directory).eq_of_run ran with ⟨rfl, files⟩
      constructor
      · intro report answered
        cases answered
        have agree : after.files.restrict [record.inputDir] =
            session.files.restrict [record.inputDir] := by
          rw [files]
          exact restrict_supplied apart
        have sameBundles := bundles_of_agree agree
        have sameNames := names_of_agree agree
        have second := ends_acquire_of_isDirectory remote false
          ((Store.isDirectory_of_agree agree (Path.isIn_self (by simp))).trans directory)
        rw [sameNames] at second
        rcases second after.events with ⟨told, again⟩
        refine ⟨_, _, again, ?_, ?_, sameBundles, congrArg List.length sameBundles, sameNames,
          ?_, ?_, ?_⟩
        · rw [files, tally, outputs_supplied_eq_nil, List.map_nil]
        · rw [files, supplied_supplied]
        · exact (length_turns _).trans (length_turns _).symm
        · rw [files]
          exact failed_supplied_sublist
        · intro noFailure
          have taken : ∀ name ∈ names session.files record,
              after.files.isTaken (record.documentPath name) = true := by
            rw [files]
            exact isTaken_supplied_of_failed_eq_nil noFailure
          refine ⟨present_tally taken _, ?_⟩
          intro other
          rw [← sameNames] at taken
          exact (run_acquire_congr taken remote other after.events).trans again
      · intro error answered
        cases answered

/-- The first pass is refused once and the second not at all, since the document is there. -/
theorem acquire_again_sharedStore :
    sharedRecord.inputDir.isNested sharedRecord.mapsPath = false ∧
      ∃ report after again later,
        acquire sharedRemote sharedRecord false ⟨sharedStore, #[]⟩ = (.ok report, after) ∧
          report.downloaded.length = 1 ∧ report.failed = ["u/../a.map"] ∧
        acquire sharedRemote sharedRecord false after = (.ok again, later) ∧
          later.files = after.files ∧ again.downloaded = [] ∧ again.references = 3 := by
  have apart : sharedRecord.inputDir.isNested sharedRecord.mapsPath = false := by decide
  have directory : sharedStore.isDirectory sharedRecord.inputDir = true := by decide
  rcases ends_acquire_of_isDirectory sharedRemote false directory #[] with ⟨told, ran⟩
  rw [tally_sharedStore] at ran
  rcases (acquire_again apart ran).1 _ rfl with
    ⟨again, later, second, downloaded, files, _, _, _, references, _⟩
  exact ⟨apart, _, _, again, later, ran, rfl, rfl, second, files, downloaded, references⟩

end SourceTree.Acquire
