import SourceTree.Proofs.Acquire.Account

/-!
# What a dry run foretells

A dry run looks at every named document with the files as they are, while a real run has written the
documents of earlier turns by then. So a path that a dry run reports as missing can be taken when
its turn comes in the real run: an earlier document was written to the same path or below it, and in
the latter case the path has become a directory. If every address is answered this is the only
difference. What is downloaded are the missing paths without those that are at or above an earlier
one, and the counts make up for them.
-/

namespace SourceTree.Acquire

open Stage (Ends)

variable {remote other : Remote} {record : Record} {store : Store} {paths : List Path}

/-- The paths without those that are an earlier path or an ancestor of one. -/
def unblocked : List Path → List Path
  | [] => []
  | path :: paths => path :: (unblocked paths).filter fun later => !path.isWithin later

/-- How the report of a real run follows from that of a dry run. -/
structure Report.Foretells (dry real : Report) : Prop where
  bundles : real.bundles = dry.bundles
  references : real.references = dry.references
  downloaded : real.downloaded = unblocked dry.missing
  counted : real.present + real.downloaded.length = dry.present + dry.missing.length

section Unblocked

theorem unblocked_sublist (paths : List Path) : (unblocked paths).Sublist paths := by
  induction paths with
  | nil => exact List.Sublist.refl []
  | cons path paths ih =>
      apply List.Sublist.cons_cons
      exact List.filter_sublist.trans ih

theorem unblocked_concat (paths : List Path) (path : Path) :
    unblocked (paths ++ [path]) =
      if paths.any (·.isWithin path) then unblocked paths else unblocked paths ++ [path] := by
  induction paths with
  | nil => simp [unblocked]
  | cons first paths ih =>
      simp only [List.cons_append, unblocked, ih, List.any_cons]
      by_cases later : paths.any (·.isWithin path) = true
      · simp [later]
      · by_cases now : first.isWithin path = true
        · simp [later, now, List.filter_append]
        · simp [later, now, List.filter_append]

/-- A path that is left out has a path at or below it that is not. -/
theorem any_isWithin_unblocked (paths : List Path) (query : Path) :
    (unblocked paths).any (·.isWithin query) = paths.any (·.isWithin query) := by
  rw [Bool.eq_iff_iff]
  constructor
  · intro covered
    rcases List.any_eq_true.1 covered with ⟨path, member, within⟩
    exact List.any_eq_true.2 ⟨path, (unblocked_sublist paths).subset member, within⟩
  · intro covered
    induction paths with
    | nil => exact covered
    | cons first paths ih =>
        by_cases now : first.isWithin query = true
        · simp [unblocked, now]
        · have rest : paths.any (·.isWithin query) = true := by simpa [now] using covered
          rcases List.any_eq_true.1 (ih rest) with ⟨path, member, within⟩
          have kept : first.isWithin path = false := by
            rw [Bool.eq_false_iff]
            intro below
            exact now (Path.isWithin_trans below within)
          simp only [unblocked, List.any_cons, Bool.or_eq_true]
          right
          apply List.any_eq_true.2
          exact ⟨path, List.mem_filter.2 ⟨member, by simp [kept]⟩, within⟩

theorem unblocked_eq_self_iff :
    unblocked paths = paths ↔
      paths.Pairwise fun earlier later => earlier.isWithin later = false := by
  induction paths with
  | nil => simp [unblocked]
  | cons first paths ih =>
      rw [unblocked, List.cons_eq_cons, List.pairwise_cons, ← ih]
      constructor
      · rintro ⟨-, kept⟩
        have rest : unblocked paths = paths := by
          apply (unblocked_sublist paths).eq_of_length_le
          calc paths.length = ((unblocked paths).filter fun later =>
                !first.isWithin later).length := by rw [kept]
            _ ≤ (unblocked paths).length := List.length_filter_le _ _
        rw [rest, List.filter_eq_self] at kept
        exact ⟨by simpa using kept, rest⟩
      · rintro ⟨free, rest⟩
        rw [rest, List.filter_eq_self]
        exact ⟨rfl, by simpa using free⟩

theorem Report.Foretells.downloaded_eq_iff {dry real : Report} (foretells : dry.Foretells real) :
    real.downloaded = dry.missing ↔
      dry.missing.Pairwise fun earlier later => earlier.isWithin later = false := by
  rw [foretells.downloaded]
  exact unblocked_eq_self_iff

theorem Report.Foretells.present_eq_iff {dry real : Report} (foretells : dry.Foretells real) :
    real.present = dry.present ↔ real.downloaded = dry.missing := by
  have counted := foretells.counted
  constructor
  · intro present
    rw [foretells.downloaded] at counted ⊢
    apply (unblocked_sublist _).eq_of_length
    omega
  · intro same
    rw [same] at counted
    omega

end Unblocked

section Turns

theorem filterMap_missing?_concat (given : List String) (name : String) :
    (turns remote record true store (given ++ [name])).filterMap (Turn.missing? record) =
      (turns remote record true store given).filterMap (Turn.missing? record) ++
        if store.isTaken (record.documentPath name) then [] else [record.documentPath name] := by
  have unwritten : store.writes (outputs record (turns remote record true store given)) = store := by
    rw [outputs_eq_nil_of_dryRun rfl]
    rfl
  rw [turns_concat, List.filterMap_append, unwritten]
  cases taken : store.isTaken (record.documentPath name) with
  | true => simp [outcome_eq_present_iff.2 taken, Turn.missing?]
  | false => simp [outcome_eq_missing_iff.2 ⟨taken, rfl⟩, Turn.missing?]

theorem failed_eq_nil_of_served {dryRun : Bool}
    (served : dryRun = false → ∀ address, ∃ text, remote address = .ok text)
    (given : List String) :
    (turns remote record dryRun store given).filterMap (Turn.failed? record) = [] := by
  rw [List.eq_nil_iff_forall_not_mem]
  intro address member
  rcases refused_of_mem_failed member with ⟨real, reason, refused⟩
  rcases served real address with ⟨text, answer⟩
  rw [answer] at refused
  cases refused

variable (serves : ∀ address, ∃ text, remote address = .ok text)

include serves

theorem map_fst_outputs_concat (given : List String) (name : String) :
    (outputs record (turns remote record false store (given ++ [name]))).map Prod.fst =
      (outputs record (turns remote record false store given)).map Prod.fst ++
        if (supplied remote record false store given).isTaken (record.documentPath name) then []
        else [record.documentPath name] := by
  rw [turns_concat, outputs_concat, List.map_append, ← supplied]
  cases taken : (supplied remote record false store given).isTaken (record.documentPath name) with
  | true => simp [outcome_eq_present_iff.2 taken, Turn.output?]
  | false =>
      rcases serves (record.documentAddress name) with ⟨text, answer⟩
      simp [outcome_eq_fetched_iff.2 ⟨taken, rfl, answer⟩, Turn.output?]

/-- With every address answered, a real run writes to the paths that a dry run reports, except those
that an earlier one takes. -/
theorem map_fst_outputs_eq_unblocked (given : List String) :
    (outputs record (turns remote record false store given)).map Prod.fst =
      unblocked ((turns other record true store given).filterMap (Turn.missing? record)) := by
  induction given using List.reverseRecOn with
  | nil => rfl
  | append_singleton given name ih =>
      rw [map_fst_outputs_concat serves, filterMap_missing?_concat, ih]
      -- Beside what was there before the pass, only what is written so far can be in the way.
      have taken : (supplied remote record false store given).isTaken (record.documentPath name) =
          (store.isTaken (record.documentPath name) ||
            ((turns other record true store given).filterMap (Turn.missing? record)).any
              (·.isWithin (record.documentPath name))) := by
        rw [supplied, Store.isTaken_writes, ← any_isWithin_unblocked, ← ih, List.any_map]
        rfl
      rw [taken]
      cases store.isTaken (record.documentPath name) with
      | true => simp
      | false =>
          rw [Bool.false_or, if_neg Bool.false_ne_true, unblocked_concat]
          split <;> simp

variable (record store) in
theorem foretells_tally (count : Nat) (given : List String) :
    (tally record count (turns remote record true store given)).Foretells
      (tally record count (turns remote record false store given)) where
  bundles := rfl
  references := (length_turns given).trans (length_turns given).symm
  downloaded := map_fst_outputs_eq_unblocked serves given
  counted := by
    have noneFailed : (turns remote record false store given).filterMap (Turn.failed? record) =
        [] := failed_eq_nil_of_served (fun _ => serves) given
    have noneMissing : (turns remote record false store given).filterMap (Turn.missing? record) =
        [] := missing_eq_nil_of_not_dryRun rfl
    have noRefusal : (turns remote record true store given).filterMap (Turn.failed? record) =
        [] := failed_eq_nil_of_served (by simp) given
    have noneWritten : outputs record (turns remote record true store given) = [] :=
      outputs_eq_nil_of_dryRun rfl
    have real : given.length =
        (tally record count (turns remote record false store given)).present +
          (tally record count (turns remote record false store given)).downloaded.length := by
      simpa [tally, length_turns, noneFailed, noneMissing] using
        @references_tally record count (turns remote record false store given)
    have dry : given.length =
        (tally record count (turns remote record true store given)).present +
          (tally record count (turns remote record true store given)).missing.length := by
      simpa [tally, length_turns, noRefusal, noneWritten] using
        @references_tally record count (turns remote record true store given)
    exact real.symm.trans dry

end Turns

/-- If every address is answered, a dry run and a real run from the same files both answer or fail in
the same way. They count the same bundles and references. The real run downloads what the dry run
reports as missing, in this order, except the paths that are at or above an earlier one; these it
finds present. So the dry run foretells the downloads, and the number of present documents, exactly
if no missing path is at or above an earlier one. -/
theorem downloaded_eq_unblocked_missing (session : Session Store)
    (serves : ∀ address, ∃ text, remote address = .ok text) :
    (∀ error, (acquire remote record true session).1 = .error error ↔
      (acquire remote record false session).1 = .error error) ∧
    ∀ dry, (acquire remote record true session).1 = .ok dry →
      ∃ real, (acquire remote record false session).1 = .ok real ∧
        real.bundles = dry.bundles ∧ real.references = dry.references ∧
        real.downloaded = unblocked dry.missing ∧
        real.present + real.downloaded.length = dry.present + dry.missing.length ∧
        (real.downloaded = dry.missing ↔
          dry.missing.Pairwise fun earlier later => earlier.isWithin later = false) ∧
        (real.present = dry.present ↔ real.downloaded = dry.missing) := by
  cases directory : session.files.isDirectory record.inputDir with
  | false =>
      rcases ends_acquire_of_not_isDirectory remote true directory session.events with ⟨_, dryRan⟩
      rcases ends_acquire_of_not_isDirectory remote false directory session.events with ⟨_, realRan⟩
      constructor
      · intro error
        rw [dryRan, realRan]
      · intro dry answered
        rw [dryRan] at answered
        cases answered
  | true =>
      rcases ends_acquire_of_isDirectory remote true directory session.events with ⟨_, dryRan⟩
      rcases ends_acquire_of_isDirectory remote false directory session.events with ⟨_, realRan⟩
      constructor
      · intro error
        rw [dryRan, realRan]
        simp
      · intro dry answered
        rw [dryRan] at answered
        cases answered
        have foretells := foretells_tally record session.files serves
          (bundles session.files record).length (names session.files record)
        exact ⟨_, congrArg Prod.fst realRan, foretells.bundles, foretells.references,
          foretells.downloaded, foretells.counted, foretells.downloaded_eq_iff,
          foretells.present_eq_iff⟩

/-- Bundles that name a document below a path, the document at that path, and the first one again. -/
def layeredStore : Store :=
  ((Store.empty.place ⟨"in/1.js"⟩ "//# sourceMappingURL=a.map/b.map".toUTF8).place
    ⟨"in/2.js"⟩ "//# sourceMappingURL=a.map".toUTF8).place
    ⟨"in/3.js"⟩ "//# sourceMappingURL=/a.map/b.map".toUTF8

@[inherit_doc layeredStore]
def layeredRemote : Remote :=
  fun address => .ok address

theorem names_layeredStore :
    names layeredStore sharedRecord = ["a.map/b.map", "a.map", "/a.map/b.map"] := by
  decide +kernel

theorem tally_layeredStore :
    tally sharedRecord (bundles layeredStore sharedRecord).length
      (turns layeredRemote sharedRecord true layeredStore (names layeredStore sharedRecord)) =
        { bundles := 3, references := 3, present := 0, downloaded := [], failed := [],
          missing := [⟨"out/maps/a.map/b.map"⟩, ⟨"out/maps/a.map"⟩, ⟨"out/maps/a.map/b.map"⟩] } := by
  rw [names_layeredStore]
  decide +kernel

/-- Three documents are reported as missing, and one is downloaded: the second path is a directory by
then, and the third is there. -/
theorem downloaded_eq_unblocked_missing_layeredStore :
    (∀ address, ∃ text, layeredRemote address = .ok text) ∧
      ∃ dry real,
        (acquire layeredRemote sharedRecord true ⟨layeredStore, #[]⟩).1 = .ok dry ∧
        (acquire layeredRemote sharedRecord false ⟨layeredStore, #[]⟩).1 = .ok real ∧
        dry.missing = [⟨"out/maps/a.map/b.map"⟩, ⟨"out/maps/a.map"⟩, ⟨"out/maps/a.map/b.map"⟩] ∧
        dry.present = 0 ∧ real.downloaded = [⟨"out/maps/a.map/b.map"⟩] ∧ real.present = 2 := by
  have serves : ∀ address, ∃ text, layeredRemote address = .ok text :=
    fun address => ⟨address, rfl⟩
  have directory : layeredStore.isDirectory sharedRecord.inputDir = true := by decide
  rcases ends_acquire_of_isDirectory layeredRemote true directory #[] with ⟨_, ran⟩
  rw [tally_layeredStore] at ran
  have dryRan := congrArg Prod.fst ran
  rcases (downloaded_eq_unblocked_missing ⟨layeredStore, #[]⟩ serves).2 _ dryRan with
    ⟨real, realRan, -, -, downloaded, counted, -⟩
  have first : real.downloaded = [⟨"out/maps/a.map/b.map"⟩] := by
    rw [downloaded]
    decide +kernel
  refine ⟨serves, _, real, dryRan, realRan, rfl, rfl, first, ?_⟩
  rw [first] at counted
  simpa using counted

end SourceTree.Acquire
