import SourceTree.Proofs.Placeholders.Fill
import SourceTree.Proofs.Reference.Stub
import SourceTree.Proofs.Text.Lossy

/-!
# One pass is enough

The references are resolved before the first placeholder is written, and the placeholders become
source files of the tree themselves. Still nothing is left to do behind a pass. The store only
grows, so an answered reference stays answered; every place that was asked for is taken in the end,
by its placeholder or by the directory of another one; and placeholders refer to nothing.
-/

namespace SourceTree.Placeholders

open Stage (Ends)

variable {record : Record} {store : Store}

/-- What a reference leads to calls for no placeholder: it is answered, its placeholder would lie
outside the tree, or there is no extension to give to one. -/
def IsSettled (record : Record) : Reference.Resolution → Prop
  | .found _ => True
  | .missing candidate => candidate.isWithin record.treePath.normalize = false
  | .unresolvable => record.extensions = []

/-- `after` has what `before` has, and otherwise placeholders only. -/
structure Grown (before after : Store) : Prop where
  taken : ∀ path, before.isTaken path = true → after.isTaken path = true
  isFile : ∀ path, before.isFile path = true → after.isFile path = true
  isDirectory : ∀ path, before.isDirectory path = true → after.isDirectory path = true
  stubs : ∀ entry ∈ after.files,
    entry ∈ before.files ∨ ∃ path, entry.2 = (Reference.stub path).toUTF8

namespace Grown

variable {before between after : Store}

theorem refl (store : Store) : Grown store store where
  taken _ taken := taken
  isFile _ isFile := isFile
  isDirectory _ directory := directory
  stubs _ member := Or.inl member

theorem trans (first : Grown before between) (second : Grown between after) :
    Grown before after where
  taken path taken := second.taken path (first.taken path taken)
  isFile path isFile := second.isFile path (first.isFile path isFile)
  isDirectory path directory := second.isDirectory path (first.isDirectory path directory)
  stubs := by
    intro entry member
    rcases second.stubs entry member with kept | stub
    · exact first.stubs entry kept
    · exact Or.inr stub

theorem place_stub {path : Path} (free : store.isTaken path = false) :
    Grown store (store.place path (Reference.stub path).toUTF8) where
  taken query taken := Store.isTaken_place.2 (Or.inl taken)
  isFile query isFile := by
    rw [Store.isFile_iff_exists_content] at isFile ⊢
    rcases isFile with ⟨content, found⟩
    rw [Store.content?_place]
    split
    · exact ⟨_, rfl⟩
    · exact ⟨content, found⟩
  isDirectory query directory := Store.isDirectory_place_of_isDirectory directory
  stubs := by
    have fresh : ∀ other ∈ store.files, other.1.components ≠ path.components := by
      intro other member same
      have taken : store.isTaken path = true :=
        Store.isTaken_iff.2 (Or.inr ⟨other, member, same ▸ List.prefix_rfl⟩)
      rw [free] at taken
      cases taken
    intro entry member
    rcases (Store.mem_insertFile_iff fresh).1 member with rfl | kept
    · exact Or.inr ⟨path, rfl⟩
    · exact Or.inl kept

end Grown

theorem grown_put (state : List Path × Store) (candidate : Path) :
    Grown state.2 (put state candidate).2 := by
  rw [put]
  split
  next => exact Grown.refl state.2
  next free => exact Grown.place_stub (by simpa using free)

/-- Every placeholder is taken once its turn is over. -/
theorem isTaken_put (state : List Path × Store) (candidate : Path) :
    (put state candidate).2.isTaken candidate = true := by
  rw [put]
  split
  next taken => exact taken
  next => exact Store.isTaken_place.2 (Or.inr List.prefix_rfl)

theorem grown_foldl_put (candidates : List Path) (state : List Path × Store) :
    Grown state.2 (candidates.foldl put state).2 := by
  induction candidates generalizing state with
  | nil => exact Grown.refl state.2
  | cons candidate candidates ih =>
      exact (grown_put state candidate).trans (ih (put state candidate))

theorem isTaken_foldl_put {candidates : List Path} {candidate : Path}
    (member : candidate ∈ candidates) (state : List Path × Store) :
    (candidates.foldl put state).2.isTaken candidate = true := by
  induction candidates generalizing state with
  | nil => cases member
  | cons first candidates ih =>
      rcases List.mem_cons.1 member with rfl | later
      · exact (grown_foldl_put candidates _).taken candidate (isTaken_put state candidate)
      · exact ih later (put state first)

theorem grown_filled (store : Store) (record : Record) : Grown store (filled store record).2 :=
  grown_foldl_put (surveyed store record).candidates ([], store)

/-- Every place within the tree that a reference asks for is taken behind the pass. -/
theorem isTaken_filled {candidate : Path}
    (missing : .missing candidate ∈ resolutions store record)
    (within : candidate.isWithin record.treePath.normalize = true) :
    (filled store record).2.isTaken candidate = true := by
  rcases exists_same_of_missing_mem missing within with ⟨place, member, same⟩
  rw [← Store.isTaken_congr same]
  exact isTaken_foldl_put member ([], store)

theorem extract_stub (path : Path) :
    Reference.extract (Text.Utf8.decodeLossy (Reference.stub path).toUTF8) = [] := by
  rw [Text.Utf8.decodeLossy_toUTF8, Reference.extract, Reference.specifiers_stub, List.map_nil]

/-- Every reference of a stored source file of the tree is settled. -/
def IsClosed (store : Store) (record : Record) : Prop :=
  ∀ entry ∈ store.files, entry.1.isWithin record.treePath = true →
    Reference.isSourceFile entry.1 = true →
      ∀ specifier ∈ Reference.extract (Text.Utf8.decodeLossy entry.2),
        IsSettled record (Reference.resolve store record.extensions entry.1 specifier)

theorem mem_sources_iff {source : Path} :
    source ∈ sources store record ↔
      ∃ entry ∈ store.files, entry.1 = source ∧ source.isWithin record.treePath = true ∧
        Reference.isSourceFile source = true := by
  simp only [sources, List.mem_filter, List.mem_map]
  constructor
  · rintro ⟨⟨⟨entry, member, rfl⟩, within⟩, isSource⟩
    exact ⟨entry, member, rfl, within, isSource⟩
  · rintro ⟨entry, member, rfl, within, isSource⟩
    exact ⟨⟨⟨entry, member, rfl⟩, within⟩, isSource⟩

theorem scannedText_of_mem {entry : Path × ByteArray} (member : entry ∈ store.files) :
    store.scannedText entry.1 = Text.Utf8.decodeLossy entry.2 := by
  rw [Store.scannedText, Store.content?_of_mem member, Option.getD_some]

theorem mem_resolutions_iff {resolution : Reference.Resolution} :
    resolution ∈ resolutions store record ↔
      ∃ entry ∈ store.files, entry.1.isWithin record.treePath = true ∧
        Reference.isSourceFile entry.1 = true ∧
        ∃ specifier ∈ Reference.extract (Text.Utf8.decodeLossy entry.2),
          Reference.resolve store record.extensions entry.1 specifier = resolution := by
  simp only [resolutions, resolutionsIn, List.mem_flatMap, List.mem_map]
  constructor
  · rintro ⟨source, member, specifier, named, rfl⟩
    rcases mem_sources_iff.1 member with ⟨entry, stored, rfl, within, isSource⟩
    rw [scannedText_of_mem stored] at named
    exact ⟨entry, stored, within, isSource, specifier, named, rfl⟩
  · rintro ⟨entry, stored, within, isSource, specifier, named, rfl⟩
    refine ⟨entry.1, mem_sources_iff.2 ⟨entry, stored, rfl, within, isSource⟩, specifier, ?_, rfl⟩
    rw [scannedText_of_mem stored]
    exact named

/-- The tree is closed behind the pass. -/
theorem isClosed_filled (store : Store) (record : Record) :
    IsClosed (filled store record).2 record := by
  have grown := grown_filled store record
  intro entry member within isSource specifier named
  rcases grown.stubs entry member with kept | ⟨path, stub⟩
  · cases outcome :
      Reference.resolve (filled store record).2 record.extensions entry.1 specifier with
    | found path => exact True.intro
    | unresolvable => exact Reference.extensions_eq_nil_of_resolve_eq_unresolvable outcome
    | missing candidate =>
        have missing : Reference.resolve store record.extensions entry.1 specifier =
            .missing candidate :=
          Reference.resolve_eq_missing_of_grown grown.taken grown.isFile outcome
        have free := Reference.isTaken_eq_false_of_resolve_eq_missing outcome
        have asked : .missing candidate ∈ resolutions store record :=
          mem_resolutions_iff.2 ⟨entry, kept, within, isSource, specifier, named, missing⟩
        rw [IsSettled, ← Bool.not_eq_true]
        intro inTree
        have taken := isTaken_filled asked inTree
        rw [show (filled store record).2.isTaken candidate = false from free] at taken
        cases taken
  · rw [stub, extract_stub] at named
    cases named

/-- Where everything is settled, the survey has no place for a placeholder. -/
theorem candidates_eq_nil_of_isClosed (closed : IsClosed store record) :
    (surveyed store record).candidates = [] := by
  rw [List.eq_nil_iff_forall_not_mem]
  intro candidate member
  rcases mem_candidates_of_mem_foldl_note member with known | ⟨missing, within⟩
  · cases known
  · rcases mem_resolutions_iff.1 missing with
      ⟨entry, stored, inTree, isSource, specifier, named, outcome⟩
    have settled := closed entry stored inTree isSource specifier named
    rw [outcome, IsSettled, within] at settled
    cases settled

/-- A pass over a closed tree finds nothing to do. -/
theorem ends_fill_of_isClosed (directory : store.isDirectory record.treePath = true)
    (closed : IsClosed store record) :
    ∃ report : Report, Ends (fill record) store (.ok report) store ∧
      report.missing = 0 ∧ report.created = [] := by
  have nothing := candidates_eq_nil_of_isClosed closed
  have kept : filled store record = ([], store) := by rw [filled, nothing, List.foldl_nil]
  have ended := ends_fill_of_isDirectory directory
  rw [kept] at ended
  refine ⟨reported store record, ended, ?_, ?_⟩
  · rw [reported, nothing, List.length_nil]
  · rw [reported, kept]

/-- Without a tree there is nothing that could be open. -/
theorem isClosed_of_not_isTaken (free : store.isTaken record.treePath = false) :
    IsClosed store record := by
  intro entry member within
  have taken : store.isTaken record.treePath = true := by
    refine Store.isTaken_iff.2 (Or.inr ⟨entry, member, ?_⟩)
    simpa [Path.isWithin] using within
  rw [free] at taken
  cases taken

/-- An answering pass leaves a closed tree behind, on which a second pass answers, finds nothing
missing, writes nothing and leaves every file as it is. -/
theorem fill_closes {session after : Session Store} {report : Report}
    (ran : fill record session = (.ok report, after)) :
    IsClosed after.files record ∧
      ∃ again later, fill record after = (.ok again, later) ∧ again.missing = 0 ∧
        again.created = [] ∧ later.files = after.files := by
  -- The files behind the pass, and how a pass over these ends.
  have second : IsClosed after.files record ∧ ∃ again : Report,
      Ends (fill record) after.files (.ok again) after.files ∧ again.missing = 0 ∧
        again.created = [] := by
    cases taken : session.files.isTaken record.treePath with
    | false =>
        have ended := ends_fill_of_not_isTaken taken
        have files := (ended.eq_of_run ran).2
        rw [files]
        exact ⟨isClosed_of_not_isTaken taken, {}, ended, rfl, rfl⟩
    | true =>
        cases directory : session.files.isDirectory record.treePath with
        | false =>
            have ended := ends_fill_of_not_isDirectory taken directory
            cases (ended.eq_of_run ran).1
        | true =>
            have files := ((ends_fill_of_isDirectory directory).eq_of_run ran).2
            rw [files]
            have closed := isClosed_filled session.files record
            have still := (grown_filled session.files record).isDirectory _ directory
            exact ⟨closed, ends_fill_of_isClosed still closed⟩
  rcases second with ⟨closed, again, ended, missing, created⟩
  rcases ended after.events with ⟨told, later⟩
  exact ⟨closed, again, _, later, missing, created, rfl⟩

/-- A site whose only source file refers to a module that is not there. -/
def openRecord : Record :=
  { inputDir := ⟨"in"⟩, baseUrl := "", baseOutputDir := ⟨"out"⟩, mapsDir := ⟨"maps"⟩,
    decompiledDir := ⟨"src"⟩, extensions := [".js"], bundle := none }

@[inherit_doc openRecord]
def openStore : Store :=
  Store.empty.place ⟨"out/src/a.js"⟩ "import './b'".toUTF8

/-- The open reference gets its placeholder, and the tree is closed then. -/
theorem fill_closes_openStore :
    ∃ report after, fill openRecord ⟨openStore, #[]⟩ = (.ok report, after) ∧
      report.created = [⟨"out/src/b.js"⟩] ∧ IsClosed after.files openRecord := by
  have directory : openStore.isDirectory openRecord.treePath = true := by decide
  rcases ends_fill_of_isDirectory directory #[] with ⟨told, ran⟩
  exact ⟨_, _, ran, by decide +kernel, (fill_closes ran).1⟩

end SourceTree.Placeholders
