import SourceTree.Proofs.Placeholders.Asked
import SourceTree.Proofs.Placeholders.Closure

/-!
# The account of a pass

A pass over a tree can be read off the store that it starts from. The distinct places that are
asked for are known before anything is written, and a place among them gets its placeholder unless
it has become a directory: an earlier placeholder lies below it. Nothing that was there changes, and
every reference is answered, without a place, outside of the tree or asking for one of the places.
-/

namespace SourceTree

namespace Reference.Resolution

/-- Whether something answers the reference. -/
def isFound : Resolution → Bool
  | .found _ => true
  | _ => false

/-- Whether there is no place for a placeholder. -/
def isUnresolvable : Resolution → Bool
  | .unresolvable => true
  | _ => false

/-- Whether the placeholder would have to be at one of some places. -/
def asksFor (places : List Path) : Resolution → Bool
  | .missing candidate => places.any (·.same candidate)
  | _ => false

/-- Whether the placeholder would have to be outside of a tree. -/
def isOutside (tree : Path) : Resolution → Bool
  | .missing candidate => !candidate.isWithin tree
  | _ => false

end Reference.Resolution

namespace Placeholders

open Reference.Resolution (isFound isUnresolvable asksFor isOutside)

variable {record : Record} {store : Store}

section Counts

theorem counts_insert (survey : Survey) (place : Path) :
    (survey.insert place).references = survey.references ∧
      (survey.insert place).outside = survey.outside := by
  rw [Survey.insert]
  split <;> exact ⟨rfl, rfl⟩

theorem counts_note (survey : Survey) (resolution : Reference.Resolution) :
    (survey.note record resolution).references = survey.references + 1 ∧
      (survey.note record resolution).outside =
        survey.outside + if isOutside record.treePath.normalize resolution then 1 else 0 := by
  cases resolution with
  | found path => exact ⟨rfl, rfl⟩
  | unresolvable => exact ⟨rfl, rfl⟩
  | missing candidate =>
      by_cases within : candidate.isWithin record.treePath.normalize = true
      · simp [Survey.note, isOutside, within, counts_insert]
      · simp [Survey.note, isOutside, within]

theorem counts_foldl_note (resolutions : List Reference.Resolution) (survey : Survey) :
    (resolutions.foldl (Survey.note record) survey).references =
        survey.references + resolutions.length ∧
      (resolutions.foldl (Survey.note record) survey).outside =
        survey.outside + resolutions.countP (isOutside record.treePath.normalize) := by
  induction resolutions generalizing survey with
  | nil => simp
  | cons resolution resolutions ih =>
      rcases ih (survey.note record resolution) with ⟨references, outside⟩
      rw [(counts_note survey resolution).1] at references
      rw [(counts_note survey resolution).2] at outside
      simp only [List.foldl_cons, List.length_cons, List.countP_cons, references, outside]
      omega

/-- Each reference that asks for a place within the tree asks for one of the distinct ones, and no
other reference does. -/
theorem asksFor_distinct {resolution : Reference.Resolution}
    (member : resolution ∈ resolutions store record) :
    asksFor (distinct (asked store record)) resolution = (place? record resolution).isSome := by
  rw [Bool.eq_iff_iff, Option.isSome_iff_exists]
  constructor
  · intro asks
    cases resolution with
    | found path => cases asks
    | unresolvable => cases asks
    | missing candidate =>
        rcases List.any_eq_true.1 asks with ⟨place, placeMem, same⟩
        have within := isWithin_of_mem_asked (mem_of_mem_distinct placeMem)
        rw [Path.isWithin_congr (Path.same_iff.1 same)] at within
        exact ⟨candidate, place?_eq_some_iff.2 ⟨rfl, within⟩⟩
  · rintro ⟨place, shape⟩
    have askedMem : place ∈ asked store record := List.mem_filterMap.2 ⟨resolution, member, shape⟩
    rcases place?_eq_some_iff.1 shape with ⟨rfl, _⟩
    exact List.any_eq_true.2 (exists_same_mem_distinct askedMem)

/-- Each reference leads to exactly one of four kinds of ends. -/
theorem length_eq_counts {places : List Path} {resolutions : List Reference.Resolution}
    (known : ∀ resolution ∈ resolutions,
      asksFor places resolution = (place? record resolution).isSome) :
    resolutions.length = resolutions.countP isFound + resolutions.countP isUnresolvable +
      resolutions.countP (isOutside record.treePath.normalize) +
      resolutions.countP (asksFor places) := by
  induction resolutions with
  | nil => rfl
  | cons resolution resolutions ih =>
      have rest := ih fun other member => known other (List.mem_cons_of_mem _ member)
      have first := known resolution (by simp)
      simp only [List.length_cons, List.countP_cons, first]
      cases resolution with
      | found path => simp [isFound, isUnresolvable, isOutside, place?]; omega
      | unresolvable => simp [isFound, isUnresolvable, isOutside, place?]; omega
      | missing candidate =>
          by_cases within : candidate.isWithin record.treePath.normalize = true
          · simp [isFound, isUnresolvable, isOutside, place?, within]; omega
          · simp [isFound, isUnresolvable, isOutside, place?, within]; omega

end Counts

section Written

/-- A place gets its placeholder unless it is above an earlier one. -/
theorem mem_foldl_keep_iff {places before later : List Path} {place : Path}
    (apart : places.Pairwise fun earlier later => earlier.same later = false)
    (cut : places = before ++ place :: later) :
    place ∈ places.foldl keep [] ↔
      ∀ earlier ∈ before, earlier ∈ places.foldl keep [] → place.isAbove earlier = false := by
  rcases exists_foldl_keep before [] with ⟨first, firstSub, firstShape⟩
  rcases exists_foldl_keep later (keep first place) with ⟨rest, restSub, restShape⟩
  have whole : places.foldl keep [] = keep first place ++ rest := by
    rw [cut, List.foldl_append, firstShape, List.nil_append, List.foldl_cons, restShape]
  rw [cut, List.pairwise_append, List.pairwise_cons] at apart
  rcases apart with ⟨_, ⟨fromPlace, _⟩, acrossAll⟩
  have notSelf : ∀ other : Path, other.same other = true := by simp [Path.same]
  have notFirst : place ∉ first := by
    intro member
    simpa [notSelf] using acrossAll place (firstSub.subset member) place (by simp)
  have notRest : place ∉ rest := by
    intro member
    simpa [notSelf] using fromPlace place (restSub.subset member)
  -- Among the placeholders, those for earlier places are those kept before `place` had its turn.
  have earlierMem : ∀ earlier ∈ before, earlier ∈ keep first place ++ rest → earlier ∈ first := by
    intro earlier inBefore member
    have differs := acrossAll earlier inBefore
    rcases List.mem_append.1 member with kept | inRest
    · rw [keep] at kept
      split at kept
      · exact kept
      · rcases List.mem_append.1 kept with old | isPlace
        · exact old
        · obtain rfl := List.mem_singleton.1 isPlace
          simpa [notSelf] using differs earlier (by simp)
    · simpa [notSelf] using differs earlier (List.mem_cons_of_mem _ (restSub.subset inRest))
  have aboveIff : ∀ earlier ∈ before, (place.isAbove earlier = earlier.isWithin place) := by
    intro earlier inBefore
    simp [Path.isAbove, acrossAll earlier inBefore place (by simp)]
  have turn : place ∈ keep first place ++ rest ↔ first.any (·.isWithin place) = false := by
    rw [keep]
    split
    next blocked => simp [blocked, notFirst, notRest]
    next free => simpa using free
  rw [whole, turn, List.any_eq_false]
  constructor
  · intro free earlier inBefore member
    rw [aboveIff earlier inBefore]
    simpa using free earlier (earlierMem earlier inBefore member)
  · intro free earlier inFirst
    have inBefore := firstSub.subset inFirst
    have kept : earlier ∈ keep first place ++ rest := by
      rw [keep]
      split <;> simp [inFirst]
    simpa [aboveIff earlier inBefore] using free earlier inBefore kept

theorem pairwise_written (store : Store) (record : Record) :
    (written store record).Pairwise fun earlier later => earlier.same later = false :=
  (pairwise_distinct _).sublist (written_sublist store record)

theorem isFile_eq_false_of_mem_stubbed {output : Path × String}
    (member : output ∈ stubbed (written store record)) : store.isFile output.1 = false :=
  Store.not_isFile_of_not_isTaken (isTaken_eq_false_of_mem_stubbed member)

end Written

theorem pairwise_sources (store : Store) (record : Record) :
    (sources store record).Pairwise fun earlier later => earlier.order later = .lt :=
  ((List.pairwise_map.2 store.ordered).filter _).filter _

/-- On an existing tree, an answering pass is settled by the store before it. With the source files
in the order of their paths and their references in the order of the text, let the places be those
that references ask for within the tree, each once and as it was first met. They are counted as
missing. They get placeholders in this order, except those that are a proper ancestor of an earlier
placeholder. No two placeholders have the same place, and none was taken before. The store then has
exactly its former files and the placeholders with their texts, and what was there is unchanged.
Every reference is answered, unresolvable, outside of the tree or for one of the places. -/
theorem fill_account {session after : Session Store} {report : Report}
    (existing : session.files.isTaken record.treePath = true)
    (ran : fill record session = (.ok report, after)) :
    (sources session.files record).Pairwise (fun earlier later => earlier.order later = .lt) ∧
    report.missing = (distinct (asked session.files record)).length ∧
    report.created.Sublist (distinct (asked session.files record)) ∧
    (∀ before place later, distinct (asked session.files record) = before ++ place :: later →
      (place ∈ report.created ↔
        ∀ earlier ∈ before, earlier ∈ report.created → place.isAbove earlier = false)) ∧
    report.created.Pairwise (fun earlier later => earlier.same later = false) ∧
    (∀ place ∈ report.created, session.files.isTaken place = false) ∧
    after.files.directories = session.files.directories ∧
    (∀ entry, entry ∈ after.files.files ↔ entry ∈ session.files.files ∨
      ∃ place ∈ report.created, entry = (place, (Reference.stub place).toUTF8)) ∧
    (∀ query content, session.files.content? query = some content →
      after.files.content? query = some content) ∧
    report.references = (resolutions session.files record).length ∧
    report.references = (resolutions session.files record).countP isFound +
      (resolutions session.files record).countP isUnresolvable + report.outside +
      (resolutions session.files record).countP
        (asksFor (distinct (asked session.files record))) := by
  have directory : session.files.isDirectory record.treePath = true := by
    cases directory : session.files.isDirectory record.treePath with
    | true => rfl
    | false => cases ((ends_fill_of_not_isDirectory existing directory).eq_of_run ran).1
  rcases (ends_fill_of_isDirectory directory).eq_of_run ran with ⟨answer, files⟩
  cases answer
  rw [filled_eq] at files
  have created : (reported session.files record).created = written session.files record := by
    rw [reported, filled_eq]
  have counts : (reported session.files record).references =
        (resolutions session.files record).length ∧
      (reported session.files record).outside =
        (resolutions session.files record).countP (isOutside record.treePath.normalize) := by
    rcases counts_foldl_note (resolutions session.files record) {} with ⟨references, outside⟩
    exact ⟨references.trans (Nat.zero_add _), outside.trans (Nat.zero_add _)⟩
  have fresh : ∀ output ∈ stubbed (written session.files record),
      session.files.isFile output.1 = false := fun _ => isFile_eq_false_of_mem_stubbed
  rw [created]
  refine ⟨pairwise_sources _ _, ?_, written_sublist _ _, ?_, pairwise_written _ _, ?_, ?_, ?_, ?_,
    counts.1, ?_⟩
  · rw [← candidates_surveyed]
    rfl
  · intro before place later cut
    exact mem_foldl_keep_iff (pairwise_distinct _) cut
  · intro place member
    exact isTaken_eq_false_of_mem_asked (mem_asked_of_mem_written member)
  · rw [files, Store.directories_writes]
  · intro entry
    rw [files, Store.mem_files_writes fresh (List.pairwise_map.2 (pairwise_written _ _))]
    simp only [stubbed, List.mem_map, exists_exists_and_eq_and]
  · intro query content found
    rw [files, Store.content?_writes_of_forall_ne, found]
    intro output member
    rw [Bool.eq_false_iff]
    intro same
    have isFile : session.files.isFile query = true :=
      Store.isFile_iff_exists_content.2 ⟨content, found⟩
    have known : session.files.isFile output.1 = true := by
      rw [Store.isFile_iff_exists_mem] at isFile ⊢
      rwa [Path.same_iff.1 same]
    simp [fresh output member] at known
  · rw [counts.1, counts.2]
    exact length_eq_counts fun _ => asksFor_distinct

/-- A tree whose file refers to a module below a name, to the module of that name, to something
outside and to itself. -/
def nestedStore : Store :=
  Store.empty.place ⟨"out/src/m.js"⟩
    "import './a.js/b';import './a';import '../x';import './m'".toUTF8

/-- The placeholder below the name comes first, so that the name gets none. -/
theorem fill_account_nestedStore :
    nestedStore.isTaken openRecord.treePath = true ∧
      ∃ report after, fill openRecord ⟨nestedStore, #[]⟩ = (.ok report, after) ∧
        report.missing = 2 ∧ report.references = 4 ∧
        ⟨"out/src/a.js/b.js"⟩ ∈ report.created ∧ ⟨"out/src/a.js"⟩ ∉ report.created := by
  have existing : nestedStore.isTaken openRecord.treePath = true := by decide
  have directory : nestedStore.isDirectory openRecord.treePath = true := by decide
  have places : distinct (asked nestedStore openRecord) =
      [⟨"out/src/a.js/b.js"⟩, ⟨"out/src/a.js"⟩] := by
    decide +kernel
  have references : (resolutions nestedStore openRecord).length = 4 := by
    decide +kernel
  rcases ends_fill_of_isDirectory directory #[] with ⟨told, ran⟩
  rcases fill_account existing ran with
    ⟨_, missing, _, turns, _, _, _, _, _, counted, _⟩
  rw [places] at missing turns
  have first := (turns [] ⟨"out/src/a.js/b.js"⟩ [⟨"out/src/a.js"⟩] rfl).2 (by simp)
  refine ⟨existing, _, _, ran, missing, counted.trans references, first, ?_⟩
  intro member
  have free := (turns [⟨"out/src/a.js/b.js"⟩] ⟨"out/src/a.js"⟩ [] rfl).1 member _ (by simp) first
  exact absurd free (by decide)

end Placeholders

end SourceTree
