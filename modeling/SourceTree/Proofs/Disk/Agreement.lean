import SourceTree.Proofs.Disk.Holds
import SourceTree.Proofs.Disk.Listing
import SourceTree.Proofs.Path.Sorted

/-!
# Stores and disks agree

What is tested on stores is meant for disks. Both are file systems, and as long as the paths are
legal and the files lie apart, they hold the same files after the same calls, and with one exception
they give the same answers. A disk opens the directories of a listing under the text of its root.
Slashes can be repeated in that text without counting, but they take room in it, so that a directory
further down can have too long a text. Then a disk refuses the listing, and a store, which compares
components, does not.

Answers are compared without the wording of failures, and listed paths by their components, as
paths are everywhere.
-/

namespace SourceTree

/-- A question to a file system, or a file for it. -/
inductive Call where
  | write (path : Path) (text : String)
  | readBytes (path : Path)
  | readText (path : Path)
  | isTaken (path : Path)
  | isFile (path : Path)
  | list (root : Path)
  deriving DecidableEq

/-- What a file system answers. A refusal is `none`. -/
inductive Answer where
  | written (success : Bool)
  | bytes (content : Option ByteArray)
  | text (text : Option String)
  | truth (answer : Bool)
  | paths (listed : Option (List (List Component)))
  deriving DecidableEq

namespace Store

variable {store : Store}

/-- The names that lead to the directories of a store. -/
def folders (store : Store) : List (List String) :=
  (store.places.flatMap (·.names.inits)).filter (store.at? · = some .directory)

/-- Continued from a root to a directory below it, no text is too long to be looked up. -/
def FitsBelow (store : Store) (root : Path) : Prop :=
  ∀ names ∈ store.folders, root.names <+: names →
    (root.enter (names.drop root.names.length)).text.utf8ByteSize ≤ Disk.textLimit

instance (store : Store) (root : Path) : Decidable (store.FitsBelow root) :=
  inferInstanceAs (Decidable (∀ names ∈ store.folders, root.names <+: names → _ ≤ _))

theorem IsPlain.mem_folders_iff (plain : store.IsPlain) {names : List String} :
    names ∈ store.folders ↔ store.at? names = some .directory := by
  rw [folders, List.mem_filter, decide_eq_true_eq, and_iff_right_iff_imp]
  intro directory
  have present : store.at? names ≠ none := by simp [directory]
  rcases at?_ne_none_iff.1 present with ⟨path, member, within⟩
  rw [(plain.isLegal member).map_name_prefix_iff] at within
  exact List.mem_flatMap.2 ⟨path, member, (List.mem_inits _ _).2 within⟩

theorem IsPlain.fitsBelow_iff (plain : store.IsPlain) {root : Path} :
    store.FitsBelow root ↔ ∀ inner, store.at? (root.names ++ inner) = some .directory →
      (root.enter inner).text.utf8ByteSize ≤ Disk.textLimit := by
  constructor
  · intro fits inner directory
    have size := fits _ (plain.mem_folders_iff.2 directory) (List.prefix_append _ _)
    rwa [List.drop_left] at size
  · rintro fits names member ⟨inner, rfl⟩
    rw [List.drop_left]
    exact fits inner (plain.mem_folders_iff.1 member)

/-- Without needless slashes in the root, no text gets longer than those stored. -/
theorem IsPlain.fitsBelow_of_isTight (plain : store.IsPlain) {root : Path}
    (last : root.segments.getLast? ≠ some []) (tight : root.IsTight) : store.FitsBelow root := by
  rw [plain.fitsBelow_iff]
  intro inner directory
  have present : store.at? (root.names ++ inner) ≠ none := by simp [directory]
  rcases at?_ne_none_iff.1 present with ⟨path, member, within⟩
  have legal := plain.isLegal member
  rw [legal.map_name_prefix_iff] at within
  rcases within with ⟨more, shape⟩
  rw [List.append_assoc] at shape
  have named : ∀ name ∈ inner ++ more, Disk.IsName name := by
    intro name nameMem
    exact legal.named name (by rw [← shape]; exact List.mem_append_right _ nameMem)
  calc (root.enter inner).text.utf8ByteSize
      ≤ (root.enter (inner ++ more)).text.utf8ByteSize := Path.size_enter_le_append last named
    _ ≤ path.text.utf8ByteSize := tight.size_enter_le named shape.symm
    _ ≤ Disk.textLimit := legal.size

end Store

namespace Call

/-- The answer to a call, and the file system behind it. -/
def perform {σ : Type} [FileSystem σ] (files : σ) : Call → Answer × σ
  | .write path text =>
      let (result, files) := FileSystem.write files path text
      (.written result.isOk, files)
  | .readBytes path => (.bytes (FileSystem.readBytes files path).toOption, files)
  | .readText path => (.text (FileSystem.readText files path).toOption, files)
  | .isTaken path => (.truth (FileSystem.isTaken files path), files)
  | .isFile path => (.truth (FileSystem.isFile files path), files)
  | .list root =>
      (.paths ((FileSystem.list files root).toOption.map (·.map Path.components)), files)

/-- The answers to calls that are made one after the other. -/
def performAll {σ : Type} [FileSystem σ] (files : σ) : List Call → List Answer × σ
  | [] => ([], files)
  | call :: calls =>
      let (answer, files) := call.perform files
      let (answers, files) := performAll files calls
      (answer :: answers, files)

/-- A call with a legal path, no file being above a path that is written or at the root of a
listing. -/
def IsPlain (store : Store) : Call → Prop
  | .write path _ =>
      path.IsLegal ∧ ∀ entry ∈ store.files, entry.1.isAbove path = false
  | .readBytes path | .readText path | .isTaken path | .isFile path => path.IsLegal
  | .list root => root.IsLegal ∧ store.isFile root = false

/-- Calls each of which is plain when it is made. -/
def ArePlain (store : Store) : List Call → Prop
  | [] => True
  | call :: calls => call.IsPlain store ∧ ArePlain (call.perform store).2 calls

instance (store : Store) : (call : Call) → Decidable (call.IsPlain store)
  | .write path _ =>
      inferInstanceAs (Decidable (path.IsLegal ∧ ∀ entry ∈ store.files,
        entry.1.isAbove path = false))
  | .readBytes path | .readText path | .isTaken path | .isFile path =>
      inferInstanceAs (Decidable path.IsLegal)
  | .list root =>
      inferInstanceAs (Decidable (root.IsLegal ∧ store.isFile root = false))

instance decideArePlain (store : Store) : (calls : List Call) → Decidable (ArePlain store calls)
  | [] => inferInstanceAs (Decidable True)
  | call :: calls =>
      have := decideArePlain (call.perform store).2 calls
      inferInstanceAs (Decidable (call.IsPlain store ∧ ArePlain (call.perform store).2 calls))

/-- A call other than a listing, or one that has no directory under too long a text. -/
def Fits (store : Store) : Call → Prop
  | .list root => store.FitsBelow root
  | _ => True

instance (store : Store) : (call : Call) → Decidable (call.Fits store)
  | .list root => inferInstanceAs (Decidable (store.FitsBelow root))
  | .write .. | .readBytes _ | .readText _ | .isTaken _ | .isFile _ =>
      inferInstanceAs (Decidable True)

/-- Calls each of which fits when it is made. -/
def AllFit (store : Store) : List Call → Prop
  | [] => True
  | call :: calls => call.Fits store ∧ AllFit (call.perform store).2 calls

instance decideAllFit (store : Store) : (calls : List Call) → Decidable (AllFit store calls)
  | [] => inferInstanceAs (Decidable True)
  | call :: calls =>
      have := decideAllFit (call.perform store).2 calls
      inferInstanceAs (Decidable (call.Fits store ∧ AllFit (call.perform store).2 calls))

/-- The answer of a disk on which there is what a store says. -/
def answerOnDisk (store : Store) (call : Call) : Answer :=
  if call.Fits store then (call.perform store).1 else .paths none

/-- The answers of such a disk to calls that are made one after the other. -/
def answersOnDisk (store : Store) : List Call → List Answer
  | [] => []
  | call :: calls => call.answerOnDisk store :: answersOnDisk (call.perform store).2 calls

end Call

section Questions

variable {store : Store} {path : Path}

theorem Store.toOption_readBytes : (store.readBytes path).toOption = store.content? path := by
  rw [readBytes]
  cases store.content? path <;> rfl

theorem Store.toOption_readText :
    (store.readText path).toOption =
      (store.content? path).bind fun content => (Text.Utf8.decode content).toOption := by
  rw [readText, readBytes]
  cases store.content? path with
  | none => rfl
  | some content =>
      simp only [Option.bind_some]
      cases Text.Utf8.decode content <;> rfl

end Questions

namespace Disk.Holds

variable {disk : Disk} {store : Store} {path : Path}

theorem at?_names (holds : disk.Holds store) (legal : path.IsLegal) :
    disk.at? path.names = store.at? path.names :=
  holds.places _ legal.names_ne_nil

variable (holds : disk.Holds store) (plain : store.IsPlain) (legal : path.IsLegal)

include holds plain legal

theorem content?_eq : (disk.at? path.names).bind Entry.content? = store.content? path := by
  rw [holds.at?_names legal, plain.content?_at? legal]

theorem toOption_readBytes : (disk.readBytes path).toOption = (store.readBytes path).toOption := by
  rw [Disk.toOption_readBytes (holds.isPlain plain) legal, content?_eq holds plain legal,
    Store.toOption_readBytes]

theorem toOption_readText : (disk.readText path).toOption = (store.readText path).toOption := by
  rw [Disk.toOption_readText (holds.isPlain plain) legal, content?_eq holds plain legal,
    Store.toOption_readText]

theorem isTaken_eq : disk.isTaken path = store.isTaken path := by
  rw [Disk.isTaken_eq (holds.isPlain plain) legal, holds.at?_names legal,
    Store.isSome_at? legal.components_eq]

theorem isFile_eq : disk.isFile path = store.isFile path := by
  rw [Disk.isFile_eq (holds.isPlain plain) legal, content?_eq holds plain legal,
    Store.isFile_eq_isSome]

theorem write (clear : ∀ entry ∈ store.files, entry.1.isAbove path = false) (text : String) :
    (disk.write path text).1.isOk = (store.write path text).1.isOk ∧
      (disk.write path text).2.Holds (store.write path text).2 ∧
      (disk.write path text).2.workingDirectory = disk.workingDirectory := by
  have diskPlain := holds.isPlain plain
  have clearAbove : ∀ part content, part <+: path.names → part ≠ path.names →
      disk.at? part ≠ some (.file content) := by
    intro part content above differs found
    by_cases home : part = []
    · simp [home, holds.home] at found
    · rw [holds.places part home] at found
      rcases Store.exists_mem_of_at? found with ⟨entry, member, shape, _⟩
      have isAbove : entry.1.isAbove path = true := by
        rw [Path.isAbove_iff, shape, legal.map_name_prefix_iff, legal.components_eq]
        refine ⟨above, fun same => differs ?_⟩
        exact (List.map_injective_iff.2 Component.name_injective same).symm
      simp [clear entry member] at isAbove
  have found := holds.at?_names legal
  rw [Store.at?_eq legal.components_eq] at found
  cases directory : store.isDirectory path with
  | true =>
      rw [directory, if_pos rfl] at found
      rcases exists_place_of_directory diskPlain legal clearAbove found text.toUTF8 with
        ⟨error, made, placed, sameHome, same⟩
      rw [Store.write_of_isDirectory directory, Disk.write, placed]
      refine ⟨rfl, ⟨by rw [same, holds.home], fun inner below => ?_⟩, sameHome⟩
      rw [same, holds.places inner below]
  | false =>
      have free : disk.at? path.names ≠ some .directory := by
        rw [found, directory]
        cases store.content? path <;> simp
      rcases exists_place diskPlain legal clearAbove free text.toUTF8 with
        ⟨made, placed, sameHome, places⟩
      rw [Store.write_of_not_isDirectory directory, Disk.write, placed]
      refine ⟨rfl, ⟨?_, fun inner below => ?_⟩, sameHome⟩
      · rw [places, if_neg (Ne.symm legal.names_ne_nil), if_pos List.nil_prefix]
      · rw [places, Store.at?_place directory legal.components_eq, holds.places inner below]

theorem fitsBelow_iff : disk.FitsBelow path ↔ store.FitsBelow path := by
  rw [plain.fitsBelow_iff]
  apply forall_congr'
  intro inner
  rw [holds.places _ (by simp [legal.names_ne_nil])]

theorem mem_list_iff (steps : List Component) :
    steps ∈ ((store.files.map Prod.fst).filter (·.isWithin path)).map Path.components ↔
      ∃ inner content, disk.at? (path.names ++ inner) = some (.file content) ∧
        steps = (path.names ++ inner).map .name := by
  simp only [List.mem_map, List.mem_filter, Path.isWithin_iff]
  constructor
  · rintro ⟨_, ⟨⟨entry, member, rfl⟩, within⟩, rfl⟩
    have entryLegal := plain.files entry member
    rw [legal.components_eq, entryLegal.map_name_prefix_iff] at within
    rcases within with ⟨inner, shape⟩
    refine ⟨inner, entry.2, ?_, by rw [shape, entryLegal.components_eq]⟩
    rw [shape, holds.at?_names entryLegal, plain.at?_of_mem member entryLegal.components_eq]
  · rintro ⟨inner, content, found, rfl⟩
    rw [holds.places _ (by simp [legal.names_ne_nil])] at found
    rcases Store.exists_mem_of_at? found with ⟨entry, member, shape, _⟩
    refine ⟨entry.1, ⟨⟨entry, member, rfl⟩, ?_⟩, shape⟩
    rw [shape, legal.components_eq, List.map_append]
    exact List.prefix_append _ _

/-- Both listings are in strict order and have the same paths in them. -/
theorem list_eq (noFile : store.isFile path = false) (fits : disk.FitsBelow path) :
    (disk.list path).toOption.map (·.map Path.components) =
      (store.list path).toOption.map (·.map Path.components) := by
  have diskPlain := holds.isPlain plain
  have found := holds.at?_names legal
  rw [Store.at?_eq legal.components_eq] at found
  cases directory : store.isDirectory path with
  | false =>
      rw [Store.isFile_eq_isSome, Option.isSome_eq_false_iff, Option.isNone_iff_eq_none] at noFile
      rw [directory, noFile] at found
      rcases exists_list_error diskPlain legal found with ⟨error, refused⟩
      have refusedToo : store.list path = .error (.noDirectory path) :=
        Store.list_of_not_isDirectory directory
      rw [refused, refusedToo]
      rfl
  | true =>
      rw [directory, if_pos rfl] at found
      rcases exists_list diskPlain legal fits found with ⟨paths, listed, sorted, lists⟩
      have listedToo : store.list path =
          .ok ((store.files.map Prod.fst).filter (·.isWithin path)) :=
        Store.list_of_isDirectory directory
      have sortedToo : (((store.files.map Prod.fst).filter (·.isWithin path)).map
          Path.components).Pairwise fun earlier later => compare earlier later = .lt :=
        List.pairwise_map.2 ((List.pairwise_map.2 store.ordered).filter _)
      have same := eq_of_sorted sorted sortedToo fun steps =>
        (lists.complete steps).trans (holds.mem_list_iff plain legal steps).symm
      rw [listed, listedToo]
      exact congrArg some same

/-- A directory with too long a text below it is listed by the store alone. -/
theorem list_of_not_fitsBelow (long : ¬store.FitsBelow path) :
    (∃ error, disk.list path = .error error) ∧ ∃ paths, store.list path = .ok paths := by
  have diskPlain := holds.isPlain plain
  rw [← fitsBelow_iff holds plain legal] at long
  obtain ⟨inner, opened⟩ : ∃ inner, disk.at? (path.names ++ inner) = some .directory := by
    by_contra none
    exact long fun inner opened => absurd ⟨inner, opened⟩ none
  have found := diskPlain.directory_of_append_directory opened
  refine ⟨exists_list_error_of_not_fitsBelow diskPlain legal found long, ?_⟩
  rw [holds.at?_names legal, Store.at?_eq legal.components_eq] at found
  cases directory : store.isDirectory path with
  | true => exact ⟨_, Store.list_of_isDirectory directory⟩
  | false =>
      rw [directory] at found
      cases content : store.content? path <;> simp [content] at found

end Disk.Holds

namespace Call

variable {disk : Disk} {store : Store}

/-- A plain call has the answer that was foreseen, and afterwards the disk still holds the store. -/
theorem IsPlain.perform_agrees {call : Call} (allowed : call.IsPlain store)
    (plain : store.IsPlain) (holds : disk.Holds store) :
    (call.perform disk).1 = call.answerOnDisk store ∧
      (call.perform disk).2.Holds (call.perform store).2 ∧
      (call.perform disk).2.workingDirectory = disk.workingDirectory := by
  cases call with
  | write path text =>
      rcases holds.write plain allowed.1 allowed.2 text with ⟨success, held, home⟩
      exact ⟨congrArg Answer.written success, held, home⟩
  | readBytes path =>
      exact ⟨congrArg Answer.bytes (holds.toOption_readBytes plain allowed), holds, rfl⟩
  | readText path =>
      exact ⟨congrArg Answer.text (holds.toOption_readText plain allowed), holds, rfl⟩
  | isTaken path => exact ⟨congrArg Answer.truth (holds.isTaken_eq plain allowed), holds, rfl⟩
  | isFile path => exact ⟨congrArg Answer.truth (holds.isFile_eq plain allowed), holds, rfl⟩
  | list root =>
      rcases allowed with ⟨legal, noFile⟩
      refine ⟨?_, holds, rfl⟩
      rw [answerOnDisk]
      split
      next fits =>
        have diskFits := (holds.fitsBelow_iff plain legal).2 fits
        exact congrArg Answer.paths (holds.list_eq plain legal noFile diskFits)
      next long =>
        rcases (holds.list_of_not_fitsBelow plain legal long).1 with ⟨error, refused⟩
        have answer : (disk.list root).toOption.map (·.map Path.components) = none := by
          rw [refused]
          rfl
        exact congrArg Answer.paths answer

/-- A disk answers like the store exactly where nothing gets too long. -/
theorem IsPlain.answerOnDisk_eq_iff {call : Call} (allowed : call.IsPlain store)
    (plain : store.IsPlain) (holds : disk.Holds store) :
    call.answerOnDisk store = (call.perform store).1 ↔ call.Fits store := by
  rw [answerOnDisk]
  split
  next fits => simp [fits]
  next long =>
    simp only [long, iff_false]
    cases call with
    | list root =>
        rcases (holds.list_of_not_fitsBelow plain allowed.1 long).2 with ⟨paths, listed⟩
        have answer : (perform store (.list root)).1 =
            .paths ((store.list root).toOption.map (·.map Path.components)) :=
          rfl
        rw [answer, listed]
        simp [Except.toOption]
    | _ => exact absurd trivial long

theorem IsPlain.isPlain_perform {call : Call} (allowed : call.IsPlain store)
    (plain : store.IsPlain) : (call.perform store).2.IsPlain := by
  cases call with
  | write path text =>
      change (store.write path text).2.IsPlain
      cases directory : store.isDirectory path with
      | true =>
          rw [Store.write_of_isDirectory directory]
          exact plain
      | false =>
          rw [Store.write_of_not_isDirectory directory]
          exact plain.place allowed.1 directory allowed.2
  | readBytes path => exact plain
  | readText path => exact plain
  | isTaken path => exact plain
  | isFile path => exact plain
  | list root => exact plain

theorem performAll_agrees (plain : store.IsPlain) (holds : disk.Holds store) {calls : List Call}
    (allowed : ArePlain store calls) :
    (performAll disk calls).1 = answersOnDisk store calls ∧
      (answersOnDisk store calls = (performAll store calls).1 ↔ AllFit store calls) ∧
      (performAll disk calls).2.Holds (performAll store calls).2 ∧
      (performAll disk calls).2.workingDirectory = disk.workingDirectory := by
  induction calls generalizing disk store with
  | nil => exact ⟨rfl, ⟨fun _ => trivial, fun _ => rfl⟩, holds, rfl⟩
  | cons call calls ih =>
      rcases allowed with ⟨first, rest⟩
      rcases first.perform_agrees plain holds with ⟨answer, held, home⟩
      rcases ih (first.isPlain_perform plain) held rest with
        ⟨answers, alike, heldAfter, homeAfter⟩
      simp only [performAll, answersOnDisk, AllFit, List.cons.injEq]
      exact ⟨⟨answer, answers⟩, and_congr (first.answerOnDisk_eq_iff plain holds) alike, heldAfter,
        homeAfter.trans home⟩

theorem allFit_of_isTight (plain : store.IsPlain) {calls : List Call}
    (allowed : ArePlain store calls) (tight : ∀ root, .list root ∈ calls → root.IsTight) :
    AllFit store calls := by
  induction calls generalizing store with
  | nil => trivial
  | cons call calls ih =>
      rcases allowed with ⟨first, rest⟩
      refine ⟨?_, ih (first.isPlain_perform plain) rest fun root member =>
        tight root (List.mem_cons_of_mem _ member)⟩
      cases call with
      | list root => exact plain.fitsBelow_of_isTight first.1.last (tight root (by simp))
      | _ => trivial

/-- For every store of legal paths in which files lie apart there is a disk that holds it. Whatever
plain calls are made to such a disk and to the store, at the end the disk holds the store again,
below the same working directory. The answers of the disk are those of the store, except that it
refuses a listing in which the text of a directory gets too long. So all answers agree exactly if
there is no such listing, and there is none if no root has repeated slashes. -/
theorem disk_agrees_with_store (store : Store) (plain : store.IsPlain) :
    (∃ disk : Disk, disk.Holds store) ∧
    ∀ (disk : Disk) (calls : List Call), disk.Holds store → ArePlain store calls →
      (performAll disk calls).1 = answersOnDisk store calls ∧
        ((performAll disk calls).1 = (performAll store calls).1 ↔ AllFit store calls) ∧
        ((∀ root, .list root ∈ calls → root.IsTight) → AllFit store calls) ∧
        (performAll disk calls).2.Holds (performAll store calls).2 ∧
        (performAll disk calls).2.workingDirectory = disk.workingDirectory := by
  refine ⟨Disk.exists_holds plain, ?_⟩
  intro disk calls holds allowed
  rcases performAll_agrees plain holds allowed with ⟨answers, alike, held, home⟩
  rw [answers]
  exact ⟨rfl, alike, allFit_of_isTight plain allowed, held, home⟩

/-- A file in a directory, and an empty directory beside it. -/
def smallStore : Store :=
  (Store.empty.place ⟨"a/x"⟩ "1".toUTF8).createDirectory ⟨"b"⟩

@[inherit_doc smallStore]
def smallCalls : List Call :=
  [.write ⟨"b/c/y"⟩ "2", .write ⟨"b//c-/z"⟩ "3", .write ⟨"a"⟩ "4", .isTaken ⟨"b/c"⟩,
    .isFile ⟨"a/x"⟩, .readText ⟨"b/c/y"⟩, .readBytes ⟨"b/c"⟩, .list ⟨"b"⟩, .list ⟨"b//c"⟩,
    .list ⟨"c"⟩]

/-- A directory cannot be overwritten, and a missing one cannot be listed. -/
theorem disk_agrees_with_smallStore :
    smallStore.IsPlain ∧ ArePlain smallStore smallCalls ∧
      ∃ disk : Disk, disk.Holds smallStore ∧
        (performAll disk smallCalls).1 = (performAll smallStore smallCalls).1 ∧
        (performAll disk smallCalls).1 =
          [.written true, .written true, .written false, .truth true, .truth true, .text (some "2"),
            .bytes none, .paths (some [[.name "b", .name "c", .name "y"],
              [.name "b", .name "c-", .name "z"]]), .paths (some [[.name "b", .name "c",
              .name "y"]]), .paths none] := by
  have plain : smallStore.IsPlain := by decide +kernel
  have allowed : ArePlain smallStore smallCalls := by decide +kernel
  have fit : AllFit smallStore smallCalls := by decide +kernel
  rcases disk_agrees_with_store smallStore plain with ⟨⟨disk, holds⟩, agrees⟩
  rcases agrees disk smallCalls holds allowed with ⟨answers, alike, _⟩
  refine ⟨plain, allowed, disk, holds, alike.2 fit, ?_⟩
  rw [answers]
  decide +kernel

/-- A file in a directory below `a/b`. -/
def deepStore : Store :=
  Store.empty.place ⟨"a/b/c/d"⟩ "1".toUTF8

/-- The path `a/b` with some needless slashes in it. -/
def slashedPath (count : Nat) : Path :=
  Path.renderSegments .plain (['a'] :: (List.replicate count [] ++ [['b']]))

theorem segments_slashedPath (count : Nat) :
    (slashedPath count).segments = ['a'] :: (List.replicate count [] ++ [['b']]) := by
  apply Path.segments_renderSegments (by simp)
  intro piece member
  simp only [List.mem_cons, List.mem_append, List.mem_replicate, List.not_mem_nil, or_false]
    at member
  rcases member with rfl | ⟨_, rfl⟩ | rfl
  · decide
  · simp
  · decide

theorem names_slashedPath (count : Nat) : (slashedPath count).names = ["a", "b"] := by
  rw [Path.names, segments_slashedPath]
  simp

theorem weight_slashedPath (count : Nat) : Path.weight (slashedPath count).segments = count + 4 := by
  have slashes : Path.weight (List.replicate count []) = count := by
    induction count with
    | zero => rfl
    | succ count ih => simp [List.replicate_succ, Path.weight, ih, Nat.add_comm]
  have letters : String.utf8Len ['a'] = 1 ∧ String.utf8Len ['b'] = 1 := by decide
  simp only [segments_slashedPath, Path.weight, Path.weight_append, slashes, letters]
  omega

theorem isLegal_slashedPath {count : Nat} (short : count + 3 ≤ Disk.textLimit) :
    (slashedPath count).IsLegal := by
  refine ⟨⟨?_, ?_, ?_⟩, ?_⟩
  · simp [segments_slashedPath]
  · rw [segments_slashedPath, ← List.cons_append, List.getLast?_concat]
    simp
  · rw [names_slashedPath]
    decide
  · have size := Path.size_eq_weight (slashedPath count)
    rw [weight_slashedPath] at size
    omega

theorem size_enter_slashedPath (count : Nat) :
    ((slashedPath count).enter ["c"]).text.utf8ByteSize = count + 5 := by
  have last : (slashedPath count).segments.getLast? ≠ some [] := by
    rw [segments_slashedPath, ← List.cons_append, List.getLast?_concat]
    simp
  have letter : Path.weight (["c"].map String.toList) = 2 := by decide
  have size := Path.size_eq_weight ((slashedPath count).enter ["c"])
  rw [Path.segments_enter last (by decide), Path.weight_append, weight_slashedPath, letter] at size
  omega

/-- With as many slashes as a text can have, the directory can be listed in the store, but not on the
disk, where the text of the one below it is too long. -/
theorem disk_differs_from_deepStore :
    deepStore.IsPlain ∧ ArePlain deepStore [.list (slashedPath 4092)] ∧
      ∃ disk : Disk, disk.Holds deepStore ∧
        (performAll disk [.list (slashedPath 4092)]).1 = [.paths none] ∧
        (performAll deepStore [.list (slashedPath 4092)]).1 =
          [.paths (some [[.name "a", .name "b", .name "c", .name "d"]])] := by
  have plain : deepStore.IsPlain := by decide +kernel
  have legal : (slashedPath 4092).IsLegal := isLegal_slashedPath (by decide)
  have same : (slashedPath 4092).components = Path.components ⟨"a/b"⟩ := by
    rw [legal.components_eq, names_slashedPath]
    decide
  have allowed : (Call.list (slashedPath 4092)).IsPlain deepStore := by
    refine ⟨legal, ?_⟩
    rw [Store.isFile, same]
    decide
  have long : ¬(Call.list (slashedPath 4092)).Fits deepStore := by
    rw [Fits, plain.fitsBelow_iff, names_slashedPath]
    intro fits
    have size := fits ["c"] (by decide +kernel)
    rw [size_enter_slashedPath] at size
    exact absurd size (by decide)
  have listed : FileSystem.list deepStore (slashedPath 4092) = .ok [⟨"a/b/c/d"⟩] := by
    have directory : deepStore.isDirectory (slashedPath 4092) = true := by
      rw [Store.isDirectory_congr same]
      decide
    rw [Store.list_of_isDirectory directory]
    simp only [Path.isWithin, same]
    decide
  rcases Disk.exists_holds plain with ⟨disk, holds⟩
  have answer := (allowed.perform_agrees plain holds).1
  rw [answerOnDisk, if_neg long] at answer
  refine ⟨plain, ⟨allowed, trivial⟩, disk, holds, congrArg (fun answer => [answer]) answer, ?_⟩
  simp only [performAll, perform, listed]
  decide

end Call

end SourceTree
