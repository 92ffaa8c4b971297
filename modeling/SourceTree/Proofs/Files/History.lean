import Mathlib.Data.List.Induction
import SourceTree.Proofs.Files.Fresh
import SourceTree.Proofs.Files.Overwrite

/-!
# The store as a map from components to contents

A store is told about files and directories one after the other, under paths in any spelling. A
ledger only notes what it was told: the files that were placed or could be written, and the
directories that were created, in order. From the ledger one can read off a map: under some
components there is the content noted last, there is a directory if more was noted below, and a file
is called by the path under which it was noted first.

Here the two are compared. Whatever a store was told from the beginning, it answers every question
as its ledger does.
-/

namespace SourceTree

/-- What a store can be told. -/
inductive Change where
  /-- A file is placed without asking what is there. -/
  | place (path : Path) (content : ByteArray)
  | createDirectory (path : Path)
  /-- A file is written, which may be refused. -/
  | write (path : Path) (text : String)
  deriving DecidableEq

/-- The store with a change made to it, if it is not refused. -/
def Store.apply (store : Store) : Change → Store
  | .place path content => store.place path content
  | .createDirectory path => store.createDirectory path
  | .write path text => (store.write path text).2

/-- The empty store with some changes made to it. -/
def Store.after (changes : List Change) : Store :=
  changes.foldl Store.apply Store.empty

theorem Store.after_append (changes later : List Change) :
    Store.after (changes ++ later) = later.foldl Store.apply (Store.after changes) :=
  List.foldl_append

theorem Store.after_concat (changes : List Change) (change : Change) :
    Store.after (changes ++ [change]) = (Store.after changes).apply change := by
  simp [Store.after_append]

/-- What was stored under which path and which directories were created, in order. -/
structure Ledger where
  stored : List (Path × ByteArray) := []
  created : List Path := []

namespace Ledger

variable {ledger : Ledger} {path query : Path} {content : ByteArray} {steps : List Component}

/-- The content that was stored last under some components. -/
def content? (ledger : Ledger) (steps : List Component) : Option ByteArray :=
  (ledger.stored.filter (·.1.components = steps)).getLast?.map Prod.snd

/-- The path under which something was stored first, of all with these components. -/
def spelling? (ledger : Ledger) (steps : List Component) : Option Path :=
  (ledger.stored.find? (·.1.components = steps)).map Prod.fst

/-- A file was stored under these components. -/
def IsFile (ledger : Ledger) (steps : List Component) : Prop :=
  ∃ entry ∈ ledger.stored, entry.1.components = steps

/-- A directory was created there or below, or a file was stored below. -/
def IsDirectory (ledger : Ledger) (steps : List Component) : Prop :=
  (∃ path ∈ ledger.created, steps <+: path.components) ∨
    ∃ entry ∈ ledger.stored, steps <+: entry.1.components ∧ entry.1.components ≠ steps

instance (ledger : Ledger) (steps : List Component) : Decidable (ledger.IsDirectory steps) :=
  inferInstanceAs (Decidable ((∃ path ∈ ledger.created, _) ∨ ∃ entry ∈ ledger.stored, _))

/-- The ledger with a file noted. -/
def store (ledger : Ledger) (path : Path) (content : ByteArray) : Ledger :=
  { ledger with stored := ledger.stored ++ [(path, content)] }

/-- The ledger with a change noted, unless it is a write to a directory. -/
def note (ledger : Ledger) : Change → Ledger
  | .place path content => ledger.store path content
  | .createDirectory path => { ledger with created := ledger.created ++ [path] }
  | .write path text =>
      if ledger.IsDirectory path.components then ledger else ledger.store path text.toUTF8

/-- What is noted of changes made to the empty store. -/
def ofChanges (changes : List Change) : Ledger :=
  changes.foldl note {}

theorem ofChanges_concat (changes : List Change) (change : Change) :
    ofChanges (changes ++ [change]) = (ofChanges changes).note change := by
  simp [ofChanges]

theorem content?_store :
    (ledger.store path content).content? steps =
      if steps = path.components then some content else ledger.content? steps := by
  by_cases same : steps = path.components
  · simp [content?, store, same]
  · simp [content?, store, same, Ne.symm same]

theorem spelling?_store :
    (ledger.store path content).spelling? steps =
      (ledger.spelling? steps).or (if path.components = steps then some path else none) := by
  rw [spelling?, spelling?, store, List.find?_append, Option.map_or]
  by_cases same : path.components = steps
  · simp [same]
  · simp [same]

theorem spelling?_eq_none_iff : ledger.spelling? steps = none ↔ ¬ledger.IsFile steps := by
  simp [spelling?, IsFile]

theorem content?_eq_none_iff : ledger.content? steps = none ↔ ¬ledger.IsFile steps := by
  simp [content?, IsFile]

end Ledger

namespace Store

variable {store : Store} {ledger : Ledger} {path query : Path} {content : ByteArray}

/-- The store has what the ledger says. -/
structure Keeps (store : Store) (ledger : Ledger) : Prop where
  contents : ∀ path, store.content? path = ledger.content? path.components
  keys : ∀ path, path ∈ store.keys ↔ ledger.spelling? path.components = some path
  directories : ∀ path, path ∈ store.directories ↔ path ∈ ledger.created

theorem mem_keys_place :
    query ∈ (store.place path content).keys ↔
      query ∈ store.keys ∨ query = path ∧ store.isFile path = false := by
  cases known : store.isFile path with
  | true => simp [keys_place known]
  | false =>
      have fresh : ∀ other ∈ store.files, other.1.components ≠ path.components := by
        intro other member same
        have stored := isFile_iff_exists_mem.2 ⟨other, member, same⟩
        simp [known] at stored
      simp only [keys, List.mem_map, place, mem_insertFile_iff fresh]
      constructor
      · rintro ⟨entry, rfl | old, rfl⟩
        · exact Or.inr ⟨rfl, trivial⟩
        · exact Or.inl ⟨entry, old, rfl⟩
      · rintro (⟨entry, old, rfl⟩ | ⟨rfl, -⟩)
        · exact ⟨entry, Or.inr old, rfl⟩
        · exact ⟨(query, content), Or.inl rfl, rfl⟩

namespace Keeps

variable (keeps : store.Keeps ledger)

include keeps

theorem isFile_iff : store.isFile path = true ↔ ledger.IsFile path.components := by
  rw [isFile_iff_exists_content, keeps.contents, ← Option.ne_none_iff_exists', ne_eq,
    Ledger.content?_eq_none_iff, not_not]

/-- The components of the stored paths are those of the ledger. -/
theorem exists_mem_files_iff (property : List Component → Prop) :
    (∃ entry ∈ store.files, property entry.1.components) ↔
      ∃ entry ∈ ledger.stored, property entry.1.components := by
  constructor
  · rintro ⟨entry, member, holds⟩
    have known : store.isFile entry.1 = true := isFile_iff_exists_mem.2 ⟨entry, member, rfl⟩
    rcases keeps.isFile_iff.1 known with ⟨noted, notedMem, same⟩
    exact ⟨noted, notedMem, same ▸ holds⟩
  · rintro ⟨noted, notedMem, holds⟩
    have known : ledger.IsFile noted.1.components := ⟨noted, notedMem, rfl⟩
    rcases isFile_iff_exists_mem.1 (keeps.isFile_iff.2 known) with ⟨entry, member, same⟩
    exact ⟨entry, member, same ▸ holds⟩

theorem isDirectory_iff : store.isDirectory path = true ↔ ledger.IsDirectory path.components := by
  rw [Store.isDirectory_iff, Ledger.IsDirectory, keeps.exists_mem_files_iff fun steps =>
    path.components <+: steps ∧ steps ≠ path.components]
  simp [keeps.directories]

theorem isTaken_iff :
    store.isTaken path = true ↔
      ledger.IsFile path.components ∨ ledger.IsDirectory path.components := by
  rw [isTaken, Bool.or_eq_true, keeps.isFile_iff, keeps.isDirectory_iff]

theorem place (path : Path) (content : ByteArray) :
    (store.place path content).Keeps (ledger.store path content) where
  contents query := by
    rw [content?_place, Ledger.content?_store, keeps.contents]
  keys query := by
    rw [mem_keys_place, keeps.keys, Ledger.spelling?_store, Option.or_eq_some_iff,
      Bool.eq_false_iff, ne_eq, keeps.isFile_iff, Ledger.spelling?_eq_none_iff]
    apply or_congr_right
    constructor
    · rintro ⟨rfl, fresh⟩
      exact ⟨fresh, by simp⟩
    · rintro ⟨fresh, first⟩
      rcases Option.ite_none_right_eq_some.1 first with ⟨same, isQuery⟩
      cases isQuery
      exact ⟨rfl, fresh⟩
  directories query := keeps.directories query

theorem createDirectory (path : Path) :
    (store.createDirectory path).Keeps { ledger with created := ledger.created ++ [path] } where
  contents := keeps.contents
  keys := keeps.keys
  directories query := by
    simp [Store.createDirectory, keeps.directories, or_comm]

theorem apply (change : Change) : (store.apply change).Keeps (ledger.note change) := by
  cases change with
  | place path content => exact keeps.place path content
  | createDirectory path => exact keeps.createDirectory path
  | write path text =>
      by_cases directory : ledger.IsDirectory path.components
      · have refused := write_of_isDirectory (keeps.isDirectory_iff.2 directory) text
        simpa [Store.apply, Ledger.note, refused, directory] using keeps
      · have free : store.isDirectory path = false := by
          rw [Bool.eq_false_iff, ne_eq, keeps.isDirectory_iff]
          exact directory
        simpa [Store.apply, Ledger.note, write_of_not_isDirectory free, directory] using
          keeps.place path text.toUTF8

end Keeps

theorem keeps_after (changes : List Change) :
    (Store.after changes).Keeps (Ledger.ofChanges changes) := by
  induction changes using List.reverseRecOn with
  | nil =>
      constructor <;> intro path <;> simp [Store.after, Ledger.ofChanges, empty, content?, keys,
        Ledger.content?, Ledger.spelling?]
  | append_singleton changes change ih =>
      rw [after_concat, Ledger.ofChanges_concat]
      exact ih.apply change

theorem isTaken_apply (taken : store.isTaken path = true) (change : Change) :
    (store.apply change).isTaken path = true := by
  cases change with
  | place other content => exact isTaken_place.2 (Or.inl taken)
  | createDirectory other =>
      rw [Store.isTaken_iff] at taken ⊢
      rcases taken with ⟨directory, member, above⟩ | stored
      · exact Or.inl ⟨directory, List.mem_cons_of_mem _ member, above⟩
      · exact Or.inr stored
  | write other text =>
      cases directory : store.isDirectory other with
      | true => simpa [Store.apply, write_of_isDirectory directory] using taken
      | false =>
          rw [Store.apply, write_of_not_isDirectory directory]
          exact isTaken_place.2 (Or.inl taken)

theorem isTaken_after_append (changes later : List Change)
    (taken : (Store.after changes).isTaken path = true) :
    (Store.after (changes ++ later)).isTaken path = true := by
  induction later using List.reverseRecOn with
  | nil => simpa using taken
  | append_singleton later change ih =>
      rw [← List.append_assoc, after_concat]
      exact isTaken_apply ih change

theorem Keeps.list_of_isDirectory (keeps : store.Keeps ledger)
    (directory : store.isDirectory path = true) :
    ∃ paths, store.list path = .ok paths ∧
      paths.Pairwise (fun earlier later => earlier.order later = .lt) ∧
      (∀ steps, steps ∈ paths.map Path.components ↔
        path.components <+: steps ∧ ledger.IsFile steps) ∧
      ∀ listed ∈ paths, ledger.spelling? listed.components = some listed := by
  refine ⟨_, Store.list_of_isDirectory directory, ?_, ?_, ?_⟩
  · exact (List.pairwise_map.2 store.ordered).filter _
  · intro steps
    have stored := keeps.exists_mem_files_iff fun found => path.components <+: found ∧ found = steps
    simp only [List.mem_map, List.mem_filter, Path.isWithin_iff, Ledger.IsFile]
    constructor
    · rintro ⟨_, ⟨⟨entry, member, rfl⟩, within⟩, same⟩
      rcases stored.1 ⟨entry, member, within, same⟩ with ⟨noted, notedMem, below, key⟩
      exact ⟨key ▸ below, noted, notedMem, key⟩
    · rintro ⟨below, noted, notedMem, rfl⟩
      rcases stored.2 ⟨noted, notedMem, below, rfl⟩ with ⟨entry, member, within, same⟩
      exact ⟨entry.1, ⟨⟨entry, member, rfl⟩, within⟩, same⟩
  · intro listed member
    exact (keeps.keys listed).1 (List.mem_filter.1 member).1

/-- Whatever changes were made to the empty store, its answers are those of the ledger. A file is
read as it was stored last under the components of the path, and reading fails exactly if nothing
was. Writing fails exactly at a directory, and whatever happens later happens as if it had not been
tried. Taken are the files and the directories, and what is taken stays so. Listing fails exactly if
there is no directory; otherwise it gives the stored paths within, each once and in strict order,
spelled as they first were. -/
theorem after_refines_ledger (changes : List Change) :
    (∀ path content, (Store.after changes).readBytes path = .ok content ↔
      (Ledger.ofChanges changes).content? path.components = some content) ∧
    (∀ path, (∃ error, (Store.after changes).readBytes path = .error error) ↔
      ¬(Ledger.ofChanges changes).IsFile path.components) ∧
    (∀ path, (Store.after changes).isFile path = true ↔
      (Ledger.ofChanges changes).IsFile path.components) ∧
    (∀ path text, (∃ error, ((Store.after changes).write path text).1 = .error error) ↔
      (Ledger.ofChanges changes).IsDirectory path.components) ∧
    (∀ path text, (Ledger.ofChanges changes).IsDirectory path.components → ∀ later,
      Store.after (changes ++ .write path text :: later) = Store.after (changes ++ later)) ∧
    (∀ path, (Store.after changes).isTaken path = true ↔
      (Ledger.ofChanges changes).IsFile path.components ∨
        (Ledger.ofChanges changes).IsDirectory path.components) ∧
    (∀ path, (Store.after changes).isTaken path = true → ∀ later,
      (Store.after (changes ++ later)).isTaken path = true) ∧
    (∀ root, (∃ error, (Store.after changes).list root = .error error) ↔
      ¬(Ledger.ofChanges changes).IsDirectory root.components) ∧
    ∀ root, (Ledger.ofChanges changes).IsDirectory root.components →
      ∃ paths, (Store.after changes).list root = .ok paths ∧
        paths.Pairwise (fun earlier later => earlier.order later = .lt) ∧
        (∀ steps, steps ∈ paths.map Path.components ↔
          root.components <+: steps ∧ (Ledger.ofChanges changes).IsFile steps) ∧
        ∀ path ∈ paths, (Ledger.ofChanges changes).spelling? path.components = some path := by
  have keeps := keeps_after changes
  refine ⟨?_, ?_, fun _ => keeps.isFile_iff, ?_, ?_, fun _ => keeps.isTaken_iff, ?_, ?_, ?_⟩
  · intro path content
    rw [readBytes, keeps.contents]
    cases (Ledger.ofChanges changes).content? path.components <;> simp
  · intro path
    rw [← Ledger.content?_eq_none_iff, readBytes, keeps.contents]
    cases (Ledger.ofChanges changes).content? path.components <;> simp
  · intro path text
    rw [← keeps.isDirectory_iff]
    cases directory : (Store.after changes).isDirectory path with
    | true => simp [write_of_isDirectory directory]
    | false => simp [write_of_not_isDirectory directory]
  · intro path text directory later
    have refused := write_of_isDirectory (keeps.isDirectory_iff.2 directory) text
    rw [after_append, after_append, List.foldl_cons, apply, refused]
  · intro path taken later
    exact isTaken_after_append changes later taken
  · intro root
    rw [← keeps.isDirectory_iff, list]
    split <;> simp [*]
  · intro root directory
    exact keeps.list_of_isDirectory (keeps.isDirectory_iff.2 directory)

end Store

end SourceTree
