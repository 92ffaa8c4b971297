import Mathlib.Data.List.Infix
import SourceTree.Proofs.Disk.Create
import SourceTree.Proofs.Files.Store
import SourceTree.Proofs.Path.Within

/-!
# Stores on a disk

A store in which no file is at or above anything else describes what can be on a disk. The disk
holds the store if below its working directory there is what the store says: directories wherever
something lies below, and the files with their contents. Each such store is held by some disk, and
a disk that holds one is plain.
-/

namespace SourceTree

namespace Store

variable {store : Store} {path : Path} {inner : List String} {steps : List Component}
  {content : ByteArray}

/-- What was stored or created. -/
def places (store : Store) : List Path :=
  store.directories ++ store.files.map Prod.fst

/-- A directory was created there or below, or a file lies below. -/
def HasBelow (store : Store) (steps : List Component) : Prop :=
  (∃ directory ∈ store.directories, steps <+: directory.components) ∨
    ∃ entry ∈ store.files, steps <+: entry.1.components ∧ entry.1.components ≠ steps

instance (store : Store) (steps : List Component) : Decidable (store.HasBelow steps) :=
  inferInstanceAs (Decidable ((∃ directory ∈ store.directories, _) ∨ ∃ entry ∈ store.files, _))

/-- What a store says to be at a place. -/
def at? (store : Store) (inner : List String) : Option Entry :=
  let steps := inner.map Component.name
  if store.HasBelow steps then some .directory
  else ((store.files.find? (·.1.components == steps)).map Prod.snd).map .file

/-- Files and directories under legal paths, where no file is at or above anything else. -/
structure IsPlain (store : Store) : Prop where
  files : ∀ entry ∈ store.files, entry.1.IsLegal
  directories : ∀ directory ∈ store.directories, directory.IsLegal
  apart : ∀ entry ∈ store.files, store.isDirectory entry.1 = false

instance (store : Store) : Decidable store.IsPlain :=
  decidable_of_iff ((∀ entry ∈ store.files, entry.1.IsLegal) ∧
      (∀ directory ∈ store.directories, directory.IsLegal) ∧
      ∀ entry ∈ store.files, store.isDirectory entry.1 = false)
    ⟨fun ⟨files, directories, apart⟩ => ⟨files, directories, apart⟩,
    fun ⟨files, directories, apart⟩ => ⟨files, directories, apart⟩⟩

theorem isFile_eq_isSome : store.isFile path = (store.content? path).isSome := by
  rw [Bool.eq_iff_iff, isFile_iff_exists_content, Option.isSome_iff_exists]

theorem isDirectory_iff_hasBelow : store.isDirectory path = true ↔ store.HasBelow path.components :=
  isDirectory_iff

theorem at?_eq (shape : path.components = inner.map .name) :
    store.at? inner =
      if store.isDirectory path = true then some .directory
      else (store.content? path).map .file := by
  simp only [at?, isDirectory_iff_hasBelow, content?, shape]

theorem isSome_at? (shape : path.components = inner.map .name) :
    (store.at? inner).isSome = store.isTaken path := by
  rw [at?_eq shape, isTaken, isFile_eq_isSome]
  cases store.isDirectory path <;> simp

/-- Something is wherever something stored or created is at or below. -/
theorem at?_ne_none_iff :
    store.at? inner ≠ none ↔ ∃ path ∈ store.places, inner.map .name <+: path.components := by
  rw [at?, places]
  constructor
  · split
    next below =>
      intro _
      rcases below with ⟨directory, member, within⟩ | ⟨entry, member, within, _⟩
      · exact ⟨directory, by simp [member], within⟩
      · exact ⟨entry.1, List.mem_append_right _ (List.mem_map_of_mem member), within⟩
    next =>
      rw [ne_eq, Option.map_eq_none_iff, Option.map_eq_none_iff, ← ne_eq,
        Option.ne_none_iff_exists']
      rintro ⟨entry, found⟩
      have same : entry.1.components = inner.map .name := by simpa using List.find?_some found
      have member := List.mem_of_find?_eq_some found
      exact ⟨entry.1, List.mem_append_right _ (List.mem_map_of_mem member), same ▸ List.prefix_rfl⟩
  · rintro ⟨path, member, within⟩
    split
    next => simp
    next nothing =>
      rcases List.mem_append.1 member with directory | file
      · exact absurd (Or.inl ⟨path, directory, within⟩) nothing
      · rcases List.mem_map.1 file with ⟨entry, entryMem, rfl⟩
        by_cases same : entry.1.components = inner.map .name
        · rw [ne_eq, Option.map_eq_none_iff, Option.map_eq_none_iff, List.find?_eq_none]
          intro none
          exact none entry entryMem (by simpa using same)
        · exact absurd (Or.inr ⟨entry, entryMem, within, same⟩) nothing

theorem exists_mem_of_at? (found : store.at? inner = some (.file content)) :
    ∃ entry ∈ store.files, entry.1.components = inner.map .name ∧ entry.2 = content := by
  rw [at?] at found
  split at found
  next => cases found
  next =>
    rw [Option.map_map, Option.map_eq_some_iff] at found
    rcases found with ⟨entry, isFirst, isContent⟩
    refine ⟨entry, List.mem_of_find?_eq_some isFirst, by simpa using List.find?_some isFirst, ?_⟩
    simpa using isContent

theorem at?_ne_link (target : String) : store.at? inner ≠ some (.link target) := by
  rw [at?]
  split
  · simp
  · simp

/-- What lies above something is a directory. -/
theorem at?_above {name : String} (present : store.at? (inner ++ [name]) ≠ none) :
    store.at? inner = some .directory := by
  rcases at?_ne_none_iff.1 present with ⟨path, member, within⟩
  rw [List.map_append] at within
  have above : inner.map .name <+: path.components := (List.prefix_append _ _).trans within
  have differs : path.components ≠ inner.map .name := by
    intro same
    simpa [same] using within.length_le
  rw [at?, if_pos]
  rcases List.mem_append.1 member with directory | file
  · exact Or.inl ⟨path, directory, above⟩
  · rcases List.mem_map.1 file with ⟨entry, entryMem, rfl⟩
    exact Or.inr ⟨entry, entryMem, above, differs⟩

theorem hasBelow_place :
    (store.place path content).HasBelow steps ↔
      store.HasBelow steps ∨ steps <+: path.components ∧ path.components ≠ steps := by
  rw [HasBelow, HasBelow, place]
  simp only [exists_mem_insertFile_iff fun other => steps <+: other ∧ other ≠ steps]
  exact or_left_comm.trans or_comm

/-- Where no directory is, a placed file is what is there then, and directories are above it. -/
theorem at?_place (free : store.isDirectory path = false)
    (shape : path.components = inner.map .name) (other : List String) :
    (store.place path content).at? other =
      if other = inner then some (.file content)
      else if other <+: inner then some .directory
      else store.at? other := by
  by_cases last : other = inner
  · have closed : (store.place path content).isDirectory path = false := by
      rw [Bool.eq_false_iff, ne_eq, isDirectory_iff_hasBelow, hasBelow_place,
        ← isDirectory_iff_hasBelow]
      simp [free]
    rw [if_pos last, last, at?_eq shape, closed, content?_place, if_pos rfl]
    rfl
  · have differs : other.map .name ≠ path.components := by
      rw [shape]
      exact fun same => last (List.map_injective_iff.2 Component.name_injective same)
    have along : other.map .name <+: path.components ∧ path.components ≠ other.map .name ↔
        other <+: inner := by
      rw [and_iff_left (Ne.symm differs), shape,
        List.prefix_map_iff_of_injective Component.name_injective]
    have kept := @find?_insertFile path content store.files (other.map .name)
    rw [if_neg differs] at kept
    rw [if_neg last, at?, at?]
    simp only [hasBelow_place, along]
    by_cases above : other <+: inner
    · simp [above]
    · simp only [above, or_false, if_false]
      rw [← kept]
      rfl

namespace IsPlain

variable (plain : store.IsPlain)

include plain

theorem isLegal {path : Path} (member : path ∈ store.places) : path.IsLegal := by
  rcases List.mem_append.1 member with directory | file
  · exact plain.directories path directory
  · rcases List.mem_map.1 file with ⟨entry, entryMem, rfl⟩
    exact plain.files entry entryMem

theorem isDirectory_of_isFile (known : store.isFile path = true) :
    store.isDirectory path = false := by
  rcases isFile_iff_exists_mem.1 known with ⟨entry, member, same⟩
  have apart := plain.apart entry member
  rwa [isDirectory, same] at apart

theorem content?_at? (legal : path.IsLegal) :
    (store.at? path.names).bind Entry.content? = store.content? path := by
  rw [at?_eq legal.components_eq]
  cases found : store.content? path with
  | none => split <;> rfl
  | some content =>
      rw [plain.isDirectory_of_isFile (isFile_iff_exists_content.2 ⟨content, found⟩)]
      rfl

theorem at?_of_mem {entry : Path × ByteArray} (member : entry ∈ store.files)
    (shape : entry.1.components = inner.map .name) : store.at? inner = some (.file entry.2) := by
  rw [at?_eq shape, plain.apart entry member, content?_of_mem member]
  rfl

/-- A file can be placed where no directory and above which no file is. -/
theorem place (legal : path.IsLegal) (free : store.isDirectory path = false)
    (clear : ∀ entry ∈ store.files, entry.1.isAbove path = false) :
    (store.place path content).IsPlain := by
  have keys : ∀ entry ∈ (store.place path content).files,
      entry.1 = path ∨ ∃ other ∈ store.files, entry.1 = other.1 :=
    fun _ => key_of_mem_insertFile
  refine ⟨?_, plain.directories, ?_⟩
  · intro entry member
    rcases keys entry member with same | ⟨other, otherMem, same⟩
    · exact same ▸ legal
    · exact same ▸ plain.files other otherMem
  · intro entry member
    rw [Bool.eq_false_iff, ne_eq, isDirectory_iff_hasBelow, hasBelow_place,
      ← isDirectory_iff_hasBelow]
    rintro (directory | above)
    · rcases keys entry member with same | ⟨other, otherMem, same⟩
      · simp [same, free] at directory
      · simp [same, plain.apart other otherMem] at directory
    · rcases keys entry member with same | ⟨other, otherMem, same⟩
      · exact above.2 (by rw [same])
      · have isAbove := Path.isAbove_iff.2 above
        simp [same, clear other otherMem] at isAbove

end IsPlain

end Store

namespace Disk

variable {disk : Disk} {store : Store}

/-- Below the working directory there is what the store says. -/
structure Holds (disk : Disk) (store : Store) : Prop where
  home : disk.at? [] = some .directory
  places : ∀ inner, inner ≠ [] → disk.at? inner = store.at? inner

theorem Holds.isPlain (holds : disk.Holds store) (plain : store.IsPlain) : disk.IsPlain := by
  refine ⟨holds.home, ?_, ?_, ?_⟩
  · intro inner name present
    rw [holds.places _ (by simp)] at present
    by_cases home : inner = []
    · simpa [home] using holds.home
    · rw [holds.places _ home, Store.at?_above present]
  · intro inner name present
    rw [holds.places _ (by simp), Store.at?_ne_none_iff] at present
    rcases present with ⟨path, member, within⟩
    have legal := plain.isLegal member
    rw [legal.map_name_prefix_iff] at within
    exact legal.named name (within.mem (by simp))
  · intro inner target
    by_cases home : inner = []
    · simp [home, holds.home]
    · rw [holds.places _ home]
      exact Store.at?_ne_link target

/-- The disk with what a store says put at some places where there is something. -/
def mirror (store : Store) (disk : Disk) : List Location → Disk
  | [] => disk
  | place :: places => mirror store (disk.put place ((store.at? place).getD .directory)) places

theorem entry?_mirror {places : List Location} {other : Location} (below : other ≠ []) :
    Disk.entry? (mirror store disk places) other =
      if other ∈ places then some ((store.at? other).getD .directory) else disk.entry? other := by
  induction places generalizing disk with
  | nil => simp [mirror]
  | cons place places ih =>
      rw [mirror, ih, entry?_put below]
      by_cases here : other = place
      · simp [here]
      · simp [here]

theorem workingDirectory_mirror (places : List Location) :
    (mirror store disk places).workingDirectory = disk.workingDirectory := by
  induction places generalizing disk with
  | nil => rfl
  | cons place places ih =>
      rw [mirror, ih]
      rfl

/-- For each plain store there is a disk that holds it. -/
theorem exists_holds (plain : store.IsPlain) : ∃ disk : Disk, disk.Holds store := by
  let disk := mirror store {} (store.places.flatMap (·.names.inits))
  have place : ∀ inner, disk.at? inner = disk.entry? inner := by
    intro inner
    rw [at?, workingDirectory_mirror]
    rfl
  refine ⟨disk, by rw [place]; rfl, fun inner below => ?_⟩
  have member : inner ∈ store.places.flatMap (·.names.inits) ↔ store.at? inner ≠ none := by
    rw [List.mem_flatMap, Store.at?_ne_none_iff]
    apply exists_congr
    intro path
    apply and_congr_right
    intro pathMem
    rw [List.mem_inits, (plain.isLegal pathMem).map_name_prefix_iff]
  rw [place, entry?_mirror below]
  cases found : store.at? inner with
  | none =>
      rw [if_neg (by simp [member, found])]
      simp [below, entry?]
  | some entry =>
      rw [if_pos (by simp [member, found])]
      rfl

end Disk

end SourceTree
