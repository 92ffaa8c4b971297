import SourceTree.Files.Store

/-!
# Laws of the store

Every question that a store answers depends on the components of the path asked about. A path is
taken exactly if it is an ancestor of something stored, or the thing itself; placing a file
therefore takes its path and all paths above it, and nothing else changes. Its content is found at
every spelling of its path and the contents of all other files are what they were.
-/

namespace SourceTree.Store

variable {store : Store} {path query : Path} {content : ByteArray}

theorem eq_of_files {other : Store} (files : store.files = other.files)
    (directories : store.directories = other.directories) : store = other := by
  cases store
  cases other
  cases files
  cases directories
  rfl

section Keys

variable {files : List (Path × ByteArray)}

theorem exists_mem_insertFile_iff (property : List Component → Prop) :
    (∃ entry ∈ insertFile path.components path content files, property entry.1.components) ↔
      property path.components ∨ ∃ entry ∈ files, property entry.1.components := by
  induction files with
  | nil => simp [insertFile]
  | cons first rest ih =>
      rw [insertFile]
      split
      next => simp
      next same =>
        have key : path.components = first.1.components := Std.LawfulEqOrd.eq_of_compare same
        simp [key]
      next =>
        simp only [List.mem_cons, exists_eq_or_imp, ih]
        exact or_left_comm

theorem find?_insertFile (files : List (Path × ByteArray)) (steps : List Component) :
    ((insertFile path.components path content files).find?
        fun entry => entry.1.components == steps).map Prod.snd =
      if steps = path.components then some content
      else (files.find? fun entry => entry.1.components == steps).map Prod.snd := by
  induction files with
  | nil =>
      by_cases same : steps = path.components
      · simp [insertFile, same]
      · simp [insertFile, same, Ne.symm same]
  | cons first rest ih =>
      rw [insertFile]
      split
      next =>
        by_cases same : steps = path.components
        · simp [same]
        · simp [same, Ne.symm same]
      next equal =>
        have key : path.components = first.1.components := Std.LawfulEqOrd.eq_of_compare equal
        by_cases same : steps = path.components
        · simp [same, key]
        · have other : (first.1.components == steps) = false := by
            simpa [key] using Ne.symm same
          simp [same, other]
      next behind =>
        by_cases hit : first.1.components = steps
        · have differs : steps ≠ path.components := by
            intro same
            rw [hit, same, Std.ReflOrd.compare_self] at behind
            cases behind
          simp [hit, differs]
        · have other : (first.1.components == steps) = false := by simpa using hit
          simpa [other] using ih

/-- Under a new key, a file is added and the others are kept. -/
theorem mem_insertFile_iff {entry : Path × ByteArray}
    (fresh : ∀ other ∈ files, other.1.components ≠ path.components) :
    entry ∈ insertFile path.components path content files ↔
      entry = (path, content) ∨ entry ∈ files := by
  induction files with
  | nil => simp [insertFile]
  | cons first rest ih =>
      rw [insertFile]
      split
      next => simp
      next same =>
        have key : path.components = first.1.components := Std.LawfulEqOrd.eq_of_compare same
        exact absurd key.symm (fresh first (by simp))
      next =>
        rw [List.mem_cons, ih fun other member => fresh other (List.mem_cons_of_mem _ member),
          List.mem_cons]
        exact or_left_comm

end Keys

theorem content?_place (store : Store) (path query : Path) (content : ByteArray) :
    (store.place path content).content? query =
      if query.components = path.components then some content else store.content? query :=
  find?_insertFile store.files query.components

theorem isFile_iff_exists_content :
    store.isFile query = true ↔ ∃ content, store.content? query = some content := by
  simp only [isFile, content?, List.any_eq_true, Option.map_eq_some_iff]
  constructor
  · rintro ⟨entry, member, same⟩
    cases found : store.files.find? fun entry => entry.1.components == query.components with
    | some entry => exact ⟨entry.2, entry, rfl, rfl⟩
    | none => exact absurd same (List.find?_eq_none.1 found entry member)
  · rintro ⟨content, entry, found, _⟩
    exact ⟨entry, List.mem_of_find?_eq_some found, by simpa using List.find?_some found⟩

/-- A stored file is found under its own path with its own content: no other has its key. -/
theorem content?_of_mem {entry : Path × ByteArray} (member : entry ∈ store.files) :
    store.content? entry.1 = some entry.2 := by
  rcases List.append_of_mem member with ⟨before, behind, cut⟩
  have ordered := store.ordered
  rw [cut, List.pairwise_append] at ordered
  have differs : ∀ other ∈ before, (other.1.components == entry.1.components) = false := by
    intro other otherMem
    have less := ordered.2.2 other otherMem entry (by simp)
    rw [beq_eq_false_iff_ne]
    intro same
    rw [Path.order, same, Std.ReflOrd.compare_self] at less
    cases less
  have skipped : before.find? (fun other => other.1.components == entry.1.components) = none := by
    rw [List.find?_eq_none]
    intro other otherMem
    simp [differs other otherMem]
  simp [content?, cut, List.find?_append, skipped]

theorem isFile_iff_exists_mem :
    store.isFile query = true ↔ ∃ entry ∈ store.files, entry.1.components = query.components := by
  simp [isFile]

theorem isDirectory_iff :
    store.isDirectory query = true ↔
      (∃ directory ∈ store.directories, query.components <+: directory.components) ∨
        ∃ entry ∈ store.files, query.components <+: entry.1.components ∧
          entry.1.components ≠ query.components := by
  simp [isDirectory]

/-- A path is taken if something stored is there or below. -/
theorem isTaken_iff :
    store.isTaken query = true ↔
      (∃ directory ∈ store.directories, query.components <+: directory.components) ∨
        ∃ entry ∈ store.files, query.components <+: entry.1.components := by
  rw [isTaken, Bool.or_eq_true, isFile_iff_exists_mem, isDirectory_iff]
  constructor
  · rintro (⟨entry, member, same⟩ | directory | ⟨entry, member, within, _⟩)
    · exact Or.inr ⟨entry, member, same ▸ List.prefix_rfl⟩
    · exact Or.inl directory
    · exact Or.inr ⟨entry, member, within⟩
  · rintro (directory | ⟨entry, member, within⟩)
    · exact Or.inr (Or.inl directory)
    · by_cases same : entry.1.components = query.components
      · exact Or.inl ⟨entry, member, same⟩
      · exact Or.inr (Or.inr ⟨entry, member, within, same⟩)

/-- Whether a path is taken does not depend on its spelling. -/
theorem isTaken_congr {left right : Path} (same : left.components = right.components) :
    store.isTaken left = store.isTaken right := by
  simp only [isTaken, isFile, isDirectory, same]

theorem isDirectory_congr {left right : Path} (same : left.components = right.components) :
    store.isDirectory left = store.isDirectory right := by
  simp only [isDirectory, same]

/-- Placing a file takes its path and the paths above it. -/
theorem isTaken_place :
    (store.place path content).isTaken query = true ↔
      store.isTaken query = true ∨ query.components <+: path.components := by
  rw [isTaken_iff, isTaken_iff]
  simp only [place, exists_mem_insertFile_iff fun steps => query.components <+: steps]
  exact or_left_comm.trans or_comm

theorem isDirectory_place_of_isDirectory (directory : store.isDirectory query = true) :
    (store.place path content).isDirectory query = true := by
  rw [isDirectory_iff] at directory ⊢
  rcases directory with created | above
  · exact Or.inl created
  · right
    apply (exists_mem_insertFile_iff fun steps =>
      query.components <+: steps ∧ steps ≠ query.components).2
    exact Or.inr above

theorem not_isDirectory_of_not_isTaken (free : store.isTaken query = false) :
    store.isDirectory query = false := by
  rw [isTaken, Bool.or_eq_false_iff] at free
  exact free.2

theorem write_of_not_isDirectory (free : store.isDirectory path = false) (text : String) :
    store.write path text = (.ok (), store.place path text.toUTF8) := by
  simp [write, free]

theorem write_of_isDirectory (directory : store.isDirectory path = true) (text : String) :
    store.write path text = (.error (.directoryInTheWay path), store) := by
  simp [write, directory]

/-- What is listed are the stored paths below, in their order. -/
theorem list_of_isDirectory {root : Path} (directory : store.isDirectory root = true) :
    FileSystem.list store root =
      .ok ((store.files.map Prod.fst).filter (·.isWithin root)) := by
  change store.list root = _
  rw [list, if_pos directory]
  rfl

theorem list_of_not_isDirectory {root : Path} (absent : store.isDirectory root = false) :
    FileSystem.list store root = .error (.noDirectory root) := by
  change store.list root = _
  simp [list, absent]

end SourceTree.Store
