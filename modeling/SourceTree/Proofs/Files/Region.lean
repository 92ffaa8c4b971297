import SourceTree.Proofs.Path.Within
import SourceTree.Proofs.Stage.Writes

/-!
# Parts of a store

What a store answers about a path in some directories is settled by its part in these directories:
listing, reading and testing a path only look at what is there and below. Writing a file changes a
part only if the file lies in it, and two stores with the same part have the same part after the
same writes. Writes to different paths can be made in either order.
-/

namespace SourceTree.Store

variable {store other : Store} {roots : List Path} {path query : Path}

/-- The part of a store that lies in some directories. -/
def restrict (store : Store) (roots : List Path) : Store where
  files := store.files.filter fun file => file.1.isIn roots
  directories := store.directories.filter fun directory => directory.isIn roots
  ordered := store.ordered.filter _

section Questions

theorem content?_restrict (inside : query.isIn roots = true) :
    (store.restrict roots).content? query = store.content? query := by
  simp only [content?, restrict, List.find?_filter]
  congr 2
  funext file
  by_cases hit : file.1.components = query.components
  · have fileInside : file.1.isIn roots = true := by rw [Path.isIn_congr hit, inside]
    simp [hit, fileInside]
  · simp [hit]

theorem isFile_restrict (inside : query.isIn roots = true) :
    (store.restrict roots).isFile query = store.isFile query := by
  rw [Bool.eq_iff_iff, isFile_iff_exists_content, isFile_iff_exists_content,
    content?_restrict inside]

theorem isDirectory_restrict (inside : query.isIn roots = true) :
    (store.restrict roots).isDirectory query = store.isDirectory query := by
  rw [Bool.eq_iff_iff, isDirectory_iff, isDirectory_iff]
  simp only [restrict, List.mem_filter]
  constructor
  · rintro (⟨directory, ⟨member, _⟩, below⟩ | ⟨entry, ⟨member, _⟩, below⟩)
    · exact Or.inl ⟨directory, member, below⟩
    · exact Or.inr ⟨entry, member, below⟩
  · rintro (⟨directory, member, below⟩ | ⟨entry, member, below, differs⟩)
    · exact Or.inl ⟨directory, ⟨member, Path.isIn_of_isPrefix inside below⟩, below⟩
    · exact Or.inr ⟨entry, ⟨member, Path.isIn_of_isPrefix inside below⟩, below, differs⟩

theorem isTaken_restrict (inside : query.isIn roots = true) :
    (store.restrict roots).isTaken query = store.isTaken query := by
  rw [isTaken, isTaken, isFile_restrict inside, isDirectory_restrict inside]

theorem filter_isWithin_restrict (inside : query.isIn roots = true) :
    (store.restrict roots).files.filter (·.1.isWithin query) =
      store.files.filter (·.1.isWithin query) := by
  simp only [restrict, List.filter_filter]
  congr 1
  funext file
  cases within : file.1.isWithin query with
  | false => rfl
  | true => rw [Path.isIn_of_isPrefix inside (Path.isWithin_iff.1 within), Bool.and_true]

end Questions

section Agreement

variable (agree : other.restrict roots = store.restrict roots) (inside : query.isIn roots = true)

include agree inside

theorem content?_of_agree : other.content? query = store.content? query := by
  rw [← content?_restrict inside, agree, content?_restrict inside]

theorem isFile_of_agree : other.isFile query = store.isFile query := by
  rw [← isFile_restrict inside, agree, isFile_restrict inside]

theorem isDirectory_of_agree : other.isDirectory query = store.isDirectory query := by
  rw [← isDirectory_restrict inside, agree, isDirectory_restrict inside]

theorem isTaken_of_agree : other.isTaken query = store.isTaken query := by
  rw [← isTaken_restrict inside, agree, isTaken_restrict inside]

theorem filter_isWithin_of_agree :
    other.files.filter (·.1.isWithin query) = store.files.filter (·.1.isWithin query) := by
  rw [← filter_isWithin_restrict inside, agree, filter_isWithin_restrict inside]

theorem paths_of_agree :
    (other.files.map Prod.fst).filter (·.isWithin query) =
      (store.files.map Prod.fst).filter (·.isWithin query) := by
  rw [List.filter_map, List.filter_map]
  exact congrArg (List.map Prod.fst) (filter_isWithin_of_agree agree inside)

theorem list_of_agree : FileSystem.list other query = FileSystem.list store query := by
  have sameKind := isDirectory_of_agree agree inside
  cases directory : store.isDirectory query with
  | true =>
      rw [list_of_isDirectory directory, list_of_isDirectory (sameKind.trans directory),
        paths_of_agree agree inside]
  | false =>
      rw [list_of_not_isDirectory directory, list_of_not_isDirectory (sameKind.trans directory)]

theorem readBytes_of_agree :
    FileSystem.readBytes other query = FileSystem.readBytes store query := by
  change other.readBytes query = store.readBytes query
  rw [readBytes, readBytes, content?_of_agree agree inside]

theorem readText_of_agree :
    FileSystem.readText other query = FileSystem.readText store query := by
  change other.readText query = store.readText query
  rw [readText, readText, readBytes, readBytes, content?_of_agree agree inside]

end Agreement

section Writes

variable {content : ByteArray} {files : List (Path × ByteArray)}

theorem insertFile_eq_cons
    (behind : ∀ file ∈ files, path.order file.1 = .lt) :
    insertFile path.components path content files = (path, content) :: files := by
  cases files with
  | nil => rfl
  | cons first rest =>
      have less : compare path.components first.1.components = .lt := behind first (by simp)
      rw [insertFile, less]

/-- A file is inserted into the part that it lies in. -/
theorem filter_insertFile
    (ordered : files.Pairwise fun earlier later => earlier.1.order later.1 = .lt) :
    (insertFile path.components path content files).filter (·.1.isIn roots) =
      if path.isIn roots then
        insertFile path.components path content (files.filter (·.1.isIn roots))
      else files.filter (·.1.isIn roots) := by
  induction files with
  | nil => simp [insertFile, List.filter_cons]
  | cons first rest ih =>
      rcases List.pairwise_cons.1 ordered with ⟨firstBefore, restOrdered⟩
      rw [insertFile]
      split
      next before =>
        have behind : ∀ file ∈ (first :: rest).filter (·.1.isIn roots),
            path.order file.1 = .lt := by
          intro file member
          rcases List.mem_cons.1 (List.mem_filter.1 member).1 with rfl | later
          · exact before
          · exact Std.TransCmp.lt_trans before (firstBefore file later)
        rw [insertFile_eq_cons behind, List.filter_cons]
      next equal =>
        have key : path.components = first.1.components := Std.LawfulEqOrd.eq_of_compare equal
        simp only [List.filter_cons, ← Path.isIn_congr key]
        split
        · rw [insertFile, equal]
        · rfl
      next behind =>
        rw [List.filter_cons, List.filter_cons, ih restOrdered]
        split
        next =>
          split
          · rw [insertFile, behind]
          · rfl
        next => rfl

theorem restrict_place (store : Store) (roots : List Path) (path : Path) (content : ByteArray) :
    (store.place path content).restrict roots =
      if path.isIn roots then (store.restrict roots).place path content
      else store.restrict roots := by
  apply eq_of_files
  · refine (filter_insertFile store.ordered).trans ?_
    split <;> rfl
  · split <;> rfl

theorem restrict_writes (store : Store) (roots : List Path) (outputs : List (Path × String)) :
    (store.writes outputs).restrict roots =
      (store.restrict roots).writes (outputs.filter (·.1.isIn roots)) := by
  induction outputs generalizing store with
  | nil => rfl
  | cons output outputs ih =>
      rw [writes_cons, ih, restrict_place, List.filter_cons]
      split <;> rfl

/-- The same writes keep two stores in agreement. -/
theorem restrict_writes_congr (agree : other.restrict roots = store.restrict roots)
    (outputs : List (Path × String)) :
    (other.writes outputs).restrict roots = (store.writes outputs).restrict roots := by
  rw [restrict_writes, restrict_writes, agree]

/-- Writes elsewhere leave a part as it is. -/
theorem restrict_writes_of_outside {outputs : List (Path × String)}
    (outside : ∀ output ∈ outputs, output.1.isIn roots = false) :
    (store.writes outputs).restrict roots = store.restrict roots := by
  have none : outputs.filter (·.1.isIn roots) = [] := by
    simpa [List.filter_eq_nil_iff] using outside
  rw [restrict_writes, none]
  rfl

end Writes

section Order

variable {first second : Path} {firstContent secondContent : ByteArray}

theorem insertFile_comm_of_lt (less : compare first.components second.components = .lt)
    (files : List (Path × ByteArray)) :
    insertFile first.components first firstContent
        (insertFile second.components second secondContent files) =
      insertFile second.components second secondContent
        (insertFile first.components first firstContent files) := by
  have greater : compare second.components first.components = .gt := Std.OrientedCmp.gt_of_lt less
  induction files with
  | nil => simp [insertFile, less, greater]
  | cons file files ih =>
      rcases file with ⟨key, old⟩
      cases secondKey : compare second.components key.components with
      | lt =>
          have firstKey := Std.TransCmp.lt_trans less secondKey
          simp [insertFile, less, greater, firstKey, secondKey]
      | eq =>
          have firstKey := Std.TransCmp.lt_of_lt_of_eq less secondKey
          simp [insertFile, greater, firstKey, secondKey]
      | gt =>
          cases firstKey : compare first.components key.components with
          | lt => simp [insertFile, greater, firstKey, secondKey]
          | eq => simp [insertFile, firstKey, secondKey]
          | gt => simp [insertFile, firstKey, secondKey, ih]

theorem place_comm (differs : first.same second = false) :
    (store.place second secondContent).place first firstContent =
      (store.place first firstContent).place second secondContent := by
  refine eq_of_files ?_ (by rfl)
  cases order : compare first.components second.components with
  | lt => exact insertFile_comm_of_lt order store.files
  | eq =>
      have key : first.components = second.components := Std.LawfulEqOrd.eq_of_compare order
      simp [Path.same, key] at differs
  | gt => exact (insertFile_comm_of_lt (Std.OrientedCmp.lt_of_gt order) store.files).symm

theorem writes_place_comm {output : Path × String} {outputs : List (Path × String)}
    (differs : ∀ other ∈ outputs, output.1.same other.1 = false) :
    (store.place output.1 output.2.toUTF8).writes outputs =
      (store.writes outputs).place output.1 output.2.toUTF8 := by
  induction outputs generalizing store with
  | nil => rfl
  | cons other outputs ih =>
      rw [writes_cons, ← place_comm (differs other (by simp)),
        ih fun later member => differs later (List.mem_cons_of_mem _ member), writes_cons]

/-- Rows of writes to different paths can be made in either order. -/
theorem writes_comm {earlier later : List (Path × String)}
    (differs : ∀ output ∈ earlier, ∀ other ∈ later, output.1.same other.1 = false) :
    (store.writes earlier).writes later = (store.writes later).writes earlier := by
  induction earlier generalizing store with
  | nil => rfl
  | cons output outputs ih =>
      rw [writes_cons, ih fun other member => differs other (List.mem_cons_of_mem _ member),
        writes_place_comm (differs output (by simp)), writes_cons]

end Order

end SourceTree.Store
