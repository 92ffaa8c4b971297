import SourceTree.Proofs.Path.Within
import SourceTree.Proofs.Stage.Writes

/-!
# Writing over files

A write to a path that has a file changes the content of that file and nothing else: the stored
paths stay, in their order and spelling, and so do the directories. So a row of writes over files
finds its way clear if it was clear at the start, and if the last write to each file leaves what the
file had, the store is as it was.
-/

namespace SourceTree

theorem exists_lastOutput? {outputs : List (Path × String)} {output : Path × String}
    (member : output ∈ outputs) : ∃ content, lastOutput? outputs output.1 = some content := by
  have itself : output ∈ outputs.filter (·.1.same output.1) :=
    List.mem_filter.2 ⟨member, Path.same_iff.2 rfl⟩
  rw [lastOutput?, List.getLast?_eq_some_getLast (List.ne_nil_of_mem itself)]
  exact ⟨_, rfl⟩

namespace Store

variable {store other : Store} {path query : Path} {content : ByteArray}
  {outputs : List (Path × String)}

/-- The stored paths, in their order. -/
def keys (store : Store) : List Path :=
  store.files.map Prod.fst

section Keys

variable (same : other.keys = store.keys)

include same

theorem isFile_of_keys : other.isFile query = store.isFile query := by
  have asked : ∀ store : Store,
      store.isFile query = store.keys.any (·.components == query.components) := by
    intro store
    rw [keys, List.any_map]
    rfl
  rw [asked, asked, same]

theorem isDirectory_of_keys (directories : other.directories = store.directories) :
    other.isDirectory query = store.isDirectory query := by
  have asked : ∀ store : Store, store.isDirectory query =
      (store.directories.any (query.components.isPrefixOf ·.components) ||
        store.keys.any fun key =>
          query.components.isPrefixOf key.components && key.components != query.components) := by
    intro store
    rw [keys, List.any_map]
    rfl
  rw [asked, asked, same, directories]

/-- A store is settled by its paths, their contents and its directories. -/
theorem eq_of_keys (contents : ∀ query, other.content? query = store.content? query)
    (directories : other.directories = store.directories) : other = store := by
  have listed : ∀ store : Store, store.files =
      store.keys.map fun key => (key, (store.content? key).getD ByteArray.empty) := by
    intro store
    rw [keys, List.map_map]
    refine (List.map_id' _).symm.trans (List.map_congr_left ?_)
    intro entry member
    simp [content?_of_mem member]
  refine eq_of_files ?_ directories
  rw [listed other, listed store, same]
  simp [contents]

end Keys

theorem keys_insertFile {files : List (Path × ByteArray)}
    (ordered : files.Pairwise fun earlier later => earlier.1.order later.1 = .lt)
    (known : ∃ entry ∈ files, entry.1.components = path.components) :
    (insertFile path.components path content files).map Prod.fst = files.map Prod.fst := by
  induction files with
  | nil => simp at known
  | cons first rest ih =>
      rcases List.pairwise_cons.1 ordered with ⟨firstBefore, restOrdered⟩
      rcases known with ⟨entry, member, key⟩
      rw [insertFile]
      split
      next before =>
        -- The path would stand before all files.
        have less : path.order entry.1 = .lt := by
          rcases List.mem_cons.1 member with rfl | later
          · exact before
          · exact Std.TransCmp.lt_trans before (firstBefore entry later)
        rw [Path.order, key, Std.ReflOrd.compare_self] at less
        cases less
      next => rfl
      next behind =>
        rcases List.mem_cons.1 member with rfl | later
        · rw [key, Std.ReflOrd.compare_self] at behind
          cases behind
        · rw [List.map_cons, ih restOrdered ⟨entry, later, key⟩, List.map_cons]

theorem keys_place (known : store.isFile path = true) :
    (store.place path content).keys = store.keys :=
  keys_insertFile store.ordered (isFile_iff_exists_mem.1 known)

theorem keys_writes (known : ∀ output ∈ outputs, store.isFile output.1 = true) :
    (store.writes outputs).keys = store.keys := by
  induction outputs generalizing store with
  | nil => rfl
  | cons output outputs ih =>
      have first : (store.place output.1 output.2.toUTF8).keys = store.keys :=
        keys_place (known output (by simp))
      rw [writes_cons, ih, first]
      intro later member
      rw [isFile_of_keys first]
      exact known later (List.mem_cons_of_mem _ member)

/-- Files can be written over as long as no directory is at their paths. -/
theorem admits_of_isFile (known : ∀ output ∈ outputs, store.isFile output.1 = true)
    (free : ∀ output ∈ outputs, store.isDirectory output.1 = false) : store.Admits outputs := by
  intro before output later cut
  have beforeKnown : ∀ output ∈ before, store.isFile output.1 = true := by
    intro output member
    apply known
    simp [cut, member]
  rw [isDirectory_of_keys (keys_writes beforeKnown) (directories_writes store before)]
  apply free
  simp [cut]

/-- Writes whose last ones leave what is there change nothing. -/
theorem writes_eq_self (known : ∀ output ∈ outputs, store.isFile output.1 = true)
    (kept : ∀ query content, lastOutput? outputs query = some content →
      store.content? query = some content) : store.writes outputs = store := by
  apply eq_of_keys (keys_writes known) _ (directories_writes store outputs)
  intro query
  rw [content?_writes]
  cases last : lastOutput? outputs query with
  | none => rfl
  | some content => exact (kept query content last).symm

/-- Outputs to paths that are not taken leave the outputs before them alone. -/
theorem content?_writes_append {added : List (Path × String)}
    (fresh : ∀ output ∈ added, (store.writes outputs).isTaken output.1 = false)
    (last : lastOutput? outputs query = some content) :
    (store.writes (outputs ++ added)).content? query = some content := by
  have found : (store.writes outputs).content? query = some content := by
    rw [content?_writes, last]
    rfl
  rw [writes_append, content?_writes_of_forall_ne, found]
  intro output member
  rw [Bool.eq_false_iff]
  intro same
  have taken : (store.writes outputs).isTaken output.1 = true := by
    rw [isTaken_congr (Path.same_iff.1 same), isTaken,
      isFile_iff_exists_content.2 ⟨content, found⟩, Bool.true_or]
  simp [fresh output member] at taken

/-- No stored file is a proper ancestor of another. -/
def IsFlat (store : Store) : Prop :=
  ∀ file ∈ store.files, ∀ other ∈ store.files, file.1.isAbove other.1 = false

instance (store : Store) : Decidable store.IsFlat :=
  inferInstanceAs (Decidable (∀ file ∈ store.files, ∀ other ∈ store.files, _))

/-- Where no file is above another, only a created directory can be at the path of a file. -/
theorem IsFlat.isDirectory_eq_false (flat : store.IsFlat) (known : store.isFile query = true)
    (created : ∀ directory ∈ store.directories, ¬query.components <+: directory.components) :
    store.isDirectory query = false := by
  rw [Bool.eq_false_iff, ne_eq, isDirectory_iff]
  rintro (⟨directory, member, above⟩ | ⟨entry, member, above, differs⟩)
  · exact created directory member above
  · rcases isFile_iff_exists_mem.1 known with ⟨file, fileMem, key⟩
    have higher : file.1.isAbove entry.1 = true := by
      rw [Path.isAbove_iff, key]
      exact ⟨above, differs⟩
    simp [flat file fileMem entry member] at higher

/-- An admitted output is at or above no created directory. -/
theorem Admits.not_created (admitted : store.Admits outputs) {output : Path × String}
    (member : output ∈ outputs) :
    ∀ directory ∈ store.directories, ¬output.1.components <+: directory.components := by
  intro directory directoryMem above
  rcases List.append_of_mem member with ⟨before, later, cut⟩
  have blocked : (store.writes before).isDirectory output.1 = true := by
    rw [isDirectory_iff, directories_writes]
    exact Or.inl ⟨directory, directoryMem, above⟩
  rw [admitted before output later cut] at blocked
  cases blocked

end Store

end SourceTree
