import SourceTree.Proofs.Files.History
import SourceTree.Proofs.Path.FileName
import SourceTree.Proofs.Path.Parent
import SourceTree.Proofs.Path.Sorted
import SourceTree.Proofs.Text.ByteOrder
import SourceTree.Record.Load

/-!
# Which records are found

If no record is named, all records directly in the sources directory are worked on. They are the
stored files whose path is that of the directory with one name behind it, and whose name is something
with a dot and one of the three endings behind it. A listing goes by components, so such files are
in the order of their names, and that is the order of the bytes of these names. Nothing of this
depends on how the directory is spelled or in which order the files came into the store.
-/

namespace SourceTree

namespace Change

/-- Whether a change is made in any case. A write can be refused. -/
def IsInsertion : Change → Prop
  | .place _ _ => True
  | .createDirectory _ => True
  | .write _ _ => False

/-- The file that an insertion stores. -/
def stored? : Change → Option (Path × ByteArray)
  | .place path content => some (path, content)
  | _ => none

/-- The directory that a change creates. -/
def created? : Change → Option Path
  | .createDirectory path => some path
  | _ => none

end Change

namespace Ledger

variable {changes other : List Change}

/-- After insertions only, everything is in the ledger as it came. -/
theorem ofChanges_of_insertions (inserts : ∀ change ∈ changes, change.IsInsertion) :
    ofChanges changes =
      { stored := changes.filterMap Change.stored?
        created := changes.filterMap Change.created? } := by
  induction changes using List.reverseRecOn with
  | nil => rfl
  | append_singleton changes change ih =>
      rw [ofChanges_concat, ih fun change member => inserts change (List.mem_append_left _ member),
        List.filterMap_append, List.filterMap_append]
      cases change with
      | place path content => simp [note, store, Change.stored?, Change.created?]
      | createDirectory path => simp [note, Change.stored?, Change.created?]
      | write path text => exact (inserts (.write path text) (by simp)).elim

/-- Insertions in another order leave the same in the ledger. -/
theorem mem_iff_of_perm (perm : other.Perm changes)
    (inserts : ∀ change ∈ changes, change.IsInsertion) :
    (∀ entry, entry ∈ (ofChanges other).stored ↔ entry ∈ (ofChanges changes).stored) ∧
      ∀ path, path ∈ (ofChanges other).created ↔ path ∈ (ofChanges changes).created := by
  have insertsOther : ∀ change ∈ other, change.IsInsertion := fun change member =>
    inserts change (perm.mem_iff.1 member)
  rw [ofChanges_of_insertions inserts, ofChanges_of_insertions insertsOther]
  exact ⟨fun entry => (perm.filterMap Change.stored?).mem_iff,
    fun path => (perm.filterMap Change.created?).mem_iff⟩

end Ledger

namespace Record

variable {directory path earlier later : Path}

/-- Something, a dot, and one of the extensions of records. -/
def IsRecordName (name : String) : Prop :=
  ∃ stem ending, stem ≠ "" ∧ ending ∈ fileExtensions ∧ name = stem ++ "." ++ ending

theorem isRecordIn_iff :
    isRecordIn directory path = true ↔
      (∃ parent, path.parent? = some parent ∧ parent.components = directory.components) ∧
        ∃ ending ∈ fileExtensions, path.extension? = some ending := by
  simp [isRecordIn, Option.any_eq_true, Path.same_iff, and_comm]

/-- A record that is found has the path of the directory, with the name of a record behind it. -/
theorem isRecordIn_iff_components :
    isRecordIn directory path = true ↔
      ∃ name, IsRecordName name ∧ path.components = directory.components ++ [.name name] := by
  rw [isRecordIn_iff]
  constructor
  · rintro ⟨⟨parent, found, inside⟩, ending, listed, extended⟩
    rcases Path.extension?_eq_some_iff.1 extended with ⟨-, stem, nonempty, named⟩
    rcases List.getLast?_eq_some_iff.1 (Path.fileName?_eq_some_iff.1 named) with ⟨front, shape⟩
    refine ⟨_, ⟨stem, ending, nonempty, listed, rfl⟩, ?_⟩
    rw [← inside, Path.components_of_parent? found, shape, List.dropLast_concat]
  · rintro ⟨_, ⟨stem, ending, nonempty, listed, rfl⟩, shape⟩
    have dotless : ∀ ending ∈ fileExtensions, '.' ∉ ending.toList := by decide
    have named := Path.fileName?_of_concat shape
    exact ⟨Path.exists_parent? shape, ending, listed,
      Path.extension?_eq_some_iff.2 ⟨dotless ending listed, stem, nonempty, named⟩⟩

/-- The bytes of the name of a file. -/
def fileNameBytes (path : Path) : List UInt8 :=
  Text.bytesOf (path.fileName?.getD "").toList

theorem fileNameBytes_lt (isEarlier : isRecordIn directory earlier = true)
    (isLater : isRecordIn directory later = true) (ordered : earlier.order later = .lt) :
    fileNameBytes earlier < fileNameBytes later := by
  rcases isRecordIn_iff_components.1 isEarlier with ⟨first, -, firstShape⟩
  rcases isRecordIn_iff_components.1 isLater with ⟨second, -, secondShape⟩
  rw [Path.order_of_names firstShape secondShape] at ordered
  have less : first < second := compareOfLessAndEq_eq_lt.1 ordered
  rw [fileNameBytes, fileNameBytes, Path.fileName?_of_concat firstShape,
    Path.fileName?_of_concat secondShape]
  exact Text.bytesOf_lt less

theorem discover_of_isDirectory {store : Store} (present : store.isDirectory directory = true) :
    discover store directory [] = .ok (store.keys.filter (isRecordIn directory)) := by
  have within : ∀ path ∈ store.keys,
      (isRecordIn directory path && path.isWithin directory) = isRecordIn directory path := by
    intro path _
    cases found : isRecordIn directory path with
    | false => rfl
    | true =>
        rcases isRecordIn_iff_components.1 found with ⟨name, -, shape⟩
        rw [Bool.true_and, Path.isWithin_iff, shape]
        exact List.prefix_append _ _
  rw [discover, Store.list_of_isDirectory present]
  change Except.ok (List.filter _ (List.filter _ store.keys)) = _
  rw [List.filter_filter, List.filter_congr within]

/-- The records found have the same components as the stored files with the name of a record in the
directory. -/
theorem mem_map_components_iff {store : Store} {ledger : Ledger} (keeps : store.Keeps ledger)
    {steps : List Component} :
    steps ∈ (store.keys.filter (isRecordIn directory)).map Path.components ↔
      ledger.IsFile steps ∧
        ∃ name, IsRecordName name ∧ steps = directory.components ++ [.name name] := by
  have stored := keeps.exists_mem_files_iff fun found => found = steps
  simp only [List.mem_map, List.mem_filter, Store.keys, isRecordIn_iff_components]
  constructor
  · rintro ⟨_, ⟨⟨entry, member, rfl⟩, named⟩, rfl⟩
    exact ⟨stored.1 ⟨entry, member, rfl⟩, named⟩
  · rintro ⟨isFile, name, isName, shape⟩
    rcases stored.2 isFile with ⟨entry, member, same⟩
    exact ⟨entry.1, ⟨⟨entry, member, rfl⟩, name, isName, same.trans shape⟩, same⟩

/-- In a directory that is there, in whatever spelling, the records found are the stored files with
this directory as their parent and with one of the three extensions, no others and each once, in the
order of the bytes of their names. So none is further below, and none has a name with nothing before
the dot. If everything is put into the store in another order, the same files are found in the same
order. -/
theorem discover_after {changes : List Change} {directory : Path}
    (present : (Store.after changes).isDirectory directory = true) :
    ∃ paths, discover (Store.after changes) directory [] = .ok paths ∧
      (∀ path, path ∈ paths ↔
        (Ledger.ofChanges changes).spelling? path.components = some path ∧
          (∃ parent, path.parent? = some parent ∧ parent.components = directory.components) ∧
          ∃ ending ∈ ["json", "yaml", "yml"], path.extension? = some ending) ∧
      (∀ steps, steps ∈ paths.map Path.components ↔
        (Ledger.ofChanges changes).IsFile steps ∧
          ∃ name, IsRecordName name ∧ steps = directory.components ++ [.name name]) ∧
      paths.Pairwise (fun earlier later => fileNameBytes earlier < fileNameBytes later) ∧
      ∀ other, other.Perm changes → (∀ change ∈ changes, change.IsInsertion) →
        ∃ others, discover (Store.after other) directory [] = .ok others ∧
          others.map Path.components = paths.map Path.components := by
  have keeps := Store.keeps_after changes
  have sorted (changes : List Change) :
      ((Store.after changes).keys.filter (isRecordIn directory)).Pairwise
        fun earlier later => earlier.order later = .lt :=
    (List.pairwise_map.2 (Store.after changes).ordered).filter _
  refine ⟨_, discover_of_isDirectory present, ?_, ?_, ?_, ?_⟩
  · intro path
    rw [List.mem_filter, keeps.keys, isRecordIn_iff]
    rfl
  · intro steps
    exact mem_map_components_iff keeps
  · apply (sorted changes).imp_of_mem
    intro earlier later isEarlier isLater
    exact fileNameBytes_lt (List.mem_filter.1 isEarlier).2 (List.mem_filter.1 isLater).2
  · intro other perm inserts
    rcases Ledger.mem_iff_of_perm perm inserts with ⟨stored, created⟩
    have keepsOther := Store.keeps_after other
    have presentToo : (Store.after other).isDirectory directory = true := by
      rw [keeps.isDirectory_iff] at present
      rw [keepsOther.isDirectory_iff]
      simpa only [Ledger.IsDirectory, stored, created] using present
    refine ⟨_, discover_of_isDirectory presentToo, ?_⟩
    apply eq_of_sorted
    · exact List.pairwise_map.2 (sorted other)
    · exact List.pairwise_map.2 (sorted changes)
    · intro steps
      rw [mem_map_components_iff keeps, mem_map_components_iff keepsOther]
      simp only [Ledger.IsFile, stored]

/-- Two records, and next to them a hidden file, a file further below and one that is no record. -/
def mixedChanges : List Change :=
  [.place ⟨"sources//b.json"⟩ ByteArray.empty, .place ⟨"sources/.json"⟩ ByteArray.empty,
    .place ⟨"sources/old/c.json"⟩ ByteArray.empty, .createDirectory ⟨"sources/d.json"⟩,
    .place ⟨"sources/a.yaml"⟩ ByteArray.empty, .place ⟨"sources/a.json.txt"⟩ ByteArray.empty]

theorem discover_after_mixedChanges :
    discover (Store.after mixedChanges) ⟨"sources/."⟩ [] =
        .ok [⟨"sources/a.yaml"⟩, ⟨"sources//b.json"⟩] ∧
      fileNameBytes ⟨"sources/a.yaml"⟩ < fileNameBytes ⟨"sources//b.json"⟩ ∧
      ∃ others, discover (Store.after mixedChanges.reverse) ⟨"sources/."⟩ [] = .ok others ∧
        others.map Path.components =
          [[.name "sources", .name "a.yaml"], [.name "sources", .name "b.json"]] := by
  have present : (Store.after mixedChanges).isDirectory ⟨"sources/."⟩ = true := by decide +kernel
  have found : discover (Store.after mixedChanges) ⟨"sources/."⟩ [] =
      .ok [⟨"sources/a.yaml"⟩, ⟨"sources//b.json"⟩] := by
    decide +kernel
  have inserts : ∀ change ∈ mixedChanges, change.IsInsertion := by
    simp [mixedChanges, Change.IsInsertion]
  rcases discover_after present with ⟨paths, same, -, -, ordered, anyOrder⟩
  cases found.symm.trans same
  rcases anyOrder mixedChanges.reverse (List.reverse_perm _) inserts with ⟨others, foundToo, equal⟩
  refine ⟨found, ?_, others, foundToo, ?_⟩
  · exact List.rel_of_pairwise_cons ordered (by simp)
  · rw [equal]
    decide +kernel

end Record

end SourceTree
