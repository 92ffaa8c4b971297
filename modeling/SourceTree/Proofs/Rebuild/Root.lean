import SourceTree.Proofs.Files.Fresh
import SourceTree.Proofs.Path.Nameless
import SourceTree.Proofs.Rebuild.LastWrite
import SourceTree.Proofs.SourceName.Layers

/-!
# Sources that name the root of the tree

A source is skipped when its cleaned name is the empty text. Whether a name leads below the root is
another question: `.` is not empty and joined onto the root is the root again. Such a source is not
skipped but written, to the path of the tree itself. A rebuild gets through with one only if the
tree is not there and no source before it leads into the tree; what it leaves then is a file.
-/

namespace SourceTree

namespace SourceName

variable {name bundle : String}

/-- Behind a root that is written out, a name that is kept leads to the root exactly if it is
nameless. -/
theorem same_join_clean_iff (kept : clean name bundle ≠ "") (root : Path) :
    (root.join ⟨clean name bundle⟩).same root = true ↔
      root.text ≠ "" ∧ Path.IsNameless (clean name bundle).toList :=
  Path.same_join_iff (isAbsolute_clean name bundle) kept

end SourceName

namespace Rebuild

variable {record : Record} {store : Store} {entry : String × String} {output : Path × String}

/-- Whether a source is written although its cleaned name has no names in it. -/
def IsRootEntry (record : Record) (entry : String × String) : Prop :=
  SourceName.clean entry.1 record.bundleName ≠ "" ∧
    Path.IsNameless (SourceName.clean entry.1 record.bundleName).toList

instance (record : Record) (entry : String × String) : Decidable (IsRootEntry record entry) :=
  inferInstanceAs (Decidable (_ ∧ _))

/-- Whether some source leads to the path of the tree itself. -/
def LeadsToRoot (record : Record) (store : Store) : Prop :=
  record.treePath.text ≠ "" ∧ ∃ entry ∈ entries store record, IsRootEntry record entry

theorem leadsToRoot_iff :
    LeadsToRoot record store ↔
      ∃ output ∈ outputs store record, output.1.same record.treePath = true := by
  constructor
  · rintro ⟨written, entry, member, kept, nameless⟩
    refine ⟨(target record entry, entry.2), mem_outputs_iff.2 ⟨entry, member, kept, rfl⟩, ?_⟩
    dsimp only [target]
    exact (SourceName.same_join_clean_iff kept record.treePath).2 ⟨written, nameless⟩
  · rintro ⟨output, outputMem, same⟩
    rcases mem_outputs_iff.1 outputMem with ⟨entry, member, kept, rfl⟩
    dsimp only [target] at same
    rcases (SourceName.same_join_clean_iff kept record.treePath).1 same with ⟨written, nameless⟩
    exact ⟨written, entry, member, kept, nameless⟩

/-- What is written to the tree itself was written before anything in it, and with no tree there. -/
theorem alone_of_admits (admitted : store.Admits (outputs store record))
    {before later : List (Path × String)} (cut : outputs store record = before ++ output :: later)
    (root : output.1.same record.treePath = true) :
    store.isDirectory record.treePath = false ∧
      ∀ earlier ∈ before, earlier.1.same record.treePath = true := by
  have free := admitted before output later cut
  have key : record.treePath.components = output.1.components := (Path.same_iff.1 root).symm
  rw [Bool.eq_false_iff, ne_eq, Store.isDirectory_writes, not_or, not_exists] at free
  rcases free with ⟨absent, none⟩
  constructor
  · rw [Store.isDirectory_congr key, Bool.eq_false_iff]
    exact absent
  · intro earlier member
    by_contra inside
    apply none earlier
    refine ⟨member, ?_⟩
    have listed : earlier ∈ outputs store record := by simp [cut, member]
    have within := isWithin_of_mem_outputs listed
    rw [Path.isWithin_iff, key] at within
    rw [Path.same_iff, key] at inside
    exact Path.isAbove_iff.2 ⟨within, inside⟩

section Run

variable {session after : Session Store} {result : Except StageError Report} {report : Report}
  (apart : ∀ output ∈ outputs session.files record, ∀ file ∈ mapFiles session.files record,
    output.1.same file.1 = false)
include apart

theorem writes_of_rebuild (ran : rebuild record session = (.ok report, after)) :
    session.files.Admits (outputs session.files record) ∧
      after.files = session.files.writes (outputs session.files record) := by
  cases directory : session.files.isDirectory record.mapsPath with
  | false => cases ((ends_rebuild_of_not_isDirectory directory).eq_of_run ran).1
  | true =>
      rcases writesOut_rebuild directory apart with ⟨admitted, ended⟩ | ⟨_, _, _, _, _, _, ended⟩
      · exact ⟨admitted, (ended.eq_of_run ran).2⟩
      · cases (ended.eq_of_run ran).1

/-- However a rebuild ends, it has written some of its outputs, and another one is refused. -/
theorem exists_written_of_rebuild (ran : rebuild record session = (result, after)) :
    ∃ written ⊆ outputs session.files record, after.files = session.files.writes written ∧
      ∀ path error, result = .error (.write path error) →
        ∃ output ∈ outputs session.files record, output.1 = path := by
  cases directory : session.files.isDirectory record.mapsPath with
  | false =>
      rcases (ends_rebuild_of_not_isDirectory directory).eq_of_run ran with ⟨rfl, files⟩
      exact ⟨[], List.nil_subset _, files, by simp⟩
  | true =>
      rcases writesOut_rebuild directory apart with
        ⟨_, ended⟩ | ⟨before, output, later, cut, _, _, ended⟩
      · rcases ended.eq_of_run ran with ⟨rfl, files⟩
        exact ⟨_, List.Subset.refl _, files, by simp⟩
      · rcases ended.eq_of_run ran with ⟨rfl, files⟩
        refine ⟨before, by simp [cut], files, ?_⟩
        intro path error refused
        cases refused
        exact ⟨output, by simp [cut], rfl⟩

/-- A cleaned name that is kept has a name in it or leads back to every root that is written out.
If some source does the latter, a rebuild answers only if the tree was not there and the outputs in
front of it go to the path of the tree as well, and that path is a file then. Otherwise a rebuild
never writes there, whether it gets through or not. -/
theorem rebuild_root (ran : rebuild record session = (result, after)) :
    (∀ name bundle, SourceName.clean name bundle ≠ "" →
      ((∃ own, .name own ∈ Path.components ⟨SourceName.clean name bundle⟩) ↔
        ¬Path.IsNameless (SourceName.clean name bundle).toList) ∧
      ∀ root : Path, (root.join ⟨SourceName.clean name bundle⟩).same root = true ↔
        root.text ≠ "" ∧ Path.IsNameless (SourceName.clean name bundle).toList) ∧
    (LeadsToRoot record session.files → ∀ report, result = .ok report →
      session.files.isDirectory record.treePath = false ∧
      after.files.isFile record.treePath = true ∧
      ∀ before output later, outputs session.files record = before ++ output :: later →
        output.1.same record.treePath = true →
          ∀ earlier ∈ before, earlier.1.same record.treePath = true) ∧
    (¬LeadsToRoot record session.files →
      after.files.content? record.treePath = session.files.content? record.treePath ∧
      ∀ path error, result = .error (.write path error) →
        path.same record.treePath = false) := by
  refine ⟨?_, ?_, ?_⟩
  · intro name bundle kept
    have contained := SourceName.isContained_clean name bundle
    exact ⟨Path.exists_name_mem_components_iff contained.noParent,
      SourceName.same_join_clean_iff kept⟩
  · intro leads report answered
    subst answered
    rcases writes_of_rebuild apart ran with ⟨admitted, files⟩
    rcases leadsToRoot_iff.1 leads with ⟨output, member, root⟩
    rcases List.append_of_mem member with ⟨before, later, cut⟩
    refine ⟨(alone_of_admits admitted cut root).1, ?_, ?_⟩
    · rw [files]
      exact Store.isFile_writes.2 (Or.inr ⟨output, member, root⟩)
    · intro before output later cut root
      exact (alone_of_admits admitted cut root).2
  · intro leadsElsewhere
    have elsewhere : ∀ output ∈ outputs session.files record,
        output.1.same record.treePath = false := by
      intro output member
      rw [Bool.eq_false_iff]
      intro root
      exact leadsElsewhere (leadsToRoot_iff.2 ⟨output, member, root⟩)
    rcases exists_written_of_rebuild apart ran with ⟨written, part, files, refused⟩
    constructor
    · rw [files]
      apply Store.content?_writes_of_forall_ne
      intro output member
      exact elsewhere output (part member)
    · intro path error answered
      rcases refused path error answered with ⟨output, member, rfl⟩
      exact elsewhere output member

end Run

/-- A document with two sources, the second of which leads to the tree itself. -/
def dottedStore : Store :=
  Store.empty.place ⟨"out/maps/a.map"⟩
    "\x7b\"sources\":[\"a.js\",\".\"],\"sourcesContent\":[\"A\",\"x\"]\x7d".toUTF8

/-- The first source makes a directory of the tree, and the second one is refused at the path of the
tree. -/
theorem rebuild_root_dottedStore :
    LeadsToRoot sharedRecord dottedStore ∧
      ∃ after, rebuild sharedRecord ⟨dottedStore, #[]⟩ =
          (.error (.write ⟨"out/src/."⟩ (.directoryInTheWay ⟨"out/src/."⟩)), after) ∧
        after.files.content? ⟨"out/src/a.js"⟩ = some "A".toUTF8 ∧
        after.files.isDirectory sharedRecord.treePath = true := by
  have given : entries dottedStore sharedRecord = [("a.js", "A"), (".", "x")] := by
    decide +kernel
  have cut : outputs dottedStore sharedRecord =
      [(⟨"out/src/a.js"⟩, "A")] ++ (⟨"out/src/."⟩, "x") :: [] := by
    rw [outputs, given]
    decide +kernel
  have apart : ∀ output ∈ outputs dottedStore sharedRecord,
      ∀ file ∈ mapFiles dottedStore sharedRecord, output.1.same file.1 = false := by
    rw [cut]
    decide +kernel
  have leads : LeadsToRoot sharedRecord dottedStore :=
    ⟨by decide, (".", "x"), by simp [given], by decide +kernel⟩
  have directory : dottedStore.isDirectory sharedRecord.mapsPath = true := by decide +kernel
  refine ⟨leads, ?_⟩
  rcases writesOut_rebuild directory apart with
    ⟨_, ended⟩ | ⟨before, output, later, parts, _, blocked, ended⟩
  · rcases ended #[] with ⟨told, ran⟩
    have alone := (@rebuild_root _ ⟨dottedStore, #[]⟩ _ _ apart ran).2.1 leads _ rfl
    have root := alone.2.2 _ _ _ cut (by decide) (⟨"out/src/a.js"⟩, "A") (by simp)
    exact absurd root (by decide)
  · rcases ended #[] with ⟨told, ran⟩
    rw [cut] at parts
    rcases before with _ | ⟨first, _ | ⟨second, before⟩⟩
    · cases parts
      exact absurd blocked (by decide +kernel)
    · cases parts
      refine ⟨_, ran, ?_, blocked⟩
      exact (Store.content?_writes _ _ _).trans (by decide +kernel)
    · simp at parts

end Rebuild

end SourceTree
