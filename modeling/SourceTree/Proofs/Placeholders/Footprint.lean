import Mathlib.Data.List.Basic
import SourceTree.Proofs.Path.Suffix
import SourceTree.Proofs.Placeholders.Asked
import SourceTree.Proofs.Record.Valid
import SourceTree.Proofs.Stage.Local

/-!
# The footprint of the pass over a tree

References may lead out of the tree, and then the scan looks at paths outside. What it sees there
is counted and told, but never decides about a placeholder. For a place within the tree the scan
looks within the tree only, because all paths that it tries differ in their last component; the
one exception is a place that is the root of the tree, and the root is always taken. So what the
pass writes is settled by the part of the store in the tree.
-/

namespace SourceTree

namespace Record

variable {record : Record}

/-- The root of the tree is plain, and no extension has a slash. -/
structure HasPlainTree (record : Record) : Prop where
  tree : record.treePath.IsPlain
  slashless : ∀ extension ∈ record.extensions, '/' ∉ extension.toList

theorem two_le_length_of_mem_extensions (valid : record.defect? = none) {extension : String}
    (member : extension ∈ record.extensions) : 2 ≤ extension.toList.length :=
  ((defect?_eq_none_iff.1 valid).2 extension member).two_le_length

theorem ne_empty_of_mem_extensions (valid : record.defect? = none) (extension : String)
    (member : extension ∈ record.extensions) : extension ≠ "" := by
  rintro rfl
  have long := two_le_length_of_mem_extensions valid member
  simp at long

end Record

namespace Placeholders

open Stage (Ends IsLocal)

variable {record : Record} {store other : Store} {roots : List Path} {source place : Path}
  {specifier : String}

/-- If a reference asks for a place in the tree other than its root, everything that is tried for it
is in the tree. -/
theorem isWithin_of_place (plain : record.HasPlainTree) (valid : record.defect? = none)
    {extension : String} (member : extension ∈ record.extensions)
    (within : ((Reference.target source specifier).withSuffix extension).isWithin
      record.treePath.normalize = true)
    (notRoot : ((Reference.target source specifier).withSuffix extension).same
      record.treePath = false) :
    (∀ path ∈ Reference.modules record.extensions (Reference.target source specifier),
        path.isWithin record.treePath = true) ∧
      (Reference.target source specifier).isWithin record.treePath = true ∧
      ∀ path ∈ Reference.indices record.extensions (Reference.target source specifier),
        path.isWithin record.treePath = true := by
  have normal := Path.isNormal_normalComponents
    ((source.parent?.getD ⟨""⟩).join ⟨specifier⟩)
  rcases Path.exists_varies_withSuffix normal with ⟨front, word, cut, varies⟩
  have suffixed : ∀ extension ∈ record.extensions, ∃ step,
      ((Reference.target source specifier).withSuffix extension).components =
        front ++ [step] := by
    intro extension member
    rcases varies extension (plain.slashless extension member)
      (Record.two_le_length_of_mem_extensions valid member) with ⟨step, _, shape⟩
    exact ⟨step, shape⟩
  have inFront : record.treePath.components <+: front := by
    rcases suffixed extension member with ⟨step, shape⟩
    rw [Path.isWithin_iff, plain.tree.components_normalize, shape, List.prefix_concat_iff] at within
    rcases within with isRoot | below
    · simp [Path.same, shape, isRoot] at notRoot
    · exact below
  have target : (Reference.target source specifier).isWithin record.treePath = true := by
    rw [Path.isWithin_iff, Reference.target, Path.normalize, Path.components_ofComponents normal]
    exact inFront.trans ⟨_, cut.symm⟩
  refine ⟨?_, target, ?_⟩
  · intro path pathMem
    rcases List.mem_map.1 pathMem with ⟨other, otherMem, rfl⟩
    rcases suffixed other otherMem with ⟨step, shape⟩
    rw [Path.isWithin_iff, shape]
    exact inFront.trans (List.prefix_append _ _)
  · intro path pathMem
    rcases List.mem_map.1 pathMem with ⟨other, _, rfl⟩
    have relative : Path.isAbsolute ⟨"index" ++ other⟩ = false := by
      simp [Path.isAbsolute]
    exact Path.isWithin_trans (Path.isWithin_join relative) target

section Agreement

variable (plain : record.HasPlainTree) (valid : record.defect? = none)
  (agree : other.restrict roots = store.restrict roots) (read : record.treePath ∈ roots)

include plain valid agree read

/-- A place in an existing tree is asked for on every store with the same part in the tree. -/
theorem resolve_eq_missing_of_agree (taken : store.isTaken record.treePath = true)
    (missing : Reference.resolve store record.extensions source specifier = .missing place)
    (within : place.isWithin record.treePath.normalize = true) :
    Reference.resolve other record.extensions source specifier = .missing place := by
  have free : store.isTaken place = false :=
    Reference.isTaken_eq_false_of_resolve_eq_missing missing
  have notRoot : place.same record.treePath = false := by
    rw [Bool.eq_false_iff]
    intro same
    rw [Store.isTaken_congr (Path.same_iff.1 same), taken] at free
    cases free
  rcases Reference.exists_extension_of_resolve_eq_missing missing with ⟨extension, first, rfl⟩
  rcases isWithin_of_place plain valid (List.mem_of_head? first) within notRoot with
    ⟨modulesWithin, targetWithin, indicesWithin⟩
  have sameTaken : ∀ path : Path, path.isWithin record.treePath = true →
      store.isTaken path = false → other.isTaken path = false := by
    intro path inTree pathFree
    rw [Store.isTaken_of_agree agree (Path.isIn_of_mem read inTree), pathFree]
  rw [Reference.resolve, Reference.resolveTarget_eq_missing_iff] at missing ⊢
  rcases missing with ⟨modulesFree, notFile, indicesFree, head⟩
  refine ⟨?_, ?_, ?_, head⟩
  · intro path member
    exact sameTaken path (modulesWithin path member) (modulesFree path member)
  · exact (Store.isFile_of_agree agree (Path.isIn_of_mem read targetWithin)).trans notFile
  · intro path member
    exact sameTaken path (indicesWithin path member) (indicesFree path member)

theorem place?_resolve_of_agree (taken : store.isTaken record.treePath = true) :
    place? record (Reference.resolve other record.extensions source specifier) =
      place? record (Reference.resolve store record.extensions source specifier) := by
  have rootIn : record.treePath.isIn roots = true := Path.isIn_self read
  have otherTaken : other.isTaken record.treePath = true := by
    rw [Store.isTaken_of_agree agree rootIn, taken]
  ext place
  rw [place?_eq_some_iff, place?_eq_some_iff]
  constructor
  · rintro ⟨missing, within⟩
    exact ⟨resolve_eq_missing_of_agree plain valid agree.symm read otherTaken missing within,
      within⟩
  · rintro ⟨missing, within⟩
    exact ⟨resolve_eq_missing_of_agree plain valid agree read taken missing within, within⟩

/-- What is asked for in an existing tree is settled by the part of the store in the tree. -/
theorem asked_of_agree (taken : store.isTaken record.treePath = true) :
    asked other record = asked store record := by
  have rootIn : record.treePath.isIn roots = true := Path.isIn_self read
  have listed : sources other record = sources store record := by
    rw [sources, sources, Store.paths_of_agree agree rootIn]
  simp only [asked, resolutions, List.filterMap_flatMap, listed]
  apply List.flatMap_congr
  intro source member
  have within : source.isWithin record.treePath = true :=
    (List.mem_filter.1 (List.mem_filter.1 member).1).2
  have text : other.scannedText source = store.scannedText source := by
    rw [Store.scannedText, Store.scannedText,
      Store.content?_of_agree agree (Path.isIn_of_mem read within)]
  simp only [resolutionsIn, List.filterMap_map, text]
  congr 1
  funext specifier
  exact place?_resolve_of_agree plain valid agree read taken

end Agreement

/-- The pass reads and writes in the tree, as far as its effect goes. -/
theorem isLocal_fill {reads writes : List Path} (plain : record.HasPlainTree)
    (valid : record.defect? = none) (read : record.treePath ∈ reads)
    (written : record.treePath ∈ writes) : IsLocal reads writes (discard (fill record)) := by
  have rootIn : record.treePath.isIn reads = true := Path.isIn_self read
  intro store
  cases taken : store.isTaken record.treePath with
  | false =>
      refine ⟨.ok (), [], by simp, fun other agree => ?_⟩
      have free := (Store.isTaken_of_agree agree rootIn).trans taken
      exact (ends_fill_of_not_isTaken free).discard
  | true =>
      cases directory : store.isDirectory record.treePath with
      | false =>
          refine ⟨.error (.list record.treePath (.noDirectory record.treePath)), [], by simp,
            fun other agree => ?_⟩
          have otherTaken := (Store.isTaken_of_agree agree rootIn).trans taken
          have otherFile := (Store.isDirectory_of_agree agree rootIn).trans directory
          exact (ends_fill_of_not_isDirectory otherTaken otherFile).discard
      | true =>
          refine ⟨.ok (), stubbed (Placeholders.written store record), ?_, fun other agree => ?_⟩
          · intro output member
            exact Path.isIn_of_mem written (isWithin_of_mem_stubbed member plain.tree)
          · have otherDirectory := (Store.isDirectory_of_agree agree rootIn).trans directory
            have ended := (ends_fill_of_isDirectory otherDirectory).discard
            rw [filled_eq, Placeholders.written,
              asked_of_agree plain valid agree read taken] at ended
            exact ended

end Placeholders

end SourceTree
