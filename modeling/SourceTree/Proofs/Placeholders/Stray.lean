import SourceTree.Proofs.Placeholders.Containment
import SourceTree.Proofs.Text.Lossy

/-!
# Placeholders outside the tree

If the normal form of the tree root is empty or a run of `..`s, then the check against it lets
every path through that climbs further. One source file in the tree with one reference out of it is
enough: its placeholder is written outside.
-/

namespace SourceTree.Placeholders

open SourceTree.Path (IsNormal normalComponents)

variable {record : Record}

/-- A source file in the tree. -/
def strayPath (record : Record) : Path :=
  record.treePath.join ⟨"a.js"⟩

/-- A store with one source file, which refers to something outside of its directory. -/
def strayStore (record : Record) : Store :=
  Store.empty.place (strayPath record) "import '../x'".toUTF8

theorem components_strayPath (record : Record) :
    (strayPath record).components = record.treePath.components ++ [.name "a.js"] := by
  by_cases empty : record.treePath.text = ""
  · have root : record.treePath = ⟨""⟩ := congrArg Path.mk empty
    rw [strayPath, root]
    decide
  · rw [strayPath, Path.components_join (by decide) empty]
    rfl

theorem isSourceFile_strayPath (record : Record) :
    Reference.isSourceFile (strayPath record) = true := by
  have named : (strayPath record).fileName? = some "a.js" := by
    rw [Path.fileName?, components_strayPath, List.getLast?_concat]
  rw [Reference.isSourceFile, Path.extension?, named]
  decide

theorem isDirectory_strayStore (record : Record) :
    (strayStore record).isDirectory record.treePath = true := by
  rw [Store.isDirectory_iff]
  right
  refine ⟨(strayPath record, "import '../x'".toUTF8), List.mem_singleton.2 rfl, ?_, ?_⟩
  · rw [components_strayPath]
    exact List.prefix_append _ _
  · rw [components_strayPath]
    simp

theorem scannedText_strayPath (record : Record) :
    (strayStore record).scannedText (strayPath record) = "import '../x'" := by
  rw [Store.scannedText, strayStore, Store.content?_place, if_pos rfl, Option.getD_some,
    Text.Utf8.decodeLossy_toUTF8]

theorem resolutions_strayStore (record : Record) :
    resolutions (strayStore record) record =
      [Reference.resolve (strayStore record) record.extensions (strayPath record) "../x"] := by
  have within : (strayPath record).isWithin record.treePath = true := by
    simp [Path.isWithin, components_strayPath]
  have only : sources (strayStore record) record = [strayPath record] := by
    change ([strayPath record].filter _).filter _ = _
    simp [within, isSourceFile_strayPath]
  have named : Reference.extract "import '../x'" = ["../x"] := by
    decide +kernel
  rw [resolutions, only, List.flatMap_singleton, resolutionsIn, scannedText_strayPath, named]
  rfl

/-- What the reference names, seen from `height` directories up. -/
def strayTarget (height : Nat) : Path :=
  Path.ofComponents (List.replicate (height + 1) .parent ++ [.name "x"])

section Target

variable (height : Nat)

theorem isStep_stray : (Component.name "x").IsStep :=
  ⟨['x'], by decide, by decide⟩

theorem isNormal_stray : IsNormal (List.replicate (height + 1) .parent ++ [.name "x"]) := by
  apply (Path.isNormal_replicate_parent (height + 1)).append_names
  · simpa using isStep_stray
  · simp

theorem components_strayTarget :
    (strayTarget height).components = List.replicate (height + 1) .parent ++ [.name "x"] :=
  Path.components_ofComponents (isNormal_stray height)

theorem climbs_strayTarget :
    List.replicate (height + 1) .parent <+: (strayTarget height).components := by
  rw [components_strayTarget]
  exact List.prefix_append _ _

theorem climbs_strayTarget_withSuffix (suffix : String) :
    List.replicate (height + 1) .parent <+:
      ((strayTarget height).withSuffix suffix).components := by
  rw [strayTarget, Path.components_withSuffix (isNormal_stray height) isStep_stray]
  exact List.prefix_append _ _

theorem climbs_strayTarget_join {tail : Path} (relative : tail.isAbsolute = false) :
    List.replicate (height + 1) .parent <+: ((strayTarget height).join tail).components := by
  have nonempty : (strayTarget height).text ≠ "" := by
    apply Path.text_ne_of_components_ne_nil
    rw [components_strayTarget]
    simp
  rw [Path.components_join relative nonempty]
  exact (climbs_strayTarget height).trans (List.prefix_append _ _)

end Target

section Loose

variable {height : Nat}
  (loose : record.treePath.normalize.components = List.replicate height .parent)
include loose

theorem target_strayPath :
    Reference.target (strayPath record) "../x" = strayTarget height := by
  rcases Path.exists_parent? (components_strayPath record) with ⟨parent, found, components⟩
  have reached : normalComponents parent.components = List.replicate height .parent := by
    rw [components, ← Path.components_normalize, loose]
  have climbed : Path.normalStep (List.replicate height .parent) .parent =
      List.replicate (height + 1) .parent := by
    cases height <;> rfl
  have steps : Path.stepsOf "../x".toList = [.parent, .name "x"] := by
    decide
  rw [Reference.target, found, Option.getD_some, Path.normalize,
    Path.normalComponents_join (by decide), reached, List.reverse_replicate, steps,
    List.foldl_cons, climbed, List.foldl_cons, Path.normalStep_name, List.foldl_nil,
    List.reverse_cons, List.reverse_replicate]
  rfl

/-- What climbs out of the tree is not taken. -/
theorem isTaken_strayStore {path : Path}
    (climbs : List.replicate (height + 1) .parent <+: path.components) :
    (strayStore record).isTaken path = false := by
  rw [← Bool.not_eq_true, Store.isTaken_iff]
  rintro (⟨directory, member, _⟩ | ⟨entry, member, within⟩)
  · cases member
  · obtain rfl := List.mem_singleton.1 member
    rw [components_strayPath] at within
    rcases List.prefix_concat_iff.1 (climbs.trans within) with whole | inner
    · have member : .name "a.js" ∈ List.replicate (height + 1) Component.parent := by simp [whole]
      cases (List.mem_replicate.1 member).2
    · have shorter := (Path.prefix_normalComponents inner).length_le
      rw [← Path.components_normalize, loose] at shorter
      simp only [List.length_replicate] at shorter
      omega

/-- The reference out of the tree is missing. -/
theorem resolve_strayStore {extension : String}
    (first : record.extensions.head? = some extension) :
    Reference.resolve (strayStore record) record.extensions (strayPath record) "../x" =
      .missing ((strayTarget height).withSuffix extension) := by
  rw [Reference.resolve, target_strayPath loose, Reference.resolveTarget_eq_missing_iff]
  refine ⟨?_, ?_, ?_, ?_⟩
  · intro path member
    rcases List.mem_map.1 member with ⟨suffix, _, rfl⟩
    exact isTaken_strayStore loose (climbs_strayTarget_withSuffix height suffix)
  · have free := isTaken_strayStore loose (climbs_strayTarget height)
    exact (Bool.or_eq_false_iff.1 free).1
  · intro path member
    rcases List.mem_map.1 member with ⟨suffix, _, rfl⟩
    apply isTaken_strayStore loose
    exact climbs_strayTarget_join height (by simp [Path.isAbsolute, String.toList_append])
  · rw [Reference.modules, List.head?_map, first]
    rfl

/-- The check against the root lets the place through, and so it gets its placeholder. -/
theorem filled_strayStore {extension : String}
    (first : record.extensions.head? = some extension) :
    (filled (strayStore record) record).1 = [(strayTarget height).withSuffix extension] := by
  have climbs := climbs_strayTarget_withSuffix height extension
  have within : ((strayTarget height).withSuffix extension).isWithin record.treePath.normalize =
      true := by
    rw [Path.isWithin, List.isPrefixOf_iff_prefix, loose]
    refine List.IsPrefix.trans ?_ climbs
    rw [List.replicate_succ']
    exact List.prefix_append _ _
  have candidates : (surveyed (strayStore record) record).candidates =
      [(strayTarget height).withSuffix extension] := by
    rw [surveyed, resolutions_strayStore, resolve_strayStore loose first, List.foldl_cons,
      List.foldl_nil, Survey.note]
    simp [within, Survey.insert, Survey.withScanned]
  rw [filled, candidates, List.foldl_cons, List.foldl_nil, put,
    if_neg (by simp [isTaken_strayStore loose climbs])]
  rfl

theorem not_liesBelow_strayTarget (suffix : String) :
    ¬((strayTarget height).withSuffix suffix).LiesBelow record.treePath := by
  have climbs := Path.prefix_normalComponents (climbs_strayTarget_withSuffix height suffix)
  rw [← Path.components_normalize] at climbs
  rintro ⟨names, _, shape⟩
  rw [shape, loose, List.replicate_succ', List.prefix_append_right_inj] at climbs
  have member : .parent ∈ names.map Component.name := climbs.subset (by simp)
  simp at member

end Loose

/-- Under a root that is not anchored a pass can write outside the tree. -/
theorem exists_stray (valid : record.defect? = none) (loose : ¬record.treePath.IsAnchored) :
    ∃ (store : Store) (report : Report) (after : Session Store),
      fill record ⟨store, #[]⟩ = (.ok report, after) ∧
        ∃ place ∈ report.created, ¬place.LiesBelow record.treePath := by
  rcases Record.exists_head?_of_defect?_eq_none valid with ⟨extension, first⟩
  have climbing := Path.components_eq_replicate_of_not_isAnchored loose
  rcases ends_fill_of_isDirectory (isDirectory_strayStore record) #[] with ⟨told, ran⟩
  refine ⟨strayStore record, _, _, ran, _, ?_, not_liesBelow_strayTarget climbing extension⟩
  rw [reported, filled_strayStore climbing first]
  exact List.mem_singleton.2 rfl

/-- When placeholders lie in the tree. On every file system, the path of a placeholder starts with
the normal form of the tree root, whatever the extension adds behind it. With a plain extension its
own normal form does so too, and below an anchored root only the root itself is left out. In stores,
with a plain extension and a root spelled in normal form, no pass ever writes outside the tree if
and only if the root is anchored. Under any root that is not, some pass does. -/
theorem created_liesBelow_iff (valid : record.defect? = none) :
    (∀ (σ : Type) [FileSystem σ] (session after : Session σ) (report : Report),
      fill record session = (.ok report, after) → ∀ place ∈ report.created,
        record.treePath.normalize.components <+: place.components ∧
        (record.HasPlainExtension →
          record.treePath.normalize.components <+: place.normalize.components ∧
          (record.treePath.IsAnchored →
            (place.LiesBelow record.treePath ↔
              place.same record.treePath.normalize = false)))) ∧
    (record.HasPlainExtension →
      record.treePath.components = record.treePath.normalize.components →
        ((∀ (session after : Session Store) (report : Report),
          fill record session = (.ok report, after) → ∀ place ∈ report.created,
            place.LiesBelow record.treePath) ↔ record.treePath.IsAnchored)) ∧
    (¬record.treePath.IsAnchored →
      ∃ (store : Store) (report : Report) (after : Session Store),
        fill record ⟨store, #[]⟩ = (.ok report, after) ∧
          ∃ place ∈ report.created, ¬place.LiesBelow record.treePath) := by
  refine ⟨?_, ?_, exists_stray valid⟩
  · intro σ _ session after report ran place member
    have isPlace := isPlace_of_mem_created ran member
    refine ⟨isPlace.prefix_components, fun plain => ⟨isPlace.prefix_normalize valid plain, ?_⟩⟩
    exact isPlace.liesBelow_iff_of_isAnchored valid plain
  · intro plain spelled
    constructor
    · intro contained
      refine Decidable.byContradiction fun loose => ?_
      rcases exists_stray valid loose with ⟨store, report, after, ran, place, member, outside⟩
      exact outside (contained ⟨store, #[]⟩ after report ran place member)
    · intro anchored session after report ran place member
      exact liesBelow_of_mem_created valid plain anchored spelled ran member

/-- A site whose tree is the working directory. -/
def looseRecord : Record :=
  { inputDir := ⟨"in"⟩, baseUrl := "", baseOutputDir := ⟨"."⟩, mapsDir := ⟨"maps"⟩,
    decompiledDir := ⟨""⟩, extensions := [".js"], bundle := none }

/-- A pass over the working directory can write outside of it. -/
theorem created_liesBelow_iff_looseRecord :
    looseRecord.defect? = none ∧
      ∃ (store : Store) (report : Report) (after : Session Store),
        fill looseRecord ⟨store, #[]⟩ = (.ok report, after) ∧
          ∃ place ∈ report.created, ¬place.LiesBelow looseRecord.treePath := by
  have valid : looseRecord.defect? = none := by decide
  have loose : ¬looseRecord.treePath.IsAnchored := by decide
  exact ⟨valid, (created_liesBelow_iff valid).2.2 loose⟩

end SourceTree.Placeholders
