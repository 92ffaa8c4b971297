import SourceTree.Proofs.Path.Normal

/-!
# Paths within directories

Whether a path is within a directory is a matter of components, as every question to a store is. So
two directories are either nested or have nothing in common: what is within both of them would put
one within the other. Joining a relative path never leads out of the left side, whatever segments
the right side has, since nothing is resolved.
-/

namespace SourceTree.Path

variable {path other root : Path}

theorem same_iff : path.same other = true ↔ path.components = other.components := by
  simp [same]

theorem isWithin_iff : path.isWithin root = true ↔ root.components <+: path.components := by
  simp [isWithin]

theorem isWithin_congr (same : path.components = other.components) :
    path.isWithin root = other.isWithin root := by
  rw [isWithin, isWithin, same]

theorem isWithin_trans {middle : Path} (inner : path.isWithin middle = true)
    (outer : middle.isWithin root = true) : path.isWithin root = true := by
  rw [isWithin_iff] at inner outer ⊢
  exact outer.trans inner

/-- Whether `path` is an ancestor of `other`, and not `other` itself. -/
def isAbove (path other : Path) : Bool :=
  other.isWithin path && !other.same path

theorem isAbove_iff : path.isAbove other = true ↔
    path.components <+: other.components ∧ other.components ≠ path.components := by
  simp [isAbove, isWithin, same]

theorem isWithin_join {base tail : Path} (relative : tail.isAbsolute = false) :
    (base.join tail).isWithin base = true := by
  rw [isWithin_iff]
  by_cases empty : base.text = ""
  · obtain rfl : base = ⟨""⟩ := congrArg Path.mk empty
    exact List.nil_prefix
  · rw [components_join relative empty]
    exact List.prefix_append _ _

/-- Whether one of two directories is within the other. -/
def isNested (path other : Path) : Bool :=
  path.isWithin other || other.isWithin path

/-- What is within two directories nests them. -/
theorem isNested_of_isWithin {first second : Path} (inFirst : path.isWithin first = true)
    (inSecond : path.isWithin second = true) : first.isNested second = true := by
  rw [isWithin_iff] at inFirst inSecond
  rw [isNested, Bool.or_eq_true, isWithin_iff, isWithin_iff]
  exact (List.prefix_or_prefix_of_prefix inFirst inSecond).symm

/-- Whether a path is within one of some directories. -/
def isIn (path : Path) (roots : List Path) : Bool :=
  roots.any path.isWithin

theorem isIn_iff {roots : List Path} :
    path.isIn roots = true ↔ ∃ root ∈ roots, path.isWithin root = true := by
  simp [isIn]

theorem isIn_of_mem {roots : List Path} (member : root ∈ roots)
    (within : path.isWithin root = true) : path.isIn roots = true :=
  isIn_iff.2 ⟨root, member, within⟩

theorem isIn_self {roots : List Path} (member : root ∈ roots) : root.isIn roots = true :=
  isIn_of_mem member (isWithin_iff.2 List.prefix_rfl)

/-- What is below a path in the directories is in them too. -/
theorem isIn_of_isPrefix {roots : List Path} (inside : path.isIn roots = true)
    (below : path.components <+: other.components) : other.isIn roots = true := by
  rcases isIn_iff.1 inside with ⟨root, member, within⟩
  exact isIn_of_mem member (isWithin_trans (isWithin_iff.2 below) within)

theorem isIn_congr {roots : List Path} (same : path.components = other.components) :
    path.isIn roots = other.isIn roots := by
  rw [Bool.eq_iff_iff]
  constructor
  · intro inside
    exact isIn_of_isPrefix inside (same ▸ List.prefix_rfl)
  · intro inside
    exact isIn_of_isPrefix inside (same ▸ List.prefix_rfl)

/-- An absolute or relative path with names only. -/
def IsPlain (path : Path) : Prop :=
  ∃ names : List String, path.components = names.map .name ∨
    path.components = .root :: names.map .name

/-- A plain path has the components of its normal form. -/
theorem IsPlain.components_normalize (plain : path.IsPlain) :
    path.normalize.components = path.components := by
  have named : .parent ∉ path.components ∧ .current ∉ path.components := by
    rcases plain with ⟨names, shape | shape⟩
    · simp [shape]
    · simp [shape]
  rw [components_eq, List.mem_append, List.mem_append, not_or, not_or] at named
  rcases named with ⟨⟨_, noParent⟩, noCurrent, _⟩
  have steps : ∀ step ∈ stepsOf path.text.toList, step.IsStep := fun _ => isStep_of_mem_stepsOf
  have normal : IsNormal path.components := by
    rw [components_eq]
    cases lead : leadOf path.text.toList with
    | root =>
        exact (IsNormal.nil.concat (Or.inl rfl) (by simp)).append_names steps noParent
    | plain => exact IsNormal.nil.append_names steps noParent
    | current => simp [lead, Lead.components] at noCurrent
  rw [Path.components_normalize, normalComponents_of_isNormal normal]

theorem IsPlain.isWithin_normalize (plain : root.IsPlain) :
    path.isWithin root.normalize = path.isWithin root := by
  rw [isWithin, isWithin, plain.components_normalize]

end SourceTree.Path
