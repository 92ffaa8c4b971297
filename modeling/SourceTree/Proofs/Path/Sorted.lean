import Mathlib.Data.List.Sort
import SourceTree.Path.Order

/-!
# Sorted paths

Files in one directory have paths that differ only in the last name, and are in the order of these
names. Sorted paths without repetitions are settled by the set of their components.
-/

namespace SourceTree

theorem eq_of_sorted {left right : List (List Component)}
    (leftSorted : left.Pairwise fun earlier later => compare earlier later = .lt)
    (rightSorted : right.Pairwise fun earlier later => compare earlier later = .lt)
    (same : ∀ steps, steps ∈ left ↔ steps ∈ right) : left = right := by
  have irrefl : Std.Irrefl fun earlier later : List Component => compare earlier later = .lt :=
    ⟨fun steps less => by simp at less⟩
  have antisymm : Std.Antisymm fun earlier later : List Component => compare earlier later = .lt :=
    ⟨fun earlier later less more => by simp [Std.OrientedCmp.gt_of_lt less] at more⟩
  exact leftSorted.eq_of_mem_iff rightSorted same

theorem compare_append (front left right : List Component) :
    compare (front ++ left) (front ++ right) = compare left right := by
  induction front with
  | nil => rfl
  | cons first front ih =>
      rw [List.cons_append, List.cons_append, List.compare_cons_cons, Std.ReflOrd.compare_self, ih]
      rfl

/-- Paths in one directory are in the order of their last names. -/
theorem Path.order_of_names {left right : Path} {front : List Component} {first second : String}
    (leftShape : left.components = front ++ [.name first])
    (rightShape : right.components = front ++ [.name second]) :
    left.order right = compare first second := by
  rw [Path.order, leftShape, rightShape, compare_append, List.compare_cons_cons]
  change (compare first second).then .eq = _
  cases compare first second <;> rfl

end SourceTree
