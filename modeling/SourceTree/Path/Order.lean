import SourceTree.Path.Basic

/-!
# The order of paths

Paths are ordered by their components, first component first. The root comes before `.`, that
before `..`, and that before every name; names are ordered by code point. So everything in a
directory stands together, and `a/z` comes before `a-b` although `-` precedes `/` as a character.
-/

namespace SourceTree

namespace Component

/-- The position of a kind of component among the kinds. -/
def rank : Component → Nat
  | .root => 0
  | .current => 1
  | .parent => 2
  | .name _ => 3

instance : Ord Component where
  compare left right :=
    match left, right with
    | .name left, .name right => compare left right
    | left, right => compare left.rank right.rank

/-- The text that tells components of one kind apart. -/
def label : Component → String
  | .name text => text
  | _ => ""

/-- Components are ordered by their kinds first. -/
theorem compare_eq_then (left right : Component) :
    compare left right = (compare left.rank right.rank).then (compare left.label right.label) := by
  cases left <;> cases right <;> rfl

instance : Std.TransOrd Component where
  eq_swap {left right} := by
    rw [compare_eq_then left, compare_eq_then right, Ordering.swap_then, ← Std.OrientedOrd.eq_swap,
      ← Std.OrientedOrd.eq_swap]
  isLE_trans {left middle right} first second := by
    rw [compare_eq_then, Ordering.isLE_then_iff_and] at first second ⊢
    refine ⟨Std.TransOrd.isLE_trans first.1 second.1, ?_⟩
    rcases first with ⟨firstRank, firstLess | firstLabel⟩
    · exact Or.inl (Std.TransCmp.lt_of_lt_of_isLE firstLess second.1)
    · rcases second with ⟨_, secondLess | secondLabel⟩
      · exact Or.inl (Std.TransCmp.lt_of_isLE_of_lt firstRank secondLess)
      · exact Or.inr (Std.TransOrd.isLE_trans firstLabel secondLabel)

instance : Std.LawfulEqOrd Component where
  compare_self {component} := by
    rw [compare_eq_then, Std.ReflOrd.compare_self, Std.ReflOrd.compare_self]
    rfl
  eq_of_compare {left right} same := by
    rw [compare_eq_then, Ordering.then_eq_eq] at same
    have ranks := Std.LawfulEqOrd.eq_of_compare same.1
    have labels := Std.LawfulEqOrd.eq_of_compare same.2
    cases left <;> cases right <;> simp_all [rank, label]

end Component

namespace Path

/-- The order of two paths by components. -/
def order (left right : Path) : Ordering :=
  compare left.components right.components

instance : Std.TransCmp order where
  eq_swap := Std.OrientedOrd.eq_swap
  isLE_trans := Std.TransOrd.isLE_trans

/-- Whether `left` stands before `right` or names the same place. -/
def precedes (left right : Path) : Bool :=
  (left.order right).isLE

end Path

end SourceTree
