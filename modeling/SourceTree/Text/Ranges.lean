/-!
# Ranges of code points

Properties of characters that have no simple rule are given by tables of ranges.
-/

namespace SourceTree.Text

/-- Whether a character is in one of the given ranges, which include their ends. -/
def inRanges (ranges : Array (Nat × Nat)) (symbol : Char) : Bool :=
  ranges.any fun (first, last) => first ≤ symbol.toNat && symbol.toNat ≤ last

end SourceTree.Text
