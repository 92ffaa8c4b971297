import SourceTree.Proofs.Path.Containment
import SourceTree.SourceName

/-!
# Cleaned names stay inside

Nothing is checked after a name has been cleaned, so the last pass over the segments has to settle
everything: whatever the schemes were and whatever decoding brought up, no slash is left in front
and no segment is `..`. Joined onto any directory, such a text only adds names.
-/

namespace SourceTree.SourceName

theorem head?_dropParents_ne (text : List Char) : (dropParents text).head? ≠ some '/' :=
  Text.head?_trimLeft_ne '/' _

theorem parent_not_mem_split_dropParents (text : List Char) :
    ['.', '.'] ∉ Text.split '/' (dropParents text) := by
  intro member
  have pieces := Text.mem_of_mem_split_trimLeft member
  by_cases empty : (Text.split '/' (Text.trimLeft '/' text)).filter (· ≠ ['.', '.']) = []
  · rw [empty] at pieces
    simp [Text.join, Text.split, List.intercalate] at pieces
  · rw [Text.split_join empty] at pieces
    · simp at pieces
    · intro piece pieceMem
      exact Text.not_mem_of_mem_split (List.mem_filter.1 pieceMem).1

theorem isAbsolute_clean (name bundle : String) : Path.isAbsolute ⟨clean name bundle⟩ = false := by
  rw [Path.isAbsolute_eq_false_iff, clean, String.toList_ofList]
  exact head?_dropParents_ne _

/-- A cleaned name is relative, has no `..` segment, and lies in whatever directory it is joined
onto. -/
theorem join_clean_liesIn (name bundle : String) (root : Path) :
    (clean name bundle).toList.head? ≠ some '/' ∧
      ['.', '.'] ∉ Text.split '/' (clean name bundle).toList ∧
      (root.join ⟨clean name bundle⟩).LiesIn root := by
  have relative : (clean name bundle).toList.head? ≠ some '/' := by
    rw [clean, String.toList_ofList]
    exact head?_dropParents_ne _
  have noParent : ['.', '.'] ∉ Text.split '/' (clean name bundle).toList := by
    rw [clean, String.toList_ofList]
    exact parent_not_mem_split_dropParents _
  exact ⟨relative, noParent, Path.liesIn_join (Path.isAbsolute_eq_false_iff.2 relative) noParent⟩

end SourceTree.SourceName
