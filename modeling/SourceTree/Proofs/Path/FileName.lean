import Mathlib.Data.List.TakeDrop
import SourceTree.Proofs.Path.Steps

/-!
# File names

The file name of a path is its last component, so it holds no slash, and neither does what is left
of it when the extension is cut off. There is an extension only behind a dot that does not lead the
name.
-/

namespace SourceTree.Path

theorem fileName?_eq_some_iff {path : Path} {name : String} :
    path.fileName? = some name ↔ path.components.getLast? = some (.name name) := by
  rw [fileName?]
  split
  next text shape => simp [shape]
  next other =>
    simp only [reduceCtorEq, false_iff]
    exact other name

theorem fileName?_of_concat {path : Path} {front : List Component} {name : String}
    (shape : path.components = front ++ [.name name]) : path.fileName? = some name := by
  rw [fileName?_eq_some_iff, shape, List.getLast?_concat]

theorem slash_not_mem_fileName {path : Path} {name : String} (named : path.fileName? = some name) :
    '/' ∉ name.toList := by
  have member := List.mem_of_getLast? (fileName?_eq_some_iff.1 named)
  rw [components_eq, List.mem_append] at member
  rcases member with inLead | inSteps
  · cases lead : leadOf path.text.toList <;> simp [lead, Lead.components] at inLead
  · exact Component.slash_not_mem_render (isStep_of_mem_stepsOf inSteps)

theorem mem_of_mem_cutAtDot {name : String} {symbol : Char}
    (member : symbol ∈ (cutAtDot name).1.toList) : symbol ∈ name.toList := by
  rw [cutAtDot, List.span_eq_takeWhile_dropWhile] at member
  split at member
  next => exact member
  next => exact member
  next dot before _ shape =>
    have behind : dot :: before <:+ name.toList.reverse := by
      rw [← (Prod.mk.inj shape).2]
      exact List.dropWhile_suffix _
    rw [String.toList_ofList, List.mem_reverse] at member
    exact List.mem_reverse.1 (behind.mem (List.mem_cons_of_mem _ member))

theorem slash_not_mem_fileStem {path : Path} {stem : String} (named : path.fileStem? = some stem) :
    '/' ∉ stem.toList := by
  rcases Option.map_eq_some_iff.1 named with ⟨name, fileNamed, rfl⟩
  intro member
  exact slash_not_mem_fileName fileNamed (mem_of_mem_cutAtDot member)

/-- A name has an extension exactly if something stands before a dot, and behind this dot the
extension without any other. -/
theorem cutAtDot_eq_some_iff {name ending : String} :
    (cutAtDot name).2 = some ending ↔
      '.' ∉ ending.toList ∧ ∃ stem, stem ≠ "" ∧ name = stem ++ "." ++ ending := by
  rw [cutAtDot, List.span_eq_takeWhile_dropWhile]
  constructor
  · intro cut
    split at cut
    next => cases cut
    next => cases cut
    next after dot before nonempty shape =>
      obtain ⟨rfl, behind⟩ := Prod.mk.inj shape
      cases cut
      have isDot :=
        List.head?_dropWhile_not (fun symbol => decide (symbol ≠ '.')) name.toList.reverse
      rw [behind] at isDot
      obtain rfl : dot = '.' := by simpa using isDot
      have whole := congrArg List.reverse (List.takeWhile_append_dropWhile
        (p := fun symbol => decide (symbol ≠ '.')) (l := name.toList.reverse))
      rw [behind, List.reverse_reverse, List.reverse_append, List.reverse_cons] at whole
      refine ⟨?_, String.ofList before.reverse, ?_, ?_⟩
      · intro member
        rw [String.toList_ofList, List.mem_reverse] at member
        simpa using List.all_eq_true.1 List.all_takeWhile _ member
      · intro empty
        have none := congrArg String.toList empty
        rw [String.toList_ofList] at none
        exact nonempty (List.reverse_eq_nil_iff.1 none)
      · apply String.toList_injective
        simpa using whole.symm
  · rintro ⟨dotless, stem, nonempty, rfl⟩
    have reversed : (stem ++ "." ++ ending).toList.reverse =
        ending.toList.reverse ++ '.' :: stem.toList.reverse := by
      simp
    have front : ∀ symbol ∈ ending.toList.reverse, decide (symbol ≠ '.') = true := by
      intro symbol member
      rw [decide_eq_true_eq]
      rintro rfl
      exact dotless (List.mem_reverse.1 member)
    rw [reversed, List.takeWhile_append_of_pos front, List.dropWhile_append_of_pos front,
      List.takeWhile_cons_of_neg (by simp), List.dropWhile_cons_of_neg (by simp), List.append_nil]
    cases back : stem.toList.reverse with
    | nil => exact absurd (String.toList_eq_nil_iff.1 (List.reverse_eq_nil_iff.1 back)) nonempty
    | cons last rest =>
        dsimp only
        rw [List.reverse_reverse, String.ofList_toList]

theorem extension?_eq_some_iff {path : Path} {ending : String} :
    path.extension? = some ending ↔
      '.' ∉ ending.toList ∧ ∃ stem, stem ≠ "" ∧ path.fileName? = some (stem ++ "." ++ ending) := by
  rw [extension?, Option.bind_eq_some_iff]
  constructor
  · rintro ⟨name, named, cut⟩
    rcases cutAtDot_eq_some_iff.1 cut with ⟨dotless, stem, nonempty, rfl⟩
    exact ⟨dotless, stem, nonempty, named⟩
  · rintro ⟨dotless, stem, nonempty, named⟩
    exact ⟨_, named, cutAtDot_eq_some_iff.2 ⟨dotless, stem, nonempty, rfl⟩⟩

end SourceTree.Path
