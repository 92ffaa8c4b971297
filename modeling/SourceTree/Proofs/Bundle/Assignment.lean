import SourceTree.Bundle.Trailer
import SourceTree.Proofs.Text.Blank

/-!
# The first assignment in a text

An assignment is written as the marker, an equals sign and a value, with any white space around the
sign. The search for the first one goes through the text symbol by symbol, so it stops at the first
place where an assignment stands. A place in front of which the marker does not occur is the first
one, whatever follows.
-/

namespace SourceTree.Bundle

/-- A text that starts with an assignment of `value`, which runs to the next white space. -/
inductive Assigns (value : List Char) : List Char → Prop
  | written {gap space rest : List Char}
      (gapBlank : ∀ symbol ∈ gap, Text.isBlank symbol = true)
      (spaceBlank : ∀ symbol ∈ space, Text.isBlank symbol = true)
      (nonempty : value ≠ []) (unblank : ∀ symbol ∈ value, Text.isBlank symbol = false)
      (ends : ∀ symbol ∈ rest.head?, Text.isBlank symbol = true) :
      Assigns value (marker ++ (gap ++ '=' :: (space ++ (value ++ rest))))

/-- A text with an assignment of `value` and none at an earlier place. -/
def FirstAssigns (value text : List Char) : Prop :=
  ∃ front behind, text = front ++ behind ∧ Assigns value behind ∧
    ∀ start, start <:+ front → start ≠ [] → ∀ other, ¬Assigns other (start ++ behind)

variable {text value front behind : List Char}

section Here

theorem Assigns.value_unblank (assigns : Assigns value text) :
    ∀ symbol ∈ value, Text.isBlank symbol = false := by
  cases assigns with
  | written _ _ _ unblank _ => exact unblank

theorem Assigns.marker_prefix (assigns : Assigns value text) : marker <+: text := by
  cases assigns with
  | written => exact List.prefix_append _ _

theorem assigned?_of_assigns (assigns : Assigns value text) : assigned? text = some value := by
  cases assigns with
  | @written gap space rest gapBlank spaceBlank nonempty unblank ends =>
      have sign : Text.skipBlank (gap ++ '=' :: (space ++ (value ++ rest))) =
          '=' :: (space ++ (value ++ rest)) :=
        Text.skipBlank_append gapBlank (by simp [Text.isBlank])
      have start : Text.skipBlank (space ++ (value ++ rest)) = value ++ rest := by
        apply Text.skipBlank_append spaceBlank
        rcases List.exists_cons_of_ne_nil nonempty with ⟨first, more, rfl⟩
        intro symbol isHead
        cases isHead
        exact unblank first (by simp)
      rw [assigned?, Text.afterWord?_eq_some_iff.2 rfl, Option.bind_eq_bind, Option.bind_some, sign]
      simp only [start, Text.takeWhile_solid_append unblank ends]

theorem assigns_of_assigned? (assigned : assigned? text = some value) : Assigns value text := by
  rw [assigned?, Option.bind_eq_bind, Option.bind_eq_some_iff] at assigned
  rcases assigned with ⟨rest, word, shape⟩
  rw [Text.afterWord?_eq_some_iff] at word
  subst word
  rcases Text.exists_blank_append_skipBlank rest with ⟨gap, gapBlank, gapCut⟩
  split at shape
  next start sign =>
    rcases Text.exists_blank_append_skipBlank start with ⟨space, spaceBlank, spaceCut⟩
    split at shape
    next => cases shape
    next nonempty =>
      cases shape
      have valueCut := List.takeWhile_append_dropWhile (p := (!Text.isBlank ·))
        (l := Text.skipBlank start)
      have whole : rest = gap ++ '=' :: (space ++
          ((Text.skipBlank start).takeWhile (!Text.isBlank ·) ++
            (Text.skipBlank start).dropWhile (!Text.isBlank ·))) := by
        rw [valueCut, ← spaceCut, ← sign, ← gapCut]
      rw [whole]
      refine .written gapBlank spaceBlank nonempty ?_ ?_
      · intro symbol member
        simpa using List.mem_takeWhile_imp member
      · intro symbol isHead
        have stops := List.head?_dropWhile_not (!Text.isBlank ·) (Text.skipBlank start)
        rw [show ((Text.skipBlank start).dropWhile _).head? = some symbol from isHead] at stops
        simpa using stops
  next => cases shape

theorem assigned?_eq_some_iff : assigned? text = some value ↔ Assigns value text :=
  ⟨assigns_of_assigned?, assigned?_of_assigns⟩

theorem assigned?_eq_none_iff : assigned? text = none ↔ ∀ other, ¬Assigns other text := by
  simp only [Option.eq_none_iff_forall_ne_some, ne_eq, assigned?_eq_some_iff]

end Here

section First

theorem FirstAssigns.unblank (first : FirstAssigns value text) :
    ∀ symbol ∈ value, Text.isBlank symbol = false := by
  rcases first with ⟨_, _, _, assigns, _⟩
  exact assigns.value_unblank

theorem firstAssigned?_eq_some_iff :
    firstAssigned? text = some value ↔ FirstAssigns value text := by
  constructor
  · intro assigned
    induction text with
    | nil => cases assigned
    | cons symbol rest ih =>
        rw [firstAssigned?] at assigned
        split at assigned
        next here =>
          cases assigned
          refine ⟨[], symbol :: rest, rfl, assigns_of_assigned? here, ?_⟩
          intro start suffix nonempty
          exact absurd (List.suffix_nil.1 suffix) nonempty
        next nothing =>
          rcases ih assigned with ⟨front, behind, rfl, assigns, earlier⟩
          refine ⟨symbol :: front, behind, rfl, assigns, ?_⟩
          intro start suffix nonempty
          rcases List.suffix_cons_iff.1 suffix with rfl | inner
          · exact assigned?_eq_none_iff.1 nothing
          · exact earlier start inner nonempty
  · rintro ⟨front, behind, rfl, assigns, earlier⟩
    have here := assigned?_of_assigns assigns
    induction front with
    | nil =>
        cases behind with
        | nil => cases here
        | cons symbol rest => rw [List.nil_append, firstAssigned?, here]
    | cons symbol front ih =>
        have nothing : assigned? (symbol :: (front ++ behind)) = none :=
          assigned?_eq_none_iff.2 (earlier (symbol :: front) List.suffix_rfl (by simp))
        rw [List.cons_append, firstAssigned?, nothing]
        apply ih
        intro start suffix
        exact earlier start (suffix.trans (List.suffix_cons symbol front))

/-- The marker cannot overlap itself, because its first letter does not come again. -/
theorem marker_infix_of_overlap {start : List Char} (nonempty : start ≠ [])
    (early : marker <+: start ++ behind) (late : marker <+: behind) : marker <:+: start := by
  rcases early with ⟨tail, cut⟩
  rcases List.append_eq_append_iff.1 cut with ⟨part, rfl, _⟩ | ⟨part, shape, rfl⟩
  · exact ⟨[], part, rfl⟩
  · have short : part.length ≤ marker.length := by simp [shape]
    have again : part <+: marker :=
      List.prefix_of_prefix_length_le (List.prefix_append part tail) late short
    cases part with
    | nil => exact ⟨[], [], by simpa using shape⟩
    | cons letter part =>
        rcases List.exists_cons_of_ne_nil nonempty with ⟨first, more, rfl⟩
        have isFirst : letter = 's' := (List.cons_prefix_cons.1 again).1
        have inTail : letter ∈ marker.tail := by simp [shape]
        rw [isFirst] at inTail
        exact absurd inTail (by decide)

/-- An assignment is the first one if the marker does not occur before it. -/
theorem Assigns.first (assigns : Assigns value behind) (absent : ¬marker <:+: front) :
    FirstAssigns value (front ++ behind) := by
  refine ⟨front, behind, rfl, assigns, ?_⟩
  intro start suffix nonempty other early
  have inside := marker_infix_of_overlap nonempty early.marker_prefix assigns.marker_prefix
  exact absent (inside.trans suffix.isInfix)

end First

end SourceTree.Bundle
