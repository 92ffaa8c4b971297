import SourceTree.Proofs.Path.Steps

/-!
# Parents

The parent of a path is cut from its text, together with trailing segments that do not count. Its
components are those of the path without the last one. The lead has to survive the cut: what is
left must not begin with a slash or a `.` that was not at the beginning before.
-/

namespace SourceTree.Path

/-- Segments that may follow a lead: none of them has a slash, and behind a plain lead the first
one could not be taken for another lead. -/
structure MayFollow (lead : Lead) (segments : List (List Char)) : Prop where
  slashless : ∀ segment ∈ segments, '/' ∉ segment
  plain : lead = .plain → ∀ first, segments.head? = some first → first ≠ [] ∧ first ≠ ['.']

theorem MayFollow.of_isPrefix {lead : Lead} {front segments : List (List Char)}
    (follow : MayFollow lead segments) (cut : front <+: segments) : MayFollow lead front := by
  rcases cut with ⟨back, rfl⟩
  constructor
  · intro segment member
    exact follow.slashless segment (List.mem_append_left back member)
  · intro isPlain first head
    apply follow.plain isPlain first
    rw [List.head?_append, head]
    rfl

theorem stepsOf_join_segments {segments : List (List Char)}
    (slashless : ∀ segment ∈ segments, '/' ∉ segment) :
    stepsOf (Text.join '/' segments) = segments.filterMap Component.ofSegment? := by
  by_cases empty : segments = []
  · rw [empty]
    decide
  · rw [stepsOf, Text.split_join empty slashless]

theorem leadOf_join_segments {segments : List (List Char)} (follow : MayFollow .plain segments) :
    leadOf (Text.join '/' segments) = .plain := by
  cases segments with
  | nil => decide
  | cons first rest =>
      have pieces : Text.split '/' (Text.join '/' (first :: rest)) = first :: rest :=
        Text.split_join (by simp) follow.slashless
      have firstKept := follow.plain rfl first rfl
      exact leadOf_eq_plain pieces firstKept.1 firstKept.2

/-- A lead and segments are found again in their text. -/
theorem components_renderSegments {lead : Lead} {segments : List (List Char)}
    (follow : MayFollow lead segments) :
    (renderSegments lead segments).components =
      lead.components ++ segments.filterMap Component.ofSegment? := by
  have steps := stepsOf_join_segments follow.slashless
  cases lead with
  | root =>
      have shape : (renderSegments .root segments).text.toList =
          [] ++ '/' :: Text.join '/' segments := by
        simp [renderSegments]
      rw [components_eq, shape, stepsOf_append_slash_cons, stepsOf_nil, steps]
      rfl
  | plain =>
      have shape : (renderSegments .plain segments).text.toList = Text.join '/' segments := by
        simp [renderSegments]
      rw [components_eq, shape, leadOf_join_segments follow, steps]
  | current =>
      cases segments with
      | nil => decide
      | cons first rest =>
          have shape : (renderSegments .current (first :: rest)).text.toList =
              ['.'] ++ '/' :: Text.join '/' (first :: rest) := by
            simp [renderSegments]
          rw [components_eq, shape, stepsOf_append_slash_cons,
            leadOf_append_slash_cons (by simp), steps]
          rfl

theorem mayFollow_leadAndSegments {path : Path} (nonempty : path.text ≠ "") :
    MayFollow path.leadAndSegments.1 path.leadAndSegments.2 := by
  rw [leadAndSegments]
  split
  next => exact ⟨fun _ => Text.not_mem_of_mem_split, by simp⟩
  next notSlash =>
    have slashless : ∀ segment ∈ Text.split '/' path.text.toList, '/' ∉ segment :=
      fun _ => Text.not_mem_of_mem_split
    split
    next segments shape =>
      rw [shape] at slashless
      exact ⟨fun segment member => slashless segment (List.mem_cons_of_mem _ member), by simp⟩
    next notDot =>
      refine ⟨slashless, ?_⟩
      intro _ first head
      obtain ⟨rest, pieces⟩ : ∃ rest, Text.split '/' path.text.toList = first :: rest :=
        List.head?_eq_some_iff.1 head
      constructor
      · rintro rfl
        -- An empty first segment belongs to the empty text or stands before a slash.
        have whole := Text.join_split '/' path.text.toList
        rw [pieces] at whole
        cases rest with
        | nil => exact nonempty (String.toList_eq_nil_iff.1 whole.symm)
        | cons second rest => exact notSlash _ whole.symm
      · rintro rfl
        exact notDot rest pieces

theorem components_leadAndSegments (path : Path) :
    path.components = path.leadAndSegments.1.components ++
      path.leadAndSegments.2.filterMap Component.ofSegment? :=
  rfl

theorem filterMap_dropWhile_isNone (segments : List (List Char)) :
    (segments.dropWhile fun segment => (Component.ofSegment? segment).isNone).filterMap
      Component.ofSegment? = segments.filterMap Component.ofSegment? := by
  induction segments with
  | nil => rfl
  | cons segment segments ih =>
      cases shape : Component.ofSegment? segment with
      | none => simp [shape, ih]
      | some component => simp [shape]

theorem filterMap_trimSegments (segments : List (List Char)) :
    (trimSegments segments).filterMap Component.ofSegment? =
      segments.filterMap Component.ofSegment? := by
  rw [trimSegments, List.filterMap_reverse, filterMap_dropWhile_isNone, List.filterMap_reverse,
    List.reverse_reverse]

theorem trimSegments_isPrefix (segments : List (List Char)) :
    trimSegments segments <+: segments := by
  rw [trimSegments, ← List.reverse_suffix, List.reverse_reverse]
  exact List.dropWhile_suffix _

theorem trimSegments_concat {init : List (List Char)} {last : List Char} {component : Component}
    (counts : Component.ofSegment? last = some component) :
    trimSegments (init ++ [last]) = init ++ [last] := by
  simp [trimSegments, counts]

/-- What is left by trimming ends with a segment that counts. -/
theorem exists_ofSegment?_of_trimSegments {segments earlier : List (List Char)} {last : List Char}
    (shape : (trimSegments segments).reverse = last :: earlier) :
    ∃ component, Component.ofSegment? last = some component := by
  rw [trimSegments, List.reverse_reverse] at shape
  have counts := List.head?_dropWhile_not
    (fun segment => (Component.ofSegment? segment).isNone) segments.reverse
  rw [shape, List.head?_cons] at counts
  exact Option.isSome_iff_exists.1 (by simpa using counts)

theorem parent?_empty : parent? ⟨""⟩ = none := by
  decide

/-- The parent has the components of the path without the last one. -/
theorem components_of_parent? {path parent : Path} (found : path.parent? = some parent) :
    parent.components = path.components.dropLast := by
  have nonempty : path.text ≠ "" := by
    intro empty
    rw [show path = ⟨""⟩ from congrArg Path.mk empty, parent?_empty] at found
    cases found
  have follow := mayFollow_leadAndSegments nonempty
  have trimmed := trimSegments_isPrefix path.leadAndSegments.2
  rw [components_leadAndSegments path, ← filterMap_trimSegments]
  simp only [parent?] at found
  split at found
  next last earlier shape =>
    have cut : trimSegments path.leadAndSegments.2 = earlier.reverse ++ [last] := by
      rw [← List.reverse_reverse (trimSegments path.leadAndSegments.2), shape, List.reverse_cons]
    have front : earlier.reverse <+: path.leadAndSegments.2 := by
      rw [cut] at trimmed
      exact (List.prefix_append _ _).trans trimmed
    rcases exists_ofSegment?_of_trimSegments shape with ⟨component, counts⟩
    cases found
    rw [components_renderSegments (follow.of_isPrefix ((trimSegments_isPrefix _).trans front)),
      filterMap_trimSegments, cut]
    simp [counts, ← List.append_assoc]
  next shape =>
    rw [List.reverse_eq_nil_iff.1 shape]
    split at found
    next isCurrent =>
      cases found
      rw [isCurrent]
      decide
    next => cases found

/-- A path that ends with a name has a parent. -/
theorem exists_parent? {path : Path} {front : List Component} {text : String}
    (shape : path.components = front ++ [.name text]) :
    ∃ parent, path.parent? = some parent ∧ parent.components = front := by
  cases found : path.parent? with
  | some parent =>
      refine ⟨parent, rfl, ?_⟩
      rw [components_of_parent? found, shape, List.dropLast_concat]
  | none =>
      -- Without a parent there is no segment that counts, and the lead is no name.
      exfalso
      rw [components_leadAndSegments, ← filterMap_trimSegments] at shape
      simp only [parent?] at found
      split at found
      next => cases found
      next none =>
        rw [List.reverse_eq_nil_iff.1 none, List.filterMap_nil, List.append_nil] at shape
        have member : .name text ∈ path.leadAndSegments.1.components := by simp [shape]
        cases lead : path.leadAndSegments.1 <;> simp [lead, Lead.components] at member

end SourceTree.Path
