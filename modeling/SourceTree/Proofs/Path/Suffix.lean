import SourceTree.Proofs.Path.Normal

/-!
# Suffixes

A suffix is written behind the text of a path, so it changes the last component and may add others
behind it. On a normal form all components but the last survive. If the suffix starts with a dot
and has no `..` segment, what stands in the place of the last one is names, so the path with the
suffix is normal again; only the empty path can get a leading `.` in this way.
-/

namespace SourceTree.Path

variable {front components : List Component} {last : Component} {suffix : String}

section Pieces

variable {steps : List Component} {word text first : List Char} {more : List (List Char)}

theorem split_word_append (slashless : '/' ∉ word) (pieces : Text.split '/' text = first :: more) :
    Text.split '/' (word ++ text) = (word ++ first) :: more := by
  have whole : Text.split '/' word = [] ++ [word] := Text.split_of_not_mem slashless
  exact Text.split_append whole pieces

theorem split_render_append (allSteps : ∀ step ∈ steps, step.IsStep) (step : last.IsStep)
    (pieces : Text.split '/' text = first :: more) :
    Text.split '/' (Text.join '/' ((steps ++ [last]).map fun step => step.render.toList) ++ text) =
      (steps.map fun step => step.render.toList) ++ (last.render.toList ++ first) :: more := by
  apply Text.split_append _ pieces
  rw [split_render (by simp) (by simpa [or_imp, forall_and] using ⟨allSteps, step⟩),
    List.map_append]
  rfl

theorem stepsOf_render_append (allSteps : ∀ step ∈ steps, step.IsStep) (step : last.IsStep)
    (text : List Char) :
    stepsOf (Text.join '/' ((steps ++ [last]).map fun step => step.render.toList) ++ text) =
      steps ++ stepsOf (last.render.toList ++ text) := by
  obtain ⟨first, more, pieces⟩ := List.exists_cons_of_ne_nil (Text.split_ne_nil '/' text)
  rw [stepsOf, stepsOf, split_render_append allSteps step pieces,
    split_word_append (Component.slash_not_mem_render step) pieces, List.filterMap_append,
    filterMap_ofSegment?_render allSteps]

theorem leadOf_render_append (allSteps : ∀ step ∈ steps, step.IsStep) (step : last.IsStep)
    (text : List Char) :
    leadOf (Text.join '/' ((steps ++ [last]).map fun step => step.render.toList) ++ text) =
      .plain := by
  obtain ⟨first, more, pieces⟩ := List.exists_cons_of_ne_nil (Text.split_ne_nil '/' text)
  have whole := split_render_append allSteps step pieces
  cases steps with
  | nil =>
      apply leadOf_eq_plain whole
      · simp [step.render_ne_nil]
      · intro dot
        rcases List.append_eq_singleton_iff.1 dot with ⟨empty, _⟩ | ⟨isDot, _⟩
        · exact step.render_ne_nil empty
        · exact step.render_ne_dot isDot
  | cons other steps =>
      have otherStep : other.IsStep := allSteps other (by simp)
      exact leadOf_eq_plain whole otherStep.render_ne_nil otherStep.render_ne_dot

/-- Behind a component, a suffix with a leading dot makes no `..` of its own. -/
theorem parent_not_mem_stepsOf_append (step : last.IsStep) {rest : List Char}
    (dotted : text = '.' :: rest) (noParent : ['.', '.'] ∉ Text.split '/' text) :
    .parent ∉ stepsOf (last.render.toList ++ text) := by
  obtain ⟨first, more, pieces⟩ := List.exists_cons_of_ne_nil (Text.split_ne_nil '/' text)
  rw [parent_mem_stepsOf_iff, split_word_append (Component.slash_not_mem_render step) pieces]
  intro member
  rcases List.mem_cons.1 member with merged | behind
  · -- Neither part is empty, so the component would have to be a single dot.
    have firstNe : first ≠ [] := by
      rintro rfl
      rw [dotted, Text.split, if_neg (by decide)] at pieces
      split at pieces
      · cases pieces
      · cases pieces
    rcases List.exists_cons_of_ne_nil step.render_ne_nil with ⟨symbol, tail, shape⟩
    rcases List.exists_cons_of_ne_nil firstNe with ⟨other, firstTail, rfl⟩
    rw [shape] at merged
    cases tail with
    | nil =>
        cases merged
        exact step.render_ne_dot shape
    | cons second tail => simp at merged
  · exact noParent (pieces ▸ List.mem_cons_of_mem first behind)

end Pieces

/-- The root stands in front of a normal list. -/
theorem IsNormal.eq_nil_of_concat_root (normal : IsNormal (front ++ [.root])) : front = [] := by
  rcases front with _ | ⟨first, front⟩
  · rfl
  · exact absurd rfl (normal.mayPrecede_of_concat first (by simp)).1

theorem toList_withSuffix (path : Path) (suffix : String) :
    (path.withSuffix suffix).text.toList = path.text.toList ++ suffix.toList :=
  String.toList_append

/-- A suffix keeps all components of a normal form but the last. -/
theorem components_withSuffix (normal : IsNormal (front ++ [last])) (step : last.IsStep) :
    ((ofComponents (front ++ [last])).withSuffix suffix).components =
      front ++ stepsOf (last.render.toList ++ suffix.toList) := by
  cases front with
  | nil =>
      have none : ∀ step ∈ ([] : List Component), step.IsStep := by simp
      rw [components_eq, toList_withSuffix, toList_ofComponents_steps (by simpa using step),
        leadOf_render_append none step, stepsOf_render_append none step]
      rfl
  | cons first rest =>
      have restSteps := normal.of_append_left.isStep_of_mem_tail
      rcases normal.known first (by simp) with rfl | firstStep
      · rw [components_eq, toList_withSuffix, List.cons_append, toList_ofComponents_root,
          List.append_assoc, List.cons_append, stepsOf_append_slash_cons, stepsOf_nil,
          stepsOf_render_append restSteps step]
        rfl
      · have allSteps : ∀ step ∈ first :: rest, step.IsStep := by
          simpa using ⟨firstStep, restSteps⟩
        have wholeSteps : ∀ step ∈ first :: rest ++ [last], step.IsStep := by
          simpa [or_imp, forall_and] using ⟨firstStep, restSteps, step⟩
        rw [components_eq, toList_withSuffix, toList_ofComponents_steps wholeSteps,
          leadOf_render_append allSteps step, stepsOf_render_append allSteps step]
        rfl

/-- A dotted suffix without `..` segments keeps a normal form normal, except that it can make a
leading `.` of the empty one. -/
theorem isNormal_withSuffix {rest : List Char} (normal : IsNormal components)
    (dotted : suffix.toList = '.' :: rest)
    (noParent : ['.', '.'] ∉ Text.split '/' suffix.toList) :
    IsNormal ((ofComponents components).withSuffix suffix).components ∨
      ((ofComponents components).withSuffix suffix).components.head? = some .current := by
  have names : .parent ∉ stepsOf suffix.toList := mt parent_mem_stepsOf_iff.1 noParent
  have steps : ∀ step ∈ stepsOf suffix.toList, step.IsStep :=
    fun _ member => isStep_of_mem_stepsOf member
  rcases List.eq_nil_or_concat components with rfl | ⟨front, last, rfl⟩
  · rw [components_eq, toList_withSuffix]
    change IsNormal ((leadOf suffix.toList).components ++ stepsOf suffix.toList) ∨
      ((leadOf suffix.toList).components ++ stepsOf suffix.toList).head? = some .current
    rw [leadOf, if_neg (by simp [dotted])]
    split
    · exact Or.inr rfl
    · exact Or.inl (IsNormal.nil.append_names steps names)
  · rw [List.concat_eq_append] at normal ⊢
    left
    rcases normal.known last (by simp) with rfl | step
    · -- The root stands alone, so the suffix is all there is behind it.
      obtain rfl := normal.eq_nil_of_concat_root
      have shape : ((ofComponents [.root]).withSuffix suffix).text.toList =
          [] ++ '/' :: suffix.toList := toList_withSuffix _ suffix
      rw [components_eq, List.nil_append, shape, stepsOf_append_slash_cons, stepsOf_nil]
      exact normal.append_names steps names
    · rw [components_withSuffix normal step]
      apply normal.of_append_left.append_names
      · exact fun _ member => isStep_of_mem_stepsOf member
      · exact parent_not_mem_stepsOf_append step dotted noParent

section Slashless

variable {first second : String → Path} {otherFront : List Component} {word otherWord : List Char}
  {other : String}

/-- A text without slashes is a single step, unless it is too short to count. -/
theorem exists_stepsOf_eq_singleton (slashless : '/' ∉ word) (long : 2 ≤ word.length) :
    ∃ step, Component.ofSegment? word = some step ∧ stepsOf word = [step] := by
  have nonempty : word ≠ [] := by
    rintro rfl
    simp at long
  have notDot : word ≠ ['.'] := by
    rintro rfl
    simp at long
  rw [stepsOf, Text.split_of_not_mem slashless]
  by_cases dots : word = ['.', '.']
  · exact ⟨.parent, by simp [dots, Component.ofSegment?]⟩
  · exact ⟨.name (String.ofList word), by simp [Component.ofSegment?, nonempty, notDot, dots]⟩

theorem leadOf_eq_plain_of_long (slashless : '/' ∉ word) (long : 2 ≤ word.length) :
    leadOf word = .plain := by
  apply leadOf_eq_plain (Text.split_of_not_mem slashless)
  · rintro rfl
    simp at long
  · rintro rfl
    simp at long

/-- Paths that differ in their last component only, where a suffix is written behind `word`. -/
def Varies (paths : String → Path) (front : List Component) (word : List Char) : Prop :=
  ∀ suffix : String, '/' ∉ suffix.toList → 2 ≤ suffix.toList.length →
    ∃ step, Component.ofSegment? (word ++ suffix.toList) = some step ∧
      (paths suffix).components = front ++ [step]

/-- Suffixes vary a normal form: it is the place before the last component and the word there. -/
theorem exists_varies_withSuffix (normal : IsNormal components) :
    ∃ front word, components = front ++ (Component.ofSegment? word).toList ∧
      Varies (ofComponents components).withSuffix front word := by
  rcases List.eq_nil_or_concat components with rfl | ⟨front, last, rfl⟩
  · refine ⟨[], [], by decide, ?_⟩
    intro suffix slashless long
    rcases exists_stepsOf_eq_singleton slashless long with ⟨step, shape, steps⟩
    refine ⟨step, shape, ?_⟩
    have text : ((ofComponents []).withSuffix suffix).text.toList = suffix.toList := by
      simp [ofComponents, withSuffix]
    rw [components_eq, text, leadOf_eq_plain_of_long slashless long, steps]
    rfl
  · rw [List.concat_eq_append] at normal ⊢
    rcases normal.known last (by simp) with rfl | step
    · obtain rfl := normal.eq_nil_of_concat_root
      refine ⟨[.root], [], by decide, ?_⟩
      intro suffix slashless long
      rcases exists_stepsOf_eq_singleton slashless long with ⟨step, segment, steps⟩
      have shape : ((ofComponents [.root]).withSuffix suffix).text.toList =
          [] ++ '/' :: suffix.toList := toList_withSuffix _ suffix
      refine ⟨step, segment, ?_⟩
      rw [components_eq, List.nil_append, shape, stepsOf_append_slash_cons, stepsOf_nil, steps]
      rfl
    · refine ⟨front, last.render.toList, by simp [Component.ofSegment?_render step], ?_⟩
      intro suffix slashless long
      have whole : '/' ∉ last.render.toList ++ suffix.toList := by
        simp [Component.slash_not_mem_render step, slashless]
      rcases exists_stepsOf_eq_singleton whole (by simp; omega) with ⟨next, segment, steps⟩
      exact ⟨next, segment, by rw [components_withSuffix normal step, steps]⟩

/-- So do they vary a file name below any path. -/
theorem varies_join (base : Path) (slashless : '/' ∉ word) :
    Varies (fun suffix => base.join ⟨String.ofList word ++ suffix⟩) base.components word := by
  intro suffix suffixSlashless long
  have text : (String.ofList word ++ suffix).toList = word ++ suffix.toList := by simp
  have whole : '/' ∉ word ++ suffix.toList := by simp [slashless, suffixSlashless]
  have wholeLong : 2 ≤ (word ++ suffix.toList).length := by
    rw [List.length_append]
    omega
  have relative : isAbsolute ⟨String.ofList word ++ suffix⟩ = false := by
    rw [isAbsolute_eq_false_iff, text]
    intro head
    exact whole (List.mem_of_head? head)
  rcases exists_stepsOf_eq_singleton whole wholeLong with ⟨step, segment, steps⟩
  refine ⟨step, segment, ?_⟩
  rw [components_join_of_plain relative, text, steps]
  rw [text]
  exact leadOf_eq_plain_of_long whole wholeLong

theorem Varies.congr (left : Varies first front word) (right : Varies second front word)
    (slashless : '/' ∉ suffix.toList) (long : 2 ≤ suffix.toList.length) :
    (first suffix).components = (second suffix).components := by
  rcases left suffix slashless long with ⟨step, segment, shape⟩
  rcases right suffix slashless long with ⟨otherStep, otherSegment, otherShape⟩
  cases segment.symm.trans otherSegment
  rw [shape, otherShape]

/-- Where two such paths meet, the places are the same, and so are the words with the suffixes. -/
theorem Varies.eq_of_same (left : Varies first front word)
    (right : Varies second otherFront otherWord) (slashless : '/' ∉ suffix.toList)
    (long : 2 ≤ suffix.toList.length) (otherSlashless : '/' ∉ other.toList)
    (otherLong : 2 ≤ other.toList.length)
    (same : (first suffix).components = (second other).components) :
    front = otherFront ∧ word ++ suffix.toList = otherWord ++ other.toList := by
  rcases left suffix slashless long with ⟨step, segment, shape⟩
  rcases right other otherSlashless otherLong with ⟨otherStep, otherSegment, otherShape⟩
  rw [shape, otherShape] at same
  rcases List.append_inj' same rfl with ⟨fronts, steps⟩
  cases steps
  refine ⟨fronts, ?_⟩
  rw [Component.eq_render_of_ofSegment? segment, Component.eq_render_of_ofSegment? otherSegment]

end Slashless

end SourceTree.Path
