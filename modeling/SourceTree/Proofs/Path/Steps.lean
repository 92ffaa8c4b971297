import SourceTree.Path.Normal
import SourceTree.Proofs.Text.Segments

/-!
# Paths as lead and steps

The components of a path are what its lead contributes followed by what its segments stand for.
The second part, the *steps*, depends on the text alone, so it can be computed through joins and
suffixes segment by segment; the first part is settled by the beginning of the text. Every
statement about components in this development is derived from this division.
-/

namespace SourceTree

namespace Component

/-- Whether a component is what some segment stands for. -/
def IsStep (component : Component) : Prop :=
  ∃ segment, '/' ∉ segment ∧ ofSegment? segment = some component

theorem ofSegment?_render {component : Component} (step : component.IsStep) :
    ofSegment? component.render.toList = some component := by
  rcases step with ⟨segment, _, shape⟩
  have kept := shape
  rw [ofSegment?] at shape
  split at shape
  · simp at shape
  · split at shape
    · cases shape
      rfl
    · cases shape
      simpa [render] using kept

/-- A segment that counts is the text of its component. -/
theorem eq_render_of_ofSegment? {segment : List Char} {component : Component}
    (shape : ofSegment? segment = some component) : segment = component.render.toList := by
  rw [ofSegment?] at shape
  split at shape
  · cases shape
  · split at shape
    next dots =>
      cases shape
      exact dots
    next =>
      cases shape
      simp [render]

theorem slash_not_mem_render {component : Component} (step : component.IsStep) :
    '/' ∉ component.render.toList := by
  rcases step with ⟨segment, absent, shape⟩
  rw [ofSegment?] at shape
  split at shape
  · simp at shape
  · split at shape
    · cases shape
      simp [render]
    · cases shape
      simpa [render] using absent

/-- A step is a `..` or a name. -/
theorem IsStep.eq_parent_or_name {component : Component} (step : component.IsStep) :
    component = .parent ∨ ∃ text, component = .name text := by
  cases component with
  | root => simpa [ofSegment?, render] using ofSegment?_render step
  | current => simpa [ofSegment?, render] using ofSegment?_render step
  | parent => exact Or.inl rfl
  | name text => exact Or.inr ⟨text, rfl⟩

theorem IsStep.ne_root {component : Component} (step : component.IsStep) : component ≠ .root := by
  rintro rfl
  simpa using step.eq_parent_or_name

theorem IsStep.ne_current {component : Component} (step : component.IsStep) :
    component ≠ .current := by
  rintro rfl
  simpa using step.eq_parent_or_name

theorem IsStep.render_ne_nil {component : Component} (step : component.IsStep) :
    component.render.toList ≠ [] := by
  intro empty
  have shape := ofSegment?_render step
  simp [empty, ofSegment?] at shape

theorem IsStep.render_ne_dot {component : Component} (step : component.IsStep) :
    component.render.toList ≠ ['.'] := by
  intro dot
  have shape := ofSegment?_render step
  simp [dot, ofSegment?] at shape

end Component

namespace Path

/-- What the segments of a text stand for. -/
def stepsOf (text : List Char) : List Component :=
  (Text.split '/' text).filterMap Component.ofSegment?

/-- How a text begins. -/
def leadOf (text : List Char) : Lead :=
  if text.head? = some '/' then .root
  else if (Text.split '/' text).head? = some ['.'] then .current
  else .plain

/-- The components are the lead followed by the steps. -/
theorem components_eq (path : Path) :
    path.components = (leadOf path.text.toList).components ++ stepsOf path.text.toList := by
  rw [components, leadAndSegments]
  split
  next lead segments pair =>
    split at pair
    next rest shape =>
      cases pair
      simp [leadOf, stepsOf, shape, Text.split_separator_cons, Component.ofSegment?]
    next notSlash =>
      have relative : path.text.toList.head? ≠ some '/' := by
        cases shape : path.text.toList with
        | nil => simp
        | cons symbol rest =>
            intro head
            obtain rfl : symbol = '/' := by simpa using head
            exact notSlash rest shape
      split at pair
      next rest shape =>
        cases pair
        simp [leadOf, stepsOf, relative, shape, Component.ofSegment?]
      next pieces notDot =>
        cases pair
        have plain : (Text.split '/' path.text.toList).head? ≠ some ['.'] := by
          cases shape : Text.split '/' path.text.toList with
          | nil => simp
          | cons piece pieces =>
              intro head
              obtain rfl : piece = ['.'] := by simpa using head
              exact notDot pieces shape
        simp [leadOf, stepsOf, relative, plain]

theorem components_eq_nil_of_text {path : Path} (empty : path.text = "") :
    path.components = [] := by
  obtain rfl : path = ⟨""⟩ := congrArg Path.mk empty
  decide

theorem text_ne_of_components_ne_nil {path : Path} (nonempty : path.components ≠ []) :
    path.text ≠ "" :=
  fun empty => nonempty (components_eq_nil_of_text empty)

theorem isStep_of_mem_stepsOf {text : List Char} {component : Component}
    (member : component ∈ stepsOf text) : component.IsStep := by
  rcases List.mem_filterMap.1 member with ⟨segment, segmentMem, shape⟩
  exact ⟨segment, Text.not_mem_of_mem_split segmentMem, shape⟩

/-- Paths with the same components have the same steps. -/
theorem stepsOf_congr {path other : Path} (same : path.components = other.components) :
    stepsOf path.text.toList = stepsOf other.text.toList := by
  have steps : ∀ path : Path, stepsOf path.text.toList =
      path.components.filter fun component => component ≠ .root ∧ component ≠ .current := by
    intro path
    have kept : (stepsOf path.text.toList).filter
        (fun component => component ≠ .root ∧ component ≠ .current) =
          stepsOf path.text.toList := by
      rw [List.filter_eq_self]
      intro component member
      have step := isStep_of_mem_stepsOf member
      simp [step.ne_root, step.ne_current]
    rw [components_eq, List.filter_append, kept]
    cases leadOf path.text.toList <;> simp [Lead.components]
  rw [steps, steps, same]

theorem parent_mem_stepsOf_iff {text : List Char} :
    .parent ∈ stepsOf text ↔ ['.', '.'] ∈ Text.split '/' text := by
  constructor
  · intro member
    rcases List.mem_filterMap.1 member with ⟨segment, segmentMem, shape⟩
    rw [Component.ofSegment?] at shape
    split at shape
    · simp at shape
    · split at shape
      next dots => exact dots ▸ segmentMem
      next => simp at shape
  · intro member
    exact List.mem_filterMap.2 ⟨_, member, by decide⟩

@[simp]
theorem stepsOf_nil : stepsOf [] = [] := by
  decide

theorem stepsOf_append_slash_cons (front back : List Char) :
    stepsOf (front ++ '/' :: back) = stepsOf front ++ stepsOf back := by
  rw [stepsOf, Text.split_append_separator_cons, List.filterMap_append]
  rfl

theorem leadOf_append_slash_cons {front : List Char} (nonempty : front ≠ []) (back : List Char) :
    leadOf (front ++ '/' :: back) = leadOf front := by
  have head : (front ++ '/' :: back).head? = front.head? := by
    cases front with
    | nil => exact absurd rfl nonempty
    | cons symbol rest => rfl
  have piece : (Text.split '/' (front ++ '/' :: back)).head? = (Text.split '/' front).head? := by
    rw [Text.split_append_separator_cons]
    cases shape : Text.split '/' front with
    | nil => exact absurd shape (Text.split_ne_nil '/' front)
    | cons piece pieces => rfl
  rw [leadOf, leadOf, head, piece]

/-- A first segment that is not empty and not `.` makes no lead. -/
theorem leadOf_eq_plain {text first : List Char} {rest : List (List Char)}
    (pieces : Text.split '/' text = first :: rest) (nonempty : first ≠ [])
    (notDot : first ≠ ['.']) : leadOf text = .plain := by
  rw [leadOf, if_neg, pieces, if_neg]
  · simpa using notDot
  · intro slash
    obtain ⟨behind, rfl⟩ := List.head?_eq_some_iff.1 slash
    rw [Text.split_separator_cons] at pieces
    exact nonempty (List.cons.inj pieces).1.symm

section Join

variable {base tail : Path}

theorem isAbsolute_eq_false_iff : tail.isAbsolute = false ↔ tail.text.toList.head? ≠ some '/' := by
  simp [isAbsolute]

theorem isAbsolute_of_slash_not_mem {segment : List Char} (slashless : '/' ∉ segment) :
    isAbsolute ⟨String.ofList segment⟩ = false := by
  rw [isAbsolute_eq_false_iff, String.toList_ofList]
  intro head
  exact slashless (List.mem_of_head? head)

theorem text_join_of_empty (relative : tail.isAbsolute = false) (empty : base.text = "") :
    (base.join tail).text = tail.text := by
  simp [join, relative, empty]

/-- The text of a join has a slash between the two sides, unless the left one is empty. -/
theorem join_toList (relative : tail.isAbsolute = false) (nonempty : base.text ≠ "") :
    ∃ front, (base.join tail).text.toList = front ++ '/' :: tail.text.toList ∧
      (base.text.toList = front ∨ base.text.toList = front ++ ['/']) := by
  simp only [join, relative, Bool.false_eq_true, if_false]
  split
  next closed =>
    have slash : base.text.toList.getLast? = some '/' := by
      simpa [nonempty] using closed
    obtain ⟨front, shape⟩ := List.getLast?_eq_some_iff.1 slash
    refine ⟨front, ?_, Or.inr shape⟩
    simp [String.toList_append, shape]
  next =>
    refine ⟨base.text.toList, ?_, Or.inl rfl⟩
    simp [String.toList_append]

theorem stepsOf_join (relative : tail.isAbsolute = false) :
    stepsOf (base.join tail).text.toList =
      stepsOf base.text.toList ++ stepsOf tail.text.toList := by
  by_cases empty : base.text = ""
  · rw [text_join_of_empty relative empty, empty, String.toList_empty, stepsOf_nil, List.nil_append]
  · rcases join_toList relative empty with ⟨front, joined, open_ | closed⟩
    · rw [joined, open_, stepsOf_append_slash_cons]
    · rw [joined, closed, stepsOf_append_slash_cons, stepsOf_append_slash_cons, stepsOf_nil,
        List.append_nil]

theorem leadOf_join (relative : tail.isAbsolute = false) (nonempty : base.text ≠ "") :
    leadOf (base.join tail).text.toList = leadOf base.text.toList := by
  rcases join_toList relative nonempty with ⟨front, joined, open_ | closed⟩
  · have frontNe : front ≠ [] := by
      rintro rfl
      exact nonempty (String.toList_eq_nil_iff.1 open_)
    rw [joined, open_, leadOf_append_slash_cons frontNe]
  · rw [joined, closed]
    cases front with
    | nil => rfl
    | cons symbol rest =>
        rw [leadOf_append_slash_cons (by simp), leadOf_append_slash_cons (by simp)]

/-- Joining a relative path adds its steps behind the components of the base. -/
theorem components_join (relative : tail.isAbsolute = false) (nonempty : base.text ≠ "") :
    (base.join tail).components = base.components ++ stepsOf tail.text.toList := by
  rw [components_eq, components_eq base, stepsOf_join relative, leadOf_join relative nonempty,
    List.append_assoc]

/-- Without a lead this is so behind the empty path too. -/
theorem components_join_of_plain (relative : tail.isAbsolute = false)
    (plain : leadOf tail.text.toList = .plain) :
    (base.join tail).components = base.components ++ stepsOf tail.text.toList := by
  by_cases empty : base.text = ""
  · rw [components_eq_nil_of_text empty, components_eq, text_join_of_empty relative empty, plain]
    rfl
  · exact components_join relative empty

end Join

end Path

end SourceTree
