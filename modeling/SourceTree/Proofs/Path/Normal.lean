import SourceTree.Proofs.Path.Steps

/-!
# Laws of the normal form

A list of components is normal if it has no `.`, the root only in front, and each `..` only behind
other `..`s. Normal lists are what the normal form of a path produces and what it leaves alone, and
their plainest text has exactly them as components. So questions about the text of a normal form
become questions about lists.

Joining continues the normal form: the steps of the right side are taken from the place that the
left side reached. This is the only fact about joins that containment needs.
-/

namespace SourceTree.Path

/-- Whether one component may stand somewhere before another in a normal form. -/
def MayPrecede (earlier later : Component) : Prop :=
  later ≠ .root ∧ (later = .parent → earlier = .parent)

/-- A list of components that has the shape of a normal form. -/
structure IsNormal (components : List Component) : Prop where
  ordered : components.Pairwise MayPrecede
  known : ∀ component ∈ components, component = .root ∨ component.IsStep

namespace IsNormal

variable {front back : List Component} {last : Component}

theorem nil : IsNormal [] :=
  ⟨List.Pairwise.nil, by simp⟩

theorem of_append_left (normal : IsNormal (front ++ back)) : IsNormal front :=
  ⟨(List.pairwise_append.1 normal.ordered).1,
    fun component member => normal.known component (List.mem_append_left back member)⟩

theorem concat (normal : IsNormal front) (known : last = .root ∨ last.IsStep)
    (allowed : ∀ earlier ∈ front, MayPrecede earlier last) : IsNormal (front ++ [last]) := by
  constructor
  · rw [List.pairwise_append]
    refine ⟨normal.ordered, List.pairwise_singleton _ _, ?_⟩
    intro earlier earlierMem later laterMem
    rw [List.mem_singleton.1 laterMem]
    exact allowed earlier earlierMem
  · intro component member
    rcases List.mem_append.1 member with inFront | isLast
    · exact normal.known component inFront
    · rw [List.mem_singleton.1 isLast]
      exact known

/-- Behind its first component a normal list has steps only. -/
theorem isStep_of_mem_tail {first : Component} (normal : IsNormal (first :: back)) :
    ∀ component ∈ back, component.IsStep := by
  intro component member
  have allowed := (List.pairwise_cons.1 normal.ordered).1 component member
  exact (normal.known component (List.mem_cons_of_mem _ member)).resolve_left allowed.1

theorem mayPrecede_of_concat (normal : IsNormal (front ++ [last])) :
    ∀ earlier ∈ front, MayPrecede earlier last := by
  intro earlier member
  exact (List.pairwise_append.1 normal.ordered).2.2 earlier member last (by simp)

theorem append_names (normal : IsNormal front) (steps : ∀ component ∈ back, component.IsStep)
    (names : .parent ∉ back) : IsNormal (front ++ back) := by
  induction back generalizing front with
  | nil => simpa using normal
  | cons component back ih =>
      have step : component.IsStep := steps component (by simp)
      have grown : IsNormal (front ++ [component]) := by
        apply normal.concat (Or.inr step)
        intro earlier _
        refine ⟨step.ne_root, ?_⟩
        rintro rfl
        simp at names
      rw [List.append_cons]
      apply ih grown
      · intro other member
        exact steps other (List.mem_cons_of_mem _ member)
      · intro member
        exact names (List.mem_cons_of_mem _ member)

/-- Behind a component other than `..` a normal list has names only. -/
theorem names_of_append (normal : IsNormal (front ++ back))
    (anchored : ∃ component ∈ front, component ≠ .parent) :
    ∀ component ∈ back, ∃ text, component = .name text := by
  intro component member
  rcases anchored with ⟨anchor, anchorMem, notParent⟩
  have allowed : MayPrecede anchor component :=
    (List.pairwise_append.1 normal.ordered).2.2 anchor anchorMem component member
  rcases normal.known component (List.mem_append_right front member) with isRoot | step
  · exact absurd isRoot allowed.1
  · rcases step.eq_parent_or_name with isParent | isName
    · exact absurd (allowed.2 isParent) notParent
    · exact isName

end IsNormal

theorem normalStep_name (reached : List Component) (text : String) :
    normalStep reached (.name text) = .name text :: reached := by
  cases reached <;> rfl

/-- One more step keeps a reversed normal list normal. -/
theorem isNormal_normalStep {reached : List Component} {component : Component}
    (normal : IsNormal reached.reverse) (step : component.IsStep) :
    IsNormal (normalStep reached component).reverse := by
  rcases step.eq_parent_or_name with rfl | ⟨text, rfl⟩
  · cases reached with
    | nil =>
        exact normal.concat (Or.inr step) (by simp)
    | cons last below =>
        rw [List.reverse_cons] at normal
        cases last with
        | root => simpa [normalStep] using normal
        | current =>
            rcases normal.known .current (by simp) with impossible | impossible
            · cases impossible
            · exact absurd rfl impossible.ne_current
        | parent =>
            rw [show normalStep (.parent :: below) .parent = .parent :: .parent :: below from rfl,
              List.reverse_cons, List.reverse_cons]
            apply normal.concat (Or.inr step)
            intro earlier member
            refine ⟨by simp, fun _ => ?_⟩
            rcases List.mem_append.1 member with inBelow | isLast
            · exact (normal.mayPrecede_of_concat earlier inBelow).2 rfl
            · exact List.mem_singleton.1 isLast
        | name text => simpa [normalStep] using normal.of_append_left
  · rw [normalStep_name, List.reverse_cons]
    exact normal.append_names (by simpa using step) (by simp)

theorem isNormal_foldl_normalStep {reached steps : List Component}
    (normal : IsNormal reached.reverse) (allSteps : ∀ component ∈ steps, component.IsStep) :
    IsNormal (steps.foldl normalStep reached).reverse := by
  induction steps generalizing reached with
  | nil => exact normal
  | cons component steps ih =>
      apply ih
      · exact isNormal_normalStep normal (allSteps component (by simp))
      · intro other member
        exact allSteps other (List.mem_cons_of_mem _ member)

/-- The place that a lead alone reaches: a leading `.` does not count. -/
def Lead.reached : Lead → List Component
  | .root => [.root]
  | .current => []
  | .plain => []

theorem foldl_normalStep_lead (lead : Lead) :
    lead.components.foldl normalStep [] = lead.reached := by
  cases lead <;> rfl

theorem reached_leadOf (text : List Char) :
    (leadOf text).reached = if text.head? = some '/' then [.root] else [] := by
  rw [leadOf]
  split
  · rfl
  · split <;> rfl

theorem normalComponents_components (path : Path) :
    normalComponents path.components =
      ((stepsOf path.text.toList).foldl normalStep (leadOf path.text.toList).reached).reverse := by
  rw [components_eq, normalComponents, List.foldl_append, foldl_normalStep_lead]

theorem isNormal_reached (lead : Lead) : IsNormal lead.reached.reverse := by
  cases lead with
  | root => exact IsNormal.nil.concat (Or.inl rfl) (by simp)
  | current => exact IsNormal.nil
  | plain => exact IsNormal.nil

theorem isNormal_normalComponents (path : Path) : IsNormal (normalComponents path.components) := by
  rw [normalComponents_components]
  apply isNormal_foldl_normalStep (isNormal_reached _)
  intro component member
  exact isStep_of_mem_stepsOf member

theorem foldl_normalStep_eq_append {reached steps : List Component}
    (normal : IsNormal (reached.reverse ++ steps)) :
    steps.foldl normalStep reached = steps.reverse ++ reached := by
  induction steps generalizing reached with
  | nil => rfl
  | cons component steps ih =>
      rw [List.append_cons] at normal
      have allowed := normal.of_append_left.mayPrecede_of_concat
      have pushed : normalStep reached component = component :: reached := by
        cases reached with
        | nil =>
            rcases normal.known component (by simp) with rfl | step
            · rfl
            · rcases step.eq_parent_or_name with rfl | ⟨text, rfl⟩ <;> rfl
        | cons last below =>
            have lastAllowed : MayPrecede last component := allowed last (by simp)
            rcases normal.known component (by simp) with rfl | step
            · exact absurd rfl lastAllowed.1
            · rcases step.eq_parent_or_name with rfl | ⟨text, rfl⟩
              · rw [lastAllowed.2 rfl]
                rfl
              · exact normalStep_name _ text
      rw [List.foldl_cons, pushed, ih (by simpa using normal)]
      simp

/-- Normal lists are left alone. -/
theorem normalComponents_of_isNormal {components : List Component} (normal : IsNormal components) :
    normalComponents components = components := by
  rw [normalComponents, foldl_normalStep_eq_append (by simpa using normal)]
  simp

section Upward

variable {count : Nat}

theorem isNormal_replicate_parent (count : Nat) : IsNormal (List.replicate count .parent) := by
  constructor
  · rw [List.pairwise_replicate]
    exact Or.inr ⟨by simp, fun _ => rfl⟩
  · intro component member
    rw [(List.mem_replicate.1 member).2]
    exact Or.inr ⟨['.', '.'], by decide, rfl⟩

/-- Nothing cancels a `..`, so those that were reached first stay. -/
theorem suffix_foldl_normalStep {reached : List Component}
    (climbed : List.replicate count .parent <:+ reached) (steps : List Component) :
    List.replicate count .parent <:+ steps.foldl normalStep reached := by
  induction steps generalizing reached with
  | nil => exact climbed
  | cons step steps ih =>
      apply ih
      fun_cases normalStep reached step with
      | case1 => exact climbed
      | case2 text below =>
          rcases List.suffix_cons_iff.1 climbed with whole | kept
          · have member : .name text ∈ List.replicate count Component.parent := by simp [whole]
            cases (List.mem_replicate.1 member).2
          · exact kept
      | case3 => exact climbed
      | case4 => exact climbed.trans (List.suffix_cons _ _)

/-- The normal form keeps leading `..`s. -/
theorem prefix_normalComponents {components : List Component}
    (climbs : List.replicate count .parent <+: components) :
    List.replicate count .parent <+: normalComponents components := by
  rcases climbs with ⟨steps, rfl⟩
  have start : (List.replicate count Component.parent).foldl normalStep [] =
      List.replicate count .parent := by
    rw [foldl_normalStep_eq_append (isNormal_replicate_parent count), List.reverse_replicate,
      List.append_nil]
  rw [normalComponents, List.foldl_append, start, ← List.reverse_suffix, List.reverse_reverse,
    List.reverse_replicate]
  exact suffix_foldl_normalStep List.suffix_rfl steps

end Upward

theorem split_render {steps : List Component} (nonempty : steps ≠ [])
    (allSteps : ∀ step ∈ steps, step.IsStep) :
    Text.split '/' (Text.join '/' (steps.map fun step => step.render.toList)) =
      steps.map fun step => step.render.toList := by
  apply Text.split_join (by simpa using nonempty)
  intro piece member
  rcases List.mem_map.1 member with ⟨step, stepMem, rfl⟩
  exact Component.slash_not_mem_render (allSteps step stepMem)

theorem filterMap_ofSegment?_render {steps : List Component}
    (allSteps : ∀ step ∈ steps, step.IsStep) :
    (steps.map fun step => step.render.toList).filterMap Component.ofSegment? = steps := by
  induction steps with
  | nil => rfl
  | cons first rest ih =>
      rw [List.map_cons, List.filterMap_cons_some (Component.ofSegment?_render
        (allSteps first (by simp))), ih fun step member => allSteps step (by simp [member])]

theorem stepsOf_render {steps : List Component} (allSteps : ∀ step ∈ steps, step.IsStep) :
    stepsOf (Text.join '/' (steps.map fun step => step.render.toList)) = steps := by
  by_cases empty : steps = []
  · subst empty
    decide
  · rw [stepsOf, split_render empty allSteps, filterMap_ofSegment?_render allSteps]

theorem leadOf_render {steps : List Component} (allSteps : ∀ step ∈ steps, step.IsStep) :
    leadOf (Text.join '/' (steps.map fun step => step.render.toList)) = .plain := by
  cases steps with
  | nil => decide
  | cons first rest =>
      have step : first.IsStep := allSteps first (by simp)
      have pieces := split_render (List.cons_ne_nil first rest) allSteps
      exact leadOf_eq_plain pieces step.render_ne_nil step.render_ne_dot

theorem toList_intercalate_render (steps : List Component) :
    ("/".intercalate (steps.map Component.render)).toList =
      Text.join '/' (steps.map fun step => step.render.toList) := by
  rw [String.toList_intercalate, List.map_map]
  rfl

theorem toList_ofComponents_root (steps : List Component) :
    (ofComponents (.root :: steps)).text.toList =
      [] ++ '/' :: Text.join '/' (steps.map fun step => step.render.toList) := by
  simp [ofComponents, String.toList_append, ← toList_intercalate_render]

theorem toList_ofComponents_steps {steps : List Component}
    (allSteps : ∀ step ∈ steps, step.IsStep) :
    (ofComponents steps).text.toList =
      Text.join '/' (steps.map fun step => step.render.toList) := by
  rw [← toList_intercalate_render]
  cases steps with
  | nil => rfl
  | cons first rest =>
      cases first with
      | root => exact absurd rfl (allSteps .root (by simp)).ne_root
      | current => rfl
      | parent => rfl
      | name text => rfl

/-- The plainest text of a normal list has exactly its components. -/
theorem components_ofComponents {components : List Component} (normal : IsNormal components) :
    (ofComponents components).components = components := by
  cases components with
  | nil => decide
  | cons first rest =>
      have restSteps := normal.isStep_of_mem_tail
      rcases normal.known first (by simp) with rfl | step
      · rw [components_eq, toList_ofComponents_root, stepsOf_append_slash_cons, stepsOf_nil,
          stepsOf_render restSteps]
        rfl
      · have allSteps : ∀ step ∈ first :: rest, step.IsStep := by
          simpa using ⟨step, restSteps⟩
        rw [components_eq, toList_ofComponents_steps allSteps, leadOf_render allSteps,
          stepsOf_render allSteps]
        rfl

/-- The components of the normal form are those computed from the components. -/
theorem components_normalize (path : Path) :
    path.normalize.components = normalComponents path.components :=
  components_ofComponents (isNormal_normalComponents path)

theorem isNormal_components_normalize (path : Path) : IsNormal path.normalize.components := by
  rw [components_normalize]
  exact isNormal_normalComponents path

/-- The right side of a join is taken from the place that the left side reaches. -/
theorem normalComponents_join {base tail : Path} (relative : tail.isAbsolute = false) :
    normalComponents (base.join tail).components =
      ((stepsOf tail.text.toList).foldl normalStep
        (normalComponents base.components).reverse).reverse := by
  rw [normalComponents_components, normalComponents_components, stepsOf_join relative,
    List.foldl_append, List.reverse_reverse]
  by_cases empty : base.text = ""
  · -- Only here does the lead of the right side survive, and it cannot be the root.
    have joined : (base.join tail).text = tail.text := by simp [join, relative, empty]
    rw [joined, empty, reached_leadOf, reached_leadOf, if_neg (isAbsolute_eq_false_iff.1 relative)]
    rfl
  · rw [leadOf_join relative empty]

end SourceTree.Path
