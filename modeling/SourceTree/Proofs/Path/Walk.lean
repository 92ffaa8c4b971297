import SourceTree.Proofs.Path.Normal
import SourceTree.Proofs.Path.Parent

/-!
# Normalizing on the text

The normal form can be built as a text, component by component: a name is joined onto the text so
far, and the last component of that text decides whether a `..` takes it to its parent, is joined
onto it too, or is dropped. Nothing is remembered but the text, so it is read again at every step.

Each text on the way is the plainest one of a normal list of components. On such texts joining a
component adds it at the end, going to the parent takes the last one away, and the last component
read is the last one of the list. So the walk does what the steps onto a normal list do.
-/

namespace SourceTree.Path

/-- One component further, on the text reached so far. -/
def tread (reached : Path) (step : Component) : Path :=
  match step with
  | .current => reached
  | .parent =>
      match reached.components.getLast? with
      | some (.name _) => reached.parent?.getD reached
      | some .root => reached
      | _ => reached.join ⟨".."⟩
  | step => reached.join ⟨step.render⟩

theorem eq_of_toList {path other : Path} (same : path.text.toList = other.text.toList) :
    path = other :=
  congrArg Path.mk (String.toList_injective same)

/-- A lead and the texts of some steps. -/
def spell (lead : Lead) (steps : List Component) : Path :=
  renderSegments lead (steps.map fun step => step.render.toList)

section Spell

variable {lead : Lead} {steps : List Component} {last : Component}

theorem toList_spell (noDot : lead ≠ .current) (steps : List Component) :
    (spell lead steps).text.toList =
      (if lead = .root then ['/'] else []) ++
        Text.join '/' (steps.map fun step => step.render.toList) := by
  cases lead with
  | root => simp [spell, renderSegments]
  | current => exact absurd rfl noDot
  | plain => simp [spell, renderSegments]

theorem leadAndSegments_spell (noDot : lead ≠ .current) (nonempty : steps ≠ [])
    (allSteps : ∀ step ∈ steps, step.IsStep) :
    (spell lead steps).leadAndSegments = (lead, steps.map fun step => step.render.toList) := by
  have pieces := split_render nonempty allSteps
  rw [leadAndSegments, toList_spell noDot]
  cases lead with
  | root => exact congrArg (Prod.mk Lead.root) pieces
  | current => exact absurd rfl noDot
  | plain =>
      rcases List.exists_cons_of_ne_nil nonempty with ⟨first, rest, rfl⟩
      have firstStep : first.IsStep := allSteps first (by simp)
      simp only [reduceCtorEq, if_false, List.nil_append]
      split
      next behind slash =>
        rw [slash, Text.split_separator_cons] at pieces
        exact absurd (List.cons.inj pieces).1.symm firstStep.render_ne_nil
      next =>
        rw [pieces]
        split
        next dot => exact absurd (List.cons.inj dot).1 firstStep.render_ne_dot
        next => rfl

theorem trimSegments_render (allSteps : ∀ step ∈ steps, step.IsStep) :
    trimSegments (steps.map fun step => step.render.toList) =
      steps.map fun step => step.render.toList := by
  rcases List.eq_nil_or_concat steps with rfl | ⟨front, last, rfl⟩
  · rfl
  · rw [List.concat_eq_append] at allSteps ⊢
    rw [List.map_append]
    exact trimSegments_concat (Component.ofSegment?_render (allSteps last (by simp)))

/-- The parent is the text without its last step. -/
theorem parent?_spell (noDot : lead ≠ .current)
    (allSteps : ∀ step ∈ steps ++ [last], step.IsStep) :
    (spell lead (steps ++ [last])).parent? = some (spell lead steps) := by
  have frontSteps : ∀ step ∈ steps, step.IsStep :=
    fun step member => allSteps step (List.mem_append_left _ member)
  have divided := leadAndSegments_spell noDot (by simp) allSteps
  simp only [parent?, divided, trimSegments_render allSteps]
  simp [trimSegments_render frontSteps, ← List.map_reverse, spell]

/-- A text that ends with a step is not empty and does not end with a slash. -/
theorem exists_getLast?_spell (noDot : lead ≠ .current) (steps : List Component)
    (isStep : last.IsStep) :
    ∃ symbol, (spell lead (steps ++ [last])).text.toList.getLast? = some symbol ∧
      symbol ≠ '/' := by
  rcases List.eq_nil_or_concat last.render.toList with none | ⟨front, symbol, rendered⟩
  · exact absurd none isStep.render_ne_nil
  · rw [List.concat_eq_append] at rendered
    refine ⟨symbol, ?_, ?_⟩
    · rw [toList_spell noDot, List.map_append, List.map_singleton, Text.join_append_cons,
        List.flatMap_nil, List.append_nil, rendered, ← List.append_assoc, ← List.append_assoc,
        List.getLast?_concat]
    · rintro rfl
      apply Component.slash_not_mem_render isStep
      simp [rendered]

/-- A step is joined on behind the others. -/
theorem join_spell (noDot : lead ≠ .current) (allSteps : ∀ step ∈ steps ++ [last], step.IsStep) :
    (spell lead steps).join ⟨last.render⟩ = spell lead (steps ++ [last]) := by
  have relative : isAbsolute ⟨last.render⟩ = false := by
    have isStep : last.IsStep := allSteps last (by simp)
    simpa using isAbsolute_of_slash_not_mem (Component.slash_not_mem_render isStep)
  apply eq_of_toList
  rcases List.eq_nil_or_concat steps with rfl | ⟨front, before, rfl⟩
  · have noText : Text.join '/' [] = [] := rfl
    cases lead with
    | root => simp [join, relative, spell, renderSegments, noText, Text.join_singleton]
    | current => exact absurd rfl noDot
    | plain => simp [join, relative, spell, renderSegments, noText, Text.join_singleton]
  · rw [List.concat_eq_append] at allSteps ⊢
    -- The text so far does not end with a slash, so it gets one.
    have isStep : before.IsStep := allSteps before (by simp)
    rcases exists_getLast?_spell noDot front isStep with ⟨symbol, ends, notSlash⟩
    have nonempty : (spell lead (front ++ [before])).text ≠ "" := by
      intro empty
      simp [empty] at ends
    simp only [join, relative, nonempty, ends, notSlash, String.isEmpty_iff, Option.some.injEq,
      Bool.false_eq_true, if_false, Bool.or_eq_true, beq_iff_eq, or_self]
    simp [toList_spell noDot, Text.join_append_cons]

end Spell

/-- The plainest text is a lead and steps. -/
theorem ofComponents_eq_spell {lead : Lead} {steps : List Component} (noDot : lead ≠ .current)
    (allSteps : ∀ step ∈ steps, step.IsStep) :
    ofComponents (lead.components ++ steps) = spell lead steps := by
  apply eq_of_toList
  rw [toList_spell noDot]
  cases lead with
  | root => exact toList_ofComponents_root steps
  | current => exact absurd rfl noDot
  | plain => exact toList_ofComponents_steps allSteps

section Tread

variable {front reached steps : List Component} {last component : Component}

/-- A normal list is a lead and steps. -/
theorem IsNormal.exists_lead (normal : IsNormal front) :
    ∃ (lead : Lead) (steps : List Component), lead ≠ .current ∧
      front = lead.components ++ steps ∧ ∀ step ∈ steps, step.IsStep := by
  cases front with
  | nil => exact ⟨.plain, [], by simp, rfl, by simp⟩
  | cons first rest =>
      have restSteps := normal.isStep_of_mem_tail
      rcases normal.known first (by simp) with rfl | isStep
      · exact ⟨.root, rest, by simp, rfl, restSteps⟩
      · refine ⟨.plain, first :: rest, by simp, rfl, ?_⟩
        simpa using ⟨isStep, restSteps⟩

theorem IsNormal.exists_spell (normal : IsNormal front) (isStep : last.IsStep) :
    ∃ (lead : Lead) (steps : List Component), lead ≠ .current ∧
      (∀ step ∈ steps ++ [last], step.IsStep) ∧ ofComponents front = spell lead steps ∧
        ofComponents (front ++ [last]) = spell lead (steps ++ [last]) := by
  rcases normal.exists_lead with ⟨lead, steps, noDot, rfl, allSteps⟩
  have moreSteps : ∀ step ∈ steps ++ [last], step.IsStep := by
    simpa [or_imp, forall_and] using ⟨allSteps, isStep⟩
  refine ⟨lead, steps, noDot, moreSteps, ofComponents_eq_spell noDot allSteps, ?_⟩
  rw [List.append_assoc]
  exact ofComponents_eq_spell noDot moreSteps

/-- Joining a step onto the text adds it to the list. -/
theorem join_ofComponents (normal : IsNormal front) (isStep : last.IsStep) :
    (ofComponents front).join ⟨last.render⟩ = ofComponents (front ++ [last]) := by
  rcases normal.exists_spell isStep with ⟨lead, steps, noDot, allSteps, short, long⟩
  rw [short, long]
  exact join_spell noDot allSteps

/-- The parent of the text takes the last step from the list. -/
theorem parent?_ofComponents (normal : IsNormal front) (isStep : last.IsStep) :
    (ofComponents (front ++ [last])).parent? = some (ofComponents front) := by
  rcases normal.exists_spell isStep with ⟨lead, steps, noDot, allSteps, short, long⟩
  rw [short, long]
  exact parent?_spell noDot allSteps

/-- What is decided by the text read again is what the list says. -/
theorem tread_ofComponents (normal : IsNormal reached.reverse) (isStep : component.IsStep) :
    tread (ofComponents reached.reverse) component =
      ofComponents (normalStep reached component).reverse := by
  have joined := join_ofComponents normal isStep
  rcases isStep.eq_parent_or_name with rfl | ⟨text, rfl⟩
  · simp only [tread, components_ofComponents normal, List.getLast?_reverse]
    cases reached with
    | nil => exact joined
    | cons last below =>
        rw [List.reverse_cons] at normal joined ⊢
        cases last with
        | root => simp [normalStep]
        | current =>
            rcases normal.known .current (by simp) with impossible | impossible
            · cases impossible
            · exact absurd rfl impossible.ne_current
        | parent => simpa [normalStep, Component.render] using joined
        | name text =>
            have isName := (normal.known (.name text) (by simp)).resolve_left (by simp)
            simp [normalStep, parent?_ofComponents normal.of_append_left isName]
  · rw [normalStep_name, List.reverse_cons]
    exact joined

theorem foldl_tread (normal : IsNormal reached.reverse)
    (allSteps : ∀ step ∈ steps, step.IsStep) :
    steps.foldl tread (ofComponents reached.reverse) =
      ofComponents (steps.foldl normalStep reached).reverse := by
  induction steps generalizing reached with
  | nil => rfl
  | cons component steps ih =>
      have isStep : component.IsStep := allSteps component (by simp)
      rw [List.foldl_cons, List.foldl_cons, tread_ofComponents normal isStep]
      apply ih (isNormal_normalStep normal isStep)
      intro other member
      exact allSteps other (List.mem_cons_of_mem _ member)

/-- The walk over the components of a path ends at its normal form. -/
theorem foldl_tread_components (path : Path) :
    path.components.foldl tread ⟨""⟩ = path.normalize := by
  have start : (leadOf path.text.toList).components.foldl tread ⟨""⟩ =
      ofComponents (leadOf path.text.toList).reached.reverse := by
    cases leadOf path.text.toList <;> rfl
  rw [normalize, normalComponents_components, components_eq, List.foldl_append, start]
  apply foldl_tread (isNormal_reached _)
  intro component member
  exact isStep_of_mem_stepsOf member

end Tread

end SourceTree.Path
