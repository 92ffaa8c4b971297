import SourceTree.Proofs.Path.FileName
import SourceTree.Proofs.Path.Parent
import SourceTree.Proofs.Path.Suffix

/-!
# Names in paths made from others

Going to the parent, joining and normalizing make no new names: a name of the result is a name of
one of the paths that it was made from, and its characters stand in the text there. Only a suffix
changes a name, the last one, and it makes it longer.
-/

namespace SourceTree.Path

variable {path base tail : Path} {name : String} {symbol : Char}

theorem name_mem_components_iff :
    .name name ∈ path.components ↔ .name name ∈ stepsOf path.text.toList := by
  rw [components_eq, List.mem_append, or_iff_right]
  cases leadOf path.text.toList <;> simp [Lead.components]

theorem mem_text_of_mem_name (member : .name name ∈ path.components)
    (inName : symbol ∈ name.toList) : symbol ∈ path.text.toList := by
  rcases List.mem_filterMap.1 (name_mem_components_iff.1 member) with ⟨segment, pieceMem, shape⟩
  rw [Component.eq_render_of_ofSegment? shape] at pieceMem
  exact Text.mem_of_mem_of_mem_split pieceMem inName

theorem name_mem_of_parent? {parent : Path} (found : path.parent? = some parent)
    (member : .name name ∈ parent.components) : .name name ∈ path.components := by
  rw [components_of_parent? found] at member
  exact List.dropLast_subset _ member

theorem name_mem_of_join (member : .name name ∈ (base.join tail).components) :
    .name name ∈ base.components ∨ .name name ∈ tail.components := by
  cases absolute : tail.isAbsolute with
  | true =>
      rw [join, absolute, if_pos rfl] at member
      exact Or.inr member
  | false =>
      rw [name_mem_components_iff, stepsOf_join absolute, List.mem_append] at member
      rwa [name_mem_components_iff, name_mem_components_iff]

theorem normalStep_subset (reached : List Component) (step : Component) :
    normalStep reached step ⊆ step :: reached := by
  fun_cases normalStep reached step with
  | case1 => exact List.subset_cons_self _ _
  | case2 text below => exact List.subset_cons_of_subset _ (List.subset_cons_self _ _)
  | case3 => exact List.subset_cons_self _ _
  | case4 => exact List.Subset.refl _

theorem foldl_normalStep_subset (reached steps : List Component) :
    steps.foldl normalStep reached ⊆ steps ++ reached := by
  induction steps generalizing reached with
  | nil => exact List.Subset.refl _
  | cons step steps ih =>
      intro component member
      rcases List.mem_append.1 (ih _ member) with later | here
      · exact List.mem_cons_of_mem _ (List.mem_append_left _ later)
      · rcases List.mem_cons.1 (normalStep_subset reached step here) with rfl | earlier
        · exact List.mem_cons_self
        · exact List.mem_cons_of_mem _ (List.mem_append_right _ earlier)

theorem normalComponents_subset (steps : List Component) : normalComponents steps ⊆ steps := by
  intro component member
  have reached := foldl_normalStep_subset [] steps (List.mem_reverse.1 member)
  rwa [List.append_nil] at reached

/-- In the text of a list of components there are slashes and the texts of the components. -/
theorem exists_of_mem_ofComponents {components : List Component}
    (member : symbol ∈ (ofComponents components).text.toList) :
    symbol = '/' ∨ ∃ component ∈ components, symbol ∈ component.render.toList := by
  have written : ∀ steps : List Component,
      symbol ∈ ("/".intercalate (steps.map Component.render)).toList →
        symbol = '/' ∨ ∃ component ∈ steps, symbol ∈ component.render.toList := by
    intro steps inside
    rw [toList_intercalate_render] at inside
    rcases Text.mem_of_mem_join inside with slash | ⟨piece, pieceMem, inPiece⟩
    · exact Or.inl slash
    · rcases List.mem_map.1 pieceMem with ⟨component, componentMem, rfl⟩
      exact Or.inr ⟨component, componentMem, inPiece⟩
  rw [ofComponents.eq_def] at member
  split at member
  next steps =>
    rw [String.toList_append, List.mem_append] at member
    rcases member with slash | inside
    · exact Or.inl (by simpa using slash)
    · rcases written steps inside with slash | ⟨component, componentMem, inComponent⟩
      · exact Or.inl slash
      · exact Or.inr ⟨component, List.mem_cons_of_mem _ componentMem, inComponent⟩
  next => exact written components member

/-- In the text of a normal form there are slashes, dots and the names of the path. -/
theorem exists_name_of_mem_normalize (member : symbol ∈ path.normalize.text.toList)
    (notSlash : symbol ≠ '/') (notDot : symbol ≠ '.') :
    ∃ name, .name name ∈ path.components ∧ symbol ∈ name.toList := by
  rcases (exists_of_mem_ofComponents member).resolve_left notSlash with
    ⟨component, componentMem, inComponent⟩
  have known := normalComponents_subset _ componentMem
  cases component with
  | root => exact absurd (by simpa [Component.render] using inComponent) notSlash
  | current => exact absurd (by simpa [Component.render] using inComponent) notDot
  | parent => exact absurd (by simpa [Component.render] using inComponent) notDot
  | name name => exact ⟨name, known, inComponent⟩

/-- A path that has a file name ends with the step of this name. -/
theorem exists_stepsOf_of_fileName? (named : path.fileName? = some name) :
    ∃ front, stepsOf path.text.toList = front ++ [.name name] := by
  have last := fileName?_eq_some_iff.1 named
  rw [components_eq] at last
  rcases List.eq_nil_or_concat (stepsOf path.text.toList) with none | ⟨front, step, shape⟩
  · rw [none, List.append_nil] at last
    cases lead : leadOf path.text.toList <;> simp [lead, Lead.components] at last
  · rw [shape, List.concat_eq_append, ← List.append_assoc, List.getLast?_concat,
      Option.some.injEq] at last
    exact ⟨front, by rw [shape, List.concat_eq_append, last]⟩

/-- The normal form of a join ends with the name that the right side ends with. -/
theorem exists_normalComponents_join (named : tail.fileName? = some name) :
    ∃ front, normalComponents (base.join tail).components = front ++ [.name name] := by
  obtain ⟨steps, shape⟩ : ∃ steps, stepsOf (base.join tail).text.toList = steps ++ [.name name] := by
    rcases exists_stepsOf_of_fileName? named with ⟨front, shape⟩
    cases absolute : tail.isAbsolute with
    | true =>
        rw [join, absolute, if_pos rfl]
        exact ⟨front, shape⟩
    | false =>
        rw [stepsOf_join absolute, shape, ← List.append_assoc]
        exact ⟨_, rfl⟩
  rw [normalComponents_components, shape, List.foldl_append, List.foldl_cons, List.foldl_nil,
    normalStep_name, List.reverse_cons]
  exact ⟨_, rfl⟩

/-- A name with more behind it is a name, if what is behind it has no slash. -/
theorem stepsOf_name_append {suffix : String} (step : (Component.name name).IsStep)
    (slashless : '/' ∉ suffix.toList) :
    stepsOf (name.toList ++ suffix.toList) = [.name (name ++ suffix)] := by
  have nameSlashless : '/' ∉ name.toList := Component.slash_not_mem_render step
  have notDots : name.toList ≠ ['.', '.'] := by
    intro dots
    have counts := Component.ofSegment?_render step
    simp [Component.render, dots, Component.ofSegment?] at counts
  obtain ⟨first, rest, shape⟩ := List.exists_cons_of_ne_nil step.render_ne_nil
  have notDot := step.render_ne_dot
  have counted : Component.ofSegment? (name.toList ++ suffix.toList) =
      some (.name (String.ofList (name.toList ++ suffix.toList))) := by
    rw [Component.render] at shape notDot
    rw [shape] at notDot notDots ⊢
    rw [Component.ofSegment?, if_neg, if_neg]
    · intro dots
      cases rest with
      | nil => simp_all
      | cons second rest => simp_all
    · rintro (empty | dot)
      · cases empty
      · simp_all
  rw [stepsOf, Text.split_of_not_mem (by simp [nameSlashless, slashless]),
    List.filterMap_cons_some counted, List.filterMap_nil, String.ofList_append,
    String.ofList_toList, String.ofList_toList]

/-- The file name of a normal form that ends with a name, with a suffix behind it. -/
theorem fileName?_withSuffix {front : List Component} {suffix : String}
    (normal : IsNormal (front ++ [.name name])) (slashless : '/' ∉ suffix.toList) :
    ((ofComponents (front ++ [.name name])).withSuffix suffix).fileName? =
      some (name ++ suffix) := by
  have step : (Component.name name).IsStep :=
    (normal.known _ (by simp)).resolve_left (by simp)
  apply fileName?_of_concat
  rw [components_withSuffix normal step, Component.render, stepsOf_name_append step slashless]

end SourceTree.Path
