import SourceTree.Files.Store
import SourceTree.Proofs.Path.Walk
import SourceTree.Reference.Resolve

/-!
# Places

The place that a path names is told without text: from where it starts, how often it climbs, and
which names follow. It is read off the components from left to right. A `..` cancels the name before
it; where there is none, it stays at the root and otherwise climbs once more.

The normal form is the plainest spelling of the place. So two paths name the same place exactly if
their normal forms have the same text, and whatever is computed from the normal form alone, such as
what a reference leads to, does not depend on how a place is spelled.
-/

namespace SourceTree.Path

/-- Where a path leads. -/
inductive Place where
  /-- The names below the root. -/
  | absolute (names : List String)
  /-- How often to climb from where the path starts, and the names below that. -/
  | relative (climbs : Nat) (names : List String)
  deriving DecidableEq, Repr

namespace Place

/-- The place of the empty path. -/
def start : Place := .relative 0 []

/-- The place that names lead to, from above. -/
def enter : Place → List String → Place
  | .absolute front, names => .absolute (front ++ names)
  | .relative climbs front, names => .relative climbs (front ++ names)

/-- The place that a component leads to from another place. -/
def step : Place → Component → Place
  | _, .root => .absolute []
  | place, .current => place
  | .absolute names, .parent => .absolute names.dropLast
  | .relative climbs [], .parent => .relative (climbs + 1) []
  | .relative climbs names, .parent => .relative climbs names.dropLast
  | place, .name text => place.enter [text]

/-- The components that lead to a place without a detour. -/
def components : Place → List Component
  | .absolute names => .root :: names.map .name
  | .relative climbs names => List.replicate climbs .parent ++ names.map .name

/-- The plainest text that leads to a place. -/
def text : Place → String
  | .absolute names => "/" ++ "/".intercalate names
  | .relative climbs names => "/".intercalate (List.replicate climbs ".." ++ names)

variable {steps : List Component}

theorem components_enter (place : Place) (names : List String) :
    (place.enter names).components = place.components ++ names.map .name := by
  cases place <;> simp [enter, components]

theorem foldl_step_names (place : Place) (names : List String) :
    (names.map .name).foldl step place = place.enter names := by
  induction names generalizing place with
  | nil => cases place <;> simp [enter]
  | cons name names ih =>
      rw [List.map_cons, List.foldl_cons, ih]
      cases place <;> simp [step, enter]

theorem foldl_step_climbs (climbs more : Nat) :
    (List.replicate more .parent).foldl step (.relative climbs []) =
      .relative (climbs + more) [] := by
  induction more generalizing climbs with
  | zero => rfl
  | succ more ih =>
      rw [List.replicate_succ, List.foldl_cons, step, ih]
      congr 1
      omega

/-- The components of a place lead to it. -/
theorem foldl_step_components (place : Place) : place.components.foldl step start = place := by
  cases place with
  | absolute names =>
      rw [components, List.foldl_cons, foldl_step_names]
      rfl
  | relative climbs names =>
      rw [components, List.foldl_append, start, foldl_step_climbs, foldl_step_names, Nat.zero_add]
      rfl

/-- A step goes on from a place as it does from the components of the place. -/
theorem reverse_normalStep (place : Place) {component : Component} (isStep : component.IsStep) :
    (normalStep place.components.reverse component).reverse =
      (place.step component).components := by
  rcases isStep.eq_parent_or_name with rfl | ⟨text, rfl⟩
  · cases place with
    | absolute names =>
        rcases List.eq_nil_or_concat names with rfl | ⟨front, last, rfl⟩
        · rfl
        · simp [components, step, normalStep]
    | relative climbs names =>
        rcases List.eq_nil_or_concat names with rfl | ⟨front, last, rfl⟩
        · -- The first `..` stands on nothing, every later one on another.
          cases climbs <;> simp [components, step, normalStep, List.replicate_succ']
        · simp [components, step, normalStep]
  · rw [normalStep_name, List.reverse_cons, List.reverse_reverse, step, components_enter]
    rfl

theorem reverse_foldl_normalStep (place : Place) (allSteps : ∀ step ∈ steps, step.IsStep) :
    (steps.foldl normalStep place.components.reverse).reverse =
      (steps.foldl step place).components := by
  induction steps generalizing place with
  | nil => exact List.reverse_reverse _
  | cons component steps ih =>
      have here := place.reverse_normalStep (allSteps component (by simp))
      have onward := ih (place.step component) fun other member => allSteps other (by simp [member])
      rw [← here, List.reverse_reverse] at onward
      exact onward

/-- The text of a place is that of its components. -/
theorem ofComponents_components (place : Place) : ofComponents place.components = ⟨place.text⟩ := by
  have named (names : List String) : (names.map Component.name).map Component.render = names := by
    simp [Component.render, Function.comp_def]
  have climbed (climbs : Nat) :
      (List.replicate climbs Component.parent).map Component.render =
        List.replicate climbs ".." := by
    rw [List.map_replicate]
    rfl
  cases place with
  | absolute names => rw [components, ofComponents, named, text]
  | relative climbs names =>
      rw [components, ofComponents, List.map_append, named, climbed, text]
      -- Neither a `..` nor a name is taken for the root.
      intro steps shape
      have member : Component.root ∈ List.replicate climbs .parent ++ names.map .name := by
        simp [shape]
      simp at member

end Place

/-- The place that a path names. -/
def place (path : Path) : Place :=
  path.components.foldl Place.step .start

variable {path other base tail : Path}

/-- The normal form has the components of the place. -/
theorem normalComponents_eq_place (path : Path) :
    normalComponents path.components = path.place.components := by
  have lead : (leadOf path.text.toList).reached =
      ((leadOf path.text.toList).components.foldl Place.step .start).components.reverse := by
    cases leadOf path.text.toList <;> rfl
  rw [normalComponents_components, lead, place, components_eq, List.foldl_append]
  exact Place.reverse_foldl_normalStep _ fun _ => isStep_of_mem_stepsOf

theorem components_normalize_eq_place (path : Path) :
    path.normalize.components = path.place.components := by
  rw [components_normalize, normalComponents_eq_place]

theorem normalize_eq_text_place (path : Path) : path.normalize = ⟨path.place.text⟩ := by
  rw [normalize, normalComponents_eq_place, Place.ofComponents_components]

theorem place_normalize (path : Path) : path.normalize.place = path.place := by
  rw [place, components_normalize_eq_place, Place.foldl_step_components]

/-- Paths that name the same place are those with the same normal form. -/
theorem normalize_eq_iff : path.normalize = other.normalize ↔ path.place = other.place := by
  constructor
  · intro same
    rw [← place_normalize path, ← place_normalize other, same]
  · intro same
    rw [normalize_eq_text_place, normalize_eq_text_place, same]

theorem normalize_join (base tail : Path) :
    (base.join tail).normalize = (base.normalize.join tail).normalize := by
  cases absolute : tail.isAbsolute with
  | true => simp [join, absolute]
  | false =>
      have normal := isNormal_normalComponents base
      rw [normalize, normalize, normalComponents_join absolute, normalComponents_join absolute,
        components_normalize, normalComponents_of_isNormal normal]

/-- There is no `.` in the text, and a `..` stands only in front of a relative path. -/
structure IsCanonical (path : Path) : Prop where
  dot_not_mem : ['.'] ∉ Text.split '/' path.text.toList
  shape :
    (path.isAbsolute = true ∧ ∃ names : List String, path.components = .root :: names.map .name) ∨
    (path.isAbsolute = false ∧ ∃ (climbs : Nat) (names : List String),
      path.components = List.replicate climbs .parent ++ names.map .name)

theorem root_mem_components (absolute : path.isAbsolute = true) : .root ∈ path.components := by
  rw [isAbsolute, beq_iff_eq] at absolute
  rw [components_eq, leadOf, if_pos absolute]
  exact List.mem_cons_self

theorem dot_not_mem_split_spell {lead : Lead} {steps : List Component} (noDot : lead ≠ .current)
    (allSteps : ∀ step ∈ steps, step.IsStep) :
    ['.'] ∉ Text.split '/' (spell lead steps).text.toList := by
  have inSteps :
      ['.'] ∉ Text.split '/' (Text.join '/' (steps.map fun step => step.render.toList)) := by
    by_cases empty : steps = []
    · rw [empty]
      decide
    · rw [split_render empty allSteps]
      intro member
      rcases List.mem_map.1 member with ⟨step, stepMem, dot⟩
      exact (allSteps step stepMem).render_ne_dot dot
  rw [toList_spell noDot]
  split
  · simpa [Text.split_separator_cons] using inSteps
  · exact inSteps

theorem isCanonical_normalize (path : Path) : path.normalize.IsCanonical := by
  constructor
  · have normal := isNormal_normalComponents path
    rcases normal.exists_lead with ⟨lead, steps, noDot, shape, allSteps⟩
    rw [normalize, shape, ofComponents_eq_spell noDot allSteps]
    exact dot_not_mem_split_spell noDot allSteps
  · have shape := components_normalize_eq_place path
    cases place : path.place with
    | absolute names =>
        left
        refine ⟨?_, names, by rw [shape, place, Place.components]⟩
        rw [normalize_eq_text_place, place]
        simp [isAbsolute, Place.text]
    | relative climbs names =>
        right
        rw [place, Place.components] at shape
        refine ⟨?_, climbs, names, shape⟩
        rw [← Bool.not_eq_true]
        intro absolute
        have member := root_mem_components absolute
        rw [shape] at member
        simp at member

/-- The path that a reference in `source` is written for. -/
def refer (source : Path) (specifier : String) : Path :=
  (source.parent?.getD ⟨""⟩).join ⟨specifier⟩

/-- What a reference leads to depends on the place that it names, not on how it is spelled. -/
theorem resolve_congr {σ : Type} [FileSystem σ] {source otherSource : Path}
    {specifier otherSpecifier : String} (files : σ) (extensions : List String)
    (same : (source.refer specifier).place = (otherSource.refer otherSpecifier).place) :
    Reference.resolve files extensions source specifier =
      Reference.resolve files extensions otherSource otherSpecifier := by
  have target : (source.refer specifier).normalize = (otherSource.refer otherSpecifier).normalize :=
    normalize_eq_iff.2 same
  exact congrArg (Reference.resolveTarget files extensions) target

/-- The normal form is the plainest spelling of the place that a path names, and takes the place of
the path in joins and for references. -/
theorem normalize_spells_place :
    (∀ path : Path, path.components.foldl tread ⟨""⟩ = path.normalize ∧
      path.normalize.text = path.place.text ∧ path.normalize.place = path.place ∧
        path.normalize.IsCanonical ∧ path.normalize.normalize = path.normalize) ∧
    (∀ base tail : Path, (base.join tail).normalize = (base.normalize.join tail).normalize) ∧
    (∀ path other : Path,
      path.place = other.place ↔ path.normalize.text = other.normalize.text) ∧
    (∀ (σ : Type) [FileSystem σ] (files : σ) (extensions : List String)
      (source otherSource : Path) (specifier otherSpecifier : String),
      (source.refer specifier).place = (otherSource.refer otherSpecifier).place →
        Reference.resolve files extensions source specifier =
          Reference.resolve files extensions otherSource otherSpecifier) := by
  refine ⟨fun path => ?_, normalize_join, fun path other => ?_, ?_⟩
  · refine ⟨foldl_tread_components path, ?_, place_normalize path, isCanonical_normalize path, ?_⟩
    · rw [normalize_eq_text_place]
    · exact normalize_eq_iff.2 (place_normalize path)
  · rw [← normalize_eq_iff]
    constructor
    · exact congrArg Path.text
    · exact congrArg Path.mk
  · intro σ _ files extensions source otherSource specifier otherSpecifier same
    exact resolve_congr files extensions same

/-- Two files refer to one place in different words. Nothing is there, and both ask for the same
placeholder. -/
theorem normalize_spells_place_sharedTarget :
    (refer ⟨"out/src/b.js"⟩ "./c/.././lib/x/").place =
        (refer ⟨"out/src/app/a.js"⟩ "./../lib//x").place ∧
      Reference.resolve Store.empty [".js"] ⟨"out/src/app/a.js"⟩ "./../lib//x" =
        .missing ⟨"out/src/lib/x.js"⟩ ∧
      Reference.resolve Store.empty [".js"] ⟨"out/src/b.js"⟩ "./c/.././lib/x/" =
        .missing ⟨"out/src/lib/x.js"⟩ := by
  have same : (refer ⟨"out/src/b.js"⟩ "./c/.././lib/x/").place =
      (refer ⟨"out/src/app/a.js"⟩ "./../lib//x").place := by
    decide +kernel
  have missing : Reference.resolve Store.empty [".js"] ⟨"out/src/app/a.js"⟩ "./../lib//x" =
      .missing ⟨"out/src/lib/x.js"⟩ := by
    decide +kernel
  have shared := normalize_spells_place.2.2.2 Store Store.empty [".js"] _ _ _ _ same
  exact ⟨same, missing, shared.trans missing⟩

end SourceTree.Path
