import Mathlib.Data.String.Basic
import SourceTree.Files.Disk
import SourceTree.Proofs.Path.Parent
import SourceTree.Proofs.Path.Within

/-!
# Legal paths

A path is legal if it is relative and made of names that a disk can hold, within the limits for
names and texts. Slashes may be repeated between the names. The components of such a path are its
names, and so are the steps of its route; its parent is legal again or empty. A name can be joined
onto it, but the longer text need not be within the limit.
-/

namespace SourceTree

/-- A name that an entry of a directory can have. -/
structure Disk.IsName (name : String) : Prop where
  nonempty : name ≠ ""
  slashless : '/' ∉ name.toList
  notCurrent : name ≠ "."
  notParent : name ≠ ".."
  noNul : Char.ofNat 0 ∉ name.toList
  size : name.utf8ByteSize ≤ Disk.nameLimit

theorem Disk.IsName.ofSegment?_eq {segment : List Char}
    (isName : Disk.IsName (String.ofList segment)) :
    Component.ofSegment? segment = some (.name (String.ofList segment)) := by
  have nonempty : segment ≠ [] := by
    rintro rfl
    exact isName.nonempty rfl
  have notCurrent : segment ≠ ['.'] := by
    rintro rfl
    exact isName.notCurrent rfl
  have notParent : segment ≠ ['.', '.'] := by
    rintro rfl
    exact isName.notParent rfl
  simp [Component.ofSegment?, nonempty, notCurrent, notParent]

theorem Component.name_injective : Function.Injective Component.name :=
  fun _ _ => Component.name.inj

namespace Path

variable {path : Path} {name : String} {inner : List String}

/-- The pieces between the slashes, empty ones included. -/
def segments (path : Path) : List (List Char) :=
  Text.split '/' path.text.toList

/-- The pieces that are not empty. -/
def names (path : Path) : List String :=
  (path.segments.filter (· ≠ [])).map String.ofList

/-- A relative path of names that a disk takes as they stand. That the first and the last segment
are not empty says that the path is neither empty nor absolute and has no slash at its end. -/
structure IsNamed (path : Path) : Prop where
  first : path.segments.head? ≠ some []
  last : path.segments.getLast? ≠ some []
  named : ∀ name ∈ path.names, Disk.IsName name

/-- Such a path with a text that is short enough to be looked up. -/
structure IsLegal (path : Path) : Prop extends path.IsNamed where
  size : path.text.utf8ByteSize ≤ Disk.textLimit

/-- No two slashes stand together, and none at an end. -/
def IsTight (path : Path) : Prop :=
  [] ∉ path.segments

/-- What is reached from a path by names, as a listing spells it. -/
def enter (path : Path) (names : List String) : Path :=
  names.foldl (fun path name => path.join ⟨name⟩) path

instance (name : String) : Decidable (Disk.IsName name) :=
  decidable_of_iff (name ≠ "" ∧ '/' ∉ name.toList ∧ name ≠ "." ∧ name ≠ ".." ∧
      Char.ofNat 0 ∉ name.toList ∧ name.utf8ByteSize ≤ Disk.nameLimit)
    ⟨fun ⟨nonempty, slashless, notCurrent, notParent, noNul, size⟩ =>
      ⟨nonempty, slashless, notCurrent, notParent, noNul, size⟩,
    fun ⟨nonempty, slashless, notCurrent, notParent, noNul, size⟩ =>
      ⟨nonempty, slashless, notCurrent, notParent, noNul, size⟩⟩

instance (path : Path) : Decidable path.IsLegal :=
  decidable_of_iff (path.segments.head? ≠ some [] ∧ path.segments.getLast? ≠ some [] ∧
      (∀ name ∈ path.names, Disk.IsName name) ∧ path.text.utf8ByteSize ≤ Disk.textLimit)
    ⟨fun ⟨first, last, named, size⟩ => ⟨⟨first, last, named⟩, size⟩,
    fun ⟨⟨first, last, named⟩, size⟩ => ⟨first, last, named, size⟩⟩

instance (path : Path) : Decidable path.IsTight :=
  inferInstanceAs (Decidable ([] ∉ path.segments))

theorem segments_ne_nil (path : Path) : path.segments ≠ [] :=
  Text.split_ne_nil '/' path.text.toList

theorem slashless_of_mem_segments {segment : List Char} (member : segment ∈ path.segments) :
    '/' ∉ segment :=
  Text.not_mem_of_mem_split member

theorem mem_names_iff : name ∈ path.names ↔ name ≠ "" ∧ name.toList ∈ path.segments := by
  simp only [names, List.mem_map, List.mem_filter, decide_eq_true_eq]
  constructor
  · rintro ⟨segment, ⟨member, nonempty⟩, rfl⟩
    simpa using ⟨nonempty, member⟩
  · rintro ⟨nonempty, member⟩
    exact ⟨name.toList, ⟨member, by simpa using nonempty⟩, String.ofList_toList⟩

theorem map_toList_names (path : Path) :
    path.names.map String.toList = path.segments.filter (· ≠ []) := by
  simp [names, Function.comp_def]

section Last

variable (last : path.segments.getLast? ≠ some [])

include last

theorem text_ne_of_last : path.text ≠ "" := by
  intro empty
  exact last (by simp [segments, empty, Text.split])

theorem getLast?_ne_of_last : path.text.toList.getLast? ≠ some '/' := by
  intro slash
  rcases List.getLast?_eq_some_iff.1 slash with ⟨front, shape⟩
  exact last (by simp [segments, shape, Text.split_append_separator_cons, Text.split])

end Last

/-- The steps of a text without dots are its names. -/
theorem filterMap_ofSegment?_eq {pieces : List (List Char)}
    (named : ∀ piece ∈ pieces, piece ≠ [] → Disk.IsName (String.ofList piece)) :
    pieces.filterMap Component.ofSegment? =
      ((pieces.filter (· ≠ [])).map String.ofList).map Component.name := by
  induction pieces with
  | nil => rfl
  | cons piece pieces ih =>
      have rest := ih fun other member => named other (List.mem_cons_of_mem _ member)
      by_cases empty : piece = []
      · simpa [empty, Component.ofSegment?] using rest
      · have counts := (named piece (by simp) empty).ofSegment?_eq
        simpa [empty, counts] using rest

namespace IsNamed

variable (isNamed : path.IsNamed)

include isNamed

theorem named_segment {segment : List Char} (member : segment ∈ path.segments)
    (nonempty : segment ≠ []) : Disk.IsName (String.ofList segment) := by
  apply isNamed.named
  rw [mem_names_iff]
  simpa using ⟨nonempty, member⟩

theorem exists_segments_cons : ∃ first rest, path.segments = first :: rest ∧ first ≠ [] := by
  rcases List.exists_cons_of_ne_nil path.segments_ne_nil with ⟨first, rest, shape⟩
  refine ⟨first, rest, shape, ?_⟩
  rintro rfl
  exact isNamed.first (by simp [shape])

theorem head?_ne : path.text.toList.head? ≠ some '/' := by
  intro slash
  rcases List.head?_eq_some_iff.1 slash with ⟨rest, shape⟩
  exact isNamed.first (by simp [segments, shape, Text.split_separator_cons])

theorem leadOf_eq : leadOf path.text.toList = .plain := by
  rcases isNamed.exists_segments_cons with ⟨first, rest, shape, nonempty⟩
  apply leadOf_eq_plain shape nonempty
  rintro rfl
  exact (isNamed.named_segment (by simp [shape]) nonempty).notCurrent rfl

theorem components_eq : path.components = path.names.map .name := by
  rw [Path.components_eq, isNamed.leadOf_eq, Lead.components, List.nil_append, stepsOf, names]
  exact filterMap_ofSegment?_eq fun _ => isNamed.named_segment

theorem map_name_prefix_iff : inner.map .name <+: path.components ↔ inner <+: path.names := by
  rw [isNamed.components_eq, List.prefix_map_iff_of_injective Component.name_injective]

theorem names_ne_nil : path.names ≠ [] := by
  rcases isNamed.exists_segments_cons with ⟨first, rest, shape, nonempty⟩
  simp [names, shape, nonempty]

theorem leadAndSegments_eq : path.leadAndSegments = (.plain, path.segments) := by
  rw [leadAndSegments]
  split
  next rest shape => exact absurd (by simp [shape]) isNamed.head?_ne
  next =>
    split
    next rest shape =>
      have member : ['.'] ∈ path.segments := by simp [segments, shape]
      exact absurd rfl (isNamed.named_segment member (by simp)).notCurrent
    next => rfl

end IsNamed

section Size

/-- The bytes of pieces, each with a slash. -/
def weight : List (List Char) → Nat
  | [] => 0
  | piece :: pieces => String.utf8Len piece + 1 + weight pieces

theorem weight_append (front back : List (List Char)) :
    weight (front ++ back) = weight front + weight back := by
  induction front with
  | nil => simp [weight]
  | cons piece front ih =>
      rw [List.cons_append, weight, weight]
      omega

theorem weight_le_of_sublist {pieces whole : List (List Char)} (part : pieces.Sublist whole) :
    weight pieces ≤ weight whole := by
  induction part with
  | slnil => simp
  | cons piece part ih =>
      rw [weight]
      omega
  | cons_cons piece part ih =>
      rw [weight, weight]
      omega

theorem utf8Len_join {pieces : List (List Char)} (nonempty : pieces ≠ []) :
    String.utf8Len (Text.join '/' pieces) + 1 = weight pieces := by
  induction pieces with
  | nil => exact absurd rfl nonempty
  | cons piece pieces ih =>
      cases pieces with
      | nil => simp [Text.join_singleton, weight]
      | cons next pieces =>
          have slash : Char.utf8Size '/' = 1 := by decide
          have rest := ih (by simp)
          simp only [weight] at rest ⊢
          rw [Text.join_cons_cons, String.utf8Len_append, String.utf8Len_cons, slash]
          omega

theorem size_eq_weight (path : Path) : path.text.utf8ByteSize + 1 = weight path.segments := by
  have joined : Text.join '/' path.segments = path.text.toList := Text.join_split '/' _
  rw [← utf8Len_join path.segments_ne_nil, joined, ← String.utf8ByteSize_ofList,
    String.ofList_toList]

end Size

section Parent

theorem segments_renderSegments {pieces : List (List Char)} (nonempty : pieces ≠ [])
    (slashless : ∀ piece ∈ pieces, '/' ∉ piece) :
    (renderSegments .plain pieces).segments = pieces := by
  simpa [segments, renderSegments] using Text.split_join nonempty slashless

theorem getLast?_trimSegments_ne (pieces : List (List Char)) :
    (trimSegments pieces).getLast? ≠ some [] := by
  intro empty
  rcases List.getLast?_eq_some_iff.1 empty with ⟨front, shape⟩
  have ends : (trimSegments pieces).reverse = [] :: front.reverse := by simp [shape]
  rcases exists_ofSegment?_of_trimSegments ends with ⟨component, counts⟩
  simp [Component.ofSegment?] at counts

theorem IsLegal.of_isPrefix (legal : path.IsLegal) {pieces : List (List Char)}
    (front : pieces <+: path.segments) (nonempty : pieces ≠ [])
    (last : pieces.getLast? ≠ some []) : (renderSegments .plain pieces).IsLegal := by
  have shape : (renderSegments .plain pieces).segments = pieces :=
    segments_renderSegments nonempty fun _ member => slashless_of_mem_segments (front.mem member)
  have first : pieces.head? = path.segments.head? := by
    rcases front with ⟨back, whole⟩
    rw [← whole, List.head?_append_of_ne_nil _ nonempty]
  refine ⟨⟨?_, by rwa [shape], ?_⟩, ?_⟩
  · rw [shape, first]
    exact legal.first
  · intro name member
    rw [mem_names_iff, shape] at member
    exact legal.named name (mem_names_iff.2 ⟨member.1, front.mem member.2⟩)
  · have part := weight_le_of_sublist front.sublist
    rw [← size_eq_weight path, ← shape, ← size_eq_weight] at part
    exact (Nat.le_of_succ_le_succ part).trans legal.size

/-- The parent of a legal path is legal or empty. -/
theorem IsLegal.exists_parent (legal : path.IsLegal) :
    ∃ parent, path.parent? = some parent ∧ parent.names = path.names.dropLast ∧
      (parent = ⟨""⟩ ∨ parent.IsLegal) := by
  rcases Text.exists_split_eq_concat '/' path.text.toList with ⟨init, last, shape⟩
  have cut : path.segments = init ++ [last] := shape
  have nonempty : last ≠ [] := by
    rintro rfl
    exact legal.last (by simp [cut])
  have counts := (legal.named_segment (by simp [cut]) nonempty).ofSegment?_eq
  have found : path.parent? = some (renderSegments .plain (trimSegments init)) := by
    simp [parent?, legal.leadAndSegments_eq, cut, trimSegments_concat counts]
  have kind : renderSegments .plain (trimSegments init) = ⟨""⟩ ∨
      (renderSegments .plain (trimSegments init)).IsLegal := by
    by_cases empty : trimSegments init = []
    · left
      simp [empty, renderSegments, Text.join]
    · right
      apply legal.of_isPrefix _ empty (getLast?_trimSegments_ne init)
      rw [cut]
      exact (trimSegments_isPrefix init).trans (List.prefix_append _ _)
  refine ⟨_, found, ?_, kind⟩
  have inner := components_of_parent? found
  rw [legal.components_eq, ← List.map_dropLast] at inner
  apply List.map_injective_iff.2 Component.name_injective
  rw [← inner]
  rcases kind with empty | parentLegal
  · rw [empty]
    decide
  · exact parentLegal.components_eq.symm

end Parent

section Enter

theorem segments_join (last : path.segments.getLast? ≠ some []) (isName : Disk.IsName name) :
    (path.join ⟨name⟩).segments = path.segments ++ [name.toList] := by
  have relative : isAbsolute ⟨name⟩ = false := by
    simpa using isAbsolute_of_slash_not_mem isName.slashless
  rcases join_toList relative (text_ne_of_last last) with ⟨front, joined, isFront | isFront⟩
  · rw [segments, joined, Text.split_append_separator_cons, Text.split_of_not_mem isName.slashless,
      ← isFront]
    rfl
  · exact absurd (by simp [isFront]) (getLast?_ne_of_last last)

theorem segments_enter (last : path.segments.getLast? ≠ some [])
    (named : ∀ name ∈ inner, Disk.IsName name) :
    (path.enter inner).segments = path.segments ++ inner.map String.toList := by
  induction inner generalizing path with
  | nil => simp [enter]
  | cons name inner ih =>
      have isName := named name (by simp)
      have joined := segments_join last isName
      have nonempty : (path.join ⟨name⟩).segments.getLast? ≠ some [] := by
        simp [joined, isName.nonempty]
      have inside := ih nonempty fun other member => named other (List.mem_cons_of_mem _ member)
      simpa [enter, joined] using inside

theorem names_enter (last : path.segments.getLast? ≠ some [])
    (named : ∀ name ∈ inner, Disk.IsName name) :
    (path.enter inner).names = path.names ++ inner := by
  have nonempty : (inner.map String.toList).filter (· ≠ []) = inner.map String.toList := by
    rw [List.filter_eq_self]
    intro segment member
    rcases List.mem_map.1 member with ⟨name, nameMem, rfl⟩
    simpa using (named name nameMem).nonempty
  rw [names, segments_enter last named, List.filter_append, nonempty, List.map_append, names]
  simp [Function.comp_def]

theorem names_join (last : path.segments.getLast? ≠ some []) (isName : Disk.IsName name) :
    (path.join ⟨name⟩).names = path.names ++ [name] := by
  have entered : (path.enter [name]).names = path.names ++ [name] :=
    names_enter last (by simpa using isName)
  simpa [enter] using entered

theorem IsNamed.join (isNamed : path.IsNamed) (isName : Disk.IsName name) :
    (path.join ⟨name⟩).IsNamed := by
  have shape := segments_join isNamed.last isName
  refine ⟨?_, ?_, ?_⟩
  · rw [shape, List.head?_append_of_ne_nil _ path.segments_ne_nil]
    exact isNamed.first
  · simpa [shape] using isName.nonempty
  · intro other member
    rw [names_join isNamed.last isName, List.mem_append, List.mem_singleton] at member
    rcases member with outer | rfl
    · exact isNamed.named other outer
    · exact isName

theorem size_enter_le_append (last : path.segments.getLast? ≠ some []) {more : List String}
    (named : ∀ name ∈ inner ++ more, Disk.IsName name) :
    (path.enter inner).text.utf8ByteSize ≤ (path.enter (inner ++ more)).text.utf8ByteSize := by
  have whole := segments_enter last named
  have part := segments_enter last fun name member => named name (List.mem_append_left more member)
  have sizes : weight (path.enter inner).segments ≤
      weight (path.enter (inner ++ more)).segments := by
    rw [whole, part, List.map_append, ← List.append_assoc]
    exact weight_le_of_sublist (List.sublist_append_left ..)
  rw [← size_eq_weight, ← size_eq_weight] at sizes
  exact Nat.le_of_succ_le_succ sizes

/-- Without needless slashes in front, no text is shorter. -/
theorem IsTight.size_enter_le {root : Path} (tight : root.IsTight)
    (named : ∀ name ∈ inner, Disk.IsName name) (shape : path.names = root.names ++ inner) :
    (root.enter inner).text.utf8ByteSize ≤ path.text.utf8ByteSize := by
  have last : root.segments.getLast? ≠ some [] := by
    intro empty
    exact tight (List.mem_of_getLast? empty)
  have kept : root.segments.filter (· ≠ []) = root.segments := by
    rw [List.filter_eq_self]
    intro segment member
    simp only [decide_eq_true_eq]
    rintro rfl
    exact tight member
  have entered : (root.enter inner).segments = path.segments.filter (· ≠ []) := by
    rw [segments_enter last named, ← map_toList_names, shape, List.map_append, map_toList_names,
      kept]
  have sizes : weight (root.enter inner).segments ≤ weight path.segments := by
    rw [entered]
    exact weight_le_of_sublist List.filter_sublist
  rw [← size_eq_weight, ← size_eq_weight] at sizes
  exact Nat.le_of_succ_le_succ sizes

end Enter

end Path

/-- A path with too long a text is not looked up. -/
theorem Disk.exists_route_error {path : Path} (long : Disk.textLimit < path.text.utf8ByteSize) :
    ∃ error, Disk.route path = .error error := by
  rw [route, if_pos long]
  split
  · exact ⟨_, rfl⟩
  · split <;> exact ⟨_, rfl⟩

/-- A legal path is looked up from the working directory, name by name. -/
theorem Disk.route_of_isLegal {path : Path} (legal : path.IsLegal) :
    Disk.route path = .ok ⟨false, path.names, false⟩ := by
  have nonempty := Path.text_ne_of_last legal.last
  have noNul : Char.ofNat 0 ∉ path.text.toList := by
    intro member
    have noSlash : Char.ofNat 0 ≠ '/' := by decide
    rcases Text.exists_mem_split_of_mem member noSlash with ⟨segment, segmentMem, inSegment⟩
    have isName := legal.named_segment segmentMem (by rintro rfl; cases inSegment)
    exact isName.noNul (by simpa using inSegment)
  have size := legal.size
  have described : Route.ofText path.text = ⟨false, path.names, false⟩ := by
    simp only [Route.ofText, Route.mk.injEq, Bool.and_eq_false_iff, beq_eq_false_iff_ne]
    exact ⟨legal.head?_ne, rfl, Or.inr (Path.getLast?_ne_of_last legal.last)⟩
  simp [route, noNul, nonempty, Nat.not_lt.2 size, described]

end SourceTree
