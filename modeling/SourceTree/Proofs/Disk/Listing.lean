import Mathlib.Data.List.Nodup
import SourceTree.Files.Walk
import SourceTree.Proofs.Disk.Lookup

/-!
# Listing a plain disk

Without links a walk comes to each place once, so it ends: no place is deeper than there are
entries. It is refused if the text of a directory gets too long on the way, and only then; a file
can have any text, since a walk does not look it up. What it finds are the files below the root of
the walk, each once; sorting puts them in strict order.
-/

namespace SourceTree

theorem mapM_eq_ok {ε α β : Type} {step : α → Except ε β} {result : α → β} {items : List α}
    (each : ∀ item ∈ items, step item = .ok (result item)) :
    items.mapM step = .ok (items.map result) := by
  induction items with
  | nil => rfl
  | cons item items ih =>
      have rest := ih fun other member => each other (List.mem_cons_of_mem _ member)
      rw [List.mapM_cons, each item (by simp), rest]
      rfl

theorem exists_of_mapM_eq_ok {ε α β : Type} {step : α → Except ε β} {items : List α}
    {results : List β} (accepted : items.mapM step = .ok results) {item : α}
    (member : item ∈ items) : ∃ result, step item = .ok result := by
  induction items generalizing results with
  | nil => cases member
  | cons first items ih =>
      rw [List.mapM_cons] at accepted
      cases now : step first with
      | error error =>
          rw [now] at accepted
          cases accepted
      | ok result =>
          cases rest : items.mapM step with
          | error error =>
              rw [now, rest] at accepted
              cases accepted
          | ok later =>
              rcases List.mem_cons.1 member with rfl | other
              · exact ⟨result, now⟩
              · exact ih rest other

namespace Disk

variable {disk : Disk} {path : Path} {inner : List String} {name : String}

theorem mem_keys_iff (below : inner ≠ []) :
    disk.workingDirectory ++ inner ∈ disk.entries.keys ↔ disk.at? inner ≠ none := by
  have place : (disk.workingDirectory ++ inner).isEmpty = false := by simp [below]
  rw [Std.HashMap.mem_keys, Std.HashMap.mem_iff_isSome_getElem?, at?, entry?, place,
    if_neg (by simp), Option.isSome_iff_ne_none]

theorem mem_names_iff :
    name ∈ disk.names (disk.workingDirectory ++ inner) ↔ disk.at? (inner ++ [name]) ≠ none := by
  rw [← mem_keys_iff (by simp), names, List.mem_mergeSort, List.mem_filterMap]
  constructor
  · rintro ⟨place, member, found⟩
    rcases Option.ite_none_right_eq_some.1 found with ⟨above, last⟩
    have shape := List.dropLast_append_getLast? name last
    rwa [← shape, above, List.append_assoc] at member
  · intro member
    refine ⟨_, member, ?_⟩
    rw [← List.append_assoc, List.dropLast_concat, if_pos rfl, List.getLast?_concat]

theorem nodup_names (disk : Disk) (location : Location) : (disk.names location).Nodup := by
  rw [names, (List.mergeSort_perm _ _).nodup_iff]
  apply List.Nodup.filterMap _ Std.HashMap.nodup_keys
  intro place other name found foundToo
  rw [Option.mem_def, Option.ite_none_right_eq_some] at found foundToo
  rw [← List.dropLast_append_getLast? name found.2, ← List.dropLast_append_getLast? name foundToo.2,
    found.1, foundToo.1]

/-- No place is deeper than there are entries. -/
theorem IsPlain.length_le (plain : disk.IsPlain) (present : disk.at? inner ≠ none) :
    inner.length ≤ disk.entries.size := by
  let places := (List.range inner.length).map fun depth =>
    disk.workingDirectory ++ inner.take (depth + 1)
  have distinct : places.Nodup := by
    apply List.Nodup.map_on _ List.nodup_range
    intro depth depthMem other otherMem same
    rw [List.mem_range] at depthMem otherMem
    have lengths := congrArg List.length (List.append_cancel_left same)
    simp only [List.length_take] at lengths
    omega
  have known : places ⊆ disk.entries.keys := by
    intro place member
    rcases List.mem_map.1 member with ⟨depth, depthMem, rfl⟩
    rw [List.mem_range] at depthMem
    have nonempty : inner.take (depth + 1) ≠ [] := by
      intro empty
      have length := congrArg List.length empty
      rw [List.length_take, List.length_nil] at length
      omega
    rw [mem_keys_iff nonempty]
    rw [← List.take_append_drop (depth + 1) inner] at present
    exact plain.present_of_append present
  have bound := distinct.length_le_of_subset known
  rwa [List.length_map, List.length_range, Std.HashMap.length_keys] at bound

/-- A listing begins with enough fuel for any place. -/
theorem size_lt_depthLimit (disk : Disk) : disk.entries.size < disk.depthLimit := by
  rw [depthLimit]
  omega

/-- The paths are those of the files at or below a path, each once. -/
structure Lists (disk : Disk) (path : Path) (paths : List Path) : Prop where
  distinct : (paths.map Path.components).Nodup
  complete : ∀ steps, steps ∈ paths.map Path.components ↔
    ∃ inner content, disk.at? (path.names ++ inner) = some (.file content) ∧
      steps = (path.names ++ inner).map .name

/-- The text of no directory gets too long on the way down from a path. -/
def FitsBelow (disk : Disk) (path : Path) : Prop :=
  ∀ inner, disk.at? (path.names ++ inner) = some .directory →
    (path.enter inner).text.utf8ByteSize ≤ textLimit

theorem FitsBelow.join (fits : disk.FitsBelow path) (isNamed : path.IsNamed)
    (isName : IsName name) : disk.FitsBelow (path.join ⟨name⟩) := by
  intro inner directory
  rw [Path.names_join isNamed.last isName, ← List.append_cons] at directory
  exact fits (name :: inner) directory

theorem Lists.of_file (plain : disk.IsPlain) (isNamed : path.IsNamed) {content : ByteArray}
    (found : disk.at? path.names = some (.file content)) : disk.Lists path [path] := by
  refine ⟨by simp, fun steps => ?_⟩
  rw [List.map_singleton, List.mem_singleton, isNamed.components_eq]
  constructor
  · rintro rfl
    exact ⟨[], content, by simpa using found, by simp⟩
  · rintro ⟨inner, other, present, rfl⟩
    by_cases nothing : inner = []
    · simp [nothing]
    · have inside : disk.at? (path.names ++ inner) ≠ none := by simp [present]
      have directory := plain.directory_of_append nothing inside
      simp [found] at directory

section Directory

variable {fuel : Nat} {stack : List (Path × Location)}
  {descend : Path → Except FileError (List Path)} {below : String → List Path}

theorem visit_of_present (plain : disk.IsPlain) (legal : path.IsLegal)
    (present : disk.at? path.names ≠ none) :
    disk.visit path = .ok (disk.workingDirectory ++ path.names, disk.at? path.names) := by
  rw [visit, locate_of_present plain legal present]
  rfl

/-- What is walked to is looked up. -/
theorem size_le_of_walk {paths : List Path} (walked : disk.walk (fuel + 1) stack path = .ok paths) :
    path.text.utf8ByteSize ≤ textLimit := by
  rw [← Nat.not_lt]
  intro long
  rcases exists_route_error long with ⟨error, refused⟩
  rw [walk, visit, locate, refused] at walked
  cases walked

/-- A directory is walked by walking its entries. -/
theorem walk_eq_ok_iff (plain : disk.IsPlain) (legal : path.IsLegal)
    (found : disk.at? path.names = some .directory) {paths : List Path} :
    disk.walk (fuel + 1) stack path = .ok paths ↔
      ∃ lists, (disk.names (disk.workingDirectory ++ path.names)).mapM
        (disk.walkEntry (disk.walk fuel ((path, disk.workingDirectory ++ path.names) :: stack))
          ((path, disk.workingDirectory ++ path.names) :: stack) path
          (disk.workingDirectory ++ path.names)) = .ok lists ∧ lists.flatten = paths := by
  rw [walk, visit_of_present plain legal (by simp [found]), found]
  simp only [bind, Except.bind, pure, Except.pure]
  split
  next refused => simp [refused]
  next lists accepted => simp [accepted]

theorem walkEntry_of_file {content : ByteArray}
    (found : disk.at? (path.names ++ [name]) = some (.file content)) :
    disk.walkEntry descend stack path (disk.workingDirectory ++ path.names) name =
      .ok [path.join ⟨name⟩] := by
  rw [at?, ← List.append_assoc] at found
  rw [walkEntry, found]
  rfl

theorem walkEntry_of_directory (found : disk.at? (path.names ++ [name]) = some .directory) :
    disk.walkEntry descend stack path (disk.workingDirectory ++ path.names) name =
      descend (path.join ⟨name⟩) := by
  rw [at?, ← List.append_assoc] at found
  rw [walkEntry, found]

/-- The lists of the entries make up the list of the directory. -/
theorem Lists.of_directory (plain : disk.IsPlain) (isNamed : path.IsNamed)
    (found : disk.at? path.names = some .directory)
    (lists : ∀ name ∈ disk.names (disk.workingDirectory ++ path.names),
      disk.Lists (path.join ⟨name⟩) (below name)) :
    disk.Lists path ((disk.names (disk.workingDirectory ++ path.names)).flatMap below) := by
  have joined : ∀ name ∈ disk.names (disk.workingDirectory ++ path.names),
      (path.join ⟨name⟩).names = path.names ++ [name] := by
    intro name member
    exact Path.names_join isNamed.last (plain.isName_of_mem (mem_names_iff.1 member) (by simp))
  constructor
  · rw [List.map_flatMap, List.nodup_flatMap]
    refine ⟨fun name member => (lists name member).distinct, ?_⟩
    apply (nodup_names disk _).imp_of_mem
    intro left right leftMem rightMem differ steps inLeft inRight
    rcases ((lists left leftMem).complete steps).1 inLeft with ⟨_, _, _, shape⟩
    rcases ((lists right rightMem).complete steps).1 inRight with ⟨_, _, _, shapeToo⟩
    rw [shape, joined left leftMem, joined right rightMem] at shapeToo
    simp [differ] at shapeToo
  · intro steps
    rw [List.map_flatMap, List.mem_flatMap]
    constructor
    · rintro ⟨name, member, inBelow⟩
      rcases ((lists name member).complete steps).1 inBelow with ⟨inner, content, present, shape⟩
      rw [joined name member, List.append_assoc] at present shape
      exact ⟨_, content, present, shape⟩
    · rintro ⟨inner, content, present, shape⟩
      cases inner with
      | nil => simp [found] at present
      | cons name inner =>
          have inside : disk.at? (path.names ++ [name] ++ inner) ≠ none := by
            rw [← List.append_cons, present]
            simp
          have member := mem_names_iff.2 (plain.present_of_append inside)
          refine ⟨name, member, ((lists name member).complete steps).2 ⟨inner, content, ?_, ?_⟩⟩
          · rwa [joined name member, ← List.append_cons]
          · rwa [joined name member, ← List.append_cons]

end Directory

section Walk

variable (plain : disk.IsPlain) (legal : path.IsLegal)
  (directory : disk.at? path.names = some .directory)

include plain legal directory

/-- A walk with enough fuel lists what is below its root, if no directory has too long a text. -/
theorem exists_walk (fits : disk.FitsBelow path) {fuel : Nat}
    (enough : disk.entries.size < fuel + path.names.length) (stack : List (Path × Location)) :
    ∃ paths, disk.walk fuel stack path = .ok paths ∧ disk.Lists path paths := by
  -- Fuel is spent going down, so fuel and depth together stay above the number of entries.
  induction fuel generalizing path stack with
  | zero =>
      have bound : path.names.length ≤ disk.entries.size := plain.length_le (by simp [directory])
      omega
  | succ fuel ih =>
      have each : ∀ name ∈ disk.names (disk.workingDirectory ++ path.names),
          ∃ below, disk.walkEntry
              (disk.walk fuel ((path, disk.workingDirectory ++ path.names) :: stack))
              ((path, disk.workingDirectory ++ path.names) :: stack) path
              (disk.workingDirectory ++ path.names) name = .ok below ∧
            disk.Lists (path.join ⟨name⟩) below := by
        intro name member
        have inside := mem_names_iff.1 member
        have isName : IsName name := plain.isName_of_mem inside (by simp)
        have joined := Path.names_join legal.last isName
        have isNamed := legal.toIsNamed.join isName
        cases found : disk.at? (path.names ++ [name]) with
        | none => exact absurd found inside
        | some entry =>
            cases entry with
            | link target => exact absurd found (plain.noLink _ _)
            | file content =>
                rw [walkEntry_of_file found]
                exact ⟨_, rfl, Lists.of_file plain isNamed (joined ▸ found)⟩
            | directory =>
                rw [walkEntry_of_directory found]
                apply ih ⟨isNamed, fits [name] found⟩ (joined ▸ found)
                  (fits.join legal.toIsNamed isName)
                rw [joined, List.length_append, List.length_singleton]
                omega
      choose! below walked lists using each
      exact ⟨_, (walk_eq_ok_iff plain legal directory).2 ⟨_, mapM_eq_ok walked, rfl⟩,
        Lists.of_directory plain legal.toIsNamed directory lists⟩

/-- A walk that gets through has met no directory with too long a text. -/
theorem fitsBelow_of_walk {fuel : Nat} (enough : disk.entries.size < fuel + path.names.length)
    {stack : List (Path × Location)} {paths : List Path}
    (walked : disk.walk fuel stack path = .ok paths) : disk.FitsBelow path := by
  induction fuel generalizing path stack paths with
  | zero =>
      have bound : path.names.length ≤ disk.entries.size := plain.length_le (by simp [directory])
      omega
  | succ fuel ih =>
      rcases (walk_eq_ok_iff plain legal directory).1 walked with ⟨lists, accepted, _⟩
      intro inner opened
      cases inner with
      | nil => exact legal.size
      | cons name inner =>
          rw [List.append_cons] at opened
          have found := plain.directory_of_append_directory opened
          have inside : disk.at? (path.names ++ [name]) ≠ none := by simp [found]
          have isName : IsName name := plain.isName_of_mem inside (by simp)
          have joined := Path.names_join legal.last isName
          have isNamed := legal.toIsNamed.join isName
          have deep := plain.length_le inside
          rcases exists_of_mapM_eq_ok accepted (mem_names_iff.2 inside) with ⟨below, entered⟩
          rw [walkEntry_of_directory found] at entered
          rw [List.length_append, List.length_singleton] at deep
          obtain ⟨fuel, rfl⟩ : ∃ less, fuel = less + 1 := ⟨fuel - 1, by omega⟩
          have short := size_le_of_walk entered
          apply ih ⟨isNamed, short⟩ (joined ▸ found) _ entered inner (joined ▸ opened)
          rw [joined, List.length_append, List.length_singleton]
          omega

end Walk

/-- A directory is listed in strict order. -/
theorem exists_list (plain : disk.IsPlain) (legal : path.IsLegal) (fits : disk.FitsBelow path)
    (directory : disk.at? path.names = some .directory) :
    ∃ paths, disk.list path = .ok paths ∧
      (paths.map Path.components).Pairwise (fun earlier later => compare earlier later = .lt) ∧
      disk.Lists path paths := by
  have enough := Nat.lt_add_right path.names.length disk.size_lt_depthLimit
  rcases exists_walk plain legal directory fits enough [] with ⟨paths, walked, lists⟩
  have perm := List.mergeSort_perm paths Path.precedes
  have sameSteps := perm.map Path.components
  have sorted : (paths.mergeSort Path.precedes).Pairwise
      fun earlier later => earlier.precedes later = true := by
    apply List.pairwise_mergeSort
    · intro first second third less lessToo
      exact Std.TransCmp.isLE_trans less lessToo
    · intro left right
      have swapped : right.order left = (left.order right).swap := Std.OrientedCmp.eq_swap
      rw [Path.precedes, Path.precedes, swapped]
      cases left.order right <;> rfl
  refine ⟨paths.mergeSort Path.precedes, ?_, ?_, ?_⟩
  · rw [list, walked]
    rfl
  · have distinct := sameSteps.nodup_iff.2 lists.distinct
    rw [List.pairwise_map]
    rw [List.Nodup, List.pairwise_map] at distinct
    apply (sorted.and distinct).imp
    rintro earlier later ⟨less, differ⟩
    rw [Path.precedes, Path.order] at less
    cases shape : compare earlier.components later.components with
    | lt => rfl
    | eq => exact absurd (Std.LawfulEqOrd.eq_of_compare shape) differ
    | gt => simp [shape] at less
  · exact ⟨sameSteps.nodup_iff.2 lists.distinct, fun steps => by
      rw [sameSteps.mem_iff, lists.complete]⟩

theorem exists_list_error_of_not_fitsBelow (plain : disk.IsPlain) (legal : path.IsLegal)
    (directory : disk.at? path.names = some .directory) (long : ¬disk.FitsBelow path) :
    ∃ error, disk.list path = .error error := by
  have enough := Nat.lt_add_right path.names.length disk.size_lt_depthLimit
  rw [list]
  cases walked : disk.walk disk.depthLimit [] path with
  | error error => exact ⟨error, rfl⟩
  | ok paths => exact absurd (fitsBelow_of_walk plain legal directory enough walked) long

theorem exists_list_error (plain : disk.IsPlain) (legal : path.IsLegal)
    (absent : disk.at? path.names = none) : ∃ error, disk.list path = .error error := by
  rcases exists_locate_error plain legal absent with ⟨error, located⟩
  obtain ⟨fuel, shape⟩ : ∃ fuel, disk.depthLimit = fuel + 1 := ⟨_, rfl⟩
  refine ⟨.listing path error, ?_⟩
  rw [list, shape, walk, visit, located]
  rfl

end Disk

end SourceTree
