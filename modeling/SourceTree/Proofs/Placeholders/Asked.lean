import SourceTree.Proofs.Files.Fresh
import SourceTree.Proofs.Placeholders.Fill

/-!
# Which placeholders are written

A survey keeps each missing place within the tree once, as it was first met. So its candidates can
be read off the resolutions: take the places that are asked for, in turn, and drop those that name
the place of an earlier one.

The placeholders are written in this order. None of their places is taken at first, so at its turn
a place can be taken only because an earlier placeholder lies below it. Which ones are written is
therefore a matter of the places alone, and the store behind the pass is the store before it with
these placeholders written one after the other.
-/

namespace SourceTree

namespace Placeholders

variable {record : Record} {store : Store} {places : List Path} {place : Path}

/-- The place within the tree where a placeholder would answer, if nothing else does. -/
def place? (record : Record) : Reference.Resolution → Option Path
  | .missing candidate =>
      if candidate.isWithin record.treePath.normalize then some candidate else none
  | _ => none

/-- The places within the tree that references ask for, each as often as it is asked for. -/
def asked (store : Store) (record : Record) : List Path :=
  (resolutions store record).filterMap (place? record)

/-- The paths without those that name the place of an earlier one. -/
def distinct : List Path → List Path
  | [] => []
  | path :: paths => path :: (distinct paths).filter fun other => !path.same other

/-- The placeholders so far with one more, unless one of them lies below its place. -/
def keep (created : List Path) (candidate : Path) : List Path :=
  if created.any (·.isWithin candidate) then created else created ++ [candidate]

/-- The placeholders that the references of the tree lead to. -/
def written (store : Store) (record : Record) : List Path :=
  (distinct (asked store record)).foldl keep []

/-- Placeholders with their texts. -/
def stubbed (created : List Path) : List (Path × String) :=
  created.map fun place => (place, Reference.stub place)

theorem place?_eq_some_iff {resolution : Reference.Resolution} :
    place? record resolution = some place ↔
      resolution = .missing place ∧ place.isWithin record.treePath.normalize = true := by
  cases resolution with
  | found path => simp [place?]
  | unresolvable => simp [place?]
  | missing candidate =>
      simp only [place?, Option.ite_none_right_eq_some, Option.some.injEq,
        Reference.Resolution.missing.injEq]
      constructor
      · rintro ⟨within, rfl⟩
        exact ⟨rfl, within⟩
      · rintro ⟨rfl, within⟩
        exact ⟨within, rfl⟩

section Distinct

theorem mem_of_mem_distinct (member : place ∈ distinct places) : place ∈ places := by
  induction places with
  | nil => exact member
  | cons first places ih =>
      simp only [distinct, List.mem_cons, List.mem_filter] at member ⊢
      rcases member with rfl | ⟨later, _⟩
      · exact Or.inl rfl
      · exact Or.inr (ih later)

/-- Each place that was asked for is there in some spelling. -/
theorem exists_same_mem_distinct (member : place ∈ places) :
    ∃ kept ∈ distinct places, kept.same place = true := by
  induction places with
  | nil => cases member
  | cons first places ih =>
      by_cases known : first.same place = true
      · exact ⟨first, by simp [distinct], known⟩
      · have later : place ∈ places := by
          rcases List.mem_cons.1 member with rfl | later
          · simp [Path.same] at known
          · exact later
        rcases ih later with ⟨kept, keptMem, same⟩
        refine ⟨kept, ?_, same⟩
        simp only [distinct, List.mem_cons, List.mem_filter, Bool.not_eq_true', Bool.eq_false_iff]
        refine Or.inr ⟨keptMem, ?_⟩
        intro firstSame
        rw [Path.same_iff] at same firstSame known
        exact known (firstSame.trans same)

theorem pairwise_distinct (places : List Path) :
    (distinct places).Pairwise fun earlier later => earlier.same later = false := by
  induction places with
  | nil => exact List.Pairwise.nil
  | cons first places ih =>
      refine List.pairwise_cons.2 ⟨?_, ih.filter _⟩
      intro later member
      simpa using (List.mem_filter.1 member).2

end Distinct

section Candidates

variable {survey : Survey}

theorem candidates_note (survey : Survey) (resolution : Reference.Resolution) :
    (survey.note record resolution).candidates =
      match place? record resolution with
      | some place =>
          if survey.candidates.any (·.same place) then survey.candidates
          else survey.candidates ++ [place]
      | none => survey.candidates := by
  cases resolution with
  | found path => rfl
  | unresolvable => rfl
  | missing candidate =>
      by_cases within : candidate.isWithin record.treePath.normalize = true
      · simp only [Survey.note, place?, if_pos within, Survey.insert]
        split <;> rfl
      · simp only [Survey.note, place?, if_neg within]

/-- A survey is continued by the places that it does not have yet. -/
theorem candidates_foldl_note (resolutions : List Reference.Resolution) (survey : Survey) :
    (resolutions.foldl (Survey.note record) survey).candidates =
      survey.candidates ++ (distinct (resolutions.filterMap (place? record))).filter
        fun place => !survey.candidates.any (·.same place) := by
  induction resolutions generalizing survey with
  | nil => simp [distinct]
  | cons resolution resolutions ih =>
      rw [List.foldl_cons, ih, candidates_note]
      cases shape : place? record resolution with
      | none => simp [shape]
      | some place =>
          -- Whether or not `place` is new, later places are compared with it from now on.
          simp only [List.filterMap_cons_some shape, distinct, List.filter_cons,
            List.filter_filter]
          by_cases known : survey.candidates.any (·.same place) = true
          · have covered : ∀ other, survey.candidates.any (·.same other) = false →
                place.same other = false := by
              intro other fresh
              rcases List.any_eq_true.1 known with ⟨old, oldMem, same⟩
              have differs := List.any_eq_false.1 fresh old oldMem
              rw [Path.same_iff] at same differs
              simpa [Path.same, ← same] using differs
            simp only [known, if_true, Bool.not_true, Bool.false_eq_true, if_false]
            congr 2
            funext other
            cases fresh : survey.candidates.any (·.same other) with
            | true => rfl
            | false => simp [covered other fresh]
          · simp only [known, Bool.false_eq_true, if_false, Bool.not_false, if_true,
              List.any_append, List.any_cons, List.any_nil, Bool.or_false, Bool.not_or,
              List.append_assoc, List.singleton_append]

theorem candidates_surveyed (store : Store) (record : Record) :
    (surveyed store record).candidates = distinct (asked store record) := by
  change ((resolutions store record).foldl (Survey.note record) {}).candidates = _
  rw [candidates_foldl_note]
  exact List.filter_eq_self.2 (by simp)

end Candidates

section Written

/-- Places that are asked for are not taken. -/
theorem isTaken_eq_false_of_mem_asked (member : place ∈ asked store record) :
    store.isTaken place = false := by
  rcases List.mem_filterMap.1 member with ⟨resolution, resolved, shape⟩
  rcases place?_eq_some_iff.1 shape with ⟨rfl, _⟩
  simp only [resolutions, resolutionsIn, List.mem_flatMap, List.mem_map] at resolved
  rcases resolved with ⟨source, _, specifier, _, missing⟩
  exact Reference.isTaken_eq_false_of_resolve_eq_missing missing

theorem isWithin_of_mem_asked (member : place ∈ asked store record) :
    place.isWithin record.treePath.normalize = true := by
  rcases List.mem_filterMap.1 member with ⟨resolution, _, shape⟩
  exact (place?_eq_some_iff.1 shape).2

theorem isTaken_writes_stubbed (store : Store) (created : List Path) (query : Path) :
    (store.writes (stubbed created)).isTaken query =
      (store.isTaken query || created.any (·.isWithin query)) := by
  rw [Store.isTaken_writes, stubbed, List.any_map]
  rfl

theorem put_eq_keep {created : List Path} (free : store.isTaken place = false) :
    put (created, store.writes (stubbed created)) place =
      (keep created place, store.writes (stubbed (keep created place))) := by
  simp only [put, keep, isTaken_writes_stubbed, free, Bool.false_or]
  split
  · rfl
  · simp [stubbed, Store.writes]

theorem foldl_put_eq_keep (created : List Path)
    (free : ∀ place ∈ places, store.isTaken place = false) :
    places.foldl put (created, store.writes (stubbed created)) =
      (places.foldl keep created, store.writes (stubbed (places.foldl keep created))) := by
  induction places generalizing created with
  | nil => rfl
  | cons place places ih =>
      rw [List.foldl_cons, put_eq_keep (free place (by simp)), List.foldl_cons]
      apply ih
      intro other member
      exact free other (List.mem_cons_of_mem _ member)

/-- The pass writes these placeholders and nothing else. -/
theorem filled_eq (store : Store) (record : Record) :
    filled store record =
      (written store record, store.writes (stubbed (written store record))) := by
  rw [filled, candidates_surveyed]
  apply foldl_put_eq_keep []
  intro place member
  exact isTaken_eq_false_of_mem_asked (mem_of_mem_distinct member)

theorem exists_foldl_keep (places created : List Path) :
    ∃ kept, kept.Sublist places ∧ places.foldl keep created = created ++ kept := by
  induction places generalizing created with
  | nil => exact ⟨[], List.Sublist.refl _, by simp⟩
  | cons place places ih =>
      rw [List.foldl_cons, keep]
      split
      · rcases ih created with ⟨kept, sublist, shape⟩
        exact ⟨kept, sublist.cons place, shape⟩
      · rcases ih (created ++ [place]) with ⟨kept, sublist, shape⟩
        exact ⟨place :: kept, sublist.cons_cons place, by simp [shape]⟩

theorem written_sublist (store : Store) (record : Record) :
    (written store record).Sublist (distinct (asked store record)) := by
  rcases exists_foldl_keep (distinct (asked store record)) [] with ⟨kept, sublist, shape⟩
  rw [written, shape]
  exact sublist

theorem mem_asked_of_mem_written (member : place ∈ written store record) :
    place ∈ asked store record :=
  mem_of_mem_distinct ((written_sublist store record).subset member)

section Stubbed

variable {output : Path × String} (member : output ∈ stubbed (written store record))

include member

theorem isTaken_eq_false_of_mem_stubbed : store.isTaken output.1 = false := by
  rcases List.mem_map.1 member with ⟨place, placeMem, rfl⟩
  exact isTaken_eq_false_of_mem_asked (mem_asked_of_mem_written placeMem)

theorem isWithin_of_mem_stubbed (plain : record.treePath.IsPlain) :
    output.1.isWithin record.treePath = true := by
  rcases List.mem_map.1 member with ⟨place, placeMem, rfl⟩
  rw [← plain.isWithin_normalize]
  exact isWithin_of_mem_asked (mem_asked_of_mem_written placeMem)

end Stubbed

end Written

end Placeholders

end SourceTree
