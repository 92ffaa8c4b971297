import SourceTree.Proofs.Json.Skip

/-!
# Readers undo the writing of values

A reader reads a value as a result if it takes every text that spells the value for that result and
leaves the rest, whatever that is. This is built up as readers are: for texts, for values that may
be `null`, and for lists.
-/

namespace SourceTree.Json

/-- What is written for something that may be missing. -/
def Value.orNull {α : Type} (encode : α → Value) : Option α → Value
  | none => .null
  | some result => encode result

namespace Reader

variable {α β : Type} {reader : Reader α} {value : Value} {result : α}

/-- Whether a reader takes `value` for `result` in whatever way it is written. -/
def Reads (reader : Reader α) (value : Value) (result : α) : Prop :=
  ∀ spelled, Spells (.bare value) spelled → ∀ space, IsBlank space → ∀ rest,
    reader.read (space ++ (spelled ++ rest)) = .ok (result, rest)

/-- Behind a value that is padded only the white space on its right is left. -/
theorem Reads.of_padded (reads : reader.Reads value result) {spelled : List Char}
    (spells : Spells (.padded value) spelled) (rest : List Char) :
    ∃ after, IsBlank after ∧ reader.read (spelled ++ rest) = .ok (result, after ++ rest) := by
  cases spells with
  | @padded _ before spelled after blank bare blank' =>
      exact ⟨after, blank', by simpa using reads spelled bare before blank (after ++ rest)⟩

theorem reads_text (expected text : String) : (Reader.text expected).Reads (.text text) text := by
  intro spelled spells space blank rest
  cases spells with
  | text spellsText =>
      have read := readText_append spellsText rest
      simpa [Reader.text, readTextValue, skipSpace_append blank, skipSpace_cons, isSpace] using read

theorem Reads.map (reads : reader.Reads value result) (f : α → β) :
    (reader.map f).Reads value (f result) := by
  intro spelled spells space blank rest
  simp [Reader.map, reads spelled spells space blank rest, Except.map]

theorem reads_null (reader : Reader α) : reader.optional.Reads .null none := by
  intro spelled spells space blank rest
  cases spells with
  | null =>
      have first :
          skipSpace (space ++ ("null".toList ++ rest)) = 'n' :: ("ull".toList ++ rest) := by
        rw [skipSpace_append blank]
        rfl
      simp only [Reader.optional, readOptional, first, readWord_append]

theorem Reads.optional (reads : reader.Reads value result) (given : value ≠ .null) :
    reader.optional.Reads value (some result) := by
  intro spelled spells space blank rest
  have direct := reads spelled spells [] (by simp [IsBlank]) rest
  have first : skipSpace (space ++ (spelled ++ rest)) = spelled ++ rest := by
    rw [skipSpace_append blank, spells.skipSpace_eq]
  obtain ⟨symbol, behind, rfl, opens⟩ := spells.exists_opensWith
  have notNull : symbol ≠ 'n' := by
    rintro rfl
    exact given (Value.eq_null opens)
  rw [List.nil_append] at direct
  simp only [Reader.optional, readOptional, first]
  split
  next word => simp_all
  next => rw [direct, Except.map]

theorem reads_orNull {encode : α → Value} (reads : ∀ result, reader.Reads (encode result) result)
    (given : ∀ result, encode result ≠ .null) (result : Option α) :
    reader.optional.Reads (.orNull encode result) result := by
  cases result with
  | none => exact reads_null reader
  | some result => exact (reads result).optional (given result)

section Lists

/-- What is unread of a list up to its end: all its elements, or what follows one of them, white
space or a comma and more elements. -/
inductive Unread : Bool → List Value → List Char → Prop
  | all {values : List Value} {inside : List Char} :
      Spells (.elements values) inside → Unread true values inside
  | none {space : List Char} : IsBlank space → Unread false [] space
  | more {value : Value} {values : List Value} {space inside : List Char} :
      IsBlank space → Spells (.elements (value :: values)) inside →
      Unread false (value :: values) (space ++ ',' :: inside)

variable {values : List Value} {inside more : List Char}

theorem exists_first_of_elements (spells : Spells (.elements (value :: values)) inside) :
    ∃ spelled more, Spells (.bare value) spelled ∧ Unread false values more ∧
      ∀ rest, skipSpace (inside ++ rest) = spelled ++ (more ++ rest) := by
  cases spells with
  | lastElement element =>
      cases element with
      | @padded _ before spelled after blank bare blank' =>
          refine ⟨spelled, after, bare, .none blank', fun rest => ?_⟩
          rw [List.append_assoc, skipSpace_append blank, List.append_assoc, bare.skipSpace_eq]
  | @element _ _ _ _ others element inner =>
      cases element with
      | @padded _ before spelled after blank bare blank' =>
          refine ⟨spelled, after ++ ',' :: others, bare, .more blank' inner, fun rest => ?_⟩
          rw [List.append_assoc, List.append_assoc, skipSpace_append blank, List.append_assoc,
            bare.skipSpace_eq, List.append_assoc]

theorem nextElement_first {input spelled rest : List Char} (bare : Spells (.bare value) spelled)
    (first : skipSpace input = spelled ++ rest) :
    nextElement true input = .ok (some (spelled ++ rest)) := by
  obtain ⟨symbol, behind, rfl, opens⟩ := bare.exists_opensWith
  simp [nextElement, first, Value.ne_closer opens]

theorem nextElement_comma {space input spelled rest : List Char} (blank : IsBlank space)
    (bare : Spells (.bare value) spelled) (first : skipSpace input = spelled ++ rest) :
    nextElement false (space ++ ',' :: input) = .ok (some (spelled ++ rest)) := by
  obtain ⟨symbol, behind, rfl, opens⟩ := bare.exists_opensWith
  simp [nextElement, skipSpace_append blank, skipSpace_cons, isSpace, first, Value.ne_closer opens]

theorem nextElement_end {isFirst : Bool} {space : List Char} (blank : IsBlank space)
    (rest : List Char) : nextElement isFirst (space ++ ']' :: rest) = .ok none := by
  simp [nextElement, skipSpace_append blank, skipSpace_cons, isSpace]

theorem Unread.isBlank {isFirst : Bool} (unread : Unread isFirst [] more) : IsBlank more := by
  cases unread with
  | all spells =>
      cases spells with
      | noElement blank => exact blank
  | none blank => exact blank

theorem Unread.exists_next {isFirst : Bool} (unread : Unread isFirst (value :: values) more) :
    ∃ spelled others, Spells (.bare value) spelled ∧ Unread false values others ∧
      ∀ rest, nextElement isFirst (more ++ rest) = .ok (some (spelled ++ (others ++ rest))) := by
  cases unread with
  | all spells =>
      obtain ⟨spelled, others, bare, unread, first⟩ := exists_first_of_elements spells
      exact ⟨spelled, others, bare, unread, fun rest => nextElement_first bare (first rest)⟩
  | more blank spells =>
      obtain ⟨spelled, others, bare, unread, first⟩ := exists_first_of_elements spells
      refine ⟨spelled, others, bare, unread, fun rest => ?_⟩
      simpa using nextElement_comma blank bare (first rest)

theorem readElements_next {done : List α} {input start behind : List Char}
    (next : nextElement done.isEmpty input = .ok (some start))
    (element : reader.read start = .ok (result, behind)) :
    readElements reader done input = readElements reader (result :: done) behind := by
  rw [readElements]
  split
  next faulty => simp [next] at faulty
  next none => simp [next] at none
  next found =>
    rw [next, Except.ok.injEq, Option.some.injEq] at found
    subst found
    split <;> simp_all

theorem readElements_end {done : List α} {input : List Char}
    (next : nextElement done.isEmpty input = .ok none) :
    readElements reader done input = .ok (done.reverse, input) := by
  rw [readElements]
  split <;> simp_all

theorem readElements_of_reads {encode : α → Value}
    (reads : ∀ result, reader.Reads (encode result) result) {done results : List α}
    (unread : Unread done.isEmpty (results.map encode) more) (rest : List Char) :
    ∃ after, IsBlank after ∧
      readElements reader done (more ++ ']' :: rest) =
        .ok (done.reverse ++ results, after ++ ']' :: rest) := by
  induction results generalizing done more with
  | nil =>
      have blank := unread.isBlank
      exact ⟨more, blank, by simpa using readElements_end (nextElement_end blank rest)⟩
  | cons result results ih =>
      obtain ⟨spelled, others, bare, unread, next⟩ := unread.exists_next
      have element := reads result spelled bare [] (by simp [IsBlank]) (others ++ ']' :: rest)
      have later : Unread (result :: done).isEmpty (results.map encode) others := unread
      obtain ⟨after, blank, read⟩ := ih later
      refine ⟨after, blank, ?_⟩
      rw [readElements_next (next _) element, read]
      simp

theorem closeList_append {space : List Char} (blank : IsBlank space) (rest : List Char) :
    closeList (space ++ ']' :: rest) = .ok rest := by
  simp [closeList, skipSpace_append blank, skipSpace_cons, isSpace]

theorem Reads.list {encode : α → Value} (reads : ∀ result, reader.Reads (encode result) result)
    (results : List α) : reader.list.Reads (.list (results.map encode)) results := by
  intro spelled spells space blank rest
  cases spells with
  | @list _ inside inner =>
      have opening : skipSpace (space ++ ('[' :: (inside ++ [']']) ++ rest)) =
          '[' :: (inside ++ ']' :: rest) := by
        rw [skipSpace_append blank]
        simp [skipSpace_cons, isSpace]
      have unread : Unread ([] : List α).isEmpty (results.map encode) inside := .all inner
      obtain ⟨after, blank', read⟩ := readElements_of_reads reads unread rest
      simp only [Reader.list, readList, opening, read, closeList_append blank', Except.map,
        List.reverse_nil, List.nil_append]

end Lists

end Reader

end SourceTree.Json
