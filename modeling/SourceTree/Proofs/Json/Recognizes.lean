import SourceTree.Proofs.Json.Reader

/-!
# Readers read nothing but values

A reader recognizes values if it reads a text only where the text spells one of them, and with the
result that the value means. This too is built up as readers are. In a list, what an element leaves
is white space or goes on with a comma, so the elements are found from the end of the list.
-/

namespace SourceTree.Json.Reader

variable {α β : Type} {reader : Reader α}

theorem exists_of_map_eq_ok {result : Except Fault α} {f : α → β} {final : β}
    (success : result.map f = .ok final) : ∃ found, result = .ok found ∧ f found = final := by
  cases result with
  | error => cases success
  | ok found => exact ⟨found, rfl, Except.ok.inj success⟩

/-- Whether a reader reads exactly the texts that spell a value, with the results that it means. -/
structure Recognizes (reader : Reader α) (means : Value → α → Prop) : Prop where
  reads : ∀ {value : Value} {result : α}, means value result → reader.Reads value result
  spelled : ∀ {input rest : List Char} {result : α}, reader.read input = .ok (result, rest) →
    ∃ value space spelled, means value result ∧ IsBlank space ∧ Spells (.bare value) spelled ∧
      input = space ++ (spelled ++ rest)

theorem Recognizes.of_iff {means other : Value → α → Prop} (recognizes : reader.Recognizes means)
    (same : ∀ value result, means value result ↔ other value result) :
    reader.Recognizes other := by
  have equal : means = other :=
    funext fun value => funext fun result => propext (same value result)
  exact equal ▸ recognizes

variable {input rest : List Char} {encode : α → Value}

theorem recognizes_text (expected : String) :
    (Reader.text expected).Recognizes fun value text => value = .text text where
  reads := by
    rintro _ text rfl
    exact reads_text expected text
  spelled := by
    intro input rest text success
    rcases exists_space_append input with ⟨space, blank, cut⟩
    change readTextValue expected input = .ok (text, rest) at success
    rw [readTextValue] at success
    split at success
    next behind first =>
      rcases exists_spells_of_readText success with ⟨spelled, spells, rfl⟩
      exact ⟨_, space, _, rfl, blank, .text spells, by rw [cut, first]; simp⟩
    next => cases success

theorem Recognizes.map {means : Value → α → Prop} (recognizes : reader.Recognizes means)
    (f : α → β) :
    (reader.map f).Recognizes fun value final =>
      ∃ result, means value result ∧ final = f result where
  reads := by
    rintro value _ ⟨result, meant, rfl⟩
    exact (recognizes.reads meant).map f
  spelled := by
    intro input rest final success
    change (reader.read input).map _ = _ at success
    rcases exists_of_map_eq_ok success with ⟨⟨result, behind⟩, read, found⟩
    cases found
    rcases recognizes.spelled read with ⟨value, space, spelled, meant, blank, spells, cut⟩
    exact ⟨value, space, spelled, ⟨result, meant, rfl⟩, blank, spells, cut⟩

theorem Recognizes.optional
    (recognizes : reader.Recognizes fun value result => value = encode result)
    (given : ∀ result, encode result ≠ .null) :
    reader.optional.Recognizes fun value result => value = .orNull encode result where
  reads := by
    rintro _ result rfl
    exact reads_orNull (fun result => recognizes.reads rfl) given result
  spelled := by
    intro input rest result success
    rcases exists_space_append input with ⟨space, blank, cut⟩
    change readOptional reader input = .ok (result, rest) at success
    rw [readOptional] at success
    split at success
    next behind first =>
      split at success
      next => cases success
      next word =>
        cases success
        have ending := eq_append_of_readWord word
        exact ⟨.null, space, _, rfl, blank, .null, by rw [cut, first, ending]; rfl⟩
    next =>
      rcases exists_of_map_eq_ok success with ⟨⟨given, behind⟩, read, found⟩
      cases found
      rcases recognizes.spelled read with ⟨_, space', spelled, rfl, blank', spells, cut'⟩
      refine ⟨_, space ++ space', spelled, rfl, blank.append blank', spells, ?_⟩
      rw [cut, cut', List.append_assoc]

section Lists

theorem blank_append_elements {value : Value} {values : List Value} {space inside : List Char}
    (blank : IsBlank space) (spells : Spells (.elements (value :: values)) inside) :
    Spells (.elements (value :: values)) (space ++ inside) := by
  cases spells with
  | lastElement element =>
      cases element with
      | padded blank' bare blank'' =>
          rw [← List.append_assoc]
          exact .lastElement (.padded (blank.append blank') bare blank'')
  | element element inner =>
      cases element with
      | padded blank' bare blank'' =>
          rw [← List.append_assoc, ← List.append_assoc]
          exact .element (.padded (blank.append blank') bare blank'') inner

/-- An element in front of what follows it. -/
theorem Unread.elements {value : Value} {values : List Value} {before spelled more : List Char}
    (unread : Unread false values more) (blank : IsBlank before)
    (spells : Spells (.bare value) spelled) :
    Spells (.elements (value :: values)) (before ++ (spelled ++ more)) := by
  cases unread with
  | none blank' => exact .lastElement (.padded blank spells blank')
  | more blank' inside => simpa using Spells.element (.padded blank spells blank') inside

theorem exists_of_nextElement_none {isFirst : Bool}
    (success : nextElement isFirst input = .ok none) :
    ∃ space behind, IsBlank space ∧ input = space ++ ']' :: behind := by
  rcases exists_space_append input with ⟨space, blank, cut⟩
  rw [nextElement] at success
  split at success
  next => cases success
  next behind first => exact ⟨space, behind, blank, by rw [cut, first]⟩
  next =>
    split at success
    next => cases success
    next =>
      split at success
      next => split at success <;> cases success
      next => cases success

/-- What is passed over in front of an element leads to it. -/
theorem exists_lead_of_nextElement {isFirst : Bool} {start : List Char}
    (success : nextElement isFirst input = .ok (some start)) :
    ∃ lead, input = lead ++ start ∧ ∀ {value : Value} {values : List Value} {inside : List Char},
      Spells (.elements (value :: values)) inside →
      Unread isFirst (value :: values) (lead ++ inside) := by
  rcases exists_space_append input with ⟨space, blank, cut⟩
  rw [nextElement] at success
  split at success
  next => cases success
  next => cases success
  next symbol behind _ first =>
    split at success
    next isFirst =>
      cases success
      subst isFirst
      exact ⟨space, by rw [cut, first], fun spells => .all (blank_append_elements blank spells)⟩
    next later =>
      rw [Bool.not_eq_true] at later
      subst later
      split at success
      next comma =>
        rcases exists_space_append behind with ⟨space', blank', cut'⟩
        split at success
        next => cases success
        next => cases success
        next =>
          cases success
          refine ⟨space ++ ',' :: space', ?_, fun {_ _ inside} spells => ?_⟩
          · rw [cut, first, comma, List.append_assoc, List.cons_append, ← cut']
          · rw [List.append_assoc]
            exact .more blank (blank_append_elements blank' spells)
      next => cases success

theorem exists_unread_of_readElements
    (recognizes : reader.Recognizes fun value result => value = encode result)
    {done results : List α} (success : readElements reader done input = .ok (results, rest)) :
    ∃ others more space behind, results = done.reverse ++ others ∧
      Unread done.isEmpty (others.map encode) more ∧ IsBlank space ∧
      rest = space ++ ']' :: behind ∧ input = more ++ ']' :: behind := by
  fun_induction readElements reader done input with
  | case1 => cases success
  | case2 done input next =>
      cases success
      rcases exists_of_nextElement_none next with ⟨space, behind, blank, cut⟩
      have unread : Unread done.isEmpty [] space := by
        cases done.isEmpty with
        | true => exact .all (.noElement blank)
        | false => exact .none blank
      exact ⟨[], space, space, behind, by simp, unread, blank, cut, cut⟩
  | case3 => cases success
  | case4 done input start next result behind element ih =>
      rcases exists_lead_of_nextElement next with ⟨lead, rfl, leads⟩
      rcases recognizes.spelled element with ⟨_, before, spelled, rfl, blank, spells, rfl⟩
      rcases ih success with ⟨others, more, space, behind, rfl, unread, blank', rfl, rfl⟩
      refine ⟨result :: others, _, space, behind, by simp, leads (unread.elements blank spells),
        blank', rfl, ?_⟩
      simp

theorem exists_space_of_closeList (success : closeList input = .ok rest) :
    ∃ space, IsBlank space ∧ input = space ++ ']' :: rest := by
  rcases exists_space_append input with ⟨space, blank, cut⟩
  rw [closeList] at success
  split at success
  next first =>
    cases success
    exact ⟨space, blank, by rw [cut, first]⟩
  next => split at success <;> cases success
  next => cases success
  next => cases success

theorem Recognizes.list
    (recognizes : reader.Recognizes fun value result => value = encode result) :
    reader.list.Recognizes fun value results => value = .list (results.map encode) where
  reads := by
    rintro _ results rfl
    exact Reads.list (fun result => recognizes.reads rfl) results
  spelled := by
    intro input rest results success
    rcases exists_space_append input with ⟨space, blank, cut⟩
    change readList reader input = .ok (results, rest) at success
    rw [readList] at success
    split at success
    next inside first =>
      split at success
      next => cases success
      next found behind elements =>
        rcases exists_of_map_eq_ok success with ⟨end', closing, close⟩
        cases close
        rcases exists_unread_of_readElements recognizes elements with
          ⟨others, more, space', behind, rfl, unread, blank', rfl, rfl⟩
        rw [closeList_append blank', Except.ok.injEq] at closing
        subst closing
        cases unread with
        | all spells => exact ⟨_, space, _, rfl, blank, .list spells, by rw [cut, first]; simp⟩
    next => cases success

end Lists

end SourceTree.Json.Reader
