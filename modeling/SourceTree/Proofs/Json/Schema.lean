import SourceTree.Proofs.Json.Recognizes

/-!
# Reading records

A record is read member by member: a member that is one of its fields moves the draft on, any other
member leaves the draft alone, whatever its value is. So the draft at the end of an object is known
from its members alone, however they are written. A record can also be written as a list: then the
values in it belong to the fields in order.
-/

namespace SourceTree.Json

/-- A member of an object, with its value as it is written. -/
inductive IsMember : String × List Char → List Char → Prop
  | written {key : String} {before name after raw : List Char} :
      IsBlank before → SpellsText key.toList name → IsBlank after →
      IsMember (key, raw) (before ++ '"' :: (name ++ '"' :: (after ++ ':' :: raw)))

/-- What stands between the brackets of an object. -/
inductive IsMembers : List (String × List Char) → List Char → Prop
  | none {space : List Char} : IsBlank space → IsMembers [] space
  | last {member : String × List Char} {spelled : List Char} :
      IsMember member spelled → IsMembers [member] spelled
  | next {member following : String × List Char} {members : List (String × List Char)}
      {spelled others : List Char} :
      IsMember member spelled → IsMembers (following :: members) others →
      IsMembers (member :: following :: members) (spelled ++ ',' :: others)

/-- Whether a text holds an object with these members, their values as they are written. -/
def HoldsObject (text : String) (members : List (String × List Char)) : Prop :=
  ∃ before inside after, IsBlank before ∧ IsMembers members inside ∧ IsBlank after ∧
    text.toList = before ++ '\x7b' :: (inside ++ '\x7d' :: after)

namespace Schema

variable {δ α : Type} {schema : Schema δ α} {means : Field δ → δ → Value → δ → Prop}

/-- Whether the value of every field is read for what it means: the step from one draft to the
next. -/
def Recognizes (schema : Schema δ α) (means : Field δ → δ → Value → δ → Prop) : Prop :=
  ∀ field ∈ schema.fields, ∀ draft, (field.reader draft).Recognizes (means field draft)

/-- What a member does to a draft: its value is read into it if the record knows the key and does
not have the field yet, and is left out if the record does not know the key. -/
inductive Accepts (schema : Schema δ α) (means : Field δ → δ → Value → δ → Prop) (draft : δ) :
    String → List Char → δ → Prop
  | unknown {key : String} {raw : List Char} (absent : schema.find? key = none)
      (form : HasForm .padded raw) : Accepts schema means draft key raw draft
  | field {key : String} {raw : List Char} {field : Field δ} {value : Value} {next : δ}
      (found : schema.find? key = some field) (new : field.isPresent draft = false)
      (spells : Spells (.padded value) raw) (meant : means field draft value next) :
      Accepts schema means draft key raw next

/-- What the members of an object do to a draft, one after the other. -/
inductive Gathers (schema : Schema δ α) (means : Field δ → δ → Value → δ → Prop) :
    δ → List (String × List Char) → δ → Prop
  | done (draft : δ) : Gathers schema means draft [] draft
  | member {draft next final : δ} {key : String} {raw : List Char}
      {members : List (String × List Char)} (accepts : schema.Accepts means draft key raw next)
      (gathers : Gathers schema means next members final) :
      Gathers schema means draft ((key, raw) :: members) final

/-- What the values of a list do to a draft, one for each of the fields. The list may end before
fields that the record can do without. -/
inductive Fits (means : Field δ → δ → Value → δ → Prop) :
    List (Field δ) → δ → List Value → δ → Prop
  | done (draft : δ) : Fits means [] draft [] draft
  | missing {field : Field δ} {fields : List (Field δ)} {draft final : δ}
      (optional : field.isOptional = true) (fits : Fits means fields draft [] final) :
      Fits means (field :: fields) draft [] final
  | value {field : Field δ} {fields : List (Field δ)} {draft next final : δ} {value : Value}
      {values : List Value} (meant : means field draft value next)
      (fits : Fits means fields next values final) :
      Fits means (field :: fields) draft (value :: values) final

section Objects

/-- What is unread of an object up to its end: all its members, or what follows one of them, white
space or a comma and more members. -/
inductive Unread : Bool → List (String × List Char) → List Char → Prop
  | all {members : List (String × List Char)} {inside : List Char} :
      IsMembers members inside → Unread true members inside
  | none {space : List Char} : IsBlank space → Unread false [] space
  | more {member : String × List Char} {members : List (String × List Char)}
      {space inside : List Char} :
      IsBlank space → IsMembers (member :: members) inside →
      Unread false (member :: members) (space ++ ',' :: inside)

variable {draft next final : δ} {key : String} {members : List (String × List Char)}
  {raw rest space inside more : List Char}

theorem accepts_iff_of_encoded {field : Field δ} (found : schema.find? key = some field)
    {β : Type} {encode : β → Value} {put : β → δ}
    (encoded : ∀ value next,
      means field draft value next ↔ ∃ result, value = encode result ∧ next = put result) :
    schema.Accepts means draft key raw next ↔
      field.isPresent draft = false ∧
        ∃ result, Spells (.padded (encode result)) raw ∧ next = put result := by
  constructor
  · intro accepts
    cases accepts with
    | unknown absent => simp [found] at absent
    | field other new spells meant =>
        obtain rfl : field = _ := Option.some.inj (found.symm.trans other)
        obtain ⟨result, rfl, rfl⟩ := (encoded _ _).1 meant
        exact ⟨new, result, spells, rfl⟩
  · rintro ⟨new, result, spells, rfl⟩
    exact .field found new spells ((encoded _ _).2 ⟨result, rfl, rfl⟩)

theorem accepts_iff_of_absent (absent : schema.find? key = none) :
    schema.Accepts means draft key raw next ↔ HasForm .padded raw ∧ next = draft := by
  constructor
  · intro accepts
    cases accepts with
    | unknown _ form => exact ⟨form, rfl⟩
    | field found => simp [absent] at found
  · rintro ⟨form, rfl⟩
    exact .unknown absent form

theorem gathers_nil_iff : schema.Gathers means draft [] final ↔ final = draft := by
  constructor
  · rintro ⟨⟩
    rfl
  · rintro rfl
    exact .done final

theorem gathers_cons_iff :
    schema.Gathers means draft ((key, raw) :: members) final ↔
      ∃ next, schema.Accepts means draft key raw next ∧
        schema.Gathers means next members final := by
  constructor
  · rintro ⟨⟩
    next next accepts gathers => exact ⟨next, accepts, gathers⟩
  · rintro ⟨next, accepts, gathers⟩
    exact .member accepts gathers

theorem exists_first_of_members (isMembers : IsMembers ((key, raw) :: members) inside) :
    ∃ name between others, SpellsText key.toList name ∧ IsBlank between ∧
      Unread false members others ∧
      ∀ rest, skipSpace (inside ++ rest) =
        '"' :: (name ++ '"' :: (between ++ ':' :: (raw ++ (others ++ rest)))) := by
  cases isMembers with
  | last isMember =>
      cases isMember with
      | @written _ before name between _ blank spells blank' =>
          refine ⟨name, between, [], spells, blank', .none (by simp [IsBlank]), fun rest => ?_⟩
          rw [List.append_assoc, skipSpace_append blank, List.cons_append,
            skipSpace_cons (by decide)]
          simp
  | @next _ _ _ _ others isMember inner =>
      cases isMember with
      | @written _ before name between _ blank spells blank' =>
          refine ⟨name, between, ',' :: others, spells, blank', ?_, fun rest => ?_⟩
          · exact .more (by simp [IsBlank] : IsBlank []) inner
          · rw [List.append_assoc, List.append_assoc, skipSpace_append blank, List.cons_append,
              skipSpace_cons (by decide)]
            simp

theorem nextKey_first {input start : List Char} (first : skipSpace input = '"' :: start) :
    nextKey true input = .ok (some start) := by
  simp [nextKey, first]

theorem nextKey_comma {input start : List Char} (blank : IsBlank space)
    (first : skipSpace input = '"' :: start) :
    nextKey false (space ++ ',' :: input) = .ok (some start) := by
  simp [nextKey, skipSpace_append blank, skipSpace_cons, isSpace, first]

theorem nextKey_end {isFirst : Bool} (blank : IsBlank space) (rest : List Char) :
    nextKey isFirst (space ++ '\x7d' :: rest) = .ok none := by
  simp [nextKey, skipSpace_append blank, skipSpace_cons, isSpace]

theorem Unread.isBlank {isFirst : Bool} (unread : Unread isFirst [] more) : IsBlank more := by
  cases unread with
  | all isMembers =>
      cases isMembers with
      | none blank => exact blank
  | none blank => exact blank

theorem Unread.endsNumber (unread : Unread false members more) (rest : List Char) :
    EndsNumber (more ++ '\x7d' :: rest) := by
  cases unread with
  | none blank => exact (IsSeparator.endsNumber (by simp [IsSeparator]) rest).append blank
  | more blank =>
      rw [List.append_assoc]
      exact (IsSeparator.endsNumber (by simp [IsSeparator]) _).append blank

theorem Unread.blank_append (unread : Unread false members more) (blank : IsBlank space) :
    Unread false members (space ++ more) := by
  cases unread with
  | none blank' => exact .none (blank.append blank')
  | more blank' inner =>
      rw [← List.append_assoc]
      exact .more (blank.append blank') inner

theorem Unread.exists_next {isFirst : Bool} (unread : Unread isFirst ((key, raw) :: members) more) :
    ∃ name between others, SpellsText key.toList name ∧ IsBlank between ∧
      Unread false members others ∧
      ∀ rest, nextKey isFirst (more ++ rest) =
        .ok (some (name ++ '"' :: (between ++ ':' :: (raw ++ (others ++ rest))))) := by
  cases unread with
  | all isMembers =>
      obtain ⟨name, between, others, spells, blank, unread, first⟩ :=
        exists_first_of_members isMembers
      exact ⟨name, between, others, spells, blank, unread, fun rest => nextKey_first (first rest)⟩
  | more blank' isMembers =>
      obtain ⟨name, between, others, spells, blank, unread, first⟩ :=
        exists_first_of_members isMembers
      refine ⟨name, between, others, spells, blank, unread, fun rest => ?_⟩
      simpa using nextKey_comma blank' (first rest)

theorem readMember_of_accepts (recognizes : schema.Recognizes means)
    (accepts : schema.Accepts means draft key raw next) (blank : IsBlank space)
    (ends : EndsNumber rest) :
    ∃ after, IsBlank after ∧
      schema.readMember draft key (space ++ ':' :: (raw ++ rest)) = .ok (next, after ++ rest) := by
  cases accepts with
  | unknown absent form =>
      cases form with
      | @padded before spelled after blank' bare blank'' =>
          have skip := skipValue_append bare blank' (ends.append blank'')
          refine ⟨after, blank'', ?_⟩
          simp [readMember, absent, readColon_append blank, skip, Except.map]
  | field found new spells meant =>
      have reads := (recognizes _ (List.mem_of_find?_eq_some found) draft).reads meant
      obtain ⟨after, blank', read⟩ := reads.of_padded spells rest
      refine ⟨after, blank', ?_⟩
      simp [readMember, found, new, readColon_append blank, read]

theorem readMembers_next {isFirst : Bool} {input start behind : List Char}
    (found : nextKey isFirst input = .ok (some start)) (text : readText start = .ok (key, rest))
    (member : schema.readMember draft key rest = .ok (next, behind)) :
    schema.readMembers isFirst draft input = schema.readMembers false next behind := by
  rw [readMembers]
  split
  next faulty => simp [found] at faulty
  next none => simp [found] at none
  next other =>
    rw [found, Except.ok.injEq, Option.some.injEq] at other
    subst other
    split
    next faulty => simp [text] at faulty
    next other =>
      rw [text, Except.ok.injEq, Prod.mk.injEq] at other
      obtain ⟨rfl, rfl⟩ := other
      split <;> simp_all

theorem readMembers_end {isFirst : Bool} {input : List Char}
    (none : nextKey isFirst input = .ok none) :
    schema.readMembers isFirst draft input = .ok (draft, input) := by
  rw [readMembers]
  split <;> simp_all

theorem readMembers_of_gathers (recognizes : schema.Recognizes means)
    (gathers : schema.Gathers means draft members final) {isFirst : Bool}
    (unread : Unread isFirst members more) (rest : List Char) :
    ∃ after, IsBlank after ∧
      schema.readMembers isFirst draft (more ++ '\x7d' :: rest) =
        .ok (final, after ++ '\x7d' :: rest) := by
  induction gathers generalizing isFirst more with
  | done =>
      have blank := unread.isBlank
      exact ⟨more, blank, readMembers_end (nextKey_end blank rest)⟩
  | member accepts gathers ih =>
      obtain ⟨name, between, others, spells, blank, unread, found⟩ := unread.exists_next
      obtain ⟨after, blank', member⟩ :=
        readMember_of_accepts recognizes accepts blank (unread.endsNumber rest)
      rw [readMembers_next (found _) (readText_append spells _) member, ← List.append_assoc]
      exact ih (unread.blank_append blank')

theorem afterObjectEnd_append (blank : IsBlank space) (rest : List Char) :
    afterObjectEnd (space ++ '\x7d' :: rest) = rest := by
  simp [afterObjectEnd, skipSpace_append blank, skipSpace_cons, isSpace]

theorem read_of_gathers (recognizes : schema.Recognizes means)
    (gathers : schema.Gathers means schema.empty members final)
    (isMembers : IsMembers members inside) (blank : IsBlank space) (rest : List Char) :
    schema.read (space ++ '\x7b' :: (inside ++ '\x7d' :: rest)) = schema.complete final rest := by
  have opening : skipSpace (space ++ '\x7b' :: (inside ++ '\x7d' :: rest)) =
      '\x7b' :: (inside ++ '\x7d' :: rest) := by
    rw [skipSpace_append blank, skipSpace_cons (by decide)]
  obtain ⟨after, blank', read⟩ := readMembers_of_gathers recognizes gathers (.all isMembers) rest
  simp only [Schema.read, opening, read, afterObjectEnd_append blank']

end Objects

section Lists

variable {fields : List (Field δ)} {draft final : δ} {values : List Value}
  {space inside more : List Char}

theorem readValues_of_fits
    (recognizes : ∀ field ∈ fields, ∀ draft, (field.reader draft).Recognizes (means field draft))
    (fits : Fits means fields draft values final) {index : Nat}
    (unread : Reader.Unread (index = 0) values more) (rest : List Char) :
    ∃ after, IsBlank after ∧
      schema.readValues index draft (more ++ ']' :: rest) fields =
        .ok (final, after ++ ']' :: rest) := by
  induction fits generalizing index more with
  | done => exact ⟨more, unread.isBlank, rfl⟩
  | missing optional fits ih =>
      have blank := unread.isBlank
      have later : Reader.Unread ((index + 1 : Nat) = 0) [] more := by simpa using .none blank
      simpa [readValues, Reader.nextElement_end blank, optional] using
        ih (fun field listed => recognizes field (by simp [listed])) later
  | value meant fits ih =>
      obtain ⟨spelled, others, bare, unread, next⟩ := unread.exists_next
      have reads := (recognizes _ (by simp) _).reads meant
      have read := reads spelled bare [] (by simp [IsBlank]) (others ++ ']' :: rest)
      rw [List.nil_append] at read
      simpa [readValues, next, read] using
        ih (fun field listed => recognizes field (by simp [listed])) (by simpa using unread)

theorem read_of_fits (recognizes : schema.Recognizes means)
    (fits : Fits means schema.fields schema.empty values final)
    (spells : Spells (.elements values) inside) (blank : IsBlank space) (rest : List Char) :
    schema.read (space ++ '[' :: (inside ++ ']' :: rest)) = schema.complete final rest := by
  have opening : skipSpace (space ++ '[' :: (inside ++ ']' :: rest)) =
      '[' :: (inside ++ ']' :: rest) := by
    rw [skipSpace_append blank, skipSpace_cons (by decide)]
  have values : ∃ after, IsBlank after ∧
      schema.readValues 0 schema.empty (inside ++ ']' :: rest) schema.fields =
        .ok (final, after ++ ']' :: rest) :=
    readValues_of_fits recognizes fits (by simpa using .all spells) rest
  obtain ⟨after, blank', read⟩ := values
  simp only [Schema.read, opening, read, Reader.closeList_append blank']

end Lists

end Schema

end SourceTree.Json
