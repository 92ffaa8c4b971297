import Mathlib.Data.List.Forall2
import SourceTree.Proofs.Json.Schema

/-!
# The texts that are records

A text is read as a record only if it holds an object whose members make up the record or a list
whose values do. Together with the converse this says exactly which texts are read and as what.
-/

namespace SourceTree.Json

section Denoted

/-- How the members of an object are written, each value with the white space around it. -/
def Writes : List (String × Value) → List (String × List Char) → Prop :=
  List.Forall₂ fun member raw => member.1 = raw.1 ∧ Spells (.padded member.2) raw.2

theorem Spells.exists_isMember {key : String} {value : Value} {spelled : List Char}
    (spells : Spells (.member key value) spelled) :
    ∃ raw, IsMember (key, raw) spelled ∧ Spells (.padded value) raw := by
  cases spells with
  | member before name after padded => exact ⟨_, .written before name after, padded⟩

theorem Spells.exists_isMembers {members : List (String × Value)} {inside : List Char}
    (spells : Spells (.members members) inside) :
    ∃ raws, IsMembers raws inside ∧ Writes members raws := by
  induction members generalizing inside with
  | nil =>
      cases spells with
      | noMember blank => exact ⟨[], .none blank, .nil⟩
  | cons member members ih =>
      cases spells with
      | lastMember member =>
          obtain ⟨raw, isMember, padded⟩ := member.exists_isMember
          exact ⟨_, .last isMember, .cons ⟨rfl, padded⟩ .nil⟩
      | nextMember member inner =>
          obtain ⟨raw, isMember, padded⟩ := member.exists_isMember
          obtain ⟨raws, others, writes⟩ := ih inner
          cases writes with
          | cons following rest =>
              exact ⟨_, .next isMember others, .cons ⟨rfl, padded⟩ (.cons following rest)⟩

/-- A text that denotes an object holds it. -/
theorem Denotes.exists_holdsObject {text : String} {members : List (String × Value)}
    (denotes : Denotes text (.object members)) :
    ∃ raws, HoldsObject text raws ∧ Writes members raws := by
  unfold Denotes at denotes
  generalize held : text.toList = input at denotes
  cases denotes with
  | @padded _ before _ after blank bare blank' =>
      cases bare with
      | @object _ inside spells =>
          obtain ⟨raws, isMembers, writes⟩ := spells.exists_isMembers
          exact ⟨raws, ⟨before, inside, after, blank, isMembers, blank', by simpa using held⟩,
            writes⟩

end Denoted

namespace Schema

variable {δ α : Type} {schema : Schema δ α} {means : Field δ → δ → Value → δ → Prop}

section Objects

variable {draft next final : δ} {key : String} {members : List (String × List Char)}
  {input raw rest space inside more : List Char}

theorem blank_append_members {member : String × List Char} (blank : IsBlank space)
    (isMembers : IsMembers (member :: members) inside) :
    IsMembers (member :: members) (space ++ inside) := by
  cases isMembers with
  | last isMember =>
      cases isMember with
      | written blank' spells blank'' =>
          rw [← List.append_assoc]
          exact .last (.written (blank.append blank') spells blank'')
  | next isMember others =>
      cases isMember with
      | written blank' spells blank'' =>
          rw [← List.append_assoc, ← List.append_assoc]
          exact .next (.written (blank.append blank') spells blank'') others

/-- A member in front of what follows it. White space behind its value belongs to the value. -/
theorem Unread.exists_members {name between : List Char} (unread : Unread false members more)
    (spells : SpellsText key.toList name) (blank : IsBlank between) (raw : List Char) :
    ∃ space, IsBlank space ∧ IsMembers ((key, raw ++ space) :: members)
      ('"' :: (name ++ '"' :: (between ++ ':' :: (raw ++ more)))) := by
  have isMember : ∀ raw, IsMember (key, raw) ('"' :: (name ++ '"' :: (between ++ ':' :: raw))) :=
    fun raw => .written (by simp [IsBlank] : IsBlank []) spells blank
  cases unread with
  | none blank' => exact ⟨more, blank', .last (isMember _)⟩
  | @more _ _ space _ blank' others =>
      exact ⟨space, blank', by simpa using IsMembers.next (isMember (raw ++ space)) others⟩

theorem exists_of_nextKey_none {isFirst : Bool} (success : nextKey isFirst input = .ok none) :
    ∃ space behind, IsBlank space ∧ input = space ++ '\x7d' :: behind := by
  rcases exists_space_append input with ⟨space, blank, cut⟩
  rw [nextKey] at success
  split at success
  next => cases success
  next behind first => exact ⟨space, behind, blank, by rw [cut, first]⟩
  next =>
    split at success
    next => split at success <;> cases success
    next =>
      split at success
      next => split at success <;> cases success
      next => cases success

/-- What is passed over in front of a member leads to it. -/
theorem exists_lead_of_nextKey {isFirst : Bool} {start : List Char}
    (success : nextKey isFirst input = .ok (some start)) :
    ∃ lead, input = lead ++ '"' :: start ∧
      ∀ {member : String × List Char} {members : List (String × List Char)} {inside : List Char},
        IsMembers (member :: members) inside →
          Unread isFirst (member :: members) (lead ++ inside) := by
  rcases exists_space_append input with ⟨space, blank, cut⟩
  rw [nextKey] at success
  split at success
  next => cases success
  next => cases success
  next symbol behind _ first =>
    split at success
    next isFirst =>
      subst isFirst
      split at success
      next quote =>
        cases success
        exact ⟨space, by rw [cut, first, quote],
          fun isMembers => .all (blank_append_members blank isMembers)⟩
      next => cases success
    next later =>
      rw [Bool.not_eq_true] at later
      subst later
      split at success
      next comma =>
        rcases exists_space_append behind with ⟨space', blank', cut'⟩
        split at success
        next => cases success
        next behind' first' =>
          cases success
          refine ⟨space ++ ',' :: space', ?_, fun {_ _ inside} isMembers => ?_⟩
          · rw [cut, first, comma, List.append_assoc, List.cons_append, ← first', ← cut']
          · rw [List.append_assoc]
            exact .more blank (blank_append_members blank' isMembers)
        next => cases success
        next => cases success
      next => cases success

theorem Accepts.append_blank (accepts : schema.Accepts means draft key raw next)
    (blank : IsBlank space) : schema.Accepts means draft key (raw ++ space) next := by
  cases accepts with
  | unknown absent form =>
      cases form with
      | padded before bare after =>
          rw [List.append_assoc, List.append_assoc]
          exact .unknown absent (.padded before bare (after.append blank))
  | field found new spells meant =>
      cases spells with
      | padded before bare after =>
          rw [List.append_assoc, List.append_assoc]
          exact .field found new (.padded before bare (after.append blank)) meant

theorem exists_accepts_of_readMember (recognizes : schema.Recognizes means)
    (success : schema.readMember draft key input = .ok (next, rest)) :
    ∃ space raw, IsBlank space ∧ schema.Accepts means draft key raw next ∧
      input = space ++ ':' :: (raw ++ rest) := by
  have no : IsBlank [] := by simp [IsBlank]
  rw [readMember] at success
  split at success
  next field found =>
    split at success
    next => cases success
    next new =>
      rw [Bool.not_eq_true] at new
      split at success
      next => cases success
      next behind colon =>
        rcases exists_space_of_readColon colon with ⟨space, blank, rfl⟩
        have recognized := recognizes field (List.mem_of_find?_eq_some found) draft
        rcases recognized.spelled success with ⟨value, before, spelled, meant, blank', bare, rfl⟩
        exact ⟨space, _, blank, .field found new (.padded blank' bare no) meant, by simp⟩
  next absent =>
    split at success
    next => cases success
    next behind colon =>
      rcases exists_space_of_readColon colon with ⟨space, blank, rfl⟩
      rcases Reader.exists_of_map_eq_ok success with ⟨behind', skipped, kept⟩
      cases kept
      rcases exists_form_of_skipValue skipped with ⟨before, spelled, blank', form, rfl⟩
      exact ⟨space, _, blank, .unknown absent (.padded blank' form no), by simp⟩

theorem exists_gathers_of_readMembers (recognizes : schema.Recognizes means) {isFirst : Bool}
    (success : schema.readMembers isFirst draft input = .ok (final, rest)) :
    ∃ members more space behind, schema.Gathers means draft members final ∧
      Unread isFirst members more ∧ IsBlank space ∧ rest = space ++ '\x7d' :: behind ∧
      input = more ++ '\x7d' :: behind := by
  fun_induction readMembers schema isFirst draft input with
  | case1 => cases success
  | case2 isFirst draft input next =>
      cases success
      rcases exists_of_nextKey_none next with ⟨space, behind, blank, cut⟩
      have unread : Unread isFirst [] space := by
        cases isFirst with
        | true => exact .all (.none blank)
        | false => exact .none blank
      exact ⟨[], space, space, behind, .done _, unread, blank, cut, cut⟩
  | case3 => cases success
  | case4 => cases success
  | case5 isFirst draft input start next key behind text next' rest' member ih =>
      rcases exists_lead_of_nextKey next with ⟨lead, rfl, leads⟩
      rcases exists_spells_of_readText text with ⟨name, spells, rfl⟩
      rcases exists_accepts_of_readMember recognizes member with
        ⟨between, raw, blank, accepts, rfl⟩
      rcases ih success with ⟨members, more, space, behind, gathers, unread, blank', rfl, rfl⟩
      rcases unread.exists_members spells blank raw with ⟨after, blank'', isMembers⟩
      refine ⟨(key, raw ++ after) :: members, _, space, behind,
        .member (accepts.append_blank blank'') gathers, leads isMembers, blank', rfl, ?_⟩
      simp

end Objects

section Lists

variable {fields : List (Field δ)} {draft final : δ} {input rest behind : List Char}

/-- At the end of a list the fields that are left are missing. -/
theorem fits_of_readValues_end {space : List Char} (blank : IsBlank space) {index : Nat}
    (success : schema.readValues index draft (space ++ ']' :: rest) fields = .ok (final, behind)) :
    Fits means fields draft [] final ∧ behind = space ++ ']' :: rest := by
  induction fields generalizing index with
  | nil =>
      cases success
      exact ⟨.done _, rfl⟩
  | cons field fields ih =>
      simp only [readValues, Reader.nextElement_end blank] at success
      split at success
      next optional => exact ⟨.missing optional (ih success).1, (ih success).2⟩
      next => cases success

theorem exists_fits_of_readValues
    (recognizes : ∀ field ∈ fields, ∀ draft, (field.reader draft).Recognizes (means field draft))
    {index : Nat} (success : schema.readValues index draft input fields = .ok (final, behind))
    (closing : Reader.closeList behind = .ok rest) :
    ∃ values more, Fits means fields draft values final ∧
      Reader.Unread (index = 0) values more ∧ input = more ++ ']' :: rest := by
  have ending : ∀ {index : Nat} {space : List Char}, IsBlank space →
      Reader.Unread (index = 0) [] space := by
    intro index space blank
    rcases Nat.eq_zero_or_pos index with first | later
    · simpa [first] using Reader.Unread.all (.noElement blank)
    · simpa [Nat.ne_of_gt later] using Reader.Unread.none blank
  induction fields generalizing draft input index with
  | nil =>
      cases success
      rcases Reader.exists_space_of_closeList closing with ⟨space, blank, cut⟩
      exact ⟨[], space, .done _, ending blank, cut⟩
  | cons field fields ih =>
      have others : ∀ field ∈ fields, ∀ draft,
          (field.reader draft).Recognizes (means field draft) :=
        fun field listed => recognizes field (by simp [listed])
      rcases next : Reader.nextElement (index = 0) input with fault | _ | start
      · simp [readValues, next] at success
      · rcases Reader.exists_of_nextElement_none next with ⟨space, behind', blank, rfl⟩
        rcases fits_of_readValues_end blank success with ⟨fits, rfl⟩
        rw [Reader.closeList_append blank, Except.ok.injEq] at closing
        exact ⟨[], space, fits, ending blank, by rw [closing]⟩
      · rcases Reader.exists_lead_of_nextElement next with ⟨lead, rfl, leads⟩
        simp only [readValues, next] at success
        split at success
        next => cases success
        next draft' rest' element =>
          have recognized := recognizes field (by simp) draft
          rcases recognized.spelled element with ⟨value, space, spelled, meant, blank, bare, rfl⟩
          rcases ih others success with ⟨values, more, fits, unread, rfl⟩
          have later : Reader.Unread false values more := by simpa using unread
          exact ⟨value :: values, _, .value meant fits, leads (later.elements blank bare), by simp⟩

end Lists

section Records

variable {record : α} {input rest : List Char}

theorem eq_of_complete {final : δ} {behind : List Char}
    (success : schema.complete final behind = .ok (record, rest)) :
    schema.finish final = .ok record ∧ behind = rest := by
  rw [complete] at success
  split at success
  next => cases success
  next finished =>
    cases success
    exact ⟨finished, rfl⟩

theorem exists_of_read (recognizes : schema.Recognizes means)
    (success : schema.read input = .ok (record, rest)) :
    ∃ space final, IsBlank space ∧ schema.finish final = .ok record ∧
      ((∃ members inside, schema.Gathers means schema.empty members final ∧
          IsMembers members inside ∧ input = space ++ '\x7b' :: (inside ++ '\x7d' :: rest)) ∨
        ∃ values inside, Fits means schema.fields schema.empty values final ∧
          Spells (.elements values) inside ∧ input = space ++ '[' :: (inside ++ ']' :: rest)) := by
  rcases exists_space_append input with ⟨space, blank, cut⟩
  rw [Schema.read] at success
  split at success
  next start first =>
    split at success
    next => cases success
    next final behind read =>
      rcases exists_gathers_of_readMembers recognizes read with
        ⟨members, inside, space', behind', gathers, unread, blank', rfl, rfl⟩
      rw [afterObjectEnd_append blank'] at success
      rcases eq_of_complete success with ⟨finished, rfl⟩
      cases unread with
      | all isMembers =>
          exact ⟨space, final, blank, finished,
            .inl ⟨members, inside, gathers, isMembers, by rw [cut, first]⟩⟩
  next start first =>
    split at success
    next => cases success
    next final behind read =>
      split at success
      next => cases success
      next closing =>
        rcases exists_fits_of_readValues recognizes read closing with
          ⟨values, inside, fits, unread, rfl⟩
        rcases eq_of_complete success with ⟨finished, rfl⟩
        cases unread with
        | all spells =>
            exact ⟨space, final, blank, finished,
              .inr ⟨values, inside, fits, spells, by rw [cut, first]⟩⟩
  next => cases success

/-- A text is read as a record exactly if it holds an object whose members make up the record, or a
list whose values do. -/
theorem parse_eq_ok_iff (recognizes : schema.Recognizes means) (text : String) :
    schema.parse text = .ok record ↔
      ∃ final, schema.finish final = .ok record ∧
        ((∃ members, HoldsObject text members ∧
            schema.Gathers means schema.empty members final) ∨
          ∃ values, Denotes text (.list values) ∧
            Fits means schema.fields schema.empty values final) := by
  constructor
  · intro success
    rw [parse] at success
    split at success
    next => cases success
    next value rest read =>
      rcases exists_space_append rest with ⟨after, blank', trailing⟩
      split at success
      next ending =>
        cases success
        rw [ending, List.append_nil] at trailing
        subst trailing
        rcases exists_of_read recognizes read with
          ⟨space, final, blank, finished, ⟨members, inside, gathers, isMembers, shape⟩ |
            ⟨values, inside, fits, spells, shape⟩⟩
        · exact ⟨final, finished,
            .inl ⟨members, ⟨space, inside, rest, blank, isMembers, blank', shape⟩, gathers⟩⟩
        · refine ⟨final, finished, .inr ⟨values, ?_, fits⟩⟩
          rw [Denotes, shape]
          simpa using Spells.padded blank (.list spells) blank'
      next => cases success
  · have trailing : ∀ {after : List Char}, IsBlank after → skipSpace after = [] := by
      intro after blank
      simpa [skipSpace] using skipSpace_append blank []
    rintro ⟨final, finished, ⟨members, ⟨before, inside, after, blank, isMembers, blank', shape⟩,
      gathers⟩ | ⟨values, denotes, fits⟩⟩
    · simp only [parse, shape, read_of_gathers recognizes gathers isMembers blank, complete,
        finished, trailing blank']
    · rw [Denotes] at denotes
      rw [parse]
      generalize text.toList = input at denotes
      cases denotes with
      | padded blank bare blank' =>
          cases bare with
          | list spells =>
              simp only [List.cons_append, List.append_assoc, List.nil_append,
                read_of_fits recognizes fits spells blank, complete, finished, trailing blank']

end Records

end Schema

end SourceTree.Json
