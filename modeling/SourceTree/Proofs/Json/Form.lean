import SourceTree.Proofs.Json.Grammar

/-!
# Texts with the form of a value

Where nothing asks for what a value stands for, only its form counts. The form is that of the
grammar with one difference: between quotes, any four hexadecimal digits can stand in an escape. So
a lone surrogate has the form of a text although no text is spelled like that.

Lists and objects are alike in form but for their brackets and for the key that leads each item of
an object.
-/

namespace SourceTree.Json

/-- What can stand between the quotes of a text, if it is not asked what the text is. -/
inductive HasTextForm : List Char → Prop
  | nil : HasTextForm []
  | plain {symbol : Char} {rest : List Char} :
      isPlain symbol = true → HasTextForm rest → HasTextForm (symbol :: rest)
  | letter {letter symbol : Char} {rest : List Char} :
      (letter, symbol) ∈ escapes → HasTextForm rest → HasTextForm ('\\' :: letter :: rest)
  | unit {unit : Nat} {digits rest : List Char} :
      IsHex unit digits → HasTextForm rest → HasTextForm ('\\' :: 'u' :: (digits ++ rest))

/-- The character that opens a bracket. -/
def Bracket.opener : Bracket → Char
  | .list => '['
  | .object => '\x7b'

/-- What leads the value of an item: nothing in a list, a key and a colon in an object. -/
inductive IsLead : Bracket → List Char → Prop
  | list : IsLead .list []
  | object {before name after : List Char} :
      IsBlank before → HasTextForm name → IsBlank after →
      IsLead .object (before ++ '"' :: (name ++ '"' :: (after ++ [':'])))

/-- The parts of a text that have a form. -/
inductive Form where
  /-- A value with no white space around it. -/
  | bare
  /-- A value and the white space on both sides. -/
  | padded
  /-- The items between two brackets, of which there is at least one. -/
  | items (bracket : Bracket)

/-- The texts that have a form. -/
inductive HasForm : Form → List Char → Prop
  | word {word : List Char} :
      word ∈ ["null".toList, "true".toList, "false".toList] → HasForm .bare word
  | number {spelled : List Char} : IsNumber spelled → HasForm .bare spelled
  | text {spelled : List Char} :
      HasTextForm spelled → HasForm .bare ('"' :: (spelled ++ ['"']))
  | empty {space : List Char} (bracket : Bracket) :
      IsBlank space → HasForm .bare (bracket.opener :: (space ++ [bracket.closer]))
  | filled {bracket : Bracket} {inside : List Char} :
      HasForm (.items bracket) inside →
      HasForm .bare (bracket.opener :: (inside ++ [bracket.closer]))
  | padded {before spelled after : List Char} :
      IsBlank before → HasForm .bare spelled → IsBlank after →
      HasForm .padded (before ++ (spelled ++ after))
  | last {bracket : Bracket} {lead spelled : List Char} :
      IsLead bracket lead → HasForm .padded spelled → HasForm (.items bracket) (lead ++ spelled)
  | next {bracket : Bracket} {lead spelled behind : List Char} :
      IsLead bracket lead → HasForm .padded spelled → HasForm (.items bracket) behind →
      HasForm (.items bracket) (lead ++ (spelled ++ ',' :: behind))

section Spells

theorem HasTextForm.of_symbol {symbol : Char} {part rest : List Char}
    (spells : SpellsSymbol symbol part) (form : HasTextForm rest) : HasTextForm (part ++ rest) := by
  cases spells with
  | plain plain => exact .plain plain form
  | letter listed => exact .letter listed form
  | unit hex => exact .unit hex form
  | @pair _ first second _ opening closing =>
      have pair : HasTextForm ('\\' :: 'u' :: (first ++ '\\' :: 'u' :: (second ++ rest))) :=
        .unit opening (.unit closing form)
      simpa using pair

theorem SpellsText.hasTextForm {symbols spelled : List Char} (spells : SpellsText symbols spelled) :
    HasTextForm spelled := by
  induction spells with
  | nil => exact .nil
  | cons symbol _ ih => exact .of_symbol symbol ih

/-- The form of what is spelled as a node. -/
def Node.HasForm : Node → List Char → Prop
  | .bare _, spelled => Json.HasForm .bare spelled
  | .padded _, spelled => Json.HasForm .padded spelled
  | .elements [], spelled => IsBlank spelled
  | .elements (_ :: _), spelled => Json.HasForm (.items .list) spelled
  | .member _ _, spelled => ∃ lead behind, spelled = lead ++ behind ∧ IsLead .object lead ∧
      Json.HasForm .padded behind
  | .members [], spelled => IsBlank spelled
  | .members (_ :: _), spelled => Json.HasForm (.items .object) spelled

theorem Spells.hasForm {node : Node} {spelled : List Char} (spells : Spells node spelled) :
    node.HasForm spelled := by
  induction spells with
  | null => exact .word (by simp)
  | true => exact .word (by simp)
  | false => exact .word (by simp)
  | number isNumber => exact .number isNumber
  | text spellsText => exact .text spellsText.hasTextForm
  | @list values spelled _ ih =>
      cases values with
      | nil => exact .empty .list ih
      | cons => exact .filled ih
  | @object members spelled _ ih =>
      cases members with
      | nil => exact .empty .object ih
      | cons => exact .filled ih
  | padded before _ after ih => exact .padded before ih after
  | noElement blank => exact blank
  | lastElement _ ih => exact .last .list ih
  | element _ _ ihValue ihRest => exact .next .list ihValue ihRest
  | member before key after _ ih =>
      exact ⟨_, _, by simp, .object before key.hasTextForm after, ih⟩
  | noMember blank => exact blank
  | lastMember _ ih =>
      rcases ih with ⟨lead, behind, rfl, isLead, form⟩
      exact .last isLead form
  | nextMember _ _ ihMember ihRest =>
      rcases ihMember with ⟨lead, behind, rfl, isLead, form⟩
      rw [List.append_assoc]
      exact .next isLead form ihRest

end Spells

section Blank

theorem IsBlank.append {first second : List Char} (blank : IsBlank first)
    (blank' : IsBlank second) : IsBlank (first ++ second) := by
  intro symbol member
  rcases List.mem_append.1 member with early | late
  · exact blank symbol early
  · exact blank' symbol late

/-- White space in front of an item belongs to it. -/
theorem IsLead.exists_blank_append {bracket : Bracket} {lead value space : List Char}
    (isLead : IsLead bracket lead) (padded : HasForm .padded value) (blank : IsBlank space) :
    ∃ lead' value', IsLead bracket lead' ∧ HasForm .padded value' ∧
      (∀ rest, space ++ (lead ++ (value ++ rest)) = lead' ++ (value' ++ rest)) := by
  cases isLead with
  | list =>
      cases padded with
      | padded before bare after =>
          exact ⟨[], _, .list, .padded (blank.append before) bare after, by simp⟩
  | object before name after =>
      exact ⟨_, value, .object (blank.append before) name after, padded, by simp⟩

theorem HasForm.blank_append {bracket : Bracket} {items space : List Char}
    (form : HasForm (.items bracket) items) (blank : IsBlank space) :
    HasForm (.items bracket) (space ++ items) := by
  cases form with
  | last isLead padded =>
      rcases isLead.exists_blank_append padded blank with ⟨lead, value, isLead, padded, same⟩
      have shape := same []
      simp only [List.append_nil] at shape
      rw [shape]
      exact .last isLead padded
  | next isLead padded others =>
      rcases isLead.exists_blank_append padded blank with ⟨lead, value, isLead, padded, same⟩
      rw [same]
      exact .next isLead padded others

end Blank

section FirstCharacter

/-- A value starts with a character that is neither white space nor the end of a list. -/
theorem HasForm.exists_cons {spelled : List Char} (form : HasForm .bare spelled) :
    ∃ symbol behind, spelled = symbol :: behind ∧ isSpace symbol = false ∧ symbol ≠ ']' := by
  cases form with
  | word listed =>
      simp only [List.mem_cons, List.not_mem_nil, or_false] at listed
      rcases listed with rfl | rfl | rfl
      · exact ⟨'n', "ull".toList, by decide, by decide, by decide⟩
      · exact ⟨'t', "rue".toList, by decide, by decide, by decide⟩
      · exact ⟨'f', "alse".toList, by decide, by decide, by decide⟩
  | number isNumber =>
      rcases (Spells.number isNumber).exists_opensWith with ⟨symbol, behind, shape, opens⟩
      exact ⟨symbol, behind, shape, Value.isSpace_eq_false opens, Value.ne_closer opens⟩
  | text => exact ⟨'"', _, rfl, by decide, by decide⟩
  | empty bracket => cases bracket <;> exact ⟨_, _, rfl, by decide, by decide⟩
  | @filled bracket => cases bracket <;> exact ⟨_, _, rfl, by decide, by decide⟩

end FirstCharacter

end SourceTree.Json
