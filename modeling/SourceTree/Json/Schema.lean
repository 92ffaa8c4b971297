import SourceTree.Json.Reader

/-!
# Records

A schema lists the fields of a record in order. While a record is read, the values found so far
are kept in a draft; a field says how its value is read into the draft and whether the draft has it
already.
-/

namespace SourceTree.Json

/-- A field of a record whose values are collected in a `δ`. -/
structure Field (δ : Type) where
  name : String
  /-- Whether the record can do without the field. -/
  isOptional : Bool
  /-- Whether a draft has a value for the field. -/
  isPresent : δ → Bool
  /-- Reads the value of the field into a draft. -/
  reader : δ → Reader δ

/-- The fields of a record in order. -/
structure Schema (δ α : Type) where
  /-- What the record is called in messages. -/
  title : String
  fields : List (Field δ)
  /-- The draft before anything is read. -/
  empty : δ
  /-- The record that a draft stands for, or the name of a field that it lacks. -/
  finish : δ → Except String α

namespace Schema

variable {δ α : Type}

/-- The field called `name`. -/
def find? (schema : Schema δ α) (name : String) : Option (Field δ) :=
  schema.fields.find? fun field => field.name == name

/-- Where the next key of an object starts, behind its opening quote, or none where the closing
bracket stands. A comma must stand before every member but the first. -/
def nextKey (isFirst : Bool) (input : List Char) : Except Fault (Option (List Char)) :=
  match skipSpace input with
  | [] => .error (.next .unfinishedObject [])
  | '\x7d' :: _ => .ok none
  | symbol :: rest =>
      if isFirst then
        if symbol = '"' then .ok (some rest) else .error (.next .keyNotText (symbol :: rest))
      else if symbol = ',' then
        match skipSpace rest with
        | [] => .error (.next .unfinishedValue [])
        | '"' :: behind => .ok (some behind)
        | '\x7d' :: behind => .error (.next .trailingComma ('\x7d' :: behind))
        | start => .error (.next .keyNotText start)
      else .error (.next .missingObjectEnd (symbol :: rest))

theorem length_of_nextKey {isFirst : Bool} {input start : List Char}
    (success : nextKey isFirst input = .ok (some start)) : start.length < input.length := by
  have space := length_skipSpace_le input
  unfold nextKey at success
  split at success
  · simp at success
  · simp at success
  next symbol rest _ shape =>
    rw [shape, List.length_cons] at space
    split at success
    · split at success
      · simp only [Except.ok.injEq, Option.some.injEq] at success
        rw [← success]
        omega
      · simp at success
    · split at success
      · have inner := length_skipSpace_le rest
        split at success
        · simp at success
        next behind shape' =>
          simp only [Except.ok.injEq, Option.some.injEq] at success
          rw [shape', List.length_cons, success] at inner
          omega
        · simp at success
        · simp at success
      · simp at success

/-- Where reading stands after an attempt to close an object. -/
def afterObjectEnd (input : List Char) : List Char :=
  match skipSpace input with
  | '\x7d' :: rest => rest
  | rest => rest

/-- The value of the member called `key`, read into the draft or skipped. -/
def readMember (schema : Schema δ α) (draft : δ) (key : String) (input : List Char) :
    Except Fault (δ × List Char) :=
  match schema.find? key with
  | some field =>
      if field.isPresent draft then
        .error (.here (.duplicateField field.name) (afterObjectEnd input))
      else
        match readColon input with
        | .error fault => .error fault
        | .ok rest => (field.reader draft).read rest
  | none =>
      match readColon input with
      | .error fault => .error fault
      | .ok rest => (skipValue rest).map (draft, ·)

theorem length_of_readMember {schema : Schema δ α} {draft after : δ} {key : String}
    {input rest : List Char} (success : schema.readMember draft key input = .ok (after, rest)) :
    rest.length < input.length := by
  unfold readMember at success
  split at success
  · split at success
    · simp at success
    · split at success
      · simp at success
      next colon =>
        have := length_of_readColon colon
        have := Reader.shrinks _ success
        omega
  · split at success
    · simp at success
    next behind colon =>
      have := length_of_readColon colon
      cases shape : skipValue behind with
      | error fault => simp [shape, Except.map] at success
      | ok behind' =>
          have := length_of_skipValue shape
          simp only [shape, Except.map, Except.ok.injEq, Prod.mk.injEq] at success
          rw [← success.2]
          omega

/-- The members of an object from the one that comes next. The rest starts with the closing
bracket. -/
def readMembers (schema : Schema δ α) (isFirst : Bool) (draft : δ) (input : List Char) :
    Except Fault (δ × List Char) :=
  match _next : nextKey isFirst input with
  | .error fault => .error fault
  | .ok none => .ok (draft, input)
  | .ok (some start) =>
      match _key : readText start with
      | .error fault => .error fault
      | .ok (key, rest) =>
          match _member : schema.readMember draft key rest with
          | .error fault => .error fault
          | .ok (draft, behind) => readMembers schema false draft behind
termination_by input.length
decreasing_by
  have := length_of_nextKey _next
  have := length_of_readText _key
  have := length_of_readMember _member
  omega

/-- The values of the fields in order, numbered from `index`, out of a list that may end before
fields that can be missing. The rest starts at the closing bracket or at an element too many. -/
def readValues (schema : Schema δ α) (index : Nat) (draft : δ) (input : List Char) :
    List (Field δ) → Except Fault (δ × List Char)
  | [] => .ok (draft, input)
  | field :: fields =>
      match Reader.nextElement (index = 0) input with
      | .error fault => .error fault
      | .ok none =>
          if field.isOptional then readValues schema (index + 1) draft input fields
          else
            let expected := schema.title ++ " with " ++ toString schema.fields.length ++ " elements"
            .error (.here (.wrongLength index expected) (Reader.afterListEnd input))
      | .ok (some start) =>
          match (field.reader draft).read start with
          | .error fault => .error fault
          | .ok (draft, rest) => readValues schema (index + 1) draft rest fields

/-- The record that a draft stands for, when reading stands before `rest`. -/
def complete (schema : Schema δ α) (draft : δ) (rest : List Char) :
    Except Fault (α × List Char) :=
  match schema.finish draft with
  | .error name => .error (.here (.missingField name) rest)
  | .ok value => .ok (value, rest)

/-- A record, as an object or as the list of its values. -/
def read (schema : Schema δ α) (input : List Char) : Except Fault (α × List Char) :=
  match skipSpace input with
  | '\x7b' :: rest =>
      match schema.readMembers true schema.empty rest with
      | .error fault => .error fault
      | .ok (draft, behind) => schema.complete draft (afterObjectEnd behind)
  | '[' :: rest =>
      match schema.readValues 0 schema.empty rest schema.fields with
      | .error fault => .error fault
      | .ok (draft, behind) =>
          match Reader.closeList behind with
          | .error fault => .error fault
          | .ok rest => schema.complete draft rest
  | rest => .error (misfit schema.title rest)

/-- Reads a whole text as one record. -/
def parse (schema : Schema δ α) (text : String) : Except Fault α :=
  match schema.read text.toList with
  | .error fault => .error fault
  | .ok (value, rest) =>
      match skipSpace rest with
      | [] => .ok value
      | rest => .error (.next .trailingText rest)

end Schema

end SourceTree.Json
