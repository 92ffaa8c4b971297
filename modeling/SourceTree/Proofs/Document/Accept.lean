import SourceTree.Document.Load
import SourceTree.Proofs.Json.Record

/-!
# The texts that are map documents

A text is read as a map document exactly if it holds an object in which the two lists are missing,
`null` or of their type, and neither stands twice. Nothing is asked of the other members but the
form of a value. A list is read as well, with the two lists in order as its values.
-/

namespace SourceTree.MapDocument

open Json (Value Spells HasForm HoldsObject Denotes)

/-- What is written for the names of the sources. -/
def namesValue (names : List String) : Value :=
  .list (names.map .text)

/-- What is written for the contents of the sources. -/
def contentsValue (contents : List (Option String)) : Value :=
  .list (contents.map (.orNull .text))

/-- The values of the members called `key` in order, as they are written. -/
def rawsOf (key : String) (members : List (String × List Char)) : List (List Char) :=
  (members.filter fun member => member.1 == key).map Prod.snd

/-- What the members of one key say: there are none, or there is one and it is `null` or a value. -/
inductive Gives {α : Type} (encode : α → Value) : List (List Char) → Option α → Prop
  | missing : Gives encode [] none
  | written {raw : List Char} (result : Option α)
      (spells : Spells (.padded (.orNull encode result)) raw) : Gives encode [raw] result

/-- Whether a text holds a document as an object. -/
def IsObject (text : String) (document : MapDocument) : Prop :=
  ∃ members, HoldsObject text members ∧
    Gives namesValue (rawsOf "sources" members) document.names ∧
    Gives contentsValue (rawsOf "sourcesContent" members) document.contents ∧
    ∀ member ∈ members, member.1 ∉ ["sources", "sourcesContent"] → HasForm .padded member.2

/-- The documents that the values of a list make up. -/
inductive Lists : List Value → MapDocument → Prop
  | none : Lists [] { names := .none, contents := .none }
  | names (names : Option (List String)) :
      Lists [.orNull namesValue names] { names, contents := .none }
  | both (names : Option (List String)) (contents : Option (List (Option String))) :
      Lists [.orNull namesValue names, .orNull contentsValue contents] { names, contents }

/-- Whether a text holds a document as a list. -/
def IsList (text : String) (document : MapDocument) : Prop :=
  ∃ values, Denotes text (.list values) ∧ Lists values document

section Fields

/-- What the value of a field does to a draft. -/
def Means (field : Json.Field Draft) (draft : Draft) (value : Value) (next : Draft) : Prop :=
  (field.name = "sources" ∧ ∃ names, value = .orNull namesValue names ∧
      next = { draft with sources := some names }) ∨
    (field.name = "sourcesContent" ∧ ∃ contents, value = .orNull contentsValue contents ∧
      next = { draft with sourcesContent := some contents })

variable {field : Json.Field Draft} {draft next : Draft} {value : Value} {raw : List Char}

theorem means_sources (called : field.name = "sources") :
    Means field draft value next ↔
      ∃ names, value = .orNull namesValue names ∧ next = { draft with sources := some names } := by
  simp [Means, called]

theorem means_sourcesContent (called : field.name = "sourcesContent") :
    Means field draft value next ↔
      ∃ contents, value = .orNull contentsValue contents ∧
        next = { draft with sourcesContent := some contents } := by
  simp [Means, called]

theorem recognizes_schema : schema.Recognizes Means := by
  have text := Json.Reader.recognizes_text textKind
  intro field listed draft
  simp only [schema, List.mem_cons, List.not_mem_nil, or_false] at listed
  rcases listed with rfl | rfl
  · have names := text.list.optional (by simp)
    exact (names.map _).of_iff fun _ _ => (means_sources rfl).symm
  · have contents := (text.optional (by simp)).list.optional (by simp)
    exact (contents.map _).of_iff fun _ _ => (means_sourcesContent rfl).symm

theorem accepts_sources :
    schema.Accepts Means draft "sources" raw next ↔
      draft.sources = none ∧ ∃ names, Spells (.padded (.orNull namesValue names)) raw ∧
        next = { draft with sources := some names } := by
  have found : schema.find? "sources" = some _ := rfl
  simpa using Json.Schema.accepts_iff_of_encoded found fun _ _ => means_sources rfl

theorem accepts_sourcesContent :
    schema.Accepts Means draft "sourcesContent" raw next ↔
      draft.sourcesContent = none ∧
        ∃ contents, Spells (.padded (.orNull contentsValue contents)) raw ∧
          next = { draft with sourcesContent := some contents } := by
  have found : schema.find? "sourcesContent" = some _ := rfl
  simpa using Json.Schema.accepts_iff_of_encoded found fun _ _ => means_sourcesContent rfl

theorem accepts_other {key : String} (notNames : key ≠ "sources")
    (notContents : key ≠ "sourcesContent") :
    schema.Accepts Means draft key raw next ↔ HasForm .padded raw ∧ next = draft := by
  apply Json.Schema.accepts_iff_of_absent
  simp [Json.Schema.find?, schema, notNames.symm, notContents.symm]

end Fields

section Members

variable {α : Type} {encode : α → Value} {draft final : Draft}

/-- How the members of one key change a field of a draft: there are none, or the field had no value
yet and gets one. -/
inductive Settles (encode : α → Value) :
    Option (Option α) → List (List Char) → Option (Option α) → Prop
  | kept (before : Option (Option α)) : Settles encode before [] before
  | settled {raw : List Char} (result : Option α)
      (spells : Spells (.padded (.orNull encode result)) raw) :
      Settles encode none [raw] (some result)

@[simp]
theorem settles_nil_iff {before after : Option (Option α)} :
    Settles encode before [] after ↔ after = before := by
  constructor
  · rintro ⟨⟩
    rfl
  · rintro rfl
    exact .kept after

theorem settles_cons_iff {before after : Option (Option α)} {raw : List Char}
    {raws : List (List Char)} :
    Settles encode before (raw :: raws) after ↔
      before = none ∧ ∃ result, Spells (.padded (.orNull encode result)) raw ∧
        Settles encode (some result) raws after := by
  constructor
  · rintro ⟨⟩
    next result spells => exact ⟨rfl, result, spells, .kept _⟩
  · rintro ⟨rfl, result, spells, ⟨⟩⟩
    exact .settled result spells

theorem gives_iff {raws : List (List Char)} {result : Option α} :
    Gives encode raws result ↔
      ∃ found, Settles encode none raws found ∧ found.bind id = result := by
  constructor
  · rintro ⟨⟩
    next => exact ⟨none, .kept none, rfl⟩
    next spells => exact ⟨some result, .settled result spells, rfl⟩
  · rintro ⟨found, ⟨⟩, rfl⟩
    next => exact .missing
    next result spells => exact .written result spells

theorem rawsOf_cons (key name : String) (raw : List Char) (members : List (String × List Char)) :
    rawsOf key ((name, raw) :: members) =
      if name = key then raw :: rawsOf key members else rawsOf key members := by
  by_cases same : name = key <;> simp [rawsOf, same]

theorem gathers_iff {members : List (String × List Char)} :
    schema.Gathers Means draft members final ↔
      Settles namesValue draft.sources (rawsOf "sources" members) final.sources ∧
        Settles contentsValue draft.sourcesContent (rawsOf "sourcesContent" members)
          final.sourcesContent ∧
        ∀ member ∈ members, member.1 ∉ ["sources", "sourcesContent"] →
          HasForm .padded member.2 := by
  induction members generalizing draft with
  | nil =>
      rcases draft with ⟨names, contents⟩
      rcases final with ⟨finalNames, finalContents⟩
      simp [Json.Schema.gathers_nil_iff, rawsOf]
  | cons member members ih =>
      rcases member with ⟨key, raw⟩
      rw [Json.Schema.gathers_cons_iff, rawsOf_cons, rawsOf_cons, List.forall_mem_cons]
      simp only [ih]
      by_cases isNames : key = "sources"
      · subst isNames
        rw [if_pos rfl, if_neg (by decide), settles_cons_iff]
        simp only [accepts_sources]
        constructor
        · rintro ⟨_, ⟨new, names, spells, rfl⟩, settles, contents, others⟩
          exact ⟨⟨new, names, spells, settles⟩, contents, by simp, others⟩
        · rintro ⟨⟨new, names, spells, settles⟩, contents, -, others⟩
          exact ⟨_, ⟨new, names, spells, rfl⟩, settles, contents, others⟩
      · by_cases isContents : key = "sourcesContent"
        · subst isContents
          rw [if_pos rfl, if_neg isNames, settles_cons_iff]
          simp only [accepts_sourcesContent]
          constructor
          · rintro ⟨_, ⟨new, contents, spells, rfl⟩, names, settles, others⟩
            exact ⟨names, ⟨new, contents, spells, settles⟩, by simp, others⟩
          · rintro ⟨names, ⟨new, contents, spells, settles⟩, -, others⟩
            exact ⟨_, ⟨new, contents, spells, rfl⟩, names, settles, others⟩
        · rw [if_neg isNames, if_neg isContents]
          simp only [accepts_other isNames isContents]
          constructor
          · rintro ⟨_, ⟨form, rfl⟩, names, contents, others⟩
            exact ⟨names, contents, fun _ => form, others⟩
          · rintro ⟨names, contents, form, others⟩
            exact ⟨_, ⟨form (by simp [isNames, isContents]), rfl⟩, names, contents, others⟩

end Members

theorem lists_iff {values : List Value} {document : MapDocument} :
    Lists values document ↔ ∃ final, schema.finish final = .ok document ∧
      Json.Schema.Fits Means schema.fields schema.empty values final := by
  constructor
  · intro lists
    cases lists with
    | none => exact ⟨_, rfl, .missing rfl (.missing rfl (.done _))⟩
    | names names =>
        exact ⟨_, rfl, .value ((means_sources rfl).2 ⟨names, rfl, rfl⟩) (.missing rfl (.done _))⟩
    | both names contents =>
        exact ⟨_, rfl, .value ((means_sources rfl).2 ⟨names, rfl, rfl⟩)
          (.value ((means_sourcesContent rfl).2 ⟨contents, rfl, rfl⟩) (.done _))⟩
  · rintro ⟨final, finished, fits⟩
    cases finished
    rcases fits with _ | ⟨-, ⟨⟩ | ⟨-, ⟨⟩⟩⟩ | ⟨meant, fits⟩
    · exact .none
    · rcases (means_sources rfl).1 meant with ⟨names, rfl, rfl⟩
      rcases fits with _ | ⟨-, ⟨⟩⟩ | ⟨meant, ⟨⟩⟩
      · exact .names names
      · rcases (means_sourcesContent rfl).1 meant with ⟨contents, rfl, rfl⟩
        exact .both names contents

/-- The texts that are read, and the document that each of them is read as. -/
theorem parse_eq_ok_iff (text : String) (document : MapDocument) :
    parse text = .ok document ↔ IsObject text document ∨ IsList text document := by
  rw [parse, Json.Schema.parse_eq_ok_iff recognizes_schema]
  constructor
  · rintro ⟨final, finished, ⟨members, object, gathers⟩ | ⟨values, denotes, fits⟩⟩
    · cases finished
      rcases gathers_iff.1 gathers with ⟨names, contents, others⟩
      exact .inl ⟨members, object, gives_iff.2 ⟨_, names, rfl⟩, gives_iff.2 ⟨_, contents, rfl⟩,
        others⟩
    · exact .inr ⟨values, denotes, lists_iff.2 ⟨final, finished, fits⟩⟩
  · rintro (⟨members, object, names, contents, others⟩ | ⟨values, denotes, lists⟩)
    · rcases gives_iff.1 names with ⟨foundNames, settlesNames, sameNames⟩
      rcases gives_iff.1 contents with ⟨foundContents, settlesContents, sameContents⟩
      have same : MapDocument.mk (foundNames.bind id) (foundContents.bind id) = document := by
        rw [sameNames, sameContents]
      exact ⟨⟨foundNames, foundContents⟩, congrArg Except.ok same, .inl ⟨members, object,
        gathers_iff.2 ⟨settlesNames, settlesContents, others⟩⟩⟩
    · rcases lists_iff.1 lists with ⟨final, finished, fits⟩
      exact ⟨final, finished, .inr ⟨values, denotes, fits⟩⟩

example : parse "[null, []]" = .ok { names := none, contents := some [] } := by cbv

/-- A text with an object in it is not a list. -/
theorem not_holdsObject_of_denotes {text : String} {values : List Value}
    (denotes : Denotes text (.list values)) (members : List (String × List Char)) :
    ¬ HoldsObject text members := by
  rintro ⟨before, inside, after, blank, -, -, shape⟩
  rw [Denotes, shape] at denotes
  generalize spelled : before ++ _ = input at denotes
  cases denotes with
  | padded blank' bare _ =>
      cases bare with
      | list =>
          have first := congrArg Json.skipSpace spelled
          rw [Json.skipSpace_append blank, Json.skipSpace_append blank'] at first
          simp [Json.skipSpace_cons, Json.isSpace] at first

/-- What is read as a map document, and what is malformed. A list of the values of the two members
is read like the object with these members, but it is none. -/
theorem ofText_exact (text : String) :
    (∀ document, ofText text = .ok document ↔ IsObject text document ∨ IsList text document) ∧
      ((∃ fault, ofText text = .error (.malformed text fault)) ↔
        ∀ document, ¬ (IsObject text document ∨ IsList text document)) ∧
      ∀ document, IsList text document → ∀ members, ¬ HoldsObject text members := by
  have accepted : ∀ document,
      ofText text = .ok document ↔ IsObject text document ∨ IsList text document := by
    intro document
    rw [← parse_eq_ok_iff, ofText]
    rcases parse text with fault | found <;> simp [Except.mapError]
  refine ⟨accepted, ?_, ?_⟩
  · simp only [← accepted]
    rw [ofText]
    rcases parse text with fault | found <;> simp [Except.mapError]
  · rintro document ⟨values, denotes, -⟩
    exact not_holdsObject_of_denotes denotes

end SourceTree.MapDocument
