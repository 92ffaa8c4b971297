import SourceTree.Document.Basic
import SourceTree.Json.Schema

/-!
# Reading map documents

A map document is a JSON object with the members `sources` and `sourcesContent`; each may be
missing or `null`.
-/

namespace SourceTree.MapDocument

/-- The members of a map document found so far. -/
structure Draft where
  sources : Option (Option (List String)) := none
  sourcesContent : Option (Option (List (Option String))) := none

/-- What a text value is called in messages. -/
def textKind : String := "a string"

/-- The members of a map document. -/
def schema : Json.Schema Draft MapDocument where
  title := "struct MappingDocument"
  empty := {}
  finish := fun draft =>
    .ok { names := draft.sources.bind id, contents := draft.sourcesContent.bind id }
  fields :=
    [{ name := "sources"
       isOptional := true
       isPresent := fun draft => draft.sources.isSome
       reader := fun draft =>
         (Json.Reader.text textKind).list.optional.map fun value =>
           { draft with sources := some value } },
     { name := "sourcesContent"
       isOptional := true
       isPresent := fun draft => draft.sourcesContent.isSome
       reader := fun draft =>
         (Json.Reader.text textKind).optional.list.optional.map fun value =>
           { draft with sourcesContent := some value } }]

/-- The document that a text holds. -/
def parse (text : String) : Except Json.Fault MapDocument :=
  schema.parse text

end SourceTree.MapDocument
