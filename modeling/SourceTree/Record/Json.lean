import SourceTree.Json.Schema
import SourceTree.Record.Draft

/-!
# Records in JSON
-/

namespace SourceTree.Record

/-- A field that every record has. -/
def required (name : String) (get : Draft → Option α) (reader : Draft → Json.Reader Draft) :
    Json.Field Draft where
  name
  isOptional := false
  isPresent draft := (get draft).isSome
  reader

/-- Reads a path. -/
def pathReader : Json.Reader Path :=
  (Json.Reader.text "path string").map Path.mk

/-- Reads a text. -/
def textReader : Json.Reader String :=
  Json.Reader.text "a string"

/-- The members of a record. -/
def schema : Json.Schema Draft Record where
  title := "struct Config"
  empty := {}
  finish := Draft.finish
  fields :=
    [required "inputDir" Draft.inputDir fun draft =>
       pathReader.map fun path => { draft with inputDir := some path },
     required "baseUrl" Draft.baseUrl fun draft =>
       textReader.map fun text => { draft with baseUrl := some text },
     required "baseOutputDir" Draft.baseOutputDir fun draft =>
       pathReader.map fun path => { draft with baseOutputDir := some path },
     required "mapsDir" Draft.mapsDir fun draft =>
       pathReader.map fun path => { draft with mapsDir := some path },
     required "decompiledDir" Draft.decompiledDir fun draft =>
       pathReader.map fun path => { draft with decompiledDir := some path },
     required "exts" Draft.extensions fun draft =>
       textReader.list.map fun texts => { draft with extensions := some texts },
     { name := "webpackPrefix"
       isOptional := true
       isPresent := fun draft => draft.bundle.isSome
       reader := fun draft =>
         textReader.optional.map fun value => { draft with bundle := some value } }]

/-- The record that a JSON text holds. -/
def parseJson (text : String) : Except Json.Fault Record :=
  schema.parse text

end SourceTree.Record
