import SourceTree.Path.Basic
import SourceTree.Text.Blank

/-!
# The trailer of a bundle

A compiled bundle names its map document in a comment near its end, as in
`//# sourceMappingURL=app.js.map`. Only the last few lines are searched, and the first assignment
found there counts. Its value runs to the next white space and loses the characters that cannot
stand in a file name, which also removes the end of a block comment and double quotes. A map that
the bundle carries inline, as a `data:` URL, names no document.
-/

namespace SourceTree.Bundle

/-- Number of lines at the end of a bundle that are searched. -/
def trailerLines : Nat := 5

/-- The word that introduces the name of the map document. -/
def marker : List Char := "sourceMappingURL".toList

/-- The last lines of a text. -/
def trailer (text : List Char) : List Char :=
  let lines := Text.split '\n' text
  Text.join '\n' (lines.drop (lines.length - trailerLines))

/-- The value assigned by a marker at the front of the text, up to the next white space. -/
def assigned? (text : List Char) : Option (List Char) := do
  let text ← Text.afterWord? marker text
  match Text.skipBlank text with
  | '=' :: value =>
      match (Text.skipBlank value).takeWhile (!Text.isBlank ·) with
      | [] => none
      | value => some value
  | _ => none

/-- The value of the first assignment in the text. -/
def firstAssigned? : List Char → Option (List Char)
  | [] => none
  | symbol :: rest =>
      match assigned? (symbol :: rest) with
      | some value => some value
      | none => firstAssigned? rest

/-- Whether a character may stand in the name of a map document. -/
def isNameCharacter (symbol : Char) : Bool :=
  !"\\:*?\"<>|".toList.contains symbol

/-- The name that a value gives to the map document, if it names one. -/
def nameOfValue? (value : List Char) : Option String :=
  if (Text.afterWord? "data:".toList value).isSome then none
  else
    match Text.trimRight '/' (value.filter isNameCharacter) with
    | [] => none
    | name => some (String.ofList name)

/-- The name of the map document that a bundle refers to. -/
def mapName? (text : String) : Option String :=
  (firstAssigned? (trailer text.toList)).bind nameOfValue?

/-- Where the document called `name` is kept: below the maps directory, whatever slashes and
`..` segments the name has. -/
def localPath (maps : Path) (name : String) : Path :=
  let segments := (Text.split '/' name.toList).filter fun segment =>
    segment ≠ [] ∧ segment ≠ ['.', '.']
  segments.foldl (fun path segment => path.join ⟨String.ofList segment⟩) maps

/-- Where the document called `name` is fetched from. -/
def address (base name : String) : String :=
  base ++ String.ofList (Text.trimLeft '/' name.toList)

/-- Whether a file is a bundle: its name ends with one of the extensions. -/
def isBundle (extensions : List String) (path : Path) : Bool :=
  match path.fileName? with
  | some name => extensions.any fun ending => ending.toList.isSuffixOf name.toList
  | none => false

end SourceTree.Bundle
