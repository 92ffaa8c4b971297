import SourceTree.Path.Basic

/-!
# Map documents

A map document embeds the sources of a bundle as two parallel lists: the names of the sources and
their contents. Everything else in it is of no interest here. Either list may be missing, and a
content may be missing too; a source without content is empty. Contents beyond the last name are
ignored.
-/

namespace SourceTree

/-- The two lists of a map document. -/
structure MapDocument where
  /-- The names of the sources. -/
  names : Option (List String)
  /-- The contents of the sources, in the same order. -/
  contents : Option (List (Option String))
  deriving DecidableEq, Repr

namespace MapDocument

/-- The names of the sources in order. -/
def sources (document : MapDocument) : List String :=
  document.names.getD []

/-- The content of the source at `index`, empty where there is none. -/
def content (document : MapDocument) (index : Nat) : String :=
  (((document.contents.getD [])[index]?).bind id).getD ""

/-- Every source with its content. -/
def entries (document : MapDocument) : List (String × String) :=
  document.sources.zipIdx.map fun (source, index) => (source, document.content index)

/-- The ending of the file name of a map document. -/
def ending : String := ".map"

/-- Whether a file is called like a map document. -/
def isMapDocument (path : Path) : Bool :=
  match path.fileName? with
  | some name => ending.toList.isSuffixOf name.toList
  | none => false

end MapDocument

end SourceTree
