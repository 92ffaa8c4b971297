import SourceTree.Text.Blank
import SourceTree.Text.Percent
import SourceTree.Text.Segments

/-!
# Names of embedded sources

Map documents name their sources with bundler URLs such as `webpack://_N_E/./src/page.tsx` or
`webpack:///../node_modules/x.js`. Cleaning such a name gives a relative path that stays below
whatever directory it is joined onto.

`..` segments are dropped and never resolved: `a/../b` becomes `a/b`. Nothing has to be checked
afterwards, at the price of not matching ordinary path semantics. Decoding percent escapes can
bring up new slashes and `..` segments, so segments are dropped once more behind it. Each scheme is
stripped and each escape decoded once only; a name that was encoded twice keeps one layer.
-/

namespace SourceTree.SourceName

/-- The scheme under which the bundler shows its modules. -/
def scheme : String := "webpack"

/-- The text without a leading `word`. -/
def dropWord (word text : List Char) : List Char :=
  (Text.afterWord? word text).getD text

/-- The name without its schemes: first the one that names `bundle`, then the bare one, then
that of local files. -/
def dropSchemes (bundle : String) (name : List Char) : List Char :=
  dropWord "file://".toList <|
    dropWord (scheme ++ "://").toList <|
      dropWord (scheme ++ "://" ++ bundle ++ "/").toList name

/-- The text without leading slashes and `..` segments. Dropping a segment can bring a slash to
the front, so slashes are trimmed on both sides of it. -/
def dropParents (text : List Char) : List Char :=
  let kept := (Text.split '/' (Text.trimLeft '/' text)).filter (· ≠ ['.', '.'])
  Text.trimLeft '/' (Text.join '/' kept)

/-- Percent-decoding that keeps the text when the decoded bytes are not UTF-8. -/
def decodePercent (text : List Char) : List Char :=
  (Text.Percent.decode? text).getD text

/-- The relative path for a source called `name` in documents of the given bundle. It is
empty when nothing is left of the name. -/
def clean (name bundle : String) : String :=
  String.ofList <| dropParents <| decodePercent <| dropParents <|
    dropSchemes bundle name.toList

end SourceTree.SourceName
