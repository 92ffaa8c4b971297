import SourceTree.Path.Basic

/-!
# Placeholder modules

A reference that nothing answers gets a placeholder. A name in lower case suggests a module of
functions and gets a named function and a named constant; any other name gets a default export.
-/

namespace SourceTree.Reference

/-- Whether a text starts with a lower-case ASCII letter. -/
def startsLower (text : String) : Bool :=
  match text.toList with
  | symbol :: _ => 'a' ≤ symbol && symbol ≤ 'z'
  | [] => false

/-- The first line of a placeholder. -/
def stubHeader (fileName : String) : String :=
  "// Placeholder for missing module: " ++ fileName ++ "\n"

/-- The source text of a placeholder at `path`. -/
def stub (path : Path) : String :=
  let stem := path.fileStem?.getD ""
  stubHeader (path.fileName?.getD "") ++
    if startsLower stem then
      "export function " ++ stem ++ "() \x7b\x7d\n" ++
        "export const " ++ stem ++ "Var = undefined;\n"
    else
      "export default \x7b\x7d;\n"

end SourceTree.Reference
