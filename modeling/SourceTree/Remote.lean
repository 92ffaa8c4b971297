/-!
# Remote documents

Map documents are fetched by address. A remote answers an address with the text found there or with
the reason why there is none; asking twice gives the same answer.
-/

namespace SourceTree

/-- The text at an address, or why there is none. -/
abbrev Remote := String → Except String String

namespace Remote

/-- A remote that refuses every address. -/
def offline : Remote := fun address =>
  .error ("network access disabled, refusing " ++ address)

/-- A remote for which no address is well-formed. -/
def unreachable : Remote := fun _ =>
  .error "request failed: builder error"

/-- A remote that has the listed texts; of two for one address the later counts. -/
def ofList (texts : List (String × String)) : Remote := fun address =>
  match texts.reverse.lookup address with
  | some text => .ok text
  | none => .error "unexpected status 404"

end Remote

end SourceTree
