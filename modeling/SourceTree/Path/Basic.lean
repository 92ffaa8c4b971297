import SourceTree.Text.Segments

/-!
# Paths

A path is kept as the text it was written with, because that text is what messages and reports
show. What the path *means* is its sequence of components: repeated and trailing slashes and
inner `.` segments do not count, a leading `.` of a relative path does. Two paths with the same
components are the same place for every comparison in this library, whatever their spelling.

Joining works on the text, so the spelling of both sides survives: `out` joined with `./a` is
`out/./a`, and joining an absolute path replaces the left side.

The text is made of characters. A name on a disk can be any bytes, but one that is not UTF-8 is not a
path here, so tests of a file name, such as whether it has the ending of a bundle or of a map
document, have no case for a name without a text.
-/

namespace SourceTree

/-- One step of a path. -/
inductive Component where
  /-- The root directory of an absolute path. -/
  | root
  /-- The leading `.` of a relative path. -/
  | current
  /-- A `..` segment. -/
  | parent
  /-- An ordinary name. -/
  | name (text : String)
  deriving DecidableEq, Repr

/-- A path, as written. -/
structure Path where
  text : String
  deriving DecidableEq, Repr

instance : ToString Path := ⟨Path.text⟩

instance : Inhabited Path := ⟨⟨""⟩⟩

namespace Component

/-- The component that a segment behind the first stands for, if it counts. -/
def ofSegment? (segment : List Char) : Option Component :=
  if segment = [] ∨ segment = ['.'] then none
  else if segment = ['.', '.'] then some .parent
  else some (.name (String.ofList segment))

/-- The text of a component. -/
def render : Component → String
  | .root => "/"
  | .current => "."
  | .parent => ".."
  | .name text => text

end Component

namespace Path

/-- How a path begins. -/
inductive Lead where
  /-- With a slash. -/
  | root
  /-- With a `.` segment. -/
  | current
  /-- With an ordinary segment, or not at all. -/
  | plain
  deriving DecidableEq, Repr

/-- The component that a lead contributes. -/
def Lead.components : Lead → List Component
  | .root => [.root]
  | .current => [.current]
  | .plain => []

/-- The beginning of a path and the segments behind it. -/
def leadAndSegments (path : Path) : Lead × List (List Char) :=
  match path.text.toList with
  | '/' :: rest => (.root, Text.split '/' rest)
  | text =>
      match Text.split '/' text with
      | ['.'] :: segments => (.current, segments)
      | segments => (.plain, segments)

/-- The steps of a path in order. -/
def components (path : Path) : List Component :=
  let (lead, segments) := path.leadAndSegments
  lead.components ++ segments.filterMap Component.ofSegment?

/-- Whether the path starts at the root. -/
def isAbsolute (path : Path) : Bool :=
  path.text.toList.head? == some '/'

/-- Whether two paths name the same place. -/
def same (left right : Path) : Bool :=
  left.components == right.components

/-- Whether `root` is `path` or one of its ancestors, by components. -/
def isWithin (path root : Path) : Bool :=
  root.components.isPrefixOf path.components

/-- `tail` as seen from `base`; an absolute `tail` stands for itself. -/
def join (base tail : Path) : Path :=
  if tail.isAbsolute then tail
  else if base.text.isEmpty || base.text.toList.getLast? == some '/' then
    ⟨base.text ++ tail.text⟩
  else
    ⟨base.text ++ "/" ++ tail.text⟩

/-- `suffix` written directly behind the text of a path. -/
def withSuffix (path : Path) (suffix : String) : Path :=
  ⟨path.text ++ suffix⟩

/-- The segments without trailing ones that do not count. -/
def trimSegments (segments : List (List Char)) : List (List Char) :=
  (segments.reverse.dropWhile fun segment => (Component.ofSegment? segment).isNone).reverse

/-- The text of a lead followed by segments. -/
def renderSegments (lead : Lead) (segments : List (List Char)) : Path :=
  let body := String.ofList (Text.join '/' segments)
  match lead, segments with
  | .root, _ => ⟨"/" ++ body⟩
  | .current, [] => ⟨"."⟩
  | .current, _ => ⟨"./" ++ body⟩
  | .plain, _ => ⟨body⟩

/-- The path without its last component, trimmed back to the component before it. The root and
the empty path have none. -/
def parent? (path : Path) : Option Path :=
  let (lead, segments) := path.leadAndSegments
  match (trimSegments segments).reverse with
  | _ :: earlier => some (renderSegments lead (trimSegments earlier.reverse))
  | [] => if lead = .current then some ⟨""⟩ else none

/-- The last component, if it is an ordinary name. -/
def fileName? (path : Path) : Option String :=
  match path.components.getLast? with
  | some (.name text) => some text
  | _ => none

/-- A file name cut at its last dot. A name whose only dot leads it is not cut. -/
def cutAtDot (name : String) : String × Option String :=
  match name.toList.reverse.span (· ≠ '.') with
  | (_, []) => (name, none)
  | (_, [_]) => (name, none)
  | (after, _ :: before) => (String.ofList before.reverse, some (String.ofList after.reverse))

/-- The file name without its extension. -/
def fileStem? (path : Path) : Option String :=
  path.fileName?.map fun name => (cutAtDot name).1

/-- The part of the file name behind its last dot. -/
def extension? (path : Path) : Option String :=
  path.fileName?.bind fun name => (cutAtDot name).2

end Path

end SourceTree
