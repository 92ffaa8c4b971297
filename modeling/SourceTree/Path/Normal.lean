import SourceTree.Path.Basic

/-!
# Lexical normal form

References are compared by the place they name, without asking the file system. The normal form
of a path drops every `.`, lets each `..` cancel the name before it, and forgets a `..` at the
root. What is left of `..` can only be a leading run of a relative path.
-/

namespace SourceTree.Path

/-- One step onto a reversed normal form. -/
def normalStep (reached : List Component) (step : Component) : List Component :=
  match step, reached with
  | .current, _ => reached
  | .parent, .name _ :: below => below
  | .parent, .root :: _ => reached
  | step, _ => step :: reached

/-- The components of the normal form. -/
def normalComponents (steps : List Component) : List Component :=
  (steps.foldl normalStep []).reverse

/-- The plainest text with the given components. -/
def ofComponents : List Component → Path
  | .root :: steps => ⟨"/" ++ "/".intercalate (steps.map Component.render)⟩
  | steps => ⟨"/".intercalate (steps.map Component.render)⟩

/-- The normal form of a path. -/
def normalize (path : Path) : Path :=
  ofComponents (normalComponents path.components)

end SourceTree.Path
