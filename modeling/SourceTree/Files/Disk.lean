import SourceTree.Files.Basic
import SourceTree.Path.Order
import Std.Data.HashMap

/-!
# The disk

A disk is a tree of directories, files and symbolic links. Each has a location, the names that lead
to it from the root. A path is looked up segment by segment, from the root or from the working
directory, and links are followed on the way. So `..` leads to the directory above the one that was
reached, which need not be the one written in front of it.

The refusals and their order are those of POSIX: a segment can only be looked up in a directory, a
name has a limited length, and so have a path and a chain of links.
-/

namespace SourceTree

/-- What there can be at a location. -/
inductive Entry where
  | directory
  | file (content : ByteArray)
  | link (target : String)
  deriving DecidableEq

/-- The names that lead to a place from the root. -/
abbrev Location := List String

/-- A disk as seen from a working directory. The root directory itself has no entry. -/
structure Disk where
  entries : Std.HashMap Location Entry := {}
  workingDirectory : Location := []

namespace Disk

/-- Bytes that a name can have. -/
def nameLimit : Nat := 255

/-- Bytes that the text of a path can have. -/
def textLimit : Nat := 4095

/-- Links that are followed for one path. -/
def linkLimit : Nat := 40

/-- What is at a location. -/
def entry? (disk : Disk) (location : Location) : Option Entry :=
  if location.isEmpty then some .directory else disk.entries[location]?

/-- Whether there is a directory at a location. -/
def isDirectoryAt (disk : Disk) (location : Location) : Bool :=
  disk.entry? location = some .directory

/-- Puts an entry at a location, in place of what was there. -/
def put (disk : Disk) (location : Location) (entry : Entry) : Disk :=
  { disk with entries := disk.entries.insert location entry }

/-- What was put last at a location other than the root is what is there. -/
theorem entry?_put {disk : Disk} {location other : Location} {entry : Entry}
    (below : other ≠ []) :
    Disk.entry? (disk.put location entry) other =
      if other = location then some entry else disk.entry? other := by
  simp only [put, entry?, List.isEmpty_iff, below, if_false, Std.HashMap.getElem?_insert]
  by_cases same : other = location
  · simp [same]
  · simp [same, Ne.symm same]

/-- A path as it is looked up. -/
structure Route where
  /-- Whether it starts at the root. -/
  fromRoot : Bool
  segments : List String
  /-- Whether a slash is behind the last segment, which then has to be a directory. -/
  endsWithSlash : Bool
  deriving DecidableEq, Repr

/-- The route that a text describes. -/
def Route.ofText (text : String) : Route :=
  let segments := ((Text.split '/' text.toList).filter (· ≠ [])).map String.ofList
  { fromRoot := text.toList.head? == some '/'
    segments
    endsWithSlash := !segments.isEmpty && text.toList.getLast? == some '/' }

/-- The segments to look up. A slash at the end asks for the directory itself. -/
def Route.steps (route : Route) : List String :=
  if route.endsWithSlash then route.segments ++ ["."] else route.segments

/-- The route that the text of a path describes, unless the text cannot be one. -/
def route (path : Path) : Except SystemError Route :=
  if path.text.toList.contains (Char.ofNat 0) then .error .nulInName
  else if path.text.isEmpty then .error .notFound
  else if textLimit < path.text.utf8ByteSize then .error .nameTooLong
  else .ok (.ofText path.text)

/-- Follows steps from a location. Links are followed, at most `links` of them. The answer is the
location that is reached, and how many more links can be followed. -/
def follow (disk : Disk) (links : Nat) (location : Location) (steps : List String) :
    Except SystemError (Location × Nat) :=
  match steps with
  | [] => .ok (location, links)
  | step :: rest =>
      if !disk.isDirectoryAt location then .error .notDirectory
      else if step = "." then follow disk links location rest
      else if step = ".." then follow disk links location.dropLast rest
      else if nameLimit < step.utf8ByteSize then .error .nameTooLong
      else
        match disk.entry? (location ++ [step]), links with
        | none, _ => .error .notFound
        | some (.link _), 0 => .error .tooManyLinks
        | some (.link target), links + 1 =>
            let route := Route.ofText target
            follow disk links (if route.fromRoot then [] else location) (route.steps ++ rest)
        | some _, links => follow disk links (location ++ [step]) rest
termination_by (links, steps.length)

/-- Following steps never adds to the links that can be followed. -/
theorem follow_links_le {disk : Disk} {links left : Nat} {location reached : Location}
    {steps : List String} (followed : follow disk links location steps = .ok (reached, left)) :
    left ≤ links := by
  fun_induction follow disk links location steps <;> grind

/-- Where a route starts. -/
def start (disk : Disk) (route : Route) : Location :=
  if route.fromRoot then [] else disk.workingDirectory

/-- The location that a path leads to, behind all links. -/
def locate (disk : Disk) (path : Path) : Except SystemError Location := do
  let route ← route path
  let (location, _) ← follow disk linkLimit (disk.start route) route.steps
  return location

/-- What a path leads to, behind all links. -/
def find (disk : Disk) (path : Path) : Except SystemError Entry := do
  let location ← disk.locate path
  match disk.entry? location with
  | some entry => return entry
  | none => throw .notFound

/-- Whether a path leads to a directory. -/
def isDirectory (disk : Disk) (path : Path) : Bool :=
  match disk.find path with
  | .ok .directory => true
  | _ => false

/-- Whether a path leads to a file. -/
def isFile (disk : Disk) (path : Path) : Bool :=
  match disk.find path with
  | .ok (.file _) => true
  | _ => false

/-- Whether a path leads to anything. -/
def isTaken (disk : Disk) (path : Path) : Bool :=
  (disk.find path).isOk

/-- The content of a file. -/
def readBytes (disk : Disk) (path : Path) : Except FileError ByteArray :=
  match disk.find path with
  | .error error => .error (.system error)
  | .ok (.file content) => .ok content
  | .ok _ => .error (.system .isDirectory)

/-- The content of a file that holds text. -/
def readText (disk : Disk) (path : Path) : Except FileError String :=
  match disk.readBytes path with
  | .error error => .error error
  | .ok content => (Text.Utf8.decode content).mapError fun _ => .unreadableText

/-- The directory that a route leads through last, the last segment, and how many more links can be
followed. -/
def approach (disk : Disk) (links : Nat) (location : Location) (route : Route) :
    Except SystemError (Location × Option String × Nat) :=
  match follow disk links location route.segments.dropLast with
  | .error error => .error error
  | .ok (parent, links) =>
      if disk.isDirectoryAt parent then .ok (parent, route.segments.getLast?, links)
      else .error .notDirectory

theorem approach_links_le {disk : Disk} {links left : Nat} {location parent : Location}
    {route : Route} {last : Option String}
    (approached : approach disk links location route = .ok (parent, last, left)) :
    left ≤ links := by
  unfold approach at approached
  split at approached
  · simp at approached
  next followed =>
    split at approached <;> simp at approached
    exact approached.2.2 ▸ follow_links_le followed

/-- Whether a segment names no entry of the directory it is looked up in. -/
def isDots (segment : String) : Bool :=
  segment = "." || segment = ".."

/-- Where a file for a route is written, from `location` on. A link at the end is followed, also to
a place where there is nothing yet. -/
def target (disk : Disk) (links : Nat) (location : Location) (route : Route) :
    Except SystemError Location :=
  match _approached : disk.approach links location route with
  | .error error => .error error
  | .ok (_, none, _) => .error .isDirectory
  | .ok (parent, some last, left) =>
      if route.endsWithSlash || isDots last then .error .isDirectory
      else if nameLimit < last.utf8ByteSize then .error .nameTooLong
      else
        match disk.entry? (parent ++ [last]) with
        | some .directory => .error .isDirectory
        | some (.link text) =>
            if left = 0 then .error .tooManyLinks
            else
              let route := Route.ofText text
              target disk (left - 1) (if route.fromRoot then [] else parent) route
        | _ => .ok (parent ++ [last])
termination_by links
decreasing_by
  have := approach_links_le _approached
  omega

/-- Creates or overwrites a file in a directory that is there. -/
def writeBytes (disk : Disk) (path : Path) (content : ByteArray) :
    Except SystemError Disk := do
  let route ← route path
  let location ← disk.target linkLimit (disk.start route) route
  return disk.put location (.file content)

/-- Creates a directory, or whatever else a new name can stand for, in a directory that is there. -/
def create (disk : Disk) (path : Path) (entry : Entry) : Except SystemError Disk := do
  let route ← route path
  match ← disk.approach linkLimit (disk.start route) route with
  | (_, none, _) => throw .alreadyExists
  | (parent, some last, _) =>
      if isDots last then throw .alreadyExists
      else if nameLimit < last.utf8ByteSize then throw .nameTooLong
      else
        match disk.entry? (parent ++ [last]) with
        | some _ => throw .alreadyExists
        | none => return disk.put (parent ++ [last]) entry

/-- Creates the first of some directories, each of which lies in the next, and those of the others
that are needed for it. -/
def createDirectories (disk : Disk) : List Path → Except FileError Unit × Disk
  | [] => (.ok (), disk)
  | path :: above =>
      if path.components.isEmpty then (.ok (), disk)
      else
        match disk.create path .directory with
        | .ok disk => (.ok (), disk)
        | .error .notFound =>
            match disk.createDirectories above with
            | (.error error, disk) => (.error error, disk)
            | (.ok (), disk) =>
                match disk.create path .directory with
                | .ok disk => (.ok (), disk)
                | .error error =>
                    if disk.isDirectory path then (.ok (), disk) else (.error (.system error), disk)
        | .error error =>
            if disk.isDirectory path then (.ok (), disk) else (.error (.system error), disk)

/-- A path and the paths above it. -/
def lineage : Nat → Path → List Path
  | 0, path => [path]
  | count + 1, path =>
      match path.parent? with
      | some parent => path :: lineage count parent
      | none => [path]

/-- Creates a directory and those above it. -/
def createDirectory (disk : Disk) (path : Path) : Except FileError Unit × Disk :=
  disk.createDirectories (lineage path.components.length path)

/-- Creates a file and the directories above it. -/
def place (disk : Disk) (path : Path) (content : ByteArray) : Except FileError Unit × Disk :=
  let (created, disk) :=
    match path.parent? with
    | some parent => disk.createDirectory parent
    | none => (.ok (), disk)
  match created with
  | .error error => (.error error, disk)
  | .ok () =>
      match disk.writeBytes path content with
      | .ok disk => (.ok (), disk)
      | .error error => (.error (.system error), disk)

/-- Creates or overwrites a file with text. -/
def write (disk : Disk) (path : Path) (text : String) : Except FileError Unit × Disk :=
  disk.place path text.toUTF8

end Disk

end SourceTree
