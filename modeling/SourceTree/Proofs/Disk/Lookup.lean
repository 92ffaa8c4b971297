import Mathlib.Data.List.Induction
import SourceTree.Proofs.Disk.Legal

/-!
# Looking up on a plain disk

A disk is plain if there are only directories and files below its working directory, each entry in a
directory and under a legal name. There a lookup ends where the names of a path say, or it is
refused because nothing is there. So each question about a legal path depends on what is at its
names.
-/

namespace SourceTree

/-- The content of an entry, if it is a file. -/
def Entry.content? : Entry → Option ByteArray
  | .file content => some content
  | _ => none

namespace Disk

variable {disk : Disk} {path : Path} {front inner : List String} {name : String}

/-- What is at a place below the working directory. -/
def at? (disk : Disk) (inner : List String) : Option Entry :=
  disk.entry? (disk.workingDirectory ++ inner)

/-- Below the working directory there are directories and files and nothing else. -/
structure IsPlain (disk : Disk) : Prop where
  home : disk.at? [] = some .directory
  above : ∀ inner name, disk.at? (inner ++ [name]) ≠ none → disk.at? inner = some .directory
  named : ∀ inner name, disk.at? (inner ++ [name]) ≠ none → IsName name
  noLink : ∀ inner target, disk.at? inner ≠ some (.link target)

theorem isDirectoryAt_iff :
    disk.isDirectoryAt (disk.workingDirectory ++ inner) = true ↔
      disk.at? inner = some .directory := by
  simp [isDirectoryAt, at?]

namespace IsPlain

variable (plain : disk.IsPlain)

include plain

theorem directory_of_append {rest : List String} (below : rest ≠ [])
    (present : disk.at? (front ++ rest) ≠ none) : disk.at? front = some .directory := by
  induction rest using List.reverseRecOn with
  | nil => exact absurd rfl below
  | append_singleton rest name ih =>
      rw [← List.append_assoc] at present
      have directory := plain.above _ _ present
      by_cases empty : rest = []
      · simpa [empty] using directory
      · exact ih empty (by simp [directory])

theorem present_of_append {rest : List String} (present : disk.at? (front ++ rest) ≠ none) :
    disk.at? front ≠ none := by
  by_cases last : rest = []
  · simpa [last] using present
  · simp [plain.directory_of_append last present]

theorem directory_of_append_directory {rest : List String}
    (opened : disk.at? (front ++ rest) = some .directory) : disk.at? front = some .directory := by
  by_cases last : rest = []
  · simpa [last] using opened
  · exact plain.directory_of_append last (by rw [opened]; simp)

theorem directory_of_ne_file (present : disk.at? inner ≠ none)
    (noFile : ∀ content, disk.at? inner ≠ some (.file content)) :
    disk.at? inner = some .directory := by
  cases found : disk.at? inner with
  | none => exact absurd found present
  | some entry =>
      cases entry with
      | directory => rfl
      | file content => exact absurd found (noFile content)
      | link target => exact absurd found (plain.noLink _ target)

theorem isName_of_mem (present : disk.at? inner ≠ none) (member : name ∈ inner) :
    IsName name := by
  rcases List.append_of_mem member with ⟨front, rest, rfl⟩
  rw [List.append_cons] at present
  exact plain.named front name (plain.present_of_append present)

/-- One step of a lookup. -/
theorem follow_cons {links : Nat} {rest : List String} (isName : IsName name)
    (directory : disk.at? front = some .directory) :
    disk.follow links (disk.workingDirectory ++ front) (name :: rest) =
      if disk.at? (front ++ [name]) = none then .error .notFound
      else disk.follow links (disk.workingDirectory ++ (front ++ [name])) rest := by
  have isDirectory := isDirectoryAt_iff.2 directory
  have place : disk.entry? (disk.workingDirectory ++ (front ++ [name])) =
      disk.at? (front ++ [name]) := rfl
  rw [follow.eq_def]
  simp only [isDirectory, isName.notCurrent, isName.notParent, Nat.not_lt.2 isName.size, place,
    List.append_assoc, Bool.not_true, Bool.false_eq_true, if_false]
  cases found : disk.at? (front ++ [name]) with
  | none => simp
  | some entry =>
      cases entry with
      | link target => exact absurd found (plain.noLink _ target)
      | directory => simp
      | file content => simp

theorem follow_of_present (links : Nat) {rest : List String}
    (present : disk.at? (front ++ rest) ≠ none) :
    disk.follow links (disk.workingDirectory ++ front) rest =
      .ok (disk.workingDirectory ++ (front ++ rest), links) := by
  induction rest generalizing front with
  | nil => simp [follow]
  | cons name rest ih =>
      have isName : IsName name := plain.isName_of_mem present (by simp)
      have directory := plain.directory_of_append (by simp) present
      rw [List.append_cons] at present
      rw [plain.follow_cons isName directory, if_neg (plain.present_of_append present), ih present,
        ← List.append_cons]

/-- A lookup of nothing is refused; unless a file is in the way, because nothing was found. -/
theorem follow_of_absent (links : Nat) {rest : List String} (named : ∀ name ∈ rest, IsName name)
    (present : disk.at? front ≠ none) (absent : disk.at? (front ++ rest) = none) :
    ∃ error, disk.follow links (disk.workingDirectory ++ front) rest = .error error ∧
      ((∀ part content, part <+: front ++ rest → disk.at? part ≠ some (.file content)) →
        error = .notFound) := by
  induction rest generalizing front with
  | nil => exact absurd (by simpa using absent) present
  | cons name rest ih =>
      cases found : disk.at? front with
      | none => exact absurd found present
      | some entry =>
          cases entry with
          | link target => exact absurd found (plain.noLink _ target)
          | file content =>
              have closed : disk.isDirectoryAt (disk.workingDirectory ++ front) = false := by
                rw [Bool.eq_false_iff, ne_eq, isDirectoryAt_iff, found]
                simp
              refine ⟨.notDirectory, by rw [follow.eq_def]; simp [closed], ?_⟩
              intro clear
              exact absurd found (clear front content (List.prefix_append ..))
          | directory =>
              rw [plain.follow_cons (named name (by simp)) found]
              by_cases missing : disk.at? (front ++ [name]) = none
              · exact ⟨.notFound, if_pos missing, fun _ => rfl⟩
              · rw [List.append_cons front name rest] at absent ⊢
                rw [if_neg missing]
                exact ih (fun other member => named other (List.mem_cons_of_mem _ member)) missing
                  absent

end IsPlain

section Paths

variable (plain : disk.IsPlain) (legal : path.IsLegal)

include plain legal

theorem locate_of_present (present : disk.at? path.names ≠ none) :
    disk.locate path = .ok (disk.workingDirectory ++ path.names) := by
  have whole : disk.at? ([] ++ path.names) ≠ none := present
  have followed := plain.follow_of_present linkLimit whole
  rw [List.append_nil, List.nil_append] at followed
  simp [locate, route_of_isLegal legal, start, Route.steps, bind, Except.bind, pure, Except.pure,
    followed]

theorem exists_locate_error (absent : disk.at? path.names = none) :
    ∃ error, disk.locate path = .error error := by
  have whole : disk.at? ([] ++ path.names) = none := absent
  rcases plain.follow_of_absent linkLimit legal.named (by simp [plain.home]) whole with
    ⟨error, followed, _⟩
  rw [List.append_nil] at followed
  refine ⟨error, ?_⟩
  simp [locate, route_of_isLegal legal, start, Route.steps, bind, Except.bind, followed]

theorem find_of_at? {entry : Entry} (found : disk.at? path.names = some entry) :
    disk.find path = .ok entry := by
  have located := locate_of_present plain legal (by simp [found])
  rw [at?] at found
  simp [find, located, bind, Except.bind, pure, Except.pure, found]

theorem exists_find_error (absent : disk.at? path.names = none) :
    ∃ error, disk.find path = .error error := by
  rcases exists_locate_error plain legal absent with ⟨error, located⟩
  exact ⟨error, by simp [find, located, bind, Except.bind]⟩

theorem toOption_readBytes :
    (disk.readBytes path).toOption = (disk.at? path.names).bind Entry.content? := by
  cases found : disk.at? path.names with
  | none =>
      rcases exists_find_error plain legal found with ⟨error, refused⟩
      simp [readBytes, refused, Except.toOption]
  | some entry =>
      rw [readBytes, find_of_at? plain legal found]
      cases entry <;> rfl

theorem toOption_readText :
    (disk.readText path).toOption =
      ((disk.at? path.names).bind Entry.content?).bind fun content =>
        (Text.Utf8.decode content).toOption := by
  rw [← toOption_readBytes plain legal, readText]
  cases disk.readBytes path with
  | error error => rfl
  | ok content =>
      simp only [Except.toOption, Option.bind_some]
      cases Text.Utf8.decode content <;> rfl

theorem isFile_eq : disk.isFile path = ((disk.at? path.names).bind Entry.content?).isSome := by
  cases found : disk.at? path.names with
  | none =>
      rcases exists_find_error plain legal found with ⟨error, refused⟩
      simp [isFile, refused]
  | some entry =>
      rw [isFile, find_of_at? plain legal found]
      cases entry <;> rfl

theorem isTaken_eq : disk.isTaken path = (disk.at? path.names).isSome := by
  cases found : disk.at? path.names with
  | none =>
      rcases exists_find_error plain legal found with ⟨error, refused⟩
      simp [isTaken, refused, Except.isOk, Except.toBool]
  | some entry => simp [isTaken, find_of_at? plain legal found, Except.isOk, Except.toBool]

theorem isDirectory_of_at? (found : disk.at? path.names = some .directory) :
    disk.isDirectory path = true := by
  simp [isDirectory, find_of_at? plain legal found]

end Paths

end Disk

end SourceTree
