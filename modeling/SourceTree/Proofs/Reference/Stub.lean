import SourceTree.Proofs.Path.FileName
import SourceTree.Proofs.Reference.Pattern
import SourceTree.Reference.Stub

/-!
# Placeholders refer to nothing

A relative specifier starts with `./` or `../`, so a text in which no dot stands before a slash has
no references, whatever words and quotes it holds. The only slashes of a placeholder are the two
that open its comment: names of files hold none.
-/

namespace SourceTree.Reference

/-- Whether somewhere in the text a dot is followed by a slash. -/
def HasDotSlash (text : List Char) : Prop :=
  ['.', '/'] <:+: text

theorem HasDotSlash.of_suffix {rest text : List Char} (found : HasDotSlash rest)
    (suffix : rest <:+ text) : HasDotSlash text :=
  found.trans suffix.isInfix

/-- Behind its lead a statement has a specifier, and that begins with such a dot and slash. -/
theorem hasDotSlash_of_statement? {text : List Char} {found : Found}
    (success : statement? text = some found) : HasDotSlash text := by
  rcases exists_leads_of_statement? success with ⟨lead, opening, behind, -, -, rfl, read⟩
  rcases specifier?_eq_some_iff.1 read with ⟨relative, -, closing, -, rfl⟩
  have inSpecifier : HasDotSlash found.1 := by
    rcases isRelative_iff.1 relative with ⟨body, -, shape | shape⟩
    · exact ⟨[], body, shape.symm⟩
    · exact ⟨['.'], body, shape.symm⟩
  have inBehind : HasDotSlash (found.1 ++ closing :: found.2) :=
    inSpecifier.trans (List.prefix_append _ _).isInfix
  exact inBehind.of_suffix ((List.suffix_cons opening _).trans (List.suffix_append lead _))

/-- A text without a dot before a slash has no references. -/
theorem specifiers_eq_nil {text : List Char} (absent : ¬HasDotSlash text) :
    specifiers text = [] := by
  induction text with
  | nil =>
      rw [specifiers]
      rfl
  | cons symbol rest ih =>
      rw [specifiers]
      split
      next found success => exact absurd (hasDotSlash_of_statement? success) absent
      next =>
        apply ih
        intro found
        exact absent (found.of_suffix (List.suffix_cons symbol rest))

theorem slash_not_mem_getD {name : Option String}
    (absent : ∀ text, name = some text → '/' ∉ text.toList) : '/' ∉ (name.getD "").toList := by
  cases name with
  | none => simp
  | some text => exact absent text rfl

theorem toList_stubHeader (name : String) :
    (stubHeader name).toList =
      '/' :: '/' :: (" Placeholder for missing module: ".toList ++ (name.toList ++ ['\n'])) := by
  change ("// Placeholder for missing module: " ++ name ++ "\n").toList = _
  simp

/-- Behind the two slashes of its comment, a placeholder has no slash. -/
theorem exists_toList_stub_eq (path : Path) :
    ∃ rest, (stub path).toList = '/' :: '/' :: rest ∧ '/' ∉ rest := by
  have noName : '/' ∉ (path.fileName?.getD "").toList :=
    slash_not_mem_getD fun _ named => Path.slash_not_mem_fileName named
  have noStem : '/' ∉ (path.fileStem?.getD "").toList :=
    slash_not_mem_getD fun _ named => Path.slash_not_mem_fileStem named
  simp only [stub, String.toList_append, toList_stubHeader, List.cons_append]
  refine ⟨_, rfl, ?_⟩
  split
  · simp only [String.toList_append]
    simp [noName, noStem]
  · simp [noName]

theorem not_hasDotSlash_stub (path : Path) : ¬HasDotSlash (stub path).toList := by
  rcases exists_toList_stub_eq path with ⟨rest, shape, absent⟩
  rw [shape]
  rintro ⟨before, behind, cut⟩
  match before with
  | [] => simp at cut
  | [first] => simp at cut
  | first :: second :: before =>
      apply absent
      simp only [List.cons_append, List.cons.injEq] at cut
      rw [← cut.2.2]
      simp

theorem specifiers_stub (path : Path) : specifiers (stub path).toList = [] :=
  specifiers_eq_nil (not_hasDotSlash_stub path)

/-- Placeholders refer to nothing, whatever their file is called: the scan finds no reference in the
whole text, nor in what is left of it when it is cut anywhere at its front and its end. -/
theorem extract_cut_stub (path : Path) :
    extract (stub path) = [] ∧
      ∀ start size, specifiers (((stub path).toList.drop start).take size) = [] := by
  constructor
  · rw [extract, specifiers_stub, List.map_nil]
  · intro start size
    apply specifiers_eq_nil
    intro found
    have within : ((stub path).toList.drop start).take size <:+: (stub path).toList :=
      (List.take_prefix _ _).isInfix.trans (List.drop_suffix _ _).isInfix
    exact not_hasDotSlash_stub path (found.trans within)

end SourceTree.Reference
