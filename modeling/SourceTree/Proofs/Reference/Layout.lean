import SourceTree.Files.Store
import SourceTree.Proofs.Path.Names
import SourceTree.Proofs.Reference.Resolve
import SourceTree.Proofs.Reference.Stub

/-!
# The layout of a placeholder

A placeholder is meant to be a comment line with declarations below it. It is that exactly if the
name of its file has no line break. Such a name comes from a reference, and a specifier goes on up to
the next quote, line breaks included. So the text that is scanned can put lines of its own into a
placeholder: what stands behind a line break of the name is outside of the comment.

All other characters are harmless here, since only line breaks end a line.
-/

namespace SourceTree.Reference

/-- What the first line of a placeholder starts with. -/
def heading : List Char :=
  "// Placeholder for missing module: ".toList

/-- A comment line, and below it either a function and a constant or the default export, each on a
line of its own. The last line is ended too, so nothing is behind it. -/
def IsLaidOut (text : String) : Prop :=
  ∃ name,
    (∃ function constant, Text.split '\n' text.toList =
      [heading ++ name, "export function ".toList ++ function, "export const ".toList ++ constant,
        []]) ∨
    Text.split '\n' text.toList = [heading ++ name, "export default \x7b\x7d;".toList, []]

/-- What is below the first line of a placeholder. -/
def declarations (stem : String) : List Char :=
  if startsLower stem then
    ("export function ".toList ++ (stem.toList ++ "() \x7b\x7d".toList)) ++
      '\n' :: (("export const ".toList ++ (stem.toList ++ "Var = undefined;".toList)) ++ '\n' :: [])
  else "export default \x7b\x7d;".toList ++ '\n' :: []

theorem toList_stub (path : Path) :
    (stub path).toList =
      (heading ++ (path.fileName?.getD "").toList) ++
        '\n' :: declarations (path.fileStem?.getD "") := by
  have functionEnd : "() \x7b\x7d\n".toList = "() \x7b\x7d".toList ++ ['\n'] := by decide
  have constantEnd : "Var = undefined;\n".toList = "Var = undefined;".toList ++ ['\n'] := by decide
  have defaultEnd : "export default \x7b\x7d;\n".toList =
      "export default \x7b\x7d;".toList ++ ['\n'] := by decide
  have start : heading = '/' :: '/' :: " Placeholder for missing module: ".toList := by decide
  rw [stub, String.toList_append, toList_stubHeader, start, declarations]
  split
  · simp only [String.toList_append, functionEnd, constantEnd, List.append_assoc,
      List.cons_append, List.nil_append]
  · simp only [defaultEnd, List.append_assoc, List.cons_append, List.nil_append]

section Lines

variable {stem : String}

theorem split_declarations_of_startsLower (lower : startsLower stem = true)
    (oneLine : '\n' ∉ stem.toList) :
    Text.split '\n' (declarations stem) =
      ["export function ".toList ++ (stem.toList ++ "() \x7b\x7d".toList),
        "export const ".toList ++ (stem.toList ++ "Var = undefined;".toList), []] := by
  rw [declarations, if_pos lower, Text.split_append_separator_cons,
    Text.split_append_separator_cons, Text.split_of_not_mem, Text.split_of_not_mem]
  · rfl
  · simp [oneLine]
  · simp [oneLine]

theorem length_split_declarations_of_startsLower (lower : startsLower stem = true) :
    3 ≤ (Text.split '\n' (declarations stem)).length := by
  have some (text : List Char) : 0 < (Text.split '\n' text).length :=
    List.length_pos_iff.2 (Text.split_ne_nil '\n' text)
  rw [declarations, if_pos lower, Text.split_append_separator_cons,
    Text.split_append_separator_cons, List.length_append, List.length_append]
  have first := some ("export function ".toList ++ (stem.toList ++ "() \x7b\x7d".toList))
  have second := some ("export const ".toList ++ (stem.toList ++ "Var = undefined;".toList))
  have last := some []
  omega

theorem split_declarations_of_not_startsLower (other : startsLower stem = false) :
    Text.split '\n' (declarations stem) = ["export default \x7b\x7d;".toList, []] := by
  rw [declarations, if_neg (by simp [other])]
  decide

/-- The parts of the name are on lines of their own, the first of them behind the heading. -/
theorem split_stub {path : Path} {first : List Char} {more : List (List Char)}
    (parts : Text.split '\n' (path.fileName?.getD "").toList = first :: more) :
    Text.split '\n' (stub path).toList =
      (heading ++ first) :: (more ++ Text.split '\n' (declarations (path.fileStem?.getD ""))) := by
  have whole : Text.split '\n' heading = [] ++ [heading] := by decide
  rw [toList_stub, Text.split_append_separator_cons, Text.split_append whole parts]
  rfl

end Lines

theorem break_not_mem_fileStem {path : Path} (oneLine : '\n' ∉ (path.fileName?.getD "").toList) :
    '\n' ∉ (path.fileStem?.getD "").toList := by
  rw [Path.fileStem?]
  cases named : path.fileName? with
  | none => simp
  | some name =>
      rw [named] at oneLine
      exact fun member => oneLine (Path.mem_of_mem_cutAtDot member)

/-- A further part of the name makes one line too many, or puts the default export in the place of
the constant. -/
theorem not_isLaidOut_of_parts {path : Path} {first second : List Char} {more : List (List Char)}
    (parts : Text.split '\n' (path.fileName?.getD "").toList = first :: second :: more) :
    ¬IsLaidOut (stub path) := by
  have lines := split_stub parts
  have notConstant : ¬"export const ".toList <+: "export default \x7b\x7d;".toList := by decide
  rintro ⟨name, ⟨function, constant, shape⟩ | shape⟩
  · rw [lines] at shape
    cases lower : startsLower (path.fileStem?.getD "") with
    | true =>
        have long := length_split_declarations_of_startsLower lower
        have same := congrArg List.length shape
        simp only [List.length_cons, List.length_append, List.length_nil] at same
        omega
    | false =>
        rw [split_declarations_of_not_startsLower lower] at shape
        have same := congrArg List.length shape
        simp only [List.length_cons, List.length_append, List.length_nil] at same
        obtain rfl : more = [] := List.length_eq_zero_iff.1 (by omega)
        simp only [List.cons_append, List.nil_append, List.cons.injEq] at shape
        exact notConstant ⟨constant, shape.2.2.1.symm⟩
  · rw [lines] at shape
    have two : 2 ≤ (Text.split '\n' (declarations (path.fileStem?.getD ""))).length := by
      cases lower : startsLower (path.fileStem?.getD "") with
      | true => exact Nat.le_of_succ_le (length_split_declarations_of_startsLower lower)
      | false => rw [split_declarations_of_not_startsLower lower]; exact Nat.le_refl 2
    have same := congrArg List.length shape
    simp only [List.length_cons, List.length_append, List.length_nil] at same
    omega

theorem isLaidOut_stub_iff {path : Path} :
    IsLaidOut (stub path) ↔ '\n' ∉ (path.fileName?.getD "").toList := by
  constructor
  · intro laidOut broken
    obtain ⟨first, more, parts⟩ := List.exists_cons_of_ne_nil
      (Text.split_ne_nil '\n' (path.fileName?.getD "").toList)
    cases more with
    | nil =>
        have whole := Text.join_split '\n' (path.fileName?.getD "").toList
        rw [parts, Text.join_singleton] at whole
        have absent := Text.not_mem_of_mem_split (parts ▸ List.mem_cons_self)
        exact absent (whole ▸ broken)
    | cons second more => exact not_isLaidOut_of_parts parts laidOut
  · intro oneLine
    have lines := split_stub (Text.split_of_not_mem oneLine)
    refine ⟨(path.fileName?.getD "").toList, ?_⟩
    rw [lines, List.nil_append]
    cases lower : startsLower (path.fileStem?.getD "") with
    | true =>
        rw [split_declarations_of_startsLower lower (break_not_mem_fileStem oneLine)]
        exact Or.inl ⟨_, _, rfl⟩
    | false =>
        rw [split_declarations_of_not_startsLower lower]
        exact Or.inr rfl

section Candidates

variable {source : Path} {specifier extension : String} {symbol : Char}

/-- What is in a target and is no slash or dot comes from the file or from the specifier. -/
theorem mem_of_mem_target (member : symbol ∈ (target source specifier).text.toList)
    (notSlash : symbol ≠ '/') (notDot : symbol ≠ '.') :
    symbol ∈ source.text.toList ∨ symbol ∈ specifier.toList := by
  rcases Path.exists_name_of_mem_normalize member notSlash notDot with ⟨name, nameMem, inName⟩
  rcases Path.name_mem_of_join nameMem with inDirectory | inSpecifier
  · left
    cases found : source.parent? with
    | none =>
        rw [found] at inDirectory
        simp [Path.components_eq_nil_of_text] at inDirectory
    | some parent =>
        rw [found] at inDirectory
        exact Path.mem_text_of_mem_name (Path.name_mem_of_parent? found inDirectory) inName
  · exact Or.inr (Path.mem_text_of_mem_name inSpecifier inName)

/-- A target with the name that the specifier ends with, and the extension behind it. -/
theorem fileName?_target_withSuffix {name : String}
    (named : (Path.mk specifier).fileName? = some name) (slashless : '/' ∉ extension.toList) :
    ((target source specifier).withSuffix extension).fileName? = some (name ++ extension) := by
  obtain ⟨front, shape⟩ : ∃ front, Path.normalComponents
      ((source.parent?.getD ⟨""⟩).join ⟨specifier⟩).components = front ++ [.name name] :=
    Path.exists_normalComponents_join named
  have normal := Path.isNormal_normalComponents ((source.parent?.getD ⟨""⟩).join ⟨specifier⟩)
  rw [target, Path.normalize, shape]
  rw [shape] at normal
  exact Path.fileName?_withSuffix normal slashless

end Candidates

/-- The placeholder for a missing reference is laid out as it should be exactly if the name of its
file has no line break; the parts of the name behind line breaks are further lines of it, whatever
they are. There is no line break if neither the referring file nor the specifier nor the first
extension has one. But a specifier that ends with a name gives this name to the placeholder, with
its line breaks. -/
theorem isLaidOut_of_missing {σ : Type} [FileSystem σ] {files : σ} {extensions : List String}
    {source candidate : Path} {specifier : String}
    (missing : resolve files extensions source specifier = .missing candidate) :
    (IsLaidOut (stub candidate) ↔ '\n' ∉ (candidate.fileName?.getD "").toList) ∧
    (∀ first more, Text.split '\n' (candidate.fileName?.getD "").toList = first :: more →
      ∃ below, Text.split '\n' (stub candidate).toList = (heading ++ first) :: (more ++ below)) ∧
    ('\n' ∉ source.text.toList → '\n' ∉ specifier.toList →
      (∀ extension, extensions.head? = some extension → '\n' ∉ extension.toList) →
      IsLaidOut (stub candidate)) ∧
    ∀ name extension, (Path.mk specifier).fileName? = some name →
      extensions.head? = some extension → '/' ∉ extension.toList →
      candidate.fileName? = some (name ++ extension) ∧
        (IsLaidOut (stub candidate) ↔ '\n' ∉ name.toList ∧ '\n' ∉ extension.toList) := by
  obtain ⟨extension, first, rfl⟩ := exists_extension_of_resolve_eq_missing missing
  refine ⟨isLaidOut_stub_iff, ?_, ?_, ?_⟩
  · intro first more parts
    exact ⟨_, split_stub parts⟩
  · intro sourceFree specifierFree extensionFree
    rw [isLaidOut_stub_iff]
    cases named : ((target source specifier).withSuffix extension).fileName? with
    | none => simp
    | some name =>
        intro broken
        have inText := Path.mem_text_of_mem_name
          (List.mem_of_getLast? (Path.fileName?_eq_some_iff.1 named)) broken
        rw [Path.toList_withSuffix, List.mem_append] at inText
        rcases inText with inTarget | inExtension
        · rcases mem_of_mem_target inTarget (by decide) (by decide) with inSource | inSpecifier
          · exact sourceFree inSource
          · exact specifierFree inSpecifier
        · exact extensionFree extension first inExtension
  · intro name other named isFirst slashless
    cases first.symm.trans isFirst
    have fileNamed :
        ((target source specifier).withSuffix extension).fileName? = some (name ++ extension) :=
      fileName?_target_withSuffix named slashless
    refine ⟨fileNamed, ?_⟩
    rw [isLaidOut_stub_iff, fileNamed, Option.getD_some, String.toList_append, List.mem_append,
      not_or]

/-- A store with nothing but the file that refers to a name of two lines. -/
def brokenStore : Store :=
  Store.empty.place ⟨"out/src/m.js"⟩ "import \"./A\nb\"".toUTF8

theorem isLaidOut_of_missing_brokenStore :
    extract "import \"./A\nb\"" = ["./A\nb"] ∧
    resolve brokenStore [".js"] ⟨"out/src/m.js"⟩ "./A\nb" = .missing ⟨"out/src/A\nb.js"⟩ ∧
    Text.split '\n' (stub ⟨"out/src/A\nb.js"⟩).toList =
      [heading ++ ['A'], "b.js".toList, "export default \x7b\x7d;".toList, []] ∧
    ¬IsLaidOut (stub ⟨"out/src/A\nb.js"⟩) := by
  have missing : resolve brokenStore [".js"] ⟨"out/src/m.js"⟩ "./A\nb" =
      .missing ⟨"out/src/A\nb.js"⟩ := by
    decide +kernel
  have named : (Path.mk "./A\nb").fileName? = some "A\nb" := by decide +kernel
  have placeholder := (isLaidOut_of_missing missing).2.2.2 "A\nb" ".js" named rfl (by decide)
  refine ⟨by decide +kernel, missing, by decide +kernel, ?_⟩
  rw [placeholder.2]
  decide

end SourceTree.Reference
