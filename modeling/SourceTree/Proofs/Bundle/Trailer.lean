import Mathlib.Data.List.DropRight
import SourceTree.Proofs.Bundle.Names

/-!
# What a trailer names

Only the last lines of a bundle count, and of these the first one that holds the marker. If that is
a comment of one of the usual forms, then what it says is what is found: neither the end of a block
comment nor quotes become part of the name, and nothing of the name is lost.
-/

namespace SourceTree.Bundle

variable {name line value : List Char}

/-- The lines at the end of a text that are searched. -/
def lastLines (text : String) : List (List Char) :=
  (Text.split '\n' text.toList).rtake 5

/-- A line that names a map document: a line comment, where the name may be quoted, or a block
comment. White space may stand around the equals sign, behind the name and at the end. -/
inductive IsTrailer (name : List Char) : List Char → Prop
  | plain {gap space behind : List Char}
      (gapBlank : ∀ symbol ∈ gap, Text.isBlank symbol = true)
      (spaceBlank : ∀ symbol ∈ space, Text.isBlank symbol = true)
      (behindBlank : ∀ symbol ∈ behind, Text.isBlank symbol = true) :
      IsTrailer name
        ("//# ".toList ++ (marker ++ (gap ++ '=' :: (space ++ (name ++ behind)))))
  | quoted {gap space behind : List Char}
      (gapBlank : ∀ symbol ∈ gap, Text.isBlank symbol = true)
      (spaceBlank : ∀ symbol ∈ space, Text.isBlank symbol = true)
      (behindBlank : ∀ symbol ∈ behind, Text.isBlank symbol = true) :
      IsTrailer name
        ("//# ".toList ++
          (marker ++ (gap ++ '=' :: (space ++ ('"' :: (name ++ ['"']) ++ behind)))))
  | block {gap space pad behind : List Char}
      (gapBlank : ∀ symbol ∈ gap, Text.isBlank symbol = true)
      (spaceBlank : ∀ symbol ∈ space, Text.isBlank symbol = true)
      (padBlank : ∀ symbol ∈ pad, Text.isBlank symbol = true)
      (behindBlank : ∀ symbol ∈ behind, Text.isBlank symbol = true) :
      IsTrailer name
        ("/*# ".toList ++
          (marker ++ (gap ++ '=' :: (space ++ (name ++ (pad ++ (['*', '/'] ++ behind)))))))

theorem trailer_eq_join_lastLines (text : String) :
    trailer text.toList = Text.join '\n' (lastLines text) :=
  rfl

section Forms

/-- A value that names `name` in some spelling. -/
structure Names (value name : List Char) : Prop where
  nonempty : value ≠ []
  unblank : ∀ symbol ∈ value, Text.isBlank symbol = false
  named : nameOfValue? value = some (String.ofList name)

theorem names_plain (given : IsGiven name) : Names name name :=
  ⟨given.nonempty, given.unblank,
    nameOfValue?_of_trimmed given given.colon_not_mem given.trimmed⟩

theorem names_quoted (given : IsGiven name) : Names ('"' :: (name ++ ['"'])) name := by
  refine ⟨by simp, ?_, ?_⟩
  · intro symbol member
    simp only [List.mem_cons, List.mem_append, List.not_mem_nil, or_false] at member
    rcases member with rfl | member | rfl
    · decide
    · exact given.unblank symbol member
    · decide
  · apply nameOfValue?_of_trimmed given
    · simpa using given.colon_not_mem
    · have quote : isNameCharacter '"' = false := by decide
      simpa [quote] using given.trimmed

/-- The star at the end of a block comment cannot stand in a name, and then the slash is the last
symbol. -/
theorem names_block (given : IsGiven name) : Names (name ++ ['*', '/']) name := by
  refine ⟨by simp, ?_, ?_⟩
  · intro symbol member
    simp only [List.mem_cons, List.mem_append, List.not_mem_nil, or_false] at member
    rcases member with member | rfl | rfl
    · exact given.unblank symbol member
    · decide
    · decide
  · apply nameOfValue?_of_trimmed given
    · simpa using given.colon_not_mem
    · have star : isNameCharacter '*' = false := by decide
      have slash : isNameCharacter '/' = true := by decide
      simpa [star, slash] using given.trimmed

end Forms

theorem Names.assigns (names : Names value name) {gap space rest : List Char}
    (gapBlank : ∀ symbol ∈ gap, Text.isBlank symbol = true)
    (spaceBlank : ∀ symbol ∈ space, Text.isBlank symbol = true)
    (ends : ∀ symbol ∈ rest.head?, Text.isBlank symbol = true) :
    Assigns value (marker ++ (gap ++ '=' :: (space ++ (value ++ rest)))) :=
  .written gapBlank spaceBlank names.nonempty names.unblank ends

theorem head?_append_blank {blank rest : List Char}
    (areBlank : ∀ symbol ∈ blank, Text.isBlank symbol = true)
    (ends : ∀ symbol ∈ rest.head?, Text.isBlank symbol = true) :
    ∀ symbol ∈ (blank ++ rest).head?, Text.isBlank symbol = true := by
  cases blank with
  | nil => exact ends
  | cons first blank =>
      intro symbol isHead
      cases isHead
      exact areBlank first (by simp)

/-- In front of white space, a line that names a document assigns a value that does. -/
theorem IsTrailer.exists_assigns (trailer : IsTrailer name line) (given : IsGiven name)
    {rest : List Char} (ends : ∀ symbol ∈ rest.head?, Text.isBlank symbol = true) :
    ∃ lead behind value, line ++ rest = lead ++ behind ∧ ¬marker <:+: lead ∧
      Assigns value behind ∧ nameOfValue? value = some (String.ofList name) := by
  cases trailer with
  | plain gapBlank spaceBlank behindBlank =>
      have assigns := (names_plain given).assigns gapBlank spaceBlank
        (head?_append_blank behindBlank ends)
      refine ⟨"//# ".toList, _, _, ?_, by decide, assigns, (names_plain given).named⟩
      simp only [List.append_assoc, List.cons_append]
  | quoted gapBlank spaceBlank behindBlank =>
      have assigns := (names_quoted given).assigns gapBlank spaceBlank
        (head?_append_blank behindBlank ends)
      refine ⟨"//# ".toList, _, _, ?_, by decide, assigns, (names_quoted given).named⟩
      simp only [List.append_assoc, List.cons_append]
  | @block gap space pad behind gapBlank spaceBlank padBlank behindBlank =>
      cases pad with
      | nil =>
          have assigns := (names_block given).assigns gapBlank spaceBlank
            (head?_append_blank behindBlank ends)
          refine ⟨"/*# ".toList, _, _, ?_, by decide, assigns, (names_block given).named⟩
          simp only [List.append_assoc, List.cons_append, List.nil_append]
      | cons first pad =>
          have padEnds : ∀ symbol ∈ (first :: pad ++ (['*', '/'] ++ behind ++ rest)).head?,
              Text.isBlank symbol = true := by
            intro symbol isHead
            cases isHead
            exact padBlank first (by simp)
          have assigns := (names_plain given).assigns gapBlank spaceBlank padEnds
          refine ⟨"/*# ".toList, _, _, ?_, by decide, assigns, (names_plain given).named⟩
          simp only [List.append_assoc, List.cons_append]

theorem mapName?_of_isTrailer {text : String} {before after : List (List Char)}
    (lines : lastLines text = before ++ line :: after)
    (absent : ∀ earlier ∈ before, ¬marker <:+: earlier) (given : IsGiven name)
    (trailer : IsTrailer name line) : mapName? text = some (String.ofList name) := by
  have ends : ∀ symbol ∈ (after.flatMap ('\n' :: ·)).head?, Text.isBlank symbol = true := by
    cases after with
    | nil => simp
    | cons next after =>
        intro symbol isHead
        cases isHead
        decide
  rcases trailer.exists_assigns given ends with ⟨lead, behind, value, cut, leadFree, assigns, named⟩
  have noBreak : '\n' ∉ marker := by decide
  have early : ¬marker <:+: before.flatMap (· ++ ['\n']) ++ lead := by
    intro inside
    rcases Text.infix_flatMap_append noBreak inside with ⟨piece, member, within⟩ | within
    · exact absent piece member within
    · exact leadFree within
  have first := assigns.first early
  rw [List.append_assoc, ← cut] at first
  rw [mapName?, trailer_eq_join_lastLines, lines, Text.join_append_cons,
    firstAssigned?_eq_some_iff.2 first, Option.bind_some, named]

/-- Bundles with the same last five lines give the same name. Every name that is given is a text
without white space, forbidden characters and slashes at the end, and each text of this kind is
given by every bundle in whose last five lines it stands in a comment of one of the usual forms and
none of them has the marker before that. -/
theorem mapName?_lastLines :
    (∀ text other : String, lastLines text = lastLines other → mapName? text = mapName? other) ∧
    (∀ text name : String, mapName? text = some name → IsGiven name.toList) ∧
    (∀ (text name : String) (before after : List (List Char)) (line : List Char),
      IsGiven name.toList → lastLines text = before ++ line :: after →
      (∀ earlier ∈ before, ¬marker <:+: earlier) → IsTrailer name.toList line →
      mapName? text = some name) := by
  refine ⟨?_, fun _ _ => isGiven_of_mapName?, ?_⟩
  · intro text other same
    rw [mapName?, mapName?, trailer_eq_join_lastLines, trailer_eq_join_lastLines, same]
  · intro text name before after line given lines absent trailer
    rw [mapName?_of_isTrailer lines absent given trailer, String.ofList_toList]

/-- A bundle with a stylesheet comment in its last lines and another comment too far from its
end. -/
def styledText : String :=
  "//# sourceMappingURL=old.map\na\n\n/*# sourceMappingURL = static/app.css.map */\n\n"

@[inherit_doc styledText]
def styledLines : List (List Char) :=
  [['a'], [], "/*# ".toList ++ (marker ++ ([' '] ++ '=' :: ([' '] ++
    ("static/app.css.map".toList ++ ([' '] ++ (['*', '/'] ++ [])))))), [], []]

theorem mapName?_lastLines_styledText :
    lastLines styledText = styledLines ∧
      mapName? styledText = some "static/app.css.map" ∧
      mapName? styledText =
        mapName? "b\nc\na\n\n/*# sourceMappingURL = static/app.css.map */\n\n" ∧
      IsGiven "static/app.css.map".toList := by
  have lines : lastLines styledText = styledLines := by decide +kernel
  have others : lastLines "b\nc\na\n\n/*# sourceMappingURL = static/app.css.map */\n\n" =
      styledLines := by decide +kernel
  have blank : ∀ symbol ∈ [' '], Text.isBlank symbol = true := by simp [Text.isBlank]
  have absent : ∀ earlier ∈ [['a'], []], ¬marker <:+: earlier := by decide
  rcases mapName?_lastLines with ⟨alike, given, found⟩
  have named := found styledText "static/app.css.map" [['a'], []] [[], []] _ (by decide) lines
    absent (.block blank blank blank (by simp))
  exact ⟨lines, named, alike _ _ (lines.trans others.symm), given _ _ named⟩

end SourceTree.Bundle
