import Mathlib.Dynamics.FixedPoints.Basic
import SourceTree.Proofs.SourceName.Containment
import SourceTree.Proofs.Text.Percent

/-!
# Layers of encoding

One cleaning takes one layer off a name: each scheme once and each escape once. Every step of it
either leaves the text alone or takes bytes away, and no step puts any back. So a name that keeps
its size has gone through all steps unchanged, which says what the settled names are, and cleaning
again and again comes to an end before it has nothing left to take.
-/

namespace SourceTree

namespace Text

/-- A step that leaves a text as it is, or with fewer bytes. -/
def Shrinks (step : List Char → List Char) : Prop :=
  ∀ text, step text = text ∨ String.utf8Len (step text) < String.utf8Len text

theorem eq_or_utf8Len_lt_of_sublist {part whole : List Char} (sublist : part.Sublist whole) :
    part = whole ∨ String.utf8Len part < String.utf8Len whole := by
  induction sublist with
  | slnil => exact Or.inl rfl
  | cons symbol sublist _ =>
      right
      have fewer := String.utf8Len_le_of_sublist sublist
      have := symbol.utf8Size_pos
      rw [String.utf8Len_cons]
      omega
  | cons_cons symbol _ ih =>
      apply ih.imp
      · intro same
        rw [same]
      · intro fewer
        rw [String.utf8Len_cons, String.utf8Len_cons]
        omega

theorem Shrinks.of_sublist {step : List Char → List Char}
    (part : ∀ text, (step text).Sublist text) : Shrinks step := by
  intro text
  exact eq_or_utf8Len_lt_of_sublist (part text)

variable {first second : List Char → List Char}

theorem Shrinks.comp (secondShrinks : Shrinks second) (firstShrinks : Shrinks first) :
    Shrinks (second ∘ first) := by
  intro text
  rw [Function.comp_apply]
  rcases firstShrinks text with same | fewer
  · rw [same]
    exact secondShrinks text
  · right
    rcases secondShrinks (first text) with same | fewerStill
    · rw [same]
      exact fewer
    · exact fewerStill.trans fewer

/-- Nothing that a step takes is put back by the next. -/
theorem Shrinks.comp_eq_self_iff (secondShrinks : Shrinks second) (firstShrinks : Shrinks first)
    {text : List Char} :
    (second ∘ first) text = text ↔ first text = text ∧ second text = text := by
  rw [Function.comp_apply]
  constructor
  · intro kept
    rcases firstShrinks text with same | fewer
    · rw [same] at kept
      exact ⟨same, kept⟩
    · rcases secondShrinks (first text) with same | fewerStill
      · rw [← same, kept] at fewer
        exact absurd fewer (lt_irrefl _)
      · rw [kept] at fewerStill
        exact absurd fewer (lt_asymm fewerStill)
  · rintro ⟨firstSame, secondSame⟩
    rw [firstSame, secondSame]

end Text

/-- Steps that shrink a value until it stays get it to stay within its size. -/
theorem exists_isFixedPt_of_shrinking {α : Type} {step : α → α} {size : α → Nat}
    (shrinks : ∀ value, step value = value ∨ size (step value) < size value) (start : α) :
    ∃ count ≤ size start, Function.IsFixedPt step (step^[count] start) ∧
      ∀ earlier < count, size (step^[earlier + 1] start) < size (step^[earlier] start) := by
  induction bound : size start using Nat.strong_induction_on generalizing start with
  | _ bound ih =>
      subst bound
      rcases shrinks start with same | fewer
      · exact ⟨0, Nat.zero_le _, same, by simp⟩
      · rcases ih _ fewer (step start) rfl with ⟨count, within, fixed, shorter⟩
        refine ⟨count + 1, by omega, fixed, ?_⟩
        intro earlier before
        cases earlier with
        | zero => exact fewer
        | succ earlier => exact shorter earlier (by omega)

namespace SourceName

/-- A text that cleaning leaves where it is: it is relative and has no `..` segments. -/
structure IsContained (text : List Char) : Prop where
  relative : text.head? ≠ some '/'
  noParent : ['.', '.'] ∉ Text.split '/' text

/-- A text with no scheme in front and no escape that decodes to text. -/
structure IsBare (text : List Char) : Prop where
  noBundle : ¬(scheme ++ "://").toList <+: text
  noFile : ¬"file://".toList <+: text
  noEscape : ∀ decoded, Text.Percent.decode? text = some decoded → decoded = text

variable {word text : List Char} {bundle : String}

theorem isContained_dropParents (text : List Char) : IsContained (dropParents text) :=
  ⟨head?_dropParents_ne text, parent_not_mem_split_dropParents text⟩

theorem isContained_clean (name bundle : String) : IsContained (clean name bundle).toList := by
  rw [clean, String.toList_ofList]
  exact isContained_dropParents _

theorem dropParents_eq_self_iff : dropParents text = text ↔ IsContained text := by
  constructor
  · intro same
    rw [← same]
    exact isContained_dropParents text
  · intro contained
    have kept : (Text.split '/' text).filter (· ≠ ['.', '.']) = Text.split '/' text := by
      rw [List.filter_eq_self]
      intro piece member
      have differs : piece ≠ ['.', '.'] := fun dots => contained.noParent (dots ▸ member)
      simpa using differs
    rw [dropParents, Text.trimLeft_of_head? contained.relative, kept]
    simp only [Text.join_split]
    exact Text.trimLeft_of_head? contained.relative

theorem dropParents_sublist (text : List Char) : (dropParents text).Sublist text := by
  have pieces : (Text.join '/' ((Text.split '/' (Text.trimLeft '/' text)).filter
      (· ≠ ['.', '.']))).Sublist (Text.join '/' (Text.split '/' (Text.trimLeft '/' text))) :=
    Text.join_sublist List.filter_sublist
  rw [Text.join_split] at pieces
  exact ((List.dropWhile_sublist _).trans pieces).trans (List.dropWhile_sublist _)

theorem dropWord_append (word rest : List Char) : dropWord word (word ++ rest) = rest := by
  rw [dropWord, Text.afterWord?_eq_some_iff.2 rfl]
  rfl

theorem dropWord_of_not_isPrefix (absent : ¬word <+: text) : dropWord word text = text := by
  cases found : Text.afterWord? word text with
  | none => simp [dropWord, found]
  | some rest =>
      have whole := Text.afterWord?_eq_some_iff.1 found
      exact absurd ⟨rest, whole.symm⟩ absent

theorem dropWord_sublist (word text : List Char) : (dropWord word text).Sublist text := by
  by_cases leads : word <+: text
  · rcases leads with ⟨rest, rfl⟩
    rw [dropWord_append]
    exact List.sublist_append_right word rest
  · rw [dropWord_of_not_isPrefix leads]

theorem dropWord_eq_self_iff (nonempty : word ≠ []) :
    dropWord word text = text ↔ ¬word <+: text := by
  constructor
  · rintro same ⟨rest, rfl⟩
    rw [dropWord_append, List.self_eq_append_left] at same
    exact nonempty same
  · exact dropWord_of_not_isPrefix

theorem shrinks_dropWord (word : List Char) : Text.Shrinks (dropWord word) :=
  .of_sublist (dropWord_sublist word)

theorem shrinks_dropParents : Text.Shrinks dropParents :=
  .of_sublist dropParents_sublist

theorem dropSchemes_eq (bundle : String) :
    dropSchemes bundle = dropWord "file://".toList ∘ dropWord (scheme ++ "://").toList ∘
      dropWord (scheme ++ "://" ++ bundle ++ "/").toList :=
  rfl

theorem shrinks_dropSchemes (bundle : String) : Text.Shrinks (dropSchemes bundle) := by
  rw [dropSchemes_eq]
  apply (shrinks_dropWord _).comp
  exact (shrinks_dropWord _).comp (shrinks_dropWord _)

/-- A name with the scheme of a bundle has the bare scheme too. -/
theorem scheme_isPrefix (bundle : String) :
    (scheme ++ "://").toList <+: (scheme ++ "://" ++ bundle ++ "/").toList := by
  refine ⟨(bundle ++ "/").toList, ?_⟩
  simp [String.toList_append]

theorem dropSchemes_eq_self_iff :
    dropSchemes bundle text = text ↔
      ¬(scheme ++ "://").toList <+: text ∧ ¬"file://".toList <+: text := by
  have bundled : (scheme ++ "://" ++ bundle ++ "/").toList ≠ [] := by
    intro empty
    have none := List.prefix_nil.1 (empty ▸ scheme_isPrefix bundle)
    exact absurd none (by decide)
  rw [dropSchemes_eq, (shrinks_dropWord _).comp_eq_self_iff
      ((shrinks_dropWord _).comp (shrinks_dropWord _)),
    (shrinks_dropWord _).comp_eq_self_iff (shrinks_dropWord _), dropWord_eq_self_iff bundled,
    dropWord_eq_self_iff (by decide), dropWord_eq_self_iff (by decide)]
  apply and_congr_left'
  apply and_iff_right_of_imp
  intro bare leads
  exact bare ((scheme_isPrefix bundle).trans leads)

theorem decodePercent_eq_self_iff :
    decodePercent text = text ↔ ∀ decoded, Text.Percent.decode? text = some decoded →
      decoded = text := by
  rw [decodePercent]
  cases Text.Percent.decode? text <;> simp

theorem shrinks_decodePercent : Text.Shrinks decodePercent := by
  intro text
  rw [decodePercent]
  cases decodes : Text.Percent.decode? text with
  | none => exact Or.inl rfl
  | some decoded =>
      rw [Text.Percent.decode?_eq_some_iff] at decodes
      apply (Text.Percent.decodeBytes_eq_or_length_lt text).imp
      · intro same
        exact Text.bytesOf_injective (decodes.symm.trans same)
      · intro fewer
        rwa [decodes, Text.length_bytesOf, Text.length_bytesOf] at fewer

/-- Cleaning, character by character. -/
def cleanText (bundle : String) : List Char → List Char :=
  dropParents ∘ decodePercent ∘ dropParents ∘ dropSchemes bundle

theorem clean_eq (name bundle : String) :
    clean name bundle = String.ofList (cleanText bundle name.toList) := by
  simp only [clean, cleanText, Function.comp_apply]

theorem shrinks_cleanText (bundle : String) : Text.Shrinks (cleanText bundle) := by
  rw [cleanText]
  apply shrinks_dropParents.comp
  apply shrinks_decodePercent.comp
  apply shrinks_dropParents.comp
  exact shrinks_dropSchemes bundle

theorem cleanText_eq_self_iff (contained : IsContained text) :
    cleanText bundle text = text ↔ IsBare text := by
  have kept : dropParents text = text := dropParents_eq_self_iff.2 contained
  rw [cleanText, shrinks_dropParents.comp_eq_self_iff (shrinks_decodePercent.comp
      (shrinks_dropParents.comp (shrinks_dropSchemes bundle))),
    shrinks_decodePercent.comp_eq_self_iff (shrinks_dropParents.comp (shrinks_dropSchemes bundle)),
    shrinks_dropParents.comp_eq_self_iff (shrinks_dropSchemes bundle), dropSchemes_eq_self_iff,
    decodePercent_eq_self_iff]
  constructor
  · rintro ⟨⟨⟨⟨noBundle, noFile⟩, _⟩, noEscape⟩, _⟩
    exact ⟨noBundle, noFile, noEscape⟩
  · rintro ⟨noBundle, noFile, noEscape⟩
    exact ⟨⟨⟨⟨noBundle, noFile⟩, kept⟩, noEscape⟩, kept⟩

theorem clean_eq_or_size_lt (name bundle : String) :
    clean name bundle = name ∨ (clean name bundle).utf8ByteSize < name.utf8ByteSize := by
  rw [clean_eq, String.utf8ByteSize_ofList, ← String.utf8Len_toList]
  apply (shrinks_cleanText bundle name.toList).imp_left
  intro same
  rw [same, String.ofList_toList]

/-- Cleaning never makes a name longer, and a name that keeps its size is kept. What comes out of it
is cleaned again unless it has neither a scheme in front nor an escape that decodes to text. So
cleaning over and over settles within as many steps as the name has bytes, and gets shorter up to
then. -/
theorem clean_settles (name bundle : String) :
    (clean name bundle).utf8ByteSize ≤ name.utf8ByteSize ∧
    ((clean name bundle).utf8ByteSize = name.utf8ByteSize → clean name bundle = name) ∧
    (∀ other, clean (clean name other) bundle = clean name other ↔
      IsBare (clean name other).toList) ∧
    ∃ count ≤ name.utf8ByteSize,
      Function.IsFixedPt (clean · bundle) ((clean · bundle)^[count] name) ∧
      ∀ earlier < count, ((clean · bundle)^[earlier + 1] name).utf8ByteSize <
        ((clean · bundle)^[earlier] name).utf8ByteSize := by
  refine ⟨?_, ?_, ?_, ?_⟩
  · rcases clean_eq_or_size_lt name bundle with same | fewer
    · rw [same]
    · exact fewer.le
  · intro size
    exact (clean_eq_or_size_lt name bundle).resolve_right size.not_lt
  · intro other
    rw [← cleanText_eq_self_iff (isContained_clean name other), clean_eq (clean name other)]
    constructor
    · intro same
      rw [← String.toList_inj, String.toList_ofList] at same
      exact same
    · intro same
      rw [same, String.ofList_toList]
  · exact exists_isFixedPt_of_shrinking (clean_eq_or_size_lt · bundle) name

end SourceName

end SourceTree
