import SourceTree.Proofs.SourceName.Layers

/-!
# Spellings of a clean path

A path that is contained already can be named in many ways: with escapes for everything that is not
plain, with a slash in front, and under each of the schemes. All of them are cleaned to the path
itself. An encoded path holds no colon, so no scheme is seen in it, even if the path looks as if it
had one; and its segments are those of the path, so nothing is dropped before it is decoded.
-/

namespace SourceTree.SourceName

open Text (bytesOf)
open Text.Percent (Encodes)

/-- The names under which documents list the source at an encoded path. -/
def spellings (bundle encoded : String) : List String :=
  [encoded, "/" ++ encoded, scheme ++ "://" ++ bundle ++ "/" ++ encoded,
    scheme ++ ":///" ++ encoded, "file:///" ++ encoded]

variable {word text rest : List Char} {bundle path encoded : String}

theorem not_isPrefix_of_not_mem {symbol : Char} (member : symbol ∈ word) (absent : symbol ∉ text) :
    ¬word <+: text :=
  fun leads => absent (leads.subset member)

theorem isContained_of_encodes (contained : IsContained path.toList)
    (encodes : Encodes (bytesOf path.toList) encoded.toList) : IsContained encoded.toList := by
  refine ⟨?_, ?_⟩
  · intro slash
    have decoded := Text.Percent.decodeBytes_of_encodes encodes
    rcases List.head?_eq_some_iff.1 slash with ⟨rest, code⟩
    rw [code, Text.Percent.decodeBytes_cons_of_ne (by decide)] at decoded
    rcases Text.exists_cons_of_bytesOf_eq_cons decoded.symm (by decide) with ⟨others, shape⟩
    apply contained.relative
    rw [shape]
    rfl
  · intro dots
    have decoded := List.mem_map_of_mem (f := Text.Percent.decodeBytes) dots
    rw [Text.Percent.map_decodeBytes_split encodes, List.mem_map] at decoded
    rcases decoded with ⟨piece, member, same⟩
    have parent : piece = ['.', '.'] := Text.bytesOf_injective same
    exact contained.noParent (parent ▸ member)

theorem decodePercent_of_encodes (encodes : Encodes (bytesOf path.toList) encoded.toList) :
    decodePercent encoded.toList = path.toList := by
  have decoded := Text.Percent.decodeBytes_of_encodes encodes
  rw [decodePercent, Text.Percent.decode?_eq_some_iff.2 decoded]
  rfl

theorem dropParents_slash_cons (text : List Char) :
    dropParents ('/' :: text) = dropParents text := by
  simp [dropParents, Text.trimLeft]

/-- What is left of a clean path behind the schemes and slashes is decoded to the path. -/
theorem cleanText_of_encodes (contained : IsContained path.toList)
    (encodes : Encodes (bytesOf path.toList) encoded.toList)
    (left : dropSchemes bundle text = encoded.toList ∨
      dropSchemes bundle text = '/' :: encoded.toList) :
    cleanText bundle text = path.toList := by
  have kept := dropParents_eq_self_iff.2 (isContained_of_encodes contained encodes)
  have trimmed : dropParents (dropSchemes bundle text) = encoded.toList := by
    rcases left with bare | slash
    · rw [bare, kept]
    · rw [slash, dropParents_slash_cons, kept]
  simp only [cleanText, Function.comp_apply]
  rw [trimmed, decodePercent_of_encodes encodes, dropParents_eq_self_iff.2 contained]

theorem colon_not_mem_of_encodes {bytes : List UInt8} (encodes : Encodes bytes text) :
    ':' ∉ text := by
  intro member
  rcases Text.Percent.exists_plain_of_mem encodes member (by decide) (by decide) with
    ⟨byte, _, plain, same⟩
  rw [Text.Percent.isPlain, ← same] at plain
  exact absurd plain (by decide)

section Schemes

theorem dropSchemes_of_colon_not_mem (absent : ':' ∉ text) : dropSchemes bundle text = text := by
  rw [dropSchemes_eq_self_iff]
  exact ⟨not_isPrefix_of_not_mem (by decide) absent, not_isPrefix_of_not_mem (by decide) absent⟩

theorem dropSchemes_bundled (absent : ':' ∉ rest) :
    dropSchemes bundle ((scheme ++ "://" ++ bundle ++ "/").toList ++ rest) = rest := by
  have noBare : ¬(scheme ++ "://").toList <+: rest := not_isPrefix_of_not_mem (by decide) absent
  have noFile : ¬"file://".toList <+: rest := not_isPrefix_of_not_mem (by decide) absent
  rw [dropSchemes, dropWord_append, dropWord_of_not_isPrefix noBare,
    dropWord_of_not_isPrefix noFile]

theorem dropSchemes_bare (absent : ':' ∉ rest)
    (other : ¬(scheme ++ "://" ++ bundle ++ "/").toList <+: (scheme ++ "://").toList ++ rest) :
    dropSchemes bundle ((scheme ++ "://").toList ++ rest) = rest := by
  have noFile : ¬"file://".toList <+: rest := not_isPrefix_of_not_mem (by decide) absent
  rw [dropSchemes, dropWord_of_not_isPrefix other, dropWord_append, dropWord_of_not_isPrefix noFile]

theorem dropSchemes_file : dropSchemes bundle ("file://".toList ++ rest) = rest := by
  have noBare : ¬(scheme ++ "://").toList <+: "file://".toList ++ rest := by
    rintro ⟨back, whole⟩
    have heads := congrArg List.head? whole
    simp [scheme] at heads
  have noBundled : ¬(scheme ++ "://" ++ bundle ++ "/").toList <+: "file://".toList ++ rest :=
    fun leads => noBare ((scheme_isPrefix bundle).trans leads)
  rw [dropSchemes, dropWord_of_not_isPrefix noBundled, dropWord_of_not_isPrefix noBare,
    dropWord_append]

/-- The scheme of a named bundle is not seen where a slash follows the bare scheme. -/
theorem not_isPrefix_of_named (named : bundle.toList.head? ≠ some '/') (nonempty : bundle ≠ "")
    (text : List Char) :
    ¬(scheme ++ "://" ++ bundle ++ "/").toList <+: (scheme ++ "://").toList ++ '/' :: text := by
  intro leads
  have behind : bundle.toList ++ ['/'] <+: '/' :: text := by
    apply (List.prefix_append_right_inj (scheme ++ "://").toList).1
    simpa [String.toList_append] using leads
  cases shape : bundle.toList with
  | nil => exact nonempty (String.toList_eq_nil_iff.1 shape)
  | cons first others =>
      rw [shape, List.cons_append, List.cons_prefix_cons] at behind
      rw [shape, behind.1] at named
      exact named rfl

/-- Each spelling loses its scheme, and may keep a slash in front. -/
theorem dropSchemes_of_mem_spellings (named : bundle.toList.head? ≠ some '/')
    (absent : ':' ∉ encoded.toList) {name : String} (member : name ∈ spellings bundle encoded) :
    dropSchemes bundle name.toList = encoded.toList ∨
      dropSchemes bundle name.toList = '/' :: encoded.toList := by
  have slashed : ':' ∉ '/' :: encoded.toList := by simpa using absent
  simp only [spellings, List.mem_cons, List.not_mem_nil, or_false] at member
  rcases member with rfl | rfl | rfl | rfl | rfl
  · exact Or.inl (dropSchemes_of_colon_not_mem absent)
  · right
    have spelled : ("/" ++ encoded).toList = '/' :: encoded.toList := by
      simp [String.toList_append]
    rw [spelled, dropSchemes_of_colon_not_mem slashed]
  · left
    have spelled : (scheme ++ "://" ++ bundle ++ "/" ++ encoded).toList =
        (scheme ++ "://" ++ bundle ++ "/").toList ++ encoded.toList := String.toList_append
    rw [spelled, dropSchemes_bundled absent]
  · have spelled : (scheme ++ ":///" ++ encoded).toList =
        (scheme ++ "://").toList ++ '/' :: encoded.toList := by
      simp [String.toList_append]
    rw [spelled]
    by_cases unnamed : bundle = ""
    · left
      have whole : (scheme ++ "://").toList ++ '/' :: encoded.toList =
          (scheme ++ "://" ++ bundle ++ "/").toList ++ encoded.toList := by
        simp [String.toList_append, unnamed]
      rw [whole, dropSchemes_bundled absent]
    · right
      apply dropSchemes_bare slashed
      exact not_isPrefix_of_named named unnamed encoded.toList
  · right
    have spelled : ("file:///" ++ encoded).toList = "file://".toList ++ '/' :: encoded.toList := by
      simp [String.toList_append]
    rw [spelled, dropSchemes_file]

end Schemes

theorem clean_of_mem_spellings (named : bundle.toList.head? ≠ some '/')
    (contained : IsContained path.toList)
    (encodes : Encodes (bytesOf path.toList) encoded.toList) {name : String}
    (member : name ∈ spellings bundle encoded) : clean name bundle = path := by
  have absent : ':' ∉ encoded.toList := colon_not_mem_of_encodes encodes
  have left := dropSchemes_of_mem_spellings named absent member
  rw [clean_eq, cleanText_of_encodes contained encodes left, String.ofList_toList]

/-- A contained path can be encoded, and is what cleaning gives for the encoded path in each of its
spellings. So the spellings of different paths are told apart. -/
theorem clean_spelling (named : bundle.toList.head? ≠ some '/')
    (contained : IsContained path.toList) :
    (∃ encoded : String, Encodes (bytesOf path.toList) encoded.toList) ∧
    ∀ encoded : String, Encodes (bytesOf path.toList) encoded.toList →
      (∀ name ∈ spellings bundle encoded, clean name bundle = path) ∧
      ∀ other otherEncoded : String, IsContained other.toList →
        Encodes (bytesOf other.toList) otherEncoded.toList → other ≠ path →
        ∀ name ∈ spellings bundle encoded, ∀ another ∈ spellings bundle otherEncoded,
          clean name bundle ≠ clean another bundle := by
  constructor
  · rcases Text.Percent.exists_encodes (bytesOf path.toList) with ⟨encoded, encodes⟩
    refine ⟨String.ofList encoded, ?_⟩
    rw [String.toList_ofList]
    exact encodes
  · intro encoded encodes
    have recovered : ∀ name ∈ spellings bundle encoded, clean name bundle = path :=
      fun name member => clean_of_mem_spellings named contained encodes member
    refine ⟨recovered, ?_⟩
    intro other otherEncoded otherContained otherEncodes differ name member another anotherMember
    rw [recovered name member,
      clean_of_mem_spellings named otherContained otherEncodes anotherMember]
    exact differ.symm

/-- A path whose own text looks escaped, in escapes with digits of both cases. -/
theorem clean_spelling_escaped :
    (spellings "_N_E" "%C3%a9%252E").map (clean · "_N_E") = List.replicate 5 "é%2E" := by
  have contained : IsContained "é%2E".toList := ⟨by decide, by decide⟩
  have encodes : Encodes (bytesOf "é%2E".toList) "%C3%a9%252E".toList := by
    apply Encodes.escape (by decide) (Or.inr rfl) (Or.inl rfl)
    apply Encodes.escape (by decide) (Or.inl rfl) (Or.inl rfl)
    apply Encodes.escape (by decide) (Or.inl rfl) (Or.inl rfl)
    apply Encodes.plain (by decide)
    apply Encodes.plain (by decide)
    exact Encodes.nil
  have named : "_N_E".toList.head? ≠ some '/' := by decide
  rw [List.eq_replicate_iff, List.forall_mem_map]
  exact ⟨rfl, ((clean_spelling named contained).2 "%C3%a9%252E" encodes).1⟩

end SourceTree.SourceName
