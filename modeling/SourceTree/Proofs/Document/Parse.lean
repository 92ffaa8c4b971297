import SourceTree.Proofs.Document.Accept

/-!
# Map documents are read as they are written

A map document may be written with any white space and any escapes, its members in any order, and
with any other members among them. All of this is lost on the reader: what it finds are the names of
the sources and their contents, nothing else and nothing less.
-/

namespace SourceTree.MapDocument

open Json (Value Denotes)

/-- The values of the members called `key`, in order. -/
def valuesOf (key : String) (members : List (String × Value)) : List Value :=
  (members.filter fun member => member.1 == key).map Prod.snd

/-- What a document says about the contents of its sources. -/
inductive Contents where
  | missing
  | null
  | listed (contents : List (Option String))

/-- The members that say so. -/
def Contents.values : Contents → List Value
  | .missing => []
  | .null => [.null]
  | .listed contents => [contentsValue contents]

/-- The content of the source at `index`. -/
def Contents.contentAt : Contents → Nat → String
  | .listed contents, index =>
      match contents[index]? with
      | some (some content) => content
      | _ => ""
  | _, _ => ""

section Members

variable {members : List (String × Value)} {raws : List (String × List Char)}

theorem valuesOf_cons (key name : String) (value : Value) (members : List (String × Value)) :
    valuesOf key ((name, value) :: members) =
      if name = key then value :: valuesOf key members else valuesOf key members := by
  by_cases same : name = key <;> simp [valuesOf, same]

theorem spells_rawsOf (writes : Json.Writes members raws) (key : String) :
    List.Forall₂ (fun value raw => Json.Spells (.padded value) raw) (valuesOf key members)
      (rawsOf key raws) := by
  induction writes with
  | nil => exact .nil
  | @cons member raw members raws written _ ih =>
      obtain ⟨name, value⟩ := member
      obtain ⟨_, raw⟩ := raw
      obtain ⟨rfl, spells⟩ := written
      rw [valuesOf_cons, rawsOf_cons]
      dsimp only
      split
      · exact .cons spells ih
      · exact ih

theorem hasForm_of_writes (writes : Json.Writes members raws) :
    ∀ raw ∈ raws, Json.HasForm .padded raw.2 := by
  induction writes with
  | nil => simp
  | cons written _ ih => exact List.forall_mem_cons.2 ⟨written.2.hasForm, ih⟩

theorem gives_sources {sources : List String} {found : List (List Char)}
    (written : List.Forall₂ (fun value raw => Json.Spells (.padded value) raw)
      [namesValue sources] found) : Gives namesValue found (some sources) := by
  cases written with
  | cons spells others =>
      cases others
      exact .written (some sources) spells

theorem gives_contents (contents : Contents) {found : List (List Char)}
    (written : List.Forall₂ (fun value raw => Json.Spells (.padded value) raw)
      contents.values found) :
    ∃ result : Option (List (Option String)), Gives contentsValue found result ∧
      ∀ names index,
        content { names, contents := result } index = contents.contentAt index := by
  cases contents with
  | missing =>
      cases written
      exact ⟨none, .missing, fun _ _ => by simp [content, Contents.contentAt]⟩
  | null =>
      obtain _ | ⟨spells, ⟨⟩⟩ := written
      exact ⟨none, .written none spells, fun _ _ => by simp [content, Contents.contentAt]⟩
  | listed contents =>
      obtain _ | ⟨spells, ⟨⟩⟩ := written
      refine ⟨some contents, .written (some contents) spells, fun _ index => ?_⟩
      rcases shape : contents[index]? with _ | _ | text <;>
        simp [content, Contents.contentAt, shape]

end Members

theorem length_entries (document : MapDocument) :
    document.entries.length = document.sources.length := by
  simp [entries]

theorem entries_getElem? {document : MapDocument} {index : Nat} {source : String}
    (listed : document.sources[index]? = some source) :
    document.entries[index]? = some (source, document.content index) := by
  simp [entries, listed]

/-- Every text that denotes an object with the names and the contents of some sources, among any
other members and in any order, is read, and gives every source its content: an empty one where
`null` stands for it or nothing at all. -/
theorem parse_written (text : String) (members : List (String × Value)) (sources : List String)
    (contents : Contents) (denotes : Denotes text (.object members))
    (names : valuesOf "sources" members = [namesValue sources])
    (bodies : valuesOf "sourcesContent" members = contents.values) :
    ∃ document, parse text = .ok document ∧ document.sources = sources ∧
      document.entries.length = sources.length ∧
      (∀ index source, sources[index]? = some source →
        document.entries[index]? = some (source, contents.contentAt index)) ∧
      ∀ index, document.content index = contents.contentAt index := by
  obtain ⟨raws, object, writes⟩ := denotes.exists_holdsObject
  have givesNames := gives_sources (names ▸ spells_rawsOf writes "sources")
  obtain ⟨found, givesContents, contentAt⟩ :=
    gives_contents contents (bodies ▸ spells_rawsOf writes "sourcesContent")
  have isObject : IsObject text { names := some sources, contents := found } :=
    ⟨raws, object, givesNames, givesContents,
      fun raw listed _ => hasForm_of_writes writes raw listed⟩
  refine ⟨_, (parse_eq_ok_iff text _).2 (.inl isObject), rfl, length_entries _, ?_, contentAt _⟩
  intro index source listed
  rw [← contentAt (some sources)]
  exact entries_getElem? listed

/-- A document with escapes of every kind, members that are of no interest, and contents that do not
match the sources one by one. -/
def oddText : String :=
  "\x7b\"s\\u006Furces\":[\"a.js\",\t\"\\uD83d\\uDE00\\/\\n\"] ,\n" ++
    "\"x\" :[\x7b\"y\":[ ]\x7d, -1.50e+3,true],\"sourcesContent\":[null ,\"A\",\"B\"]\x7d\r\n"

/-- The members that the document has when it is read. -/
def oddMembers : List (String × Value) :=
  [("sources", namesValue ["a.js", "😀/\n"]),
    ("x", .list [.object [("y", .list [])], .number "-1.50e+3".toList, .boolean true]),
    ("sourcesContent", contentsValue [none, some "A", some "B"])]

theorem denotes_oddText : Denotes oddText (.object oddMembers) := by
  unfold Denotes oddText
  rw [String.toList_append, String.toList_ofList, String.toList_ofList]
  have no : Json.IsBlank [] := by decide
  have gap : Json.IsBlank [' '] := by decide
  have plain (text : String) (visible : text.toList.all Json.isPlain = true) :
      Json.Spells (.padded (.text text)) ('"' :: (text.toList ++ ['"']) ++ []) :=
    .padded no (.text (.plain visible)) no
  have key : Json.SpellsText "sources".toList "s\\u006Furces".toList :=
    .cons (.plain (by decide))
      (.cons (.unit (.digits (by decide) (by decide) (by decide) (by decide))) (.plain (by decide)))
  have smile : Json.SpellsText "😀/\n".toList "\\uD83d\\uDE00\\/\\n".toList :=
    .cons (.pair (by decide) (.digits (by decide) (by decide) (by decide) (by decide))
        (.digits (by decide) (by decide) (by decide) (by decide)))
      (.cons (.letter (by decide)) (.cons (.letter (by decide)) .nil))
  have names : Json.Spells (.padded (namesValue ["a.js", "😀/\n"]))
      "[\"a.js\",\t\"\\uD83d\\uDE00\\/\\n\"] ".toList :=
    .padded no (.list (.element (plain "a.js" (by decide))
      (.lastElement (.padded (by decide : Json.IsBlank ['\t']) (.text smile) no)))) gap
  have number : Json.IsNumber "-1.50e+3".toList :=
    .parts (by decide : ['-'] ∈ _) (.digits (by decide : Json.IsDigits ['1']) (by decide))
      (.digits (by decide : Json.IsDigits ['5', '0']))
      (.digits (by decide : 'e' ∈ _) (by decide : ['+'] ∈ _) (by decide : Json.IsDigits ['3']))
  have other : Json.Spells
      (.padded (.list [.object [("y", .list [])], .number "-1.50e+3".toList, .boolean true]))
      "[\x7b\"y\":[ ]\x7d, -1.50e+3,true]".toList :=
    .padded no (.list (.element
      (.padded no (.object (.lastMember (.member no (.plain (by decide)) no
        (.padded no (.list (.noElement gap)) no)))) no)
      (.element (.padded gap (.number number) no) (.lastElement (.padded no .true no))))) no
  have contents : Json.Spells (.padded (contentsValue [none, some "A", some "B"]))
      "[null ,\"A\",\"B\"]".toList :=
    .padded no (.list (.element (.padded no .null gap) (.element (plain "A" (by decide))
      (.lastElement (plain "B" (by decide)))))) no
  exact .padded no (.object (.nextMember (.member no key no names)
    (.nextMember (.member (by decide : Json.IsBlank ['\n']) (.plain (by decide)) gap other)
      (.lastMember (.member no (.plain (by decide)) no contents)))))
    (by decide : Json.IsBlank ['\r', '\n'])

/-- The second source has a content of its own, and the third content is left over. -/
theorem parse_written_oddText :
    ∃ document, parse oddText = .ok document ∧ document.sources = ["a.js", "😀/\n"] ∧
      document.entries.length = 2 ∧
      (∀ index source, ["a.js", "😀/\n"][index]? = some source →
        document.entries[index]? =
          some (source, (Contents.listed [none, some "A", some "B"]).contentAt index)) ∧
      ∀ index, document.content index =
        (Contents.listed [none, some "A", some "B"]).contentAt index :=
  parse_written oddText oddMembers ["a.js", "😀/\n"] (.listed [none, some "A", some "B"])
    denotes_oddText rfl rfl

end SourceTree.MapDocument
