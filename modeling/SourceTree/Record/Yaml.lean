import SourceTree.Record.Draft
import SourceTree.Yaml.Node

/-!
# Records in YAML

A record in YAML is a mapping with the same members as one in JSON. Every scalar is read as its
text, also one that looks like a number or a word, except that the bundle name can be left empty or
be a null word.
-/

namespace SourceTree.Record

/-- Why a YAML text is no record. -/
inductive YamlFault where
  /-- The text is not a single YAML document. -/
  | malformed
  /-- The node at the top is no mapping. -/
  | notMapping
  /-- A key is no scalar. -/
  | badKey
  /-- The value of a member cannot be used. -/
  | badMember (name : String)
  /-- A member is given twice. -/
  | repeatedMember (name : String)
  /-- A member that every record has is not given. -/
  | missingMember (name : String)
  deriving DecidableEq, Repr

/-- The wording of a fault. -/
def YamlFault.message : YamlFault → String
  | .malformed => "not a YAML document"
  | .notMapping => "not a mapping"
  | .badKey => "a key is not text"
  | .badMember name => "bad value for field `" ++ name ++ "`"
  | .repeatedMember name => "duplicate field `" ++ name ++ "`"
  | .missingMember name => "missing field `" ++ name ++ "`"

/-- Whether a text is a word for no value. -/
def isNullWord (text : String) : Bool :=
  ["null", "Null", "NULL", "~"].contains text

/-- The tag of nodes without a value. -/
def nullTag : String := "tag:yaml.org,2002:null"

/-- The text of a scalar. -/
def nodeText? (anchored : Yaml.Node.Anchored) (node : Yaml.Node) : Option String :=
  match node.follow? anchored with
  | some (.scalar _ _ _ text) => some text
  | _ => none

/-- The text of a scalar that can be left out. -/
def nodeOptional? (anchored : Yaml.Node.Anchored) (node : Yaml.Node) : Option (Option String) :=
  match node.follow? anchored with
  | some (.scalar _ tag .plain text) =>
      match tag with
      | none => if text.isEmpty || isNullWord text then some none else some (some text)
      | some tag =>
          if tag ≠ nullTag then some (some text)
          else if isNullWord text then some none
          else none
  | some (.scalar _ _ _ text) => some (some text)
  | _ => none

/-- The texts of a sequence. A sequence can be left empty. -/
def nodeTexts? (anchored : Yaml.Node.Anchored) (node : Yaml.Node) : Option (List String) :=
  match node.follow? anchored with
  | some (.sequence _ items) => items.mapM (nodeText? anchored)
  | some (.scalar _ _ .plain "") => some []
  | _ => none

/-- Sets a member that is not set yet. -/
def setMember (name : String) (old : Option α) (value : Option α) (update : α → Draft) :
    Except YamlFault Draft :=
  match old, value with
  | some _, _ => .error (.repeatedMember name)
  | none, none => .error (.badMember name)
  | none, some value => .ok (update value)

/-- The draft with one more member. Members of other names do not matter. -/
def addMember (anchored : Yaml.Node.Anchored) (draft : Draft) (entry : Yaml.Node × Yaml.Node) :
    Except YamlFault Draft :=
  let value := entry.2
  let path := (nodeText? anchored value).map Path.mk
  match nodeText? anchored entry.1 with
  | none => .error .badKey
  | some "inputDir" =>
      setMember "inputDir" draft.inputDir path fun path => { draft with inputDir := some path }
  | some "baseUrl" =>
      setMember "baseUrl" draft.baseUrl (nodeText? anchored value) fun text =>
        { draft with baseUrl := some text }
  | some "baseOutputDir" =>
      setMember "baseOutputDir" draft.baseOutputDir path fun path =>
        { draft with baseOutputDir := some path }
  | some "mapsDir" =>
      setMember "mapsDir" draft.mapsDir path fun path => { draft with mapsDir := some path }
  | some "decompiledDir" =>
      setMember "decompiledDir" draft.decompiledDir path fun path =>
        { draft with decompiledDir := some path }
  | some "exts" =>
      setMember "exts" draft.extensions (nodeTexts? anchored value) fun texts =>
        { draft with extensions := some texts }
  | some "webpackPrefix" =>
      setMember "webpackPrefix" draft.bundle (nodeOptional? anchored value) fun text =>
        { draft with bundle := some text }
  | some _ => .ok draft

/-- The record that a node holds. -/
def ofNode (root : Yaml.Node) : Except YamlFault Record :=
  match root with
  | .mapping _ entries =>
      match entries.foldlM (addMember (root.anchored [])) {} with
      | .error fault => .error fault
      | .ok draft => draft.finish.mapError .missingMember
  | _ => .error .notMapping

/-- The record that a YAML text holds. -/
def parseYaml (text : String) : Except YamlFault Record :=
  match Yaml.Node.ofText? text with
  | none => .error .malformed
  | some root => ofNode root

end SourceTree.Record
