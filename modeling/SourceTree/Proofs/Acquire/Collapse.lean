import SourceTree.Proofs.Acquire.Documents
import SourceTree.Proofs.Bundle.Names

/-!
# Documents without a place of their own

The name of a document can be all slashes and dots. Then no segment of it is left to go below the
maps directory, and the document is kept at the path of that directory. A pass treats the path like
any other: if something is there the document is present, and if nothing is, not even another
document below it, the document is fetched and its text stored in place of the directory.
-/

namespace SourceTree

namespace Bundle

/-- The segments of a name that are joined onto the maps directory. -/
def joined (name : String) : List (List Char) :=
  (Text.split '/' name.toList).filter fun segment => segment ≠ [] ∧ segment ≠ ['.', '.']

/-- What stands between the maps directory and the ordinary segments of a name. It is empty unless
the name leads the whole path, and starts with a `.`. -/
def lead (maps : Path) (name : String) : List Component :=
  if maps.text = "" ∧ (joined name).head? = some ['.'] then [.current] else []

variable {maps base : Path} {name : String}

theorem leadOf_foldl_join (segments : List (List Char)) (nonempty : base.text ≠ "")
    (slashless : ∀ segment ∈ segments, '/' ∉ segment) :
    Path.leadOf (segments.foldl (fun path segment =>
        path.join ⟨String.ofList segment⟩) base).text.toList = Path.leadOf base.text.toList := by
  induction segments generalizing base with
  | nil => rfl
  | cons segment segments ih =>
      have relative := Path.isAbsolute_of_slash_not_mem (slashless segment (by simp))
      rw [List.foldl_cons, ih, Path.leadOf_join relative nonempty]
      · intro empty
        rcases Path.join_toList relative nonempty with ⟨front, joined, _⟩
        simp [empty] at joined
      · intro other member
        exact slashless other (List.mem_cons_of_mem _ member)

theorem leadOf_of_slash_not_mem {segment : List Char} (slashless : '/' ∉ segment) :
    (Path.leadOf segment).components = if segment = ['.'] then [.current] else [] := by
  have notRoot : segment.head? ≠ some '/' := fun slash => slashless (List.mem_of_head? slash)
  rw [Path.leadOf, if_neg notRoot, Text.split_of_not_mem slashless, List.head?_singleton]
  by_cases dot : segment = ['.'] <;> simp [dot, Path.Lead.components]

theorem slash_not_mem_of_mem_joined {segment : List Char} (member : segment ∈ joined name) :
    '/' ∉ segment :=
  Text.not_mem_of_mem_split (List.mem_filter.1 member).1

theorem ne_nil_of_mem_joined {segment : List Char} (member : segment ∈ joined name) :
    segment ≠ [] :=
  (of_decide_eq_true (List.mem_filter.1 member).2).1

theorem leadOf_localPath (maps : Path) (name : String) :
    (Path.leadOf (localPath maps name).text.toList).components =
      (Path.leadOf maps.text.toList).components ++ lead maps name := by
  have slashless : ∀ segment ∈ joined name, '/' ∉ segment :=
    fun _ => slash_not_mem_of_mem_joined
  change (Path.leadOf ((joined name).foldl (fun path segment =>
    path.join ⟨String.ofList segment⟩) maps).text.toList).components = _
  by_cases empty : maps.text = ""
  · have none : (Path.leadOf maps.text.toList).components = [] := by
      simp [empty, Path.leadOf, Text.split, Path.Lead.components]
    rw [none, List.nil_append, lead]
    cases shape : joined name with
    | nil => simpa using none
    | cons segment segments =>
        -- The first segment takes the place of the empty path, and the others come behind it.
        have member : segment ∈ joined name := by simp [shape]
        have relative := Path.isAbsolute_of_slash_not_mem (slashless segment member)
        have first := Path.text_join_of_empty relative empty
        rw [List.foldl_cons, leadOf_foldl_join, first, String.toList_ofList,
          leadOf_of_slash_not_mem (slashless segment member)]
        · simp [empty]
        · rw [first]
          simpa using ne_nil_of_mem_joined member
        · intro other otherMem
          apply slashless
          simp [shape, otherMem]
  · rw [leadOf_foldl_join (joined name) empty slashless, lead, if_neg (fun both => empty both.1),
      List.append_nil]

/-- A document is kept at the maps directory followed by the ordinary segments of its name. -/
theorem components_localPath (maps : Path) (name : String) :
    (localPath maps name).components =
      maps.components ++ lead maps name ++ (ownNames name).map .name := by
  rw [Path.components_eq, stepsOf_localPath, leadOf_localPath, Path.components_eq maps]
  by_cases empty : maps.text = ""
  · simp [empty]
  · simp [lead, empty]

theorem same_localPath_iff :
    (localPath maps name).same maps = true ↔ lead maps name = [] ∧ ownNames name = [] := by
  rw [Path.same_iff, components_localPath, List.append_assoc, List.append_right_eq_self,
    List.append_eq_nil_iff, List.map_eq_nil_iff]

/-- A document is below the maps directory, by names only, if its name has an ordinary segment and
does not lead the path with a `.`. -/
theorem exists_own_iff :
    (∃ own : List String, own ≠ [] ∧
        (localPath maps name).components = maps.components ++ own.map .name) ↔
      lead maps name = [] ∧ ownNames name ≠ [] := by
  rw [components_localPath, List.append_assoc]
  constructor
  · rintro ⟨own, nonempty, shape⟩
    have behind := List.append_cancel_left shape
    have unled : lead maps name = [] := by
      apply if_neg
      intro dotted
      rw [lead, if_pos dotted] at behind
      cases own <;> simp at behind
    refine ⟨unled, ?_⟩
    intro none
    rw [unled, none] at behind
    exact nonempty (List.map_eq_nil_iff.1 behind.symm)
  · rintro ⟨unled, nonempty⟩
    exact ⟨ownNames name, nonempty, by rw [unled, List.nil_append]⟩

end Bundle

namespace Acquire

variable {remote : Remote} {record : Record} {dryRun : Bool} {store : Store} {given : List String}

/-- Whether a document is kept at the maps directory itself. -/
def collapses (record : Record) (name : String) : Bool :=
  (record.documentPath name).same record.mapsPath

/-- Whether a document can be fetched. -/
def isServed (remote : Remote) (record : Record) (name : String) : Bool :=
  (remote (record.documentAddress name)).toOption.isSome

theorem isServed_iff {name : String} :
    isServed remote record name = true ↔
      ∃ text, remote (record.documentAddress name) = .ok text := by
  rw [isServed]
  cases remote (record.documentAddress name) <;> simp [Except.toOption]

/-- From the first document that can be fetched on, the maps directory is taken. -/
theorem isTaken_mapsPath_supplied (real : dryRun = false) {name : String} (member : name ∈ given)
    (served : isServed remote record name = true) :
    (supplied remote record dryRun store given).isTaken record.mapsPath = true := by
  rcases isServed_iff.1 served with ⟨text, answer⟩
  rcases isTaken_supplied_or_refused real member with taken | ⟨reason, refused⟩
  · exact Store.isTaken_of_isWithin taken (record.isWithin_documentPath name)
  · rw [answer] at refused
    cases refused

theorem isTaken_of_collapses {name : String} (collapse : collapses record name = true) :
    store.isTaken (record.documentPath name) = store.isTaken record.mapsPath :=
  Store.isTaken_congr (Path.same_iff.1 collapse)

theorem outputs_eq_nil_of_unserved
    (unserved : ∀ name ∈ given, isServed remote record name = false) :
    outputs record (turns remote record dryRun store given) = [] := by
  rw [List.eq_nil_iff_forall_not_mem]
  intro output member
  rcases exists_of_mem_outputs member with ⟨name, nameMem, _, _, _, answer⟩
  have served := isServed_iff.2 ⟨_, answer⟩
  rw [unserved name nameMem] at served
  cases served

theorem outputs_subset_append (later : List String) :
    outputs record (turns remote record dryRun store given) ⊆
      outputs record (turns remote record dryRun store (given ++ later)) :=
  List.filterMap_subset _ (turns_prefix_append given later).subset

/-- A document replaces the maps directory exactly if that is not there and the first document that
can be fetched at all belongs at its path. -/
theorem exists_output_same_iff :
    (∃ output ∈ outputs record (turns remote record dryRun store given),
        output.1.same record.mapsPath = true) ↔
      dryRun = false ∧ store.isTaken record.mapsPath = false ∧
        ∃ name, given.find? (isServed remote record) = some name ∧
          collapses record name = true := by
  constructor
  · rintro ⟨output, member, same⟩
    rcases List.mem_filterMap.1 member with ⟨turn, turnMem, shape⟩
    rcases output?_eq_some_iff.1 shape with ⟨fetched, path⟩
    rcases exists_cut_of_mem_turns turnMem with ⟨before, later, cut, outcome⟩
    have collapse : collapses record turn.name = true := by
      rw [path] at same
      exact same
    rw [fetched, eq_comm, outcome_eq_fetched_iff, isTaken_of_collapses collapse] at outcome
    rcases outcome with ⟨free, real, answer⟩
    have freeBefore : store.isTaken record.mapsPath = false := by
      rw [supplied, Store.isTaken_writes, Bool.or_eq_false_iff] at free
      exact free.1
    have unserved : ∀ name ∈ before, ¬isServed remote record name = true := by
      intro name nameMem served
      rw [isTaken_mapsPath_supplied real nameMem served] at free
      cases free
    refine ⟨real, freeBefore, turn.name, ?_, collapse⟩
    rw [List.find?_eq_some_iff_append]
    exact ⟨isServed_iff.2 ⟨_, answer⟩, before, later, cut, by simpa using unserved⟩
  · rintro ⟨real, free, name, first, collapse⟩
    rcases List.find?_eq_some_iff_append.1 first with ⟨served, before, later, cut, unserved⟩
    rcases isServed_iff.1 served with ⟨text, answer⟩
    have nothing : outputs record (turns remote record dryRun store before) = [] :=
      outputs_eq_nil_of_unserved (by simpa using unserved)
    have fetched : outcome remote record dryRun store name = .fetched text := by
      rw [outcome_eq_fetched_iff, isTaken_of_collapses collapse]
      exact ⟨free, real, answer⟩
    have written : (record.documentPath name, text) ∈
        outputs record (turns remote record dryRun store (before ++ [name])) := by
      rw [turns_concat, outputs_concat, nothing]
      simp [Store.writes, fetched, Turn.output?]
    rw [collapses] at collapse
    refine ⟨(record.documentPath name, text), ?_, collapse⟩
    rw [cut, List.append_cons]
    exact outputs_subset_append later written

/-- Where the maps directory is there before the pass, each document that belongs at its path counts
as present. -/
theorem countP_collapses_le (taken : store.isTaken record.mapsPath = true) :
    given.countP (collapses record) ≤
      (turns remote record dryRun store given).countP (·.outcome = .present) := by
  have counted : given.countP (collapses record) =
      (turns remote record dryRun store given).countP (collapses record ∘ Turn.name) := by
    rw [← List.countP_map, map_name_turns]
  rw [counted]
  apply List.countP_mono_left
  intro turn member collapse
  rcases exists_cut_of_mem_turns member with ⟨before, later, _, outcome⟩
  rw [decide_eq_true_iff, outcome, outcome_eq_present_iff, isTaken_of_collapses collapse]
  exact Store.isTaken_writes_of_isTaken taken _

/-- The names that bundles give are all texts without white space, forbidden characters and slashes
at the end. Such a document is kept below the maps directory if its name has an ordinary segment,
and else at the path of the directory; only behind the empty path, a `.` in front counts as well. A
pass fetches a document in place of the directory exactly if that is not there and the first
document that can be fetched at all belongs at its path. If the directory is there, every document
that belongs at its path counts as present. -/
theorem acquire_collapse {session after : Session Store} {report : Report}
    (ran : acquire remote record dryRun session = (.ok report, after)) :
    (∀ name, (∃ text, Bundle.mapName? text = some name) ↔ Bundle.IsGiven name.toList) ∧
    (∀ maps name,
      (Bundle.localPath maps name).components =
        maps.components ++ Bundle.lead maps name ++ (Bundle.ownNames name).map .name ∧
      ((∃ own : List String, own ≠ [] ∧
          (Bundle.localPath maps name).components = maps.components ++ own.map .name) ↔
        Bundle.lead maps name = [] ∧ Bundle.ownNames name ≠ []) ∧
      ((Bundle.localPath maps name).same maps = true ↔
        Bundle.lead maps name = [] ∧ Bundle.ownNames name = [])) ∧
    ((∃ path ∈ report.downloaded, path.same record.mapsPath = true) ↔
      dryRun = false ∧ session.files.isTaken record.mapsPath = false ∧
        ∃ name, (names session.files record).find? (isServed remote record) = some name ∧
          collapses record name = true) ∧
    (session.files.isTaken record.mapsPath = true →
      (names session.files record).countP (collapses record) ≤ report.present) := by
  rcases eq_of_acquire ran with ⟨rfl, _⟩
  refine ⟨Bundle.exists_mapName?_iff, ?_, ?_, countP_collapses_le⟩
  · intro maps name
    exact ⟨Bundle.components_localPath maps name, Bundle.exists_own_iff,
      Bundle.same_localPath_iff⟩
  · rw [← exists_output_same_iff]
    simp [tally]

/-- A bundle that names the directory above. -/
def dottedStore : Store :=
  Store.empty.place ⟨"in/1.js"⟩ "//# sourceMappingURL=..".toUTF8

@[inherit_doc dottedStore]
def dottedRemote : Remote :=
  .ofList [("u/..", "\x7b\x7d")]

/-- The document is fetched, and its text is what there is in place of the maps directory. -/
theorem acquire_collapse_dottedStore :
    ∃ report after, acquire dottedRemote sharedRecord false ⟨dottedStore, #[]⟩ =
        (.ok report, after) ∧
      ∃ path ∈ report.downloaded, path.same sharedRecord.mapsPath = true := by
  have directory : dottedStore.isDirectory sharedRecord.inputDir = true := by decide
  have given : names dottedStore sharedRecord = [".."] := by decide +kernel
  rcases ends_acquire_of_isDirectory dottedRemote false directory #[] with ⟨told, ran⟩
  refine ⟨_, _, ran, ?_⟩
  rcases acquire_collapse ran with ⟨_, _, downloaded, _⟩
  apply downloaded.2
  refine ⟨rfl, by decide +kernel, "..", ?_, by decide +kernel⟩
  rw [given]
  decide +kernel

end Acquire

end SourceTree
