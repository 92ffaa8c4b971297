import SourceTree.Proofs.Path.Suffix
import SourceTree.Proofs.Placeholders.Account
import SourceTree.Proofs.Placeholders.Footprint
import SourceTree.Proofs.Placeholders.Places

/-!
# Answered references behind a pass

A reference is answered by the first of its places where something is. Behind a pass an answered
reference is still answered, but a placeholder may have come to a place that is looked at earlier,
and then this one answers, or the directory in which it lies. Only the target itself cannot come
between: nothing but a file counts there, and before an index module it is a directory already.

A placeholder comes to such a place itself only if one extension ends like another one. With
distinct endings, a reference changes its answer only where a place has become a directory.
-/

namespace SourceTree

namespace Reference

section First

variable {α : Type} [DecidableEq α] {test : α → Bool} {items front back : List α} {item other : α}

theorem find?_eq_some_iff_takeWhile :
    items.find? test = some item ↔
      item ∈ items ∧ test item = true ∧
        ∀ earlier ∈ items.takeWhile (· ≠ item), test earlier = false := by
  induction items with
  | nil => simp
  | cons first items ih =>
      by_cases same : first = item
      · subst same
        cases passed : test first with
        | true => simp [passed]
        | false =>
            simp only [List.find?_cons, passed, ih]
            simp
      · cases passed : test first with
        | true => simp [passed, same]
        | false => simp [passed, same, Ne.symm same, ih]

theorem mem_takeWhile_append (member : other ∈ (front ++ back).takeWhile (· ≠ item)) :
    other ∈ front ∨ item ∉ front ∧ other ∈ back.takeWhile (· ≠ item) := by
  induction front with
  | nil => exact Or.inr ⟨by simp, member⟩
  | cons first front ih =>
      by_cases same : first = item
      · simp [same] at member
      · simp only [List.cons_append, List.takeWhile_cons, same, ne_eq, not_false_eq_true,
          decide_true, if_true, List.mem_cons] at member
        rcases member with rfl | later
        · exact Or.inl (by simp)
        · rcases ih later with inFront | ⟨absent, inBack⟩
          · exact Or.inl (List.mem_cons_of_mem _ inFront)
          · exact Or.inr ⟨by simp [absent, Ne.symm same], inBack⟩

end First

variable {σ : Type} [FileSystem σ] {files : σ} {extensions : List String}
  {target place path : Path}

/-- The places that are looked at for a target, in turn. -/
def probes (extensions : List String) (target : Path) : List Path :=
  modules extensions target ++ target :: indices extensions target

/-- Whether a reference is answered at one of its places. -/
def answers (files : σ) (target place : Path) : Bool :=
  if place = target then FileSystem.isFile files place else FileSystem.isTaken files place

/-- The module files and index modules that are looked at before `path`. -/
def ahead (extensions : List String) (target path : Path) : List Path :=
  ((probes extensions target).takeWhile (· ≠ path)).filter (· ≠ target)

theorem target_not_mem_modules (usable : ∀ extension ∈ extensions, extension ≠ "") :
    target ∉ modules extensions target := by
  intro member
  rcases List.mem_map.1 member with ⟨extension, extensionMem, same⟩
  have text : target.text ++ extension = target.text := congrArg Path.text same
  apply usable extension extensionMem
  simpa using text

theorem isAbsolute_index (extension : String) :
    Path.isAbsolute ⟨"index" ++ extension⟩ = false := by
  simp [Path.isAbsolute]

/-- The module files of a target vary its last segment, and both together make out the target. -/
theorem exists_varies_target (source : Path) (specifier : String) :
    ∃ front word,
      Reference.target source specifier =
        Path.ofComponents (front ++ (Component.ofSegment? word).toList) ∧
      Path.Varies (Reference.target source specifier).withSuffix front word := by
  rcases Path.exists_varies_withSuffix (Path.isNormal_normalComponents
    ((source.parent?.getD ⟨""⟩).join ⟨specifier⟩)) with ⟨front, word, cut, varies⟩
  refine ⟨front, word, ?_, varies⟩
  rw [← cut]
  rfl

/-- So do its index modules, in the directory of that name. -/
theorem varies_index (target : Path) :
    Path.Varies (fun extension => target.join ⟨"index" ++ extension⟩) target.components
      "index".toList := by
  have slashless : '/' ∉ "index".toList := by decide
  have varies := Path.varies_join target slashless
  rw [String.ofList_toList] at varies
  exact varies

theorem target_not_mem_indices : target ∉ indices extensions target := by
  intro member
  rcases List.mem_map.1 member with ⟨extension, _, same⟩
  have text := congrArg (fun path : Path => path.text.toList.length) same
  simp only [Path.join, isAbsolute_index, Bool.false_eq_true, if_false] at text
  split at text
  · simp at text
  · simp at text

theorem isWithin_of_mem_indices (member : path ∈ indices extensions target) :
    path.isWithin target = true := by
  rcases List.mem_map.1 member with ⟨extension, _, rfl⟩
  exact Path.isWithin_join (isAbsolute_index extension)

theorem isTaken_of_answers (answered : answers files target path = true)
    (index : path ∈ indices extensions target) : FileSystem.isTaken files path = true := by
  have notTarget : path ≠ target := by
    rintro rfl
    exact target_not_mem_indices index
  rwa [answers, if_neg notTarget] at answered

theorem find?_answers {places : List Path} (others : target ∉ places) :
    places.find? (answers files target) = places.find? (FileSystem.isTaken files) := by
  induction places with
  | nil => rfl
  | cons first places ih =>
      rw [List.mem_cons, not_or] at others
      have plain : answers files target first = FileSystem.isTaken files first := by
        rw [answers, if_neg (Ne.symm others.1)]
      rw [List.find?_cons, List.find?_cons, plain, ih others.2]

/-- The first place that answers decides. -/
theorem resolveTarget_eq_found_iff (usable : ∀ extension ∈ extensions, extension ≠ "") :
    resolveTarget files extensions target = .found path ↔
      path ∈ probes extensions target ∧ answers files target path = true ∧
        ∀ place ∈ (probes extensions target).takeWhile (· ≠ path),
          answers files target place = false := by
  have own : answers files target target = FileSystem.isFile files target := by simp [answers]
  rw [← find?_eq_some_iff_takeWhile, probes, List.find?_append,
    find?_answers (target_not_mem_modules usable), List.find?_cons, own,
    find?_answers target_not_mem_indices, resolveTarget]
  cases (modules extensions target).find? (FileSystem.isTaken files) with
  | some found => simp
  | none =>
      cases FileSystem.isFile files target with
      | true => simp
      | false =>
          cases (indices extensions target).find? (FileSystem.isTaken files) with
          | some found => simp
          | none => cases modules extensions target <;> simp

/-- One place that answers is enough. -/
theorem exists_found_of_answers (usable : ∀ extension ∈ extensions, extension ≠ "")
    (probed : path ∈ probes extensions target) (answered : answers files target path = true) :
    ∃ now, resolveTarget files extensions target = .found now := by
  have some : ((probes extensions target).find? (answers files target)).isSome = true :=
    List.find?_isSome.2 ⟨path, probed, answered⟩
  rcases Option.isSome_iff_exists.1 some with ⟨now, first⟩
  exact ⟨now, (resolveTarget_eq_found_iff usable).2 (find?_eq_some_iff_takeWhile.1 first)⟩

/-- Index modules are only looked at before another one, and so is the target itself. -/
theorem mem_indices_of_mem_takeWhile (probed : path ∈ probes extensions target)
    (member : place ∈ (probes extensions target).takeWhile (· ≠ path))
    (later : place ∉ modules extensions target) : path ∈ indices extensions target := by
  rcases mem_takeWhile_append member with inModules | ⟨absent, behind⟩
  · exact absurd inModules later
  · have notTarget : path ≠ target := by
      rintro rfl
      simp at behind
    rcases List.mem_append.1 probed with inModules | rest
    · exact absurd inModules absent
    · exact (List.mem_cons.1 rest).resolve_left notTarget

theorem mem_ahead_iff :
    place ∈ ahead extensions target path ↔
      place ∈ (probes extensions target).takeWhile (· ≠ path) ∧ place ≠ target := by
  simp [ahead]

end Reference

/-- No extension has a slash, and none ends like the first one or the first one like it. -/
structure Record.HasDistinctEndings (record : Record) : Prop where
  slashless : ∀ extension ∈ record.extensions, '/' ∉ extension.toList
  apart : ∀ first, record.extensions.head? = some first → ∀ extension ∈ record.extensions,
    extension.toList <:+ first.toList ∨ first.toList <:+ extension.toList → extension = first

/-- With distinct endings, a path with the first extension meets one with another only where they
agree in all of them. -/
theorem Record.HasDistinctEndings.eq_of_same {record : Record} {first extension : String}
    {paths others : String → Path} {front otherFront : List Component}
    {word otherWord : List Char} (endings : record.HasDistinctEndings)
    (valid : record.defect? = none) (head : record.extensions.head? = some first)
    (member : extension ∈ record.extensions) (varies : Path.Varies paths front word)
    (othersVary : Path.Varies others otherFront otherWord)
    (same : (paths first).components = (others extension).components) :
    front = otherFront ∧ word = otherWord := by
  have firstMem := List.mem_of_head? head
  rcases varies.eq_of_same othersVary (endings.slashless first firstMem)
    (two_le_length_of_mem_extensions valid firstMem) (endings.slashless extension member)
    (two_le_length_of_mem_extensions valid member) same with ⟨fronts, texts⟩
  have nested := List.suffix_or_suffix_of_suffix
    (List.suffix_append otherWord extension.toList)
    (texts ▸ List.suffix_append word first.toList)
  obtain rfl := endings.apart first head extension member nested
  exact ⟨fronts, List.append_cancel_right texts⟩

namespace Placeholders

open Reference (probes answers ahead)

variable {record : Record} {store : Store} {source place path : Path} {specifier : String}
  {created : List Path} {session after : Session Store} {report : Report}

theorem files_of_fill (ran : fill record session = (.ok report, after)) :
    after.files = session.files.writes (stubbed report.created) := by
  cases taken : session.files.isTaken record.treePath with
  | false =>
      rcases (ends_fill_of_not_isTaken taken).eq_of_run ran with ⟨answer, files⟩
      cases answer
      exact files
  | true =>
      cases directory : session.files.isDirectory record.treePath with
      | false => cases ((ends_fill_of_not_isDirectory taken directory).eq_of_run ran).1
      | true =>
          rcases (ends_fill_of_isDirectory directory).eq_of_run ran with ⟨answer, files⟩
          cases answer
          rw [files, reported, filled_eq]

section Found

variable {target : Path} {extensions : List String}
  (fresh : ∀ stub ∈ created, store.isTaken stub = false)

include fresh in
/-- A directory with something in it stays no file. -/
theorem isFile_writes_of_isTaken (taken : store.isTaken target = true)
    (notFile : store.isFile target = false) :
    (store.writes (stubbed created)).isFile target = false := by
  rw [Bool.eq_false_iff]
  intro known
  rcases Store.isFile_writes.1 known with old | ⟨output, member, same⟩
  · simp [notFile] at old
  · rcases List.mem_map.1 member with ⟨stub, stubMem, rfl⟩
    have free := fresh stub stubMem
    rw [Store.isTaken_congr (Path.same_iff.1 same), taken] at free
    cases free

theorem answers_writes_of_answers (answered : answers store target path = true) :
    answers (store.writes (stubbed created)) target path = true := by
  rw [answers] at answered ⊢
  split at answered
  next same =>
    rw [if_pos same]
    exact Store.isFile_writes.2 (Or.inl answered)
  next other =>
    rw [if_neg other]
    exact Store.isTaken_writes_of_isTaken answered _

include fresh in
/-- A reference keeps its answer exactly if no placeholder comes to a place that is looked at
before, or below it. -/
theorem resolveTarget_writes_eq_found_iff (usable : ∀ extension ∈ extensions, extension ≠ "")
    (found : Reference.resolveTarget store extensions target = .found path) :
    Reference.resolveTarget (store.writes (stubbed created)) extensions target = .found path ↔
      ∀ place ∈ ahead extensions target path, ∀ stub ∈ created, stub.isWithin place = false := by
  rcases (Reference.resolveTarget_eq_found_iff usable).1 found with ⟨probed, answered, before⟩
  rw [Reference.resolveTarget_eq_found_iff usable]
  have still : answers (store.writes (stubbed created)) target path = true :=
    answers_writes_of_answers answered
  have each : ∀ place ∈ (probes extensions target).takeWhile (· ≠ path),
      (answers (store.writes (stubbed created)) target place = false ↔
        (place ≠ target → ∀ stub ∈ created, stub.isWithin place = false)) := by
    intro place member
    have unanswered := before place member
    rw [answers] at unanswered ⊢
    by_cases same : place = target
    · subst same
      rw [if_pos rfl] at unanswered ⊢
      -- The answer is an index module, so that there is a directory at the target.
      have index := Reference.mem_indices_of_mem_takeWhile probed member
        (Reference.target_not_mem_modules usable)
      have above : store.isTaken place = true :=
        Store.isTaken_of_isWithin (Reference.isTaken_of_answers answered index)
          (Reference.isWithin_of_mem_indices index)
      have notFile : FileSystem.isFile (store.writes (stubbed created)) place = false :=
        isFile_writes_of_isTaken fresh above unanswered
      simp [notFile]
    · rw [if_neg same] at unanswered ⊢
      change (store.writes (stubbed created)).isTaken place = false ↔ _
      rw [isTaken_writes_stubbed, show store.isTaken place = false from unanswered]
      simp [same]
  constructor
  · rintro ⟨_, _, kept⟩ place member
    rcases Reference.mem_ahead_iff.1 member with ⟨earlier, other⟩
    exact (each place earlier).1 (kept place earlier) other
  · intro kept
    refine ⟨probed, still, ?_⟩
    intro place earlier
    exact (each place earlier).2 fun other =>
      kept place (Reference.mem_ahead_iff.2 ⟨earlier, other⟩)

end Found

section Endings

variable {otherSource stub : Path} {otherSpecifier : String}
  (endings : record.HasDistinctEndings) (valid : record.defect? = none)
  (missing : Reference.resolve store record.extensions otherSource otherSpecifier = .missing stub)

include endings valid missing

/-- A placeholder for a module of an answered target would be for that target. -/
theorem components_ne_of_mem_modules
    (found : Reference.resolve store record.extensions source specifier = .found path)
    (member : place ∈ Reference.modules record.extensions (Reference.target source specifier)) :
    stub.components ≠ place.components := by
  intro same
  rcases Reference.exists_extension_of_resolve_eq_missing missing with ⟨first, head, rfl⟩
  rcases List.mem_map.1 member with ⟨extension, extensionMem, rfl⟩
  rcases Reference.exists_varies_target otherSource otherSpecifier with
    ⟨stubFront, stubWord, stubTarget, stubVaries⟩
  rcases Reference.exists_varies_target source specifier with ⟨front, word, target, varies⟩
  rcases endings.eq_of_same valid head extensionMem stubVaries varies same with ⟨rfl, rfl⟩
  rw [Reference.resolve, stubTarget, ← target] at missing
  cases found.symm.trans missing

/-- A placeholder for one index module would be for a reference that another one answers. -/
theorem components_ne_of_mem_indices {target : Path}
    (member : place ∈ Reference.indices record.extensions target)
    (answer : path ∈ Reference.indices record.extensions target)
    (taken : store.isTaken path = true) : stub.components ≠ place.components := by
  intro same
  have free := (Reference.resolveTarget_eq_missing_iff.1 missing).1
  rcases Reference.exists_extension_of_resolve_eq_missing missing with ⟨first, head, rfl⟩
  rcases List.mem_map.1 member with ⟨extension, extensionMem, rfl⟩
  rcases List.mem_map.1 answer with ⟨other, otherMem, rfl⟩
  rcases Reference.exists_varies_target otherSource otherSpecifier with
    ⟨stubFront, stubWord, _, stubVaries⟩
  have varies := Reference.varies_index target
  have shared := endings.eq_of_same valid head extensionMem stubVaries varies same
  rw [shared.1, shared.2] at stubVaries
  have modules := stubVaries.congr varies (endings.slashless other otherMem)
    (Record.two_le_length_of_mem_extensions valid otherMem)
  have moduleFree : store.isTaken
      ((Reference.target otherSource otherSpecifier).withSuffix other) = false :=
    free _ (List.mem_map_of_mem otherMem)
  rw [Store.isTaken_congr modules, taken] at moduleFree
  cases moduleFree

/-- A placeholder does not come to a place that is looked at before an answer: the reference that
asks for it would have been answered itself. -/
theorem same_eq_false_of_mem_ahead
    (found : Reference.resolve store record.extensions source specifier = .found path)
    (member : place ∈ ahead record.extensions (Reference.target source specifier) path) :
    stub.same place = false := by
  rw [Bool.eq_false_iff]
  intro same
  rw [Path.same_iff] at same
  rcases Reference.mem_ahead_iff.1 member with ⟨earlier, notTarget⟩
  by_cases isModule : place ∈ Reference.modules record.extensions
      (Reference.target source specifier)
  · exact components_ne_of_mem_modules endings valid missing found isModule same
  · rcases (Reference.resolveTarget_eq_found_iff (Record.ne_empty_of_mem_extensions valid)).1
      found with ⟨probed, answered, _⟩
    have answer := Reference.mem_indices_of_mem_takeWhile probed earlier isModule
    have isIndex : place ∈ Reference.indices record.extensions
        (Reference.target source specifier) := by
      rcases List.mem_append.1 (List.takeWhile_subset _ earlier) with inModules | rest
      · exact absurd inModules isModule
      · exact (List.mem_cons.1 rest).resolve_left notTarget
    exact components_ne_of_mem_indices endings valid missing isIndex answer
      (Reference.isTaken_of_answers answered answer) same

end Endings

/-- Behind an answering pass every reference that was answered is still answered. It has the same
answer exactly if no placeholder was written at or below a module file or an index module that is
looked at before it. If the endings of the extensions are distinct, no placeholder was written at one
of these, and the answer is the same exactly if none of them has become a directory. -/
theorem found_fill_iff (valid : record.defect? = none)
    (ran : fill record session = (.ok report, after))
    (found : Reference.resolve session.files record.extensions source specifier = .found path) :
    (∃ now, Reference.resolve after.files record.extensions source specifier = .found now) ∧
    (Reference.resolve after.files record.extensions source specifier = .found path ↔
      ∀ place ∈ ahead record.extensions (Reference.target source specifier) path,
        ∀ stub ∈ report.created, stub.isWithin place = false) ∧
    (record.HasDistinctEndings →
      (∀ place ∈ ahead record.extensions (Reference.target source specifier) path,
        ∀ stub ∈ report.created, stub.same place = false) ∧
      (Reference.resolve after.files record.extensions source specifier = .found path ↔
        ∀ place ∈ ahead record.extensions (Reference.target source specifier) path,
          ∀ stub ∈ report.created, place.isAbove stub = false)) := by
  have usable := Record.ne_empty_of_mem_extensions valid
  have places : ∀ stub ∈ report.created, IsPlace session.files record stub :=
    fun _ => isPlace_of_mem_created ran
  have fresh : ∀ stub ∈ report.created, session.files.isTaken stub = false := by
    intro stub member
    rcases (places stub member).missing with ⟨_, _, missing⟩
    exact Reference.isTaken_eq_false_of_resolve_eq_missing missing
  have kept := resolveTarget_writes_eq_found_iff fresh usable found
  rw [← files_of_fill ran] at kept
  refine ⟨?_, kept, ?_⟩
  · rcases (Reference.resolveTarget_eq_found_iff usable).1 found with ⟨probed, answered, _⟩
    apply Reference.exists_found_of_answers usable probed
    rw [files_of_fill ran]
    exact answers_writes_of_answers answered
  · intro endings
    have apart : ∀ place ∈ ahead record.extensions (Reference.target source specifier) path,
        ∀ stub ∈ report.created, stub.same place = false := by
      intro place placeMem stub stubMem
      rcases (places stub stubMem).missing with ⟨_, _, missing⟩
      exact same_eq_false_of_mem_ahead endings valid missing found placeMem
    have only : ∀ place ∈ ahead record.extensions (Reference.target source specifier) path,
        ∀ stub ∈ report.created, place.isAbove stub = stub.isWithin place := by
      intro place placeMem stub stubMem
      simp [Path.isAbove, apart place placeMem stub stubMem]
    refine ⟨apart, ?_⟩
    rw [Reference.resolve, kept]
    constructor
    · intro free place placeMem stub stubMem
      rw [only place placeMem stub stubMem]
      exact free place placeMem stub stubMem
    · intro free place placeMem stub stubMem
      rw [← only place placeMem stub stubMem]
      exact free place placeMem stub stubMem

/-- A tree with references to a directory, to a module of the second extension, and to something
below a name with the first one. -/
def coveredRecord : Record :=
  { openRecord with extensions := [".js", ".ts"] }

@[inherit_doc coveredRecord]
def coveredStore : Store :=
  ((Store.empty.place ⟨"out/src/a/index.js"⟩ "".toUTF8).place
    ⟨"out/src/m.js"⟩ "import './a';import './t';import './a.js/b'".toUTF8).place
    ⟨"out/src/t.ts"⟩ "".toUTF8

theorem created_coveredStore :
    (reported coveredStore coveredRecord).created = [⟨"out/src/a.js/b.js"⟩] := by
  decide +kernel

theorem hasDistinctEndings_coveredRecord : coveredRecord.HasDistinctEndings := by
  refine ⟨by decide, ?_⟩
  rintro first ⟨⟩
  decide

/-- The module of the second extension stays the answer, since nothing comes to the first. -/
theorem found_fill_iff_coveredStore :
    coveredRecord.defect? = none ∧ coveredRecord.HasDistinctEndings ∧
      ⟨"out/src/t.js"⟩ ∈ ahead coveredRecord.extensions
        (Reference.target ⟨"out/src/m.js"⟩ "./t") ⟨"out/src/t.ts"⟩ ∧
      ∃ report after, fill coveredRecord ⟨coveredStore, #[]⟩ = (.ok report, after) ∧
        report.created = [⟨"out/src/a.js/b.js"⟩] ∧
        Reference.resolve coveredStore coveredRecord.extensions ⟨"out/src/m.js"⟩ "./t" =
          .found ⟨"out/src/t.ts"⟩ ∧
        (∀ stub ∈ report.created, stub.same ⟨"out/src/t.js"⟩ = false) ∧
        Reference.resolve after.files coveredRecord.extensions ⟨"out/src/m.js"⟩ "./t" =
          .found ⟨"out/src/t.ts"⟩ := by
  have valid : coveredRecord.defect? = none := by decide
  have directory : coveredStore.isDirectory coveredRecord.treePath = true := by decide
  have found : Reference.resolve coveredStore coveredRecord.extensions ⟨"out/src/m.js"⟩ "./t" =
      .found ⟨"out/src/t.ts"⟩ := by
    decide +kernel
  have first : ⟨"out/src/t.js"⟩ ∈ ahead coveredRecord.extensions
      (Reference.target ⟨"out/src/m.js"⟩ "./t") ⟨"out/src/t.ts"⟩ := by
    decide +kernel
  have free : ∀ place ∈ ahead coveredRecord.extensions
      (Reference.target ⟨"out/src/m.js"⟩ "./t") ⟨"out/src/t.ts"⟩,
      ∀ stub ∈ (reported coveredStore coveredRecord).created, place.isAbove stub = false := by
    rw [created_coveredStore]
    decide +kernel
  rcases ends_fill_of_isDirectory directory #[] with ⟨told, ran⟩
  rcases (found_fill_iff valid ran found).2.2 hasDistinctEndings_coveredRecord with ⟨apart, kept⟩
  exact ⟨valid, hasDistinctEndings_coveredRecord, first, _, _, ran, created_coveredStore, found,
    apart _ first, kept.2 free⟩

/-- The directory loses its reference to the one that the placeholder has made. -/
theorem not_found_fill_coveredStore :
    coveredRecord.defect? = none ∧
      ⟨"out/src/m.js"⟩ ∈ sources coveredStore coveredRecord ∧
      "./a" ∈ Reference.extract (coveredStore.scannedText ⟨"out/src/m.js"⟩) ∧
      Reference.resolve coveredStore coveredRecord.extensions ⟨"out/src/m.js"⟩ "./a" =
        .found ⟨"out/src/a/index.js"⟩ ∧
      ∃ report after, fill coveredRecord ⟨coveredStore, #[]⟩ = (.ok report, after) ∧
        Reference.resolve after.files coveredRecord.extensions ⟨"out/src/m.js"⟩ "./a" =
          .found ⟨"out/src/a.js"⟩ := by
  have directory : coveredStore.isDirectory coveredRecord.treePath = true := by decide
  rcases ends_fill_of_isDirectory directory #[] with ⟨told, ran⟩
  refine ⟨by decide, by decide +kernel, by decide +kernel, by decide +kernel, _, _, ran, ?_⟩
  rw [files_of_fill ran, created_coveredStore]
  decide +kernel

end Placeholders

end SourceTree
