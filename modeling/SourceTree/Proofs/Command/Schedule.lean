import Mathlib.Data.List.Perm.Basic
import SourceTree.Proofs.Command.Effect

/-!
# Schedules of independent records

Records that are apart do not see each other's work. So a run may take them in any order, and it may
as well take the stages one by one and work through all records in each: every two stages of
different records can change places, and a failure of one stage is a failure of the schedule
wherever it stands.
-/

namespace SourceTree.Command

open Stage (IsLocalTo)

variable {recordOf : Path → Record} {store : Store} {paths : List Path} {remote : Remote}
  {selection : Selection}

section Pass

variable {first second effect : Path → Store → Option Store}

/-- Effects that can all change places make the same pass in any order. -/
theorem pass_perm {others : List Path} (perm : paths.Perm others)
    (commute : ∀ path ∈ paths, ∀ other ∈ paths, ∀ store,
      (effect path store).bind (effect other) = (effect other store).bind (effect path))
    (outcome : Option Store) : pass effect paths outcome = pass effect others outcome := by
  apply perm.foldl_eq'
  intro path member other otherMem current
  rw [Option.bind_assoc, Option.bind_assoc]
  congr 1
  funext store
  exact commute path member other otherMem store

end Pass

theorem Loaded.isLocal_stubbing (loaded : Loaded store paths recordOf) {path : Path}
    (member : path ∈ paths) : IsLocalTo (recordOf path) (stubbing (recordOf path)) :=
  Command.isLocal_stubbing (loaded.plain path member) (loaded.valid member)

theorem Loaded.isLocal_allStages (loaded : Loaded store paths recordOf) (remote : Remote)
    (skipDownload : Bool) {path : Path} (member : path ∈ paths) :
    IsLocalTo (recordOf path) (allStages remote skipDownload (recordOf path)) :=
  Command.isLocal_allStages remote skipDownload (loaded.plain path member) (loaded.valid member)

theorem leaves_run (remote : Remote) (selection : Selection) (skipDownload : Bool)
    (named : selection.named ≠ []) (loaded : Loaded store selection.files recordOf) :
    Leaves (execute remote (.run selection skipDownload)) store
      (pass (fun path => (allStages remote skipDownload (recordOf path)).effect) selection.files
        (some store)) := by
  apply Leaves.before_tell
  apply Leaves.forEachRecord named
  apply leaves_forM loaded
  intro path member
  exact loaded.isLocal_allStages remote skipDownload member

/-- In which order a run takes named records does not matter if different ones are apart: if it
succeeds, it succeeds in any other order, and leaves the same files. -/
theorem run_perm {skipDownload : Bool} {others : List Path} {session after : Session Store}
    (loaded : Loaded session.files selection.files recordOf)
    (apart : ∀ path ∈ selection.files, ∀ other ∈ selection.files,
      recordOf path ≠ recordOf other → (recordOf path).IsApart (recordOf other))
    (perm : selection.named.Perm others)
    (ran : execute remote (.run selection skipDownload) session = (.ok (), after)) :
    ∃ later,
      execute remote (.run { selection with named := others } skipDownload) session =
        (.ok (), later) ∧ later.files = after.files := by
  by_cases named : selection.named = []
  · -- Without names there is no other order.
    rw [named, List.nil_perm] at perm
    subst perm
    rw [← named]
    exact ⟨after, ran, rfl⟩
  have filesPerm : selection.files.Perm { selection with named := others }.files :=
    perm.map selection.directory.join
  have otherNamed : others ≠ [] := by
    rintro rfl
    exact named perm.eq_nil
  have otherLoaded : Loaded session.files { selection with named := others }.files recordOf :=
    loaded.of_subset filesPerm.symm.subset
  have sameEffect : pass (fun path => (allStages remote skipDownload (recordOf path)).effect)
      selection.files (some session.files) =
        pass (fun path => (allStages remote skipDownload (recordOf path)).effect)
          { selection with named := others }.files (some session.files) := by
    apply pass_perm filesPerm
    intro path member other otherMem store
    by_cases same : recordOf path = recordOf other
    · rw [same]
    · apply (apart path member other otherMem same).effect_comm
      · exact loaded.isLocal_allStages remote skipDownload member
      · exact loaded.isLocal_allStages remote skipDownload otherMem
  apply ((leaves_run remote _ skipDownload otherNamed otherLoaded).exists_run_iff session.events).2
  rw [← sameEffect]
  exact ((leaves_run remote selection skipDownload named loaded).exists_run_iff session.events).1
    ⟨after, ran, rfl⟩

/-- A site that has everything in one directory. -/
def siteRecord (site : String) : Record :=
  { inputDir := ⟨site ++ "/in"⟩, baseUrl := "", baseOutputDir := ⟨site⟩, mapsDir := ⟨"maps"⟩,
    decompiledDir := ⟨"src"⟩, extensions := [".js"], bundle := none }

@[inherit_doc siteRecord]
def siteText (site : String) : String :=
  "\x7b\"inputDir\":\"" ++ site ++ "/in\",\"baseUrl\":\"\",\"baseOutputDir\":\"" ++ site ++
    "\",\"mapsDir\":\"maps\",\"decompiledDir\":\"src\",\"exts\":[\".js\"]\x7d"

/-- Two sites with a bundle each. -/
def sitesStore : Store :=
  (((Store.empty.place ⟨"r/a.json"⟩ (siteText "a").toUTF8).place
    ⟨"r/b.json"⟩ (siteText "b").toUTF8).place
    ⟨"a/in/m.js"⟩ "//# sourceMappingURL=m.map".toUTF8).place
    ⟨"b/in/m.js"⟩ "//# sourceMappingURL=m.map".toUTF8

@[inherit_doc sitesStore]
def sites : Selection :=
  { named := [⟨"a.json"⟩, ⟨"b.json"⟩], directory := ⟨"r"⟩ }

@[inherit_doc sitesStore]
def sitesRecord (path : Path) : Record :=
  if path = ⟨"r/a.json"⟩ then siteRecord "a" else siteRecord "b"

/-- Every document has one source, which refers to a module of the second site. The first site sees
it missing or not, depending on the order. -/
def sitesRemote : Remote := fun _ =>
  .ok "\x7b\"sources\":[\"x.js\"],\"sourcesContent\":[\"import '../../b/src/y'\"]\x7d"

theorem loaded_sitesStore : Loaded sitesStore sites.files sitesRecord where
  load := by decide +kernel
  unwritten := by decide +kernel
  plain := by
    have files : sites.files = [⟨"r/a.json"⟩, ⟨"r/b.json"⟩] := by decide
    rw [files, List.forall_mem_cons, List.forall_mem_singleton]
    exact ⟨⟨⟨["a", "src"], Or.inl (by decide)⟩, by decide⟩, ⟨["b", "src"], Or.inl (by decide)⟩,
      by decide⟩

/-- Both sites are rebuilt, and the second one gets a placeholder too. -/
theorem exists_run_sitesStore :
    ∃ after, execute sitesRemote (.run sites false) ⟨sitesStore, #[]⟩ = (.ok (), after) ∧
      after.files.isFile ⟨"a/src/x.js"⟩ = true ∧ after.files.isFile ⟨"b/src/y.js"⟩ = true := by
  have succeeds : (pass (fun path => (allStages sitesRemote false (sitesRecord path)).effect)
      sites.files (some sitesStore)).any
        (fun files => files.isFile ⟨"a/src/x.js"⟩ && files.isFile ⟨"b/src/y.js"⟩) = true := by
    decide +kernel
  rcases (Option.any_eq_true _ _).1 succeeds with ⟨files, left, written⟩
  have named : sites.named ≠ [] := by decide
  have leaves := leaves_run sitesRemote sites false named loaded_sitesStore
  rcases (leaves.exists_run_iff #[]).2 left with ⟨after, ran, rfl⟩
  exact ⟨after, ran, Bool.and_eq_true_iff.1 written⟩

/-- The second site may come first. -/
theorem run_perm_sitesStore :
    ∃ after later, execute sitesRemote (.run sites false) ⟨sitesStore, #[]⟩ = (.ok (), after) ∧
      after.files.isFile ⟨"a/src/x.js"⟩ = true ∧ after.files.isFile ⟨"b/src/y.js"⟩ = true ∧
      execute sitesRemote (.run ⟨[⟨"b.json"⟩, ⟨"a.json"⟩], ⟨"r"⟩⟩ false) ⟨sitesStore, #[]⟩ =
        (.ok (), later) ∧ later.files = after.files := by
  rcases exists_run_sitesStore with ⟨after, ran, rebuilt, stubbed⟩
  have apart : ∀ path ∈ sites.files, ∀ other ∈ sites.files, sitesRecord path ≠ sitesRecord other →
      (sitesRecord path).IsApart (sitesRecord other) := by
    decide +kernel
  have perm : sites.named.Perm [⟨"b.json"⟩, ⟨"a.json"⟩] := by decide
  rcases run_perm loaded_sitesStore apart perm ran with ⟨later, laterRan, same⟩
  exact ⟨after, later, ran, rebuilt, stubbed, laterRan, same⟩

end SourceTree.Command
