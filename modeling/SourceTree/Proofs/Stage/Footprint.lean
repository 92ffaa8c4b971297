import SourceTree.Command.Execute
import SourceTree.Proofs.Placeholders.Footprint
import SourceTree.Proofs.SourceName.Containment

/-!
# The footprint of a record

The stages on a record read below its input directory, its maps directory and its tree, and write
below the last two. Whatever names bundles and documents contain, what is written for them is joined
onto one of the two directories and stays within it by components.

Two records are apart if neither writes where the other reads. Their stages can then be run in
either order.
-/

namespace SourceTree

namespace Bundle

theorem isWithin_localPath (maps : Path) (name : String) :
    (localPath maps name).isWithin maps = true := by
  have joined : ∀ (segments : List (List Char)) (base : Path),
      (∀ segment ∈ segments, '/' ∉ segment) →
        (segments.foldl (fun path segment => path.join ⟨String.ofList segment⟩) base).isWithin
          base = true := by
    intro segments
    induction segments with
    | nil =>
        intro base _
        simp [Path.isWithin]
    | cons segment segments ih =>
        intro base slashless
        have relative := Path.isAbsolute_of_slash_not_mem (slashless segment (by simp))
        have rest := ih (base.join ⟨String.ofList segment⟩) fun other member =>
          slashless other (List.mem_cons_of_mem _ member)
        exact Path.isWithin_trans rest (Path.isWithin_join relative)
  apply joined
  intro segment member
  exact Text.not_mem_of_mem_split (List.mem_filter.1 member).1

end Bundle

namespace Record

/-- The directories that the stages on a record read in. -/
def readRoots (record : Record) : List Path :=
  [record.inputDir, record.mapsPath, record.treePath]

/-- The directories that the stages on a record write in. -/
def writeRoots (record : Record) : List Path :=
  [record.mapsPath, record.treePath]

/-- No directory that one of two records writes in is nested with a directory of the other. -/
def IsApart (record other : Record) : Prop :=
  (∀ root ∈ record.writeRoots, ∀ path ∈ other.readRoots, root.isNested path = false) ∧
    ∀ root ∈ other.writeRoots, ∀ path ∈ record.readRoots, root.isNested path = false

instance (record other : Record) : Decidable (record.IsApart other) :=
  inferInstanceAs (Decidable (_ ∧ _))

end Record

/-- The stage reads and writes in the directories of a record only. -/
abbrev Stage.IsLocalTo {α : Type} (record : Record) (stage : Stage Store α) : Prop :=
  IsLocal record.readRoots record.writeRoots stage

open Stage (IsLocal IsLocalTo)

variable {record : Record} {path : Path}

theorem Record.isIn_readRoots (written : path.isIn record.writeRoots = true) :
    path.isIn record.readRoots = true := by
  rcases Path.isIn_iff.1 written with ⟨root, member, within⟩
  exact Path.isIn_of_mem (List.mem_cons_of_mem _ member) within

/-- Stages on records that are apart can be run in either order. -/
theorem Record.IsApart.effect_comm {other : Record} {α β : Type} {first : Stage Store α}
    {second : Stage Store β} (apart : record.IsApart other)
    (firstLocal : IsLocalTo record first) (secondLocal : IsLocalTo other second) (store : Store) :
    (first.effect store).bind second.effect = (second.effect store).bind first.effect :=
  firstLocal.effect_comm secondLocal apart.1 apart.2
    (fun _ written => List.mem_cons_of_mem _ written) store

namespace Acquire

theorem isLocal_download (remote : Remote) (address : String) (report : Report)
    (written : path.isIn record.writeRoots = true) :
    IsLocalTo record (download remote address path report) := by
  apply IsLocal.after_tell
  cases remote address with
  | ok text =>
      apply (IsLocal.write (Record.isIn_readRoots written) written text).andThen
      intro _
      exact IsLocal.after_tell (IsLocal.pure _)
  | error reason =>
      exact IsLocal.after_tell (IsLocal.pure _)

theorem isLocal_provide (remote : Remote) (dryRun : Bool) (name : String) (report : Report) :
    IsLocalTo record (provide remote record dryRun name report) := by
  have written : (Bundle.localPath record.mapsPath name).isIn record.writeRoots = true :=
    Path.isIn_of_mem (by simp [Record.writeRoots]) (Bundle.isWithin_localPath _ _)
  apply IsLocal.files
  · intro store other agree
    have taken : FileSystem.isTaken other (Bundle.localPath record.mapsPath name) =
        FileSystem.isTaken store (Bundle.localPath record.mapsPath name) :=
      Store.isTaken_of_agree agree (Record.isIn_readRoots written)
    rw [taken]
  · intro store
    split
    · exact IsLocal.pure _
    · cases dryRun with
      | true =>
          exact IsLocal.after_tell (IsLocal.pure _)
      | false => exact isLocal_download remote _ report written

theorem isLocal_inspect (remote : Remote) (dryRun : Bool) (report : Report)
    (within : path.isWithin record.inputDir = true) :
    IsLocalTo record (inspect remote record dryRun report path) := by
  have readable : path.isIn record.readRoots = true :=
    Path.isIn_of_mem (by simp [Record.readRoots]) within
  apply (IsLocal.readLossy readable).andThen
  intro text
  cases Bundle.mapName? text with
  | none =>
      exact IsLocal.after_tell (IsLocal.pure _)
  | some name => exact isLocal_provide remote dryRun name _

theorem isLocal_acquire (remote : Remote) (record : Record) (dryRun : Bool) :
    IsLocalTo record (acquire remote record dryRun) := by
  have readable : record.inputDir.isIn record.readRoots = true :=
    Path.isIn_self (by simp [Record.readRoots])
  apply (IsLocal.list readable).bind
  intro store paths after listed
  apply IsLocal.andThen
  · apply IsLocal.foldlM
    intro report bundle member
    apply isLocal_inspect
    exact Stage.isWithin_of_ends_list listed (List.mem_filter.1 member).1
  · intro report
    exact IsLocal.after_tell (IsLocal.pure _)

end Acquire

namespace Rebuild

theorem isLocal_writeEntry (document : Path) (report : Report) (entry : String × String) :
    IsLocalTo record (writeEntry record document report entry) := by
  rcases entry with ⟨source, content⟩
  have written : (record.treePath.join ⟨SourceName.clean source record.bundleName⟩).isIn
      record.writeRoots = true :=
    Path.isIn_of_mem (by simp [Record.writeRoots])
      (Path.isWithin_join (SourceName.isAbsolute_clean _ _))
  rw [writeEntry]
  dsimp only
  split
  · exact IsLocal.after_tell (IsLocal.pure _)
  · apply (IsLocal.write (Record.isIn_readRoots written) written content).andThen
    intro _
    exact IsLocal.after_tell (IsLocal.pure _)

theorem isLocal_writeDocument (report : Report) (within : path.isWithin record.mapsPath = true) :
    IsLocalTo record (writeDocument record report path) := by
  have readable : path.isIn record.readRoots = true :=
    Path.isIn_of_mem (by simp [Record.readRoots]) within
  apply IsLocal.files
  · intro store other agree
    have loaded : MapDocument.load other path = MapDocument.load store path := by
      rw [MapDocument.load, MapDocument.load, Store.readText_of_agree agree readable]
    rw [loaded]
  · intro store
    cases MapDocument.load store path with
    | error error =>
        exact IsLocal.after_tell (IsLocal.pure _)
    | ok document =>
        apply IsLocal.andThen
        · apply IsLocal.foldlM
          intro report entry _
          exact isLocal_writeEntry path report entry
        · intro report
          exact IsLocal.pure _

theorem isLocal_rebuild (record : Record) :
    IsLocalTo record (rebuild record) := by
  have readable : record.mapsPath.isIn record.readRoots = true :=
    Path.isIn_self (by simp [Record.readRoots])
  apply (IsLocal.list readable).bind
  intro store paths after listed
  apply IsLocal.andThen
  · apply IsLocal.foldlM
    intro report document member
    apply isLocal_writeDocument
    exact Stage.isWithin_of_ends_list listed (List.mem_filter.1 member).1
  · intro report
    exact IsLocal.after_tell (IsLocal.pure _)

end Rebuild

end SourceTree
