import SourceTree.Files.Basic
import SourceTree.Path.Normal

/-!
# Resolving references

A reference is resolved against the directory of the file that holds it. It may leave out the
extension of the file that it means, or name a directory with an index module, so several places
are looked at in turn. When nothing is there, the first place says where a placeholder belongs.
-/

namespace SourceTree.Reference

/-- What a reference leads to. -/
inductive Resolution where
  /-- Something at this path answers the reference. -/
  | found (path : Path)
  /-- Nothing answers it; a placeholder would have to be here. -/
  | missing (candidate : Path)
  /-- Nothing answers it, and without extensions there is no place for a placeholder. -/
  | unresolvable
  deriving DecidableEq, Repr

/-- The place that a reference in `source` names, before any extension is added. -/
def target (source : Path) (specifier : String) : Path :=
  ((source.parent?.getD ⟨""⟩).join ⟨specifier⟩).normalize

/-- The module files that a target may leave the extension out of. -/
def modules (extensions : List String) (target : Path) : List Path :=
  extensions.map target.withSuffix

/-- The index modules of a target that is a directory. -/
def indices (extensions : List String) (target : Path) : List Path :=
  extensions.map fun extension => target.join ⟨"index" ++ extension⟩

variable {σ : Type} [FileSystem σ]

/-- What a target leads to. A directory by itself answers nothing. -/
def resolveTarget (files : σ) (extensions : List String) (target : Path) : Resolution :=
  match (modules extensions target).find? (FileSystem.isTaken files) with
  | some path => .found path
  | none =>
      if FileSystem.isFile files target then .found target
      else
        match (indices extensions target).find? (FileSystem.isTaken files) with
        | some path => .found path
        | none =>
            match modules extensions target with
            | candidate :: _ => .missing candidate
            | [] => .unresolvable

/-- What a reference in `source` leads to. -/
def resolve (files : σ) (extensions : List String) (source : Path) (specifier : String) :
    Resolution :=
  resolveTarget files extensions (target source specifier)

end SourceTree.Reference
