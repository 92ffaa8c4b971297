import SourceTree.Record.Basic

/-!
# Records being read

The fields of a record can stand in any order in a file, so they are collected in a draft first.
Both file formats fill the same draft.
-/

namespace SourceTree.Record

/-- The fields of a record found so far. -/
structure Draft where
  inputDir : Option Path := none
  baseUrl : Option String := none
  baseOutputDir : Option Path := none
  mapsDir : Option Path := none
  decompiledDir : Option Path := none
  extensions : Option (List String) := none
  bundle : Option (Option String) := none
  deriving DecidableEq, Repr

/-- The value of the field called `name`, which every record has. -/
def require (name : String) : Option α → Except String α
  | some value => .ok value
  | none => .error name

/-- The record that a draft stands for, or the name of the first field that it lacks. -/
def Draft.finish (draft : Draft) : Except String Record := do
  let inputDir ← require "inputDir" draft.inputDir
  let baseUrl ← require "baseUrl" draft.baseUrl
  let baseOutputDir ← require "baseOutputDir" draft.baseOutputDir
  let mapsDir ← require "mapsDir" draft.mapsDir
  let decompiledDir ← require "decompiledDir" draft.decompiledDir
  let extensions ← require "exts" draft.extensions
  return {
    inputDir, baseUrl, baseOutputDir, mapsDir, decompiledDir, extensions
    bundle := draft.bundle.bind id }

end SourceTree.Record
