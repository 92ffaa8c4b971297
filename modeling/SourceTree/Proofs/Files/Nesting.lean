import SourceTree.Proofs.Files.History

/-!
# Files above files

A write is refused where a directory is, so a path that has become a directory never becomes a file.
Nothing is asked about the paths above: a write below a file succeeds, and from then on the path of
that file is both a file and a directory. No other write brings this about.
-/

namespace SourceTree.Store

variable {store : Store} {path query : Path} {outputs : List (Path × String)}

/-- The empty store with some files written one after the other, as far as that is not refused. -/
def afterWrites (outputs : List (Path × String)) : Store :=
  Store.after (outputs.map fun output => .write output.1 output.2)

theorem afterWrites_concat (outputs : List (Path × String)) (output : Path × String) :
    afterWrites (outputs ++ [output]) = ((afterWrites outputs).write output.1 output.2).2 := by
  rw [afterWrites, List.map_append, List.map_singleton, after_concat]
  rfl

theorem directories_afterWrites (outputs : List (Path × String)) :
    (afterWrites outputs).directories = [] := by
  induction outputs using List.reverseRecOn with
  | nil => rfl
  | append_singleton outputs output ih =>
      rw [afterWrites_concat, write]
      split <;> exact ih

theorem isFlat_iff :
    store.IsFlat ↔ ∀ upper lower, store.isFile upper = true → store.isFile lower = true →
      upper.isAbove lower = false := by
  constructor
  · intro flat upper lower upperFile lowerFile
    rcases isFile_iff_exists_mem.1 upperFile with ⟨file, fileMem, fileKey⟩
    rcases isFile_iff_exists_mem.1 lowerFile with ⟨other, otherMem, otherKey⟩
    simpa [Path.isAbove, Path.isWithin, Path.same, fileKey, otherKey] using
      flat file fileMem other otherMem
  · intro flat file fileMem other otherMem
    apply flat
    · exact isFile_iff_exists_mem.2 ⟨file, fileMem, rfl⟩
    · exact isFile_iff_exists_mem.2 ⟨other, otherMem, rfl⟩

theorem isFlat_write_iff (uncreated : store.directories = []) (path : Path) (text : String) :
    (store.write path text).2.IsFlat ↔
      store.IsFlat ∧ ∀ upper, store.isFile upper = true → upper.isAbove path = false := by
  cases directory : store.isDirectory path with
  | true =>
      -- The write is refused. Since a file lies below the path, a file above it is not flat.
      rw [write_of_isDirectory directory, iff_self_and]
      intro flat upper upperFile
      rw [isDirectory_iff, uncreated] at directory
      rcases directory with ⟨_, none, _⟩ | ⟨entry, member, below, differs⟩
      · cases none
      · have apart := isFlat_iff.1 flat upper entry.1 upperFile
          (isFile_iff_exists_mem.2 ⟨entry, member, rfl⟩)
        rw [Bool.eq_false_iff, ne_eq, Path.isAbove_iff] at apart ⊢
        rintro ⟨above, _⟩
        apply apart
        refine ⟨above.trans below, ?_⟩
        intro same
        exact differs (below.eq_of_length_le (same ▸ above.length_le)).symm
  | false =>
      rw [write_of_not_isDirectory directory, isFlat_iff, isFlat_iff]
      simp only [isFile_place]
      constructor
      · intro flat
        constructor
        · intro upper lower upperFile lowerFile
          exact flat upper lower (Or.inr upperFile) (Or.inr lowerFile)
        · intro upper upperFile
          exact flat upper path (Or.inr upperFile) (Or.inl (by simp [Path.same]))
      · rintro ⟨flat, clear⟩ upper lower upperFile lowerFile
        rcases lowerFile with lowerNew | lowerOld
        · rcases upperFile with upperNew | upperOld
          · rw [Path.same_iff] at upperNew lowerNew
            simp [Path.isAbove, Path.same, ← upperNew, ← lowerNew]
          · have free := clear upper upperOld
            rw [Path.same_iff] at lowerNew
            simpa [Path.isAbove, Path.isWithin, Path.same, lowerNew] using free
        · rcases upperFile with upperNew | upperOld
          · rcases isFile_iff_exists_mem.1 lowerOld with ⟨entry, member, key⟩
            rw [Bool.eq_false_iff, ne_eq, Path.isAbove_iff, ← Path.same_iff.1 upperNew, ← key]
            rintro ⟨above, differs⟩
            have below : store.isDirectory path = true :=
              isDirectory_iff.2 (Or.inr ⟨entry, member, above, differs⟩)
            simp [directory] at below
          · exact flat upper lower upperOld lowerOld

theorem isFile_eq_false_of_isDirectory_write (directory : store.isDirectory query = true)
    (none : store.isFile query = false) (path : Path) (text : String) :
    (store.write path text).2.isDirectory query = true ∧
      (store.write path text).2.isFile query = false := by
  cases refused : store.isDirectory path with
  | true =>
      rw [write_of_isDirectory refused]
      exact ⟨directory, none⟩
  | false =>
      rw [write_of_not_isDirectory refused]
      refine ⟨isDirectory_place_of_isDirectory directory, ?_⟩
      rw [Bool.eq_false_iff, ne_eq, isFile_place]
      rintro (same | old)
      · rw [isDirectory, ← Path.same_iff.1 same] at directory
        rw [isDirectory, directory] at refused
        cases refused
      · simp [none] at old

/-- After any writes to the empty store, no file is above another exactly if no write, at its turn,
went below a file. What is a directory and no file is never a file later on. -/
theorem isFlat_afterWrites_iff (outputs : List (Path × String)) :
    ((afterWrites outputs).IsFlat ↔
      ∀ before output, before ++ [output] <+: outputs →
        ∀ upper, (afterWrites before).isFile upper = true → upper.isAbove output.1 = false) ∧
    ∀ path, (afterWrites outputs).isDirectory path = true →
      (afterWrites outputs).isFile path = false →
        ∀ later, (afterWrites (outputs ++ later)).isFile path = false := by
  constructor
  · induction outputs using List.reverseRecOn with
    | nil => simp [afterWrites, Store.after, empty, IsFlat]
    | append_singleton outputs output ih =>
        rw [afterWrites_concat, isFlat_write_iff (directories_afterWrites outputs), ih]
        constructor
        · rintro ⟨earlier, now⟩ before last cut
          rcases List.prefix_concat_iff.1 cut with whole | part
          · rcases List.append_inj' whole rfl with ⟨rfl, isLast⟩
            cases isLast
            exact now
          · exact earlier before last part
        · intro all
          constructor
          · intro before last part
            exact all before last (part.trans (List.prefix_append _ _))
          · exact all outputs output List.prefix_rfl
  · intro path directory none later
    have kept : (afterWrites (outputs ++ later)).isDirectory path = true ∧
        (afterWrites (outputs ++ later)).isFile path = false := by
      induction later using List.reverseRecOn with
      | nil => simpa using ⟨directory, none⟩
      | append_singleton later output ih =>
          rw [← List.append_assoc, afterWrites_concat]
          exact isFile_eq_false_of_isDirectory_write ih.1 ih.2 output.1 output.2
    exact kept.2

/-- The file at `a` stays when a file below it is written. -/
example : (afterWrites [(⟨"a"⟩, ""), (⟨"a/b"⟩, "")]).isFile ⟨"a"⟩ = true ∧
    (afterWrites [(⟨"a"⟩, ""), (⟨"a/b"⟩, "")]).isDirectory ⟨"a"⟩ = true := by
  decide

end SourceTree.Store
