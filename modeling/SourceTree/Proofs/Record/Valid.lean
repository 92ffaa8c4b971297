import Mathlib.Data.String.Basic
import SourceTree.Record.Load

/-!
# Which records can be used

A record has to list an extension, and each of its extensions has to be a dot with something behind
it. The first extension that is not is the defect that is told. Only records without a defect are
loaded, from files of either format.
-/

namespace SourceTree.Record

variable {record : Record}

/-- Starts with a dot and is longer than one byte. -/
def IsDotted (extension : String) : Prop :=
  extension.toList.head? = some '.' ∧ 1 < extension.utf8ByteSize

theorem isExtension_iff {extension : String} :
    isExtension extension = true ↔ IsDotted extension := by
  obtain ⟨symbols, rfl⟩ : ∃ symbols, extension = String.ofList symbols :=
    ⟨extension.toList, String.ofList_toList.symm⟩
  rw [IsDotted, isExtension, String.toList_ofList, String.utf8ByteSize_ofList]
  rcases symbols with _ | ⟨first, _ | ⟨second, rest⟩⟩
  · simp
  · simp only [List.head?_cons, Option.some.injEq, Bool.false_eq_true, false_iff, not_and]
    rintro rfl
    decide
  · have sizeFirst := Char.utf8Size_pos first
    have sizeSecond := Char.utf8Size_pos second
    have long : 1 < String.utf8Len (first :: second :: rest) := by
      rw [String.utf8Len_cons, String.utf8Len_cons]
      omega
    rw [List.head?_cons, Option.some.injEq, and_iff_left long]
    by_cases dot : first = '.'
    · simp [dot]
    · simp [dot]

instance (extension : String) : Decidable (IsDotted extension) :=
  inferInstanceAs (Decidable (_ ∧ _))

theorem defect?_eq_none_iff :
    record.defect? = none ↔
      record.extensions ≠ [] ∧ ∀ extension ∈ record.extensions, IsDotted extension := by
  rw [defect?]
  cases shape : record.extensions with
  | nil => simp
  | cons first rest => simp [List.find?_eq_none, isExtension_iff]

/-- What is longer than one byte and starts with one has two characters at least. -/
theorem IsDotted.two_le_length {extension : String} (dotted : IsDotted extension) :
    2 ≤ extension.toList.length := by
  have usable := isExtension_iff.2 dotted
  rw [isExtension] at usable
  split at usable
  next symbol rest shape => simp [shape]
  next => cases usable

variable {σ : Type} [FileSystem σ] {files : σ} {path : Path}

/-- Only records that can be used are loaded. -/
theorem defect?_of_load (loaded : load files path = .ok record) : record.defect? = none := by
  rw [load] at loaded
  split at loaded
  next => cases loaded
  next text _ =>
    rw [parseValid] at loaded
    split at loaded
    next => cases loaded
    next =>
      split at loaded
      next => cases loaded
      next usable =>
        cases loaded
        exact usable

end SourceTree.Record
