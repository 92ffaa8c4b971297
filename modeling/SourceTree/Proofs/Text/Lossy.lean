import SourceTree.Text.Utf8

/-!
# The lenient reading of well-formed text

Bytes that encode a text are read as that text: the lenient reading replaces nothing in them. So a
file that was written as text and is scanned later is scanned as it was written.
-/

namespace SourceTree.Text.Utf8

theorem utf8DecodeChar?_append (front : ByteArray) (symbol : Char) (rest : List Char) :
    (front ++ (symbol :: rest).utf8Encode).utf8DecodeChar? front.size = some symbol := by
  rw [ByteArray.utf8DecodeChar?_eq_utf8DecodeChar?_extract,
    ByteArray.extract_append_eq_right rfl ByteArray.size_append]
  exact List.utf8DecodeChar?_utf8Encode_cons

/-- From the start of an encoded text on, the lenient reading appends exactly that text. -/
theorem decodeLossyFrom_append (front : ByteArray) (text : List Char) (done : String) :
    decodeLossyFrom (front ++ text.utf8Encode) front.size done = done ++ String.ofList text := by
  induction text generalizing front done with
  | nil =>
      rw [decodeLossyFrom, if_neg (by simp)]
      simp
  | cons symbol rest ih =>
      have size : (front ++ [symbol].utf8Encode).size = front.size + symbol.utf8Size := by
        simp [List.utf8Encode_singleton]
      have cut : front ++ (symbol :: rest).utf8Encode =
          front ++ [symbol].utf8Encode ++ rest.utf8Encode := by
        rw [List.utf8Encode_cons, ByteArray.append_assoc]
      have inside : front.size < (front ++ (symbol :: rest).utf8Encode).size := by
        have := symbol.utf8Size_pos
        rw [cut, ByteArray.size_append, size]
        omega
      rw [decodeLossyFrom, if_pos inside, utf8DecodeChar?_append]
      simp only
      rw [← size, cut, ih]
      simp [String.ext_iff, String.toList_append]

theorem decodeLossy_toUTF8 (text : String) : decodeLossy text.toUTF8 = text := by
  have encoded : text.toUTF8 = ByteArray.empty ++ text.toList.utf8Encode := by
    rw [← String.toByteArray_ofList, String.ofList_toList, ByteArray.empty_append]
    rfl
  have whole := decodeLossyFrom_append ByteArray.empty text.toList ""
  rw [← encoded, String.ofList_toList, String.empty_append] at whole
  exact whole

end SourceTree.Text.Utf8
