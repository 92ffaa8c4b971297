/-!
# White space

Scanning bundle trailers and import statements treats as white space every code
point with the Unicode property `White_Space`, not only the ASCII blanks. The set is
small and stable, so it is written out as a predicate on code points.
-/

namespace SourceTree.Text

/-- Whether `symbol` has the Unicode property `White_Space`. -/
def isBlank (symbol : Char) : Bool :=
  let code := symbol.toNat
  (9 ≤ code && code ≤ 13) || code == 0x20 || code == 0x85 || code == 0xA0 ||
    code == 0x1680 || (0x2000 ≤ code && code ≤ 0x200A) || code == 0x2028 ||
    code == 0x2029 || code == 0x202F || code == 0x205F || code == 0x3000

/-- The text after its leading white space. -/
def skipBlank (text : List Char) : List Char :=
  text.dropWhile isBlank

/-- The text after `word`, if it starts with it. -/
def afterWord? : (word text : List Char) → Option (List Char)
  | [], text => some text
  | _ :: _, [] => none
  | expected :: word, symbol :: text =>
      if symbol = expected then afterWord? word text else none

/-- Removing a leading word leaves exactly what follows it. -/
theorem afterWord?_eq_some_iff {word text rest : List Char} :
    afterWord? word text = some rest ↔ text = word ++ rest := by
  induction word generalizing text with
  | nil => simp [afterWord?]
  | cons expected word ih =>
      cases text with
      | nil => simp [afterWord?]
      | cons symbol text =>
          by_cases same : symbol = expected
          · simp [afterWord?, same, ih]
          · simp [afterWord?, same]

theorem length_skipBlank_le (text : List Char) : (skipBlank text).length ≤ text.length :=
  (List.dropWhile_sublist isBlank).length_le

end SourceTree.Text
