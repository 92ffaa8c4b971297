import Mathlib.Data.List.Forall2
import Mathlib.Data.String.Basic
import SourceTree.Proofs.Json.Literal
import SourceTree.Proofs.Text.Segments
import SourceTree.Text.Percent

/-!
# Laws of percent-encoding

Decoding works on bytes and only ever puts one byte in the place of a longer escape, so a text comes
out of it with its own bytes or with fewer of them. Encoding a text escapes all bytes but those of a
few characters. The slash is one of these and no escape holds one, so the segments of an encoded
text are the encoded segments; and since no other character has the byte of a slash in its code,
nothing else is cut.
-/

namespace SourceTree.Text

/-- The bytes of a text as it is stored. -/
def bytesOf (text : List Char) : List UInt8 :=
  text.flatMap String.utf8EncodeChar

theorem bytesOf_cons (symbol : Char) (text : List Char) :
    bytesOf (symbol :: text) = String.utf8EncodeChar symbol ++ bytesOf text :=
  List.flatMap_cons

theorem length_bytesOf (text : List Char) : (bytesOf text).length = String.utf8Len text := by
  induction text with
  | nil => rfl
  | cons symbol text ih =>
      rw [bytesOf_cons, List.length_append, ih, String.length_utf8EncodeChar, String.utf8Len_cons,
        Nat.add_comm]

theorem toByteArray_bytesOf (text : List Char) :
    (bytesOf text).toByteArray = (String.ofList text).toByteArray := by
  rw [String.toByteArray_ofList]
  rfl

theorem bytesOf_injective {text other : List Char} (same : bytesOf text = bytesOf other) :
    text = other := by
  apply String.ofList_injective
  rw [← String.toByteArray_inj, ← toByteArray_bytesOf, same, toByteArray_bytesOf]

/-- A byte below 128 stands in the code of one character only. -/
theorem eq_ofUInt8_of_mem_utf8EncodeChar {byte : UInt8} {symbol : Char}
    (member : byte ∈ String.utf8EncodeChar symbol) (ascii : byte.toNat < 128) :
    symbol = Char.ofUInt8 byte := by
  rw [String.utf8EncodeChar] at member
  split at member
  next small =>
    rw [List.mem_singleton] at member
    subst member
    apply Char.ext
    apply UInt32.toNat_inj.1
    have code : (UInt8.ofNat symbol.val.toNat).toUInt32.toNat = symbol.val.toNat % 256 := by simp
    exact (code.trans (Nat.mod_eq_of_lt (by omega))).symm
  next =>
    exfalso
    split at member
    · simp only [List.mem_cons, List.not_mem_nil, or_false] at member
      rcases member with rfl | rfl <;> simp at ascii <;> omega
    · split at member
      · simp only [List.mem_cons, List.not_mem_nil, or_false] at member
        rcases member with rfl | rfl | rfl <;> simp at ascii <;> omega
      · simp only [List.mem_cons, List.not_mem_nil, or_false] at member
        rcases member with rfl | rfl | rfl | rfl <;> simp at ascii <;> omega

/-- A text whose bytes start with such a byte starts with its character. -/
theorem exists_cons_of_bytesOf_eq_cons {text : List Char} {byte : UInt8}
    {bytes : List UInt8} (shape : bytesOf text = byte :: bytes) (ascii : byte.toNat < 128) :
    ∃ rest, text = Char.ofUInt8 byte :: rest := by
  cases text with
  | nil => cases shape
  | cons symbol rest =>
      rw [bytesOf_cons] at shape
      have member : byte ∈ String.utf8EncodeChar symbol := by
        cases code : String.utf8EncodeChar symbol with
        | nil => exact absurd code String.utf8EncodeChar_ne_nil
        | cons first others =>
            rw [code, List.cons_append, List.cons.injEq] at shape
            rw [shape.1]
            exact List.mem_cons_self
      exact ⟨rest, by rw [eq_ofUInt8_of_mem_utf8EncodeChar member ascii]⟩

namespace Percent

theorem decode?_eq_some_iff {text decoded : List Char} :
    decode? text = some decoded ↔ decodeBytes text = bytesOf decoded := by
  rw [decode?, Option.map_eq_some_iff, String.fromUTF8?]
  constructor
  · rintro ⟨value, read, rfl⟩
    rw [Option.dite_none_right_eq_some] at read
    rcases read with ⟨valid, read⟩
    rw [Option.some.injEq] at read
    rw [← List.toByteArray_inj, toByteArray_bytesOf, String.ofList_toList, ← read]
    rfl
  · intro bytes
    rw [bytes, toByteArray_bytesOf]
    refine ⟨String.ofList decoded, ?_, String.toList_ofList⟩
    rw [dif_pos (String.ofList decoded).isValidUTF8]
    rfl

/-- Decoding keeps the bytes of a text, or leaves fewer of them. -/
theorem decodeBytes_eq_or_length_lt (text : List Char) :
    decodeBytes text = bytesOf text ∨ (decodeBytes text).length < (bytesOf text).length := by
  fun_induction decodeBytes text with
  | case1 => exact Or.inl rfl
  | case2 symbol => exact Or.inl (by simp [bytesOf])
  | case3 symbol next ih =>
    rw [bytesOf_cons]
    simpa using ih
  | case4 symbol high low rest byte shape ih =>
    right
    have kept : (decodeBytes rest).length ≤ (bytesOf rest).length := by
      rcases ih with same | fewer
      · exact le_of_eq (congrArg List.length same)
      · exact le_of_lt fewer
    have written : ∀ symbol : Char, 0 < (String.utf8EncodeChar symbol).length := fun symbol =>
      List.length_pos_iff.2 String.utf8EncodeChar_ne_nil
    simp only [bytesOf_cons, List.length_append, List.length_cons]
    have := written symbol
    have := written high
    have := written low
    omega
  | case5 symbol high low rest shape ih =>
    rw [bytesOf_cons]
    simpa using ih

section Encoding

open Json (IsHexDigit)

/-- Whether a byte is written as the character that it is. -/
def isPlain (byte : UInt8) : Bool :=
  (Char.ofUInt8 byte).isAlphanum || "-_.~/".toList.contains (Char.ofUInt8 byte)

/-- The ways to write bytes: letters, digits and `-_.~/` as they are, and the others as escapes. -/
inductive Encodes : List UInt8 → List Char → Prop
  | nil : Encodes [] []
  | plain {byte : UInt8} {bytes : List UInt8} {encoded : List Char} :
      isPlain byte = true → Encodes bytes encoded →
      Encodes (byte :: bytes) (Char.ofUInt8 byte :: encoded)
  | escape {byte : UInt8} {bytes : List UInt8} {high low : Char} {encoded : List Char} :
      isPlain byte = false → IsHexDigit (byte.toNat / 16) high →
      IsHexDigit (byte.toNat % 16) low → Encodes bytes encoded →
      Encodes (byte :: bytes) ('%' :: high :: low :: encoded)

variable {byte : UInt8} {bytes : List UInt8} {encoded : List Char}

theorem toNat_lt_of_isPlain (plain : isPlain byte = true) : byte.toNat < 128 := by
  have high : ∀ number < 256, 128 ≤ number → isPlain (UInt8.ofNat number) = false := by
    decide +kernel
  by_contra outside
  have none := high byte.toNat byte.toNat_lt (by omega)
  rw [UInt8.ofNat_toNat, plain] at none
  cases none

theorem utf8EncodeChar_ofUInt8 (ascii : byte.toNat < 128) :
    String.utf8EncodeChar (Char.ofUInt8 byte) = [byte] := by
  have code : (Char.ofUInt8 byte).val.toNat = byte.toNat := UInt8.toNat_toUInt32 byte
  rw [String.utf8EncodeChar]
  simp only [code]
  rw [if_pos (by omega), UInt8.ofNat_toNat]

theorem exists_isHexDigit {value : Nat} (small : value < 16) : ∃ digit, IsHexDigit value digit := by
  have long : value < "0123456789abcdef".toList.length := small
  exact ⟨_, Or.inl (List.getElem?_eq_getElem long)⟩

theorem exists_encodes (bytes : List UInt8) : ∃ encoded, Encodes bytes encoded := by
  induction bytes with
  | nil => exact ⟨[], .nil⟩
  | cons byte bytes ih =>
      rcases ih with ⟨encoded, encodes⟩
      cases plain : isPlain byte with
      | true => exact ⟨_, .plain plain encodes⟩
      | false =>
          have bound := byte.toNat_lt
          have highSmall : byte.toNat / 16 < 16 := by omega
          have lowSmall : byte.toNat % 16 < 16 := by omega
          rcases exists_isHexDigit highSmall with ⟨high, isHigh⟩
          rcases exists_isHexDigit lowSmall with ⟨low, isLow⟩
          exact ⟨_, .escape plain isHigh isLow encodes⟩

theorem decodeBytes_cons_of_ne {symbol : Char} (differs : symbol ≠ '%') (text : List Char) :
    decodeBytes (symbol :: text) = String.utf8EncodeChar symbol ++ decodeBytes text := by
  match text with
  | [] => simp [decodeBytes]
  | [next] => rfl
  | high :: low :: rest => rw [decodeBytes, if_neg differs]

theorem escapedByte?_of_isHexDigit {high low : Char} (isHigh : IsHexDigit (byte.toNat / 16) high)
    (isLow : IsHexDigit (byte.toNat % 16) low) : escapedByte? high low = some byte := by
  have number : byte.toNat / 16 * 16 + byte.toNat % 16 = byte.toNat := by omega
  rw [escapedByte?, Json.hexDigit?_of_isHexDigit isHigh, Json.hexDigit?_of_isHexDigit isLow]
  change some (UInt8.ofNat (byte.toNat / 16 * 16 + byte.toNat % 16)) = some byte
  rw [number, UInt8.ofNat_toNat]

/-- Decoding gives back the bytes that were encoded. -/
theorem decodeBytes_of_encodes (encodes : Encodes bytes encoded) : decodeBytes encoded = bytes := by
  induction encodes with
  | nil => rfl
  | @plain byte bytes encoded plain _ ih =>
      have ascii := toNat_lt_of_isPlain plain
      have differs : Char.ofUInt8 byte ≠ '%' := by
        intro percent
        rw [isPlain, percent] at plain
        exact absurd plain (by decide)
      rw [decodeBytes_cons_of_ne differs, utf8EncodeChar_ofUInt8 ascii, ih]
      rfl
  | escape _ isHigh isLow _ ih =>
      rw [decodeBytes, if_pos rfl, escapedByte?_of_isHexDigit isHigh isLow, ih]

theorem isAlphanum_of_isHexDigit {value : Nat} {digit : Char}
    (isHexDigit : IsHexDigit value digit) :
    digit.isAlphanum = true := by
  have lower : "0123456789abcdef".toList.all Char.isAlphanum = true := by decide
  have upper : "0123456789ABCDEF".toList.all Char.isAlphanum = true := by decide
  rcases isHexDigit with isLower | isUpper
  · exact List.all_eq_true.1 lower digit (List.mem_of_getElem? isLower)
  · exact List.all_eq_true.1 upper digit (List.mem_of_getElem? isUpper)

/-- Encoded text has letters, digits, percent signs and what stands for itself. -/
theorem exists_plain_of_mem (encodes : Encodes bytes encoded) {symbol : Char}
    (member : symbol ∈ encoded) (notPercent : symbol ≠ '%')
    (notAlphanum : symbol.isAlphanum = false) :
    ∃ byte ∈ bytes, isPlain byte = true ∧ symbol = Char.ofUInt8 byte := by
  induction encodes with
  | nil => cases member
  | @plain byte bytes encoded plain _ ih =>
      rcases List.mem_cons.1 member with rfl | later
      · exact ⟨byte, by simp, plain, rfl⟩
      · rcases ih later with ⟨other, otherMem, found⟩
        exact ⟨other, List.mem_cons_of_mem _ otherMem, found⟩
  | escape _ isHigh isLow _ ih =>
      rw [List.mem_cons, List.mem_cons, List.mem_cons] at member
      rcases member with percent | rfl | rfl | later
      · exact absurd percent notPercent
      · rw [isAlphanum_of_isHexDigit isHigh] at notAlphanum
        cases notAlphanum
      · rw [isAlphanum_of_isHexDigit isLow] at notAlphanum
        cases notAlphanum
      · rcases ih later with ⟨other, otherMem, found⟩
        exact ⟨other, List.mem_cons_of_mem _ otherMem, found⟩

theorem Encodes.append {front back : List UInt8} {code rest : List Char}
    (first : Encodes front code) (second : Encodes back rest) :
    Encodes (front ++ back) (code ++ rest) := by
  induction first with
  | nil => exact second
  | plain plain _ ih => exact .plain plain ih
  | escape notPlain isHigh isLow _ ih => exact .escape notPlain isHigh isLow ih

theorem exists_append_of_encodes {front back : List UInt8}
    (encodes : Encodes (front ++ back) encoded) :
    ∃ code rest, encoded = code ++ rest ∧ Encodes front code ∧ Encodes back rest := by
  induction front generalizing encoded with
  | nil => exact ⟨[], encoded, rfl, .nil, encodes⟩
  | cons byte front ih =>
      cases encodes with
      | plain plain later =>
          rcases ih later with ⟨code, rest, rfl, first, second⟩
          exact ⟨_ :: code, rest, rfl, .plain plain first, second⟩
      | escape notPlain isHigh isLow later =>
          rcases ih later with ⟨code, rest, rfl, first, second⟩
          exact ⟨_ :: _ :: _ :: code, rest, rfl, .escape notPlain isHigh isLow first, second⟩

theorem eq_slash_of_encodes (encodes : Encodes (String.utf8EncodeChar '/') encoded) :
    encoded = ['/'] := by
  cases encodes with
  | plain _ none =>
      cases none
      rfl
  | escape notPlain => exact absurd notPlain (by decide)

theorem slash_not_mem_of_encodes {symbol : Char}
    (encodes : Encodes (String.utf8EncodeChar symbol) encoded) (differs : symbol ≠ '/') :
    '/' ∉ encoded := by
  intro member
  rcases exists_plain_of_mem encodes member (by decide) (by decide) with
    ⟨byte, byteMem, plain, same⟩
  apply differs
  rw [eq_ofUInt8_of_mem_utf8EncodeChar byteMem (toNat_lt_of_isPlain plain), same]

/-- Encoding keeps the slashes of a text and adds none, so each segment is encoded on its own. -/
theorem forall₂_split_of_encodes {text : List Char} (encodes : Encodes (bytesOf text) encoded) :
    List.Forall₂ (fun piece code => Encodes (bytesOf piece) code) (split '/' text)
      (split '/' encoded) := by
  induction text generalizing encoded with
  | nil =>
      cases encodes
      exact .cons .nil .nil
  | cons symbol text ih =>
      rw [bytesOf_cons] at encodes
      rcases exists_append_of_encodes encodes with ⟨code, rest, rfl, first, second⟩
      have pieces := ih second
      by_cases slash : symbol = '/'
      · subst slash
        rw [eq_slash_of_encodes first, split_separator_cons, List.singleton_append,
          split_separator_cons]
        exact .cons .nil pieces
      · rw [split, if_neg slash]
        cases shape : split '/' text with
        | nil => exact absurd shape (split_ne_nil '/' text)
        | cons piece others =>
            rw [shape] at pieces
            cases restShape : split '/' rest with
            | nil => exact absurd restShape (split_ne_nil '/' rest)
            | cons next codes =>
                rw [restShape] at pieces
                rcases pieces with _ | ⟨firstPiece, otherPieces⟩
                -- The code of the symbol goes in front of the code of the first piece.
                have whole : split '/' code = [] ++ [code] :=
                  split_of_not_mem (slash_not_mem_of_encodes first slash)
                rw [split_append whole restShape]
                refine .cons ?_ otherPieces
                rw [bytesOf_cons]
                exact first.append firstPiece

/-- The segments of an encoded text are decoded to those of the text. -/
theorem map_decodeBytes_split {text : List Char} (encodes : Encodes (bytesOf text) encoded) :
    (split '/' encoded).map decodeBytes =
      (split '/' text).map bytesOf := by
  rw [← List.forall₂_eq_eq_eq, List.forall₂_map_left_iff, List.forall₂_map_right_iff]
  apply List.Forall₂.flip
  apply (forall₂_split_of_encodes encodes).imp
  intro piece code same
  exact decodeBytes_of_encodes same

end Encoding

end Percent

end SourceTree.Text
