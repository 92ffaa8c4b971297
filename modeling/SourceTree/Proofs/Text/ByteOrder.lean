import SourceTree.Proofs.Text.Percent

/-!
# The order of texts is the order of their bytes

Texts are compared character by character, by the numbers of the characters. The bytes that they are
stored as are ordered in the same way: the first byte of a character says how many there are, and
more of them for greater numbers; behind it the number stands in digits to the base of 64, the
highest first. So where two texts differ for the first time, their bytes differ in the same sense.
-/

namespace SourceTree.Text

theorem toNat_le_of_char (symbol : Char) : symbol.val.toNat ≤ 0x10ffff := by
  rcases symbol.valid with low | high
  · exact Nat.le_of_lt (Nat.lt_trans low (by decide))
  · exact Nat.le_of_lt_succ high.2

theorem ofNat_lt_ofNat_iff {first second : Nat} (firstSmall : first < 256)
    (secondSmall : second < 256) : UInt8.ofNat first < UInt8.ofNat second ↔ first < second := by
  rw [UInt8.lt_iff_toNat_lt, UInt8.toNat_ofNat', UInt8.toNat_ofNat', Nat.mod_eq_of_lt firstSmall,
    Nat.mod_eq_of_lt secondSmall]

theorem ofNat_eq_ofNat_iff {first second : Nat} (firstSmall : first < 256)
    (secondSmall : second < 256) : UInt8.ofNat first = UInt8.ofNat second ↔ first = second := by
  rw [← UInt8.toNat_inj, UInt8.toNat_ofNat', UInt8.toNat_ofNat', Nat.mod_eq_of_lt firstSmall,
    Nat.mod_eq_of_lt secondSmall]

/-- The code of a smaller character comes first, whatever follows the two codes. -/
theorem utf8EncodeChar_append_lt {first second : Char} (less : first < second)
    (rest other : List UInt8) :
    String.utf8EncodeChar first ++ rest < String.utf8EncodeChar second ++ other := by
  have numbers : first.val.toNat < second.val.toNat := less
  have bound := toNat_le_of_char second
  -- Each digit is read off the next longer quotient.
  have quotients (number : Nat) :
      number / 4096 = number / 64 / 64 ∧ number / 262144 = number / 64 / 64 / 64 := by
    omega
  rw [String.utf8EncodeChar, String.utf8EncodeChar]
  generalize first.val.toNat = smaller at numbers ⊢
  generalize second.val.toNat = greater at numbers bound ⊢
  rw [(quotients smaller).1, (quotients smaller).2, (quotients greater).1, (quotients greater).2]
  split_ifs <;>
    simp (disch := omega) only [List.cons_append, List.nil_append, List.cons_lt_cons_iff,
      ofNat_lt_ofNat_iff, ofNat_eq_ofNat_iff] <;>
    omega

theorem bytesOf_lt {text other : List Char} (less : text < other) : bytesOf text < bytesOf other := by
  induction text generalizing other with
  | nil =>
      cases other with
      | nil => exact absurd less (List.lt_irrefl [])
      | cons symbol other =>
          rw [bytesOf_cons]
          cases code : String.utf8EncodeChar symbol with
          | nil => exact absurd code String.utf8EncodeChar_ne_nil
          | cons first rest => exact List.nil_lt_cons ..
  | cons symbol text ih =>
      cases other with
      | nil => exact absurd less (List.not_lt_nil _)
      | cons next other =>
          rw [bytesOf_cons, bytesOf_cons]
          rcases List.cons_lt_cons_iff.1 less with smaller | ⟨rfl, behind⟩
          · exact utf8EncodeChar_append_lt smaller _ _
          · exact List.append_left_lt (ih behind)

end SourceTree.Text
