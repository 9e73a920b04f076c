/-
**The order of bytes.** Two texts stand in the same order by their characters and by the bytes of their UTF-8 form: a
smaller character is encoded by smaller bytes, whatever follows it.

* `Text.bytes` — the bytes of a text.
* `Text.utf8EncodeChar_append_lt` — the bytes of two characters.
* `Text.bytes_le_bytes_iff` — the bytes of two texts.
-/
import Mathlib.Data.List.Lex
import Mathlib.Data.String.Basic
import Mathlib.Data.UInt

namespace LiquidHover.Text

/-- The bytes of a text. -/
def bytes (text : String) : List UInt8 := text.toUTF8.data.toList

theorem bytes_eq_flatMap (text : String) : bytes text = text.toList.flatMap String.utf8EncodeChar := by
  rw [bytes, String.toUTF8_eq_toByteArray, ← String.utf8Encode_toList, List.utf8Encode, List.data_toByteArray]

/-! ### Two characters -/

/-- Of two numbers the smaller one has less in front of its last digit, or the same and a smaller last digit. -/
theorem digit_lt {code code' : Nat} (less : code < code') :
    code / 64 < code' / 64 ∨ code / 64 = code' / 64 ∧ code % 64 < code' % 64 := by
  omega

/-- The digits of two code points, compared from the first on. -/
theorem digits_lt {code code' : Nat} (less : code < code') (bound : code' < 0x110000) :
    code / 262144 % 8 < code' / 262144 % 8 ∨ code / 262144 % 8 = code' / 262144 % 8 ∧
      (code / 4096 % 64 < code' / 4096 % 64 ∨ code / 4096 % 64 = code' / 4096 % 64 ∧
        (code / 64 % 64 < code' / 64 % 64 ∨ code / 64 % 64 = code' / 64 % 64 ∧ code % 64 < code' % 64)) := by
  have first (n : Nat) : n / 262144 = n / 64 / 64 / 64 := by omega
  have second (n : Nat) : n / 4096 = n / 64 / 64 := by omega
  rw [first, first, second, second]
  rcases digit_lt less with less | ⟨same, last⟩
  · rcases digit_lt less with less | ⟨same, third⟩
    · rcases digit_lt less with less | ⟨same, second⟩
      · exact Or.inl (by omega)
      · exact Or.inr ⟨by rw [same], Or.inl second⟩
    · exact Or.inr ⟨by rw [same], Or.inr ⟨by rw [same], Or.inl third⟩⟩
  · exact Or.inr ⟨by rw [same], Or.inr ⟨by rw [same], Or.inr ⟨by rw [same], last⟩⟩⟩

/-- Rows of bytes are compared at their first byte, and behind it where this is the same. -/
theorem ofNat_cons_lt_iff {byte byte' : Nat} (small : byte < 256) (small' : byte' < 256) {rest rest' : List UInt8} :
    UInt8.ofNat byte :: rest < UInt8.ofNat byte' :: rest' ↔ byte < byte' ∨ byte = byte' ∧ rest < rest' := by
  have same : UInt8.ofNat byte = UInt8.ofNat byte' ↔ byte = byte' := by
    rw [← UInt8.toNat_inj, UInt8.toNat_ofNat_of_lt' small, UInt8.toNat_ofNat_of_lt' small']
  rw [List.cons_lt_cons_iff, UInt8.ofNat_lt_iff_lt small small', same]

/-- **A smaller character has smaller bytes**, whatever follows them. Characters of different sizes differ in the first
byte already, and those of one size in the first of their digits that differ. -/
theorem utf8EncodeChar_append_lt {c d : Char} (less : c < d) (rest rest' : List UInt8) :
    String.utf8EncodeChar c ++ rest < String.utf8EncodeChar d ++ rest' := by
  have order : c.val.toNat < d.val.toNat := less
  have bound : d.val.toNat < 0x110000 := by
    rcases d.valid with low | ⟨-, high⟩
    · exact low.trans (by decide)
    · exact high
  generalize code : c.val.toNat = v at order
  generalize code' : d.val.toNat = w at order bound
  have digits := digits_lt order bound
  rw [String.utf8EncodeChar, String.utf8EncodeChar]
  simp only [code, code']
  split_ifs <;>
    simp (disch := omega) only [List.cons_append, List.nil_append, ofNat_cons_lt_iff] <;> omega

/-! ### Two texts -/

/-- The bytes of the smaller of two texts are smaller, by induction along what both have in common. -/
theorem flatMap_utf8EncodeChar_lt {first second : List Char} (less : first < second) :
    first.flatMap String.utf8EncodeChar < second.flatMap String.utf8EncodeChar := by
  induction less with
  | @nil c rest =>
    obtain ⟨byte, bytes, encoded⟩ := List.exists_cons_of_ne_nil (String.utf8EncodeChar_ne_nil (c := c))
    rw [List.flatMap_cons, encoded]
    exact List.nil_lt_cons byte _
  | rel earlier =>
    rw [List.flatMap_cons, List.flatMap_cons]
    exact utf8EncodeChar_append_lt earlier _ _
  | cons _ ih =>
    rw [List.flatMap_cons, List.flatMap_cons]
    exact List.append_left_lt ih

theorem bytes_lt_bytes {first second : String} (less : first < second) : bytes first < bytes second := by
  rw [bytes_eq_flatMap, bytes_eq_flatMap]
  exact flatMap_utf8EncodeChar_lt (String.lt_iff_toList_lt.mp less)

/-- **Texts stand in the same order by their characters and by their bytes.** -/
theorem bytes_le_bytes_iff {first second : String} : bytes first ≤ bytes second ↔ first ≤ second := by
  rw [← List.not_lt, ← not_lt, not_iff_not]
  refine ⟨fun less => ?_, bytes_lt_bytes⟩
  rcases lt_trichotomy second first with before | rfl | behind
  · exact before
  · exact absurd less (List.lt_irrefl _)
  · exact absurd less (List.lt_asymm (bytes_lt_bytes behind))

end LiquidHover.Text
