import Mathlib
import PathTemplates.Text.Percent

set_option autoImplicit false

/-! What percent encoding writes. -/

namespace PathTemplates.Text

-- The characters that an encoded component is made of: letters, digits and marks that stand for themselves, a plus for a
-- space, and escapes.
def PathChar (c : Char) : Prop :=
  'A' ≤ c ∧ c ≤ 'Z' ∨ 'a' ≤ c ∧ c ≤ 'z' ∨ '0' ≤ c ∧ c ≤ '9' ∨ c ∈ ['-', '_', '.', '~', '+', '%']

instance (c : Char) : Decidable (PathChar c) := inferInstanceAs (Decidable (_ ∨ _ ∨ _ ∨ _))

theorem path_char_not_slash (c : Char) (good : PathChar c) : c ≠ '/' := by
  intro same
  rw [same] at good
  exact absurd good (by decide)

theorem hex_digit_path_char (value : Nat) (small : value < 16) : PathChar (hexDigit value) := by
  revert value
  decide

theorem letter_or_digit_path_char (c : Char) (plain : c.isAlphanum = true) : PathChar c := by
  simp only [Char.isAlphanum, Char.isAlpha, Char.isUpper, Char.isLower, Char.isDigit, Bool.or_eq_true, Bool.and_eq_true,
    decide_eq_true_eq] at plain
  simp only [PathChar, Char.le_def]
  tauto

theorem unreserved_path_char (byte : UInt8) (unreserved : isUnreserved byte = true) : PathChar (Char.ofUInt8 byte) := by
  simp only [isUnreserved, Bool.or_eq_true, decide_eq_true_eq] at unreserved
  rcases unreserved with (((plain | dash) | underscore) | dot) | tilde
  · exact letter_or_digit_path_char _ plain
  · rw [dash]
    decide
  · rw [underscore]
    decide
  · rw [dot]
    decide
  · rw [tilde]
    decide

theorem encode_byte_path_chars (byte : UInt8) (c : Char) (member : c ∈ encodeByte byte) : PathChar c := by
  unfold encodeByte at member
  by_cases space : byte = ' '.toUInt8
  · rw [if_pos space, List.mem_singleton] at member
    rw [member]
    decide
  · by_cases plain : isUnreserved byte = true
    · rw [if_neg space, if_pos plain, List.mem_singleton] at member
      rw [member]
      exact unreserved_path_char byte plain
    · have bound := byte.toNat_lt
      rw [if_neg space, if_neg plain] at member
      simp only [List.mem_cons, List.not_mem_nil, or_false] at member
      rcases member with same | same | same
      · rw [same]
        decide
      · rw [same]
        exact hex_digit_path_char _ (by omega)
      · rw [same]
        exact hex_digit_path_char _ (by omega)

theorem encode_path_chars (component : String) (c : Char) (member : c ∈ (encode component).toList) : PathChar c := by
  rw [encode, String.toList_ofList] at member
  obtain ⟨byte, _, written⟩ := List.mem_flatMap.mp member
  exact encode_byte_path_chars byte c written

theorem encode_byte_not_nil (byte : UInt8) : encodeByte byte ≠ [] := by
  unfold encodeByte
  split
  · simp
  · split <;> simp

-- Every character has a byte and every byte is written, so only the empty text is written as nothing.
theorem encode_empty_iff (component : String) : encode component = "" ↔ component = "" := by
  rw [encode, ← String.toList_eq_nil_iff, String.toList_ofList, List.flatMap_eq_nil_iff, ← String.toList_eq_nil_iff]
  cases component.toList with
  | nil => simp
  | cons c rest =>
      cases bytes : String.utf8EncodeChar c with
      | nil => exact absurd bytes (String.utf8EncodeChar_ne_nil)
      | cons byte others => simp [bytes, encode_byte_not_nil byte]

end PathTemplates.Text
