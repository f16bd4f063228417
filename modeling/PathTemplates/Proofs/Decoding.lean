import PathTemplates.Proofs.Percent

set_option autoImplicit false

/-! Reading percent encoded text back. What is written for a byte tells the byte and where the next one starts. -/

namespace PathTemplates.Text

def hexValue (digit : Char) : Nat := if digit.isDigit then digit.toNat - '0'.toNat else digit.toNat - 'A'.toNat + 10

def decodeBytes : List Char → List UInt8
  | [] => []
  | '+' :: rest => ' '.toUInt8 :: decodeBytes rest
  | '%' :: high :: low :: rest => UInt8.ofNat (16 * hexValue high + hexValue low) :: decodeBytes rest
  | c :: rest => c.toUInt8 :: decodeBytes rest

-- The text of which this is the encoding, if the bytes are the bytes of a text.
def decode (text : String) : Option String :=
  (decodeBytes text.toList).toByteArray.utf8Decode?.map fun chars => String.ofList chars.toList

theorem hex_value_digit (value : Nat) (small : value < 16) : hexValue (hexDigit value) = value := by
  revert value
  decide

theorem byte_of_char (byte : UInt8) : (Char.ofUInt8 byte).toUInt8 = byte := by
  change byte.toUInt32.toUInt8 = byte
  exact UInt8.toUInt8_toUInt32 byte

theorem unreserved_not_mark (byte : UInt8) (unreserved : isUnreserved byte = true) :
    Char.ofUInt8 byte ≠ '+' ∧ Char.ofUInt8 byte ≠ '%' := by
  constructor
  · intro plus
    rw [← byte_of_char byte, plus] at unreserved
    exact absurd unreserved (by decide +kernel)
  · intro percent
    rw [← byte_of_char byte, percent] at unreserved
    exact absurd unreserved (by decide +kernel)

theorem decode_bytes_other (c : Char) (rest : List Char) (noPlus : c ≠ '+') (noPercent : c ≠ '%') :
    decodeBytes (c :: rest) = c.toUInt8 :: decodeBytes rest := by
  rw [decodeBytes]
  · exact noPlus
  · intro high low later same _
    exact noPercent same

theorem decode_encode_byte (byte : UInt8) (rest : List Char) :
    decodeBytes (encodeByte byte ++ rest) = byte :: decodeBytes rest := by
  unfold encodeByte
  by_cases space : byte = ' '.toUInt8
  · rw [if_pos space, space]
    rfl
  · rw [if_neg space]
    by_cases unreserved : isUnreserved byte = true
    · obtain ⟨noPlus, noPercent⟩ := unreserved_not_mark byte unreserved
      rw [if_pos unreserved, List.singleton_append, decode_bytes_other _ rest noPlus noPercent, byte_of_char]
    · have bound := byte.toNat_lt
      rw [if_neg unreserved]
      change UInt8.ofNat (16 * hexValue (hexDigit (byte.toNat / 16)) + hexValue (hexDigit (byte.toNat % 16))) :: _ = _
      rw [hex_value_digit _ (by omega), hex_value_digit _ (by omega), Nat.div_add_mod, UInt8.ofNat_toNat]
      rfl

theorem decode_encode_bytes (bytes : List UInt8) : decodeBytes (bytes.flatMap encodeByte) = bytes := by
  induction bytes with
  | nil => rfl
  | cons byte rest ih => rw [List.flatMap_cons, decode_encode_byte, ih]

theorem decode_encode (component : String) : decode (encode component) = some component := by
  have bytes : (component.toList.flatMap String.utf8EncodeChar).toByteArray = component.toList.utf8Encode := rfl
  rw [decode, encode, String.toList_ofList, decode_encode_bytes, bytes, List.utf8Decode?_utf8Encode]
  simp

theorem encode_injective : Function.Injective encode := by
  intro a b same
  have read := congrArg decode same
  rw [decode_encode, decode_encode] at read
  exact Option.some.inj read

end PathTemplates.Text
