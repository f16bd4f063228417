import PathTemplates.Proofs.Decoding
import PathTemplates.Proofs.Pieces

set_option autoImplicit false

/-!
Percent encoding as a code of bytes. A component is written word by word: the bytes of a word are escaped, and a plus stands for each
space between words. What comes of it is the code of every byte by itself, a plus being the code of a space.
-/

namespace PathTemplates.Text

def bytes (text : String) : List UInt8 := text.toUTF8.data.toList

-- What stands between the spaces of a text, empty words included.
def words (text : String) : List String := (text.toList.splitOn ' ').map String.ofList

-- What escaping writes for a byte, be it a space or not.
def escapeByte (byte : UInt8) : List Char :=
  if isUnreserved byte then [Char.ofUInt8 byte] else ['%', hexDigit (byte.toNat / 16), hexDigit (byte.toNat % 16)]

-- What a component is written with, word by word.
def Escapes (escape : String → String) : Prop := ∀ word, (escape word).toList = (bytes word).flatMap escapeByte

def appendWords (escape : String → String) (written component : String) : String :=
  written ++ "+".intercalate ((words component).map escape)

def Bare (c : Char) : Prop :=
  'A' ≤ c ∧ c ≤ 'Z' ∨ 'a' ≤ c ∧ c ≤ 'z' ∨ '0' ≤ c ∧ c ≤ '9' ∨ c ∈ ['-', '_', '.', '~']

def hexDigits : List Char := "0123456789ABCDEF".toList

inductive Code : UInt8 → List Char → Prop
  | space : Code ' '.toUInt8 ['+']
  | bare (byte : UInt8) : Bare (Char.ofUInt8 byte) → Code byte [Char.ofUInt8 byte]
  | escaped (byte : UInt8) (high low : Nat) (first second : Char) : byte ≠ ' '.toUInt8 → ¬ Bare (Char.ofUInt8 byte) →
      byte.toNat = 16 * high + low → hexDigits[high]? = some first → hexDigits[low]? = some second →
      Code byte ['%', first, second]

instance (c : Char) : Decidable (Bare c) := inferInstanceAs (Decidable (_ ∨ _ ∨ _ ∨ _))

theorem bare_iff (byte : UInt8) : Bare (Char.ofUInt8 byte) ↔ isUnreserved byte = true := by
  revert byte
  decide +kernel

theorem hex_digit_at (value : Nat) (small : value < 16) : hexDigits[value]? = some (hexDigit value) := by
  revert value
  decide

theorem code_encode_byte (byte : UInt8) : Code byte (encodeByte byte) := by
  unfold encodeByte
  by_cases space : byte = ' '.toUInt8
  · rw [if_pos space, space]
    exact .space
  · rw [if_neg space]
    by_cases unreserved : isUnreserved byte = true
    · rw [if_pos unreserved]
      exact .bare byte ((bare_iff byte).mpr unreserved)
    · have bound := byte.toNat_lt
      have marked : ¬ Bare (Char.ofUInt8 byte) := fun bare => unreserved ((bare_iff byte).mp bare)
      have number : byte.toNat = 16 * (byte.toNat / 16) + byte.toNat % 16 := by omega
      rw [if_neg unreserved]
      exact .escaped byte _ _ _ _ space marked number (hex_digit_at _ (by omega)) (hex_digit_at _ (by omega))

theorem bytes_eq (text : String) : bytes text = text.toList.flatMap String.utf8EncodeChar := by
  rw [bytes, String.toUTF8_eq_toByteArray, ← String.utf8Encode_toList, List.utf8Encode, List.toList_data_toByteArray]

theorem encode_eq (component : String) : encode component = String.ofList ((bytes component).flatMap encodeByte) := by
  rw [bytes_eq]
  rfl

theorem bytes_append (a b : String) : bytes (a ++ b) = bytes a ++ bytes b := by
  rw [bytes_eq, bytes_eq, bytes_eq, String.toList_append, List.flatMap_append]

-- A byte below 128 is a character by itself.
theorem small_byte (c : Char) (byte : UInt8) (member : byte ∈ String.utf8EncodeChar c) (small : byte.toNat < 128) :
    c.toNat = byte.toNat := by
  have number : c.toNat = c.val.toNat := rfl
  simp only [String.utf8EncodeChar] at member
  split_ifs at member with one two three
  · rw [List.mem_singleton.mp member, UInt8.toNat_ofNat', number]
    omega
  all_goals
    exfalso
    simp only [List.mem_cons, List.not_mem_nil, or_false] at member
  · rcases member with same | same <;> rw [same, UInt8.toNat_ofNat'] at small <;> omega
  · rcases member with same | same | same <;> rw [same, UInt8.toNat_ofNat'] at small <;> omega
  · rcases member with same | same | same | same <;> rw [same, UInt8.toNat_ofNat'] at small <;> omega

theorem space_byte (c : Char) (byte : UInt8) (member : byte ∈ String.utf8EncodeChar c) (space : byte = ' '.toUInt8) : c = ' ' := by
  have number : byte.toNat = 32 := by
    rw [space]
    rfl
  apply Char.toNat_inj.mp
  rw [small_byte c byte member (by omega), number]
  rfl

-- In a word without a space every byte is escaped as it is encoded.
theorem escape_word (escape : String → String) (escapes : Escapes escape) (word : List Char) (noSpace : ' ' ∉ word) :
    (escape (String.ofList word)).toList = word.flatMap fun c => (String.utf8EncodeChar c).flatMap encodeByte := by
  rw [escapes, bytes_eq, String.toList_ofList, List.flatMap_assoc]
  apply List.flatMap_congr
  intro c inside
  apply List.flatMap_congr
  intro byte member
  have other : byte ≠ ' '.toUInt8 := fun space => noSpace (space_byte c byte member space ▸ inside)
  rw [encodeByte, if_neg other, escapeByte]

theorem intercalate_flat_map {α β : Type} (f : α → List β) (mark : α) (parts : List (List α)) :
    ([mark].intercalate parts).flatMap f = (f mark).intercalate (parts.map (·.flatMap f)) := by
  induction parts with
  | nil => rfl
  | cons part rest ih =>
      cases rest with
      | nil => simp
      | cons next later =>
          rw [List.intercalate_cons_cons, List.flatMap_append, List.flatMap_append, ih, List.flatMap_singleton, List.map_cons,
            List.map_cons, List.map_cons, List.intercalate_cons_cons]

theorem encode_words (escape : String → String) (escapes : Escapes escape) (component : String) :
    "+".intercalate ((words component).map escape) = encode component := by
  have plus : (String.utf8EncodeChar ' ').flatMap encodeByte = "+".toList := by decide
  have whole : component.toList = [' '].intercalate (component.toList.splitOn ' ') := (List.intercalate_splitOn ' ').symm
  rw [← String.toList_inj, encode_eq, String.toList_ofList, bytes_eq, List.flatMap_assoc, whole, intercalate_flat_map, plus,
    String.toList_intercalate, words, List.map_map, List.map_map]
  apply congrArg
  apply List.map_congr_left
  intro word member
  exact escape_word escape escapes word (split_without ' ' component.toList word member)

theorem encode_append (a b : String) : encode (a ++ b) = encode a ++ encode b := by
  rw [encode_eq, encode_eq, encode_eq, bytes_append, List.flatMap_append, String.ofList_append]

theorem encode_codes (component : String) :
    ∃ codes, List.Forall₂ Code (bytes component) codes ∧ (encode component).toList = codes.flatten := by
  refine ⟨(bytes component).map encodeByte, ?_, ?_⟩
  · rw [List.forall₂_map_right_iff, List.forall₂_same]
    intro byte _
    exact code_encode_byte byte
  · rw [encode_eq, String.toList_ofList, List.flatMap_def]

theorem components_are_coded_bytewise (escape : String → String) (escapes : Escapes escape) (written component : String) :
    appendWords escape written component = written ++ encode component ∧
      appendEncoded written component = written ++ encode component ∧
      (∃ codes, List.Forall₂ Code (bytes component) codes ∧ (encode component).toList = codes.flatten) ∧
      decode (encode component) = some component ∧ (∀ other, encode other = encode component → other = component) ∧
      (∀ more, encode (component ++ more) = encode component ++ encode more) ∧ (encode component = "" ↔ component = "") :=
  ⟨congrArg (written ++ ·) (encode_words escape escapes component), rfl, encode_codes component, decode_encode component,
    fun _ same => encode_injective same, encode_append component, encode_empty_iff component⟩

def escapeBytes (word : String) : String := String.ofList ((bytes word).flatMap escapeByte)

theorem escape_bytes_escapes : Escapes escapeBytes := fun _ => String.toList_ofList

theorem components_are_coded_bytewise_with_spaces :
    Escapes escapeBytes ∧ appendWords escapeBytes "a b/" " +ü  ~% " = "a b/" ++ "+%2B%C3%BC++~%25+" ∧
      decode "+%2B%C3%BC++~%25+" = some " +ü  ~% " :=
  ⟨escape_bytes_escapes, (components_are_coded_bytewise escapeBytes escape_bytes_escapes "a b/" " +ü  ~% ").1,
    (components_are_coded_bytewise escapeBytes escape_bytes_escapes "a b/" " +ü  ~% ").2.2.2.1⟩

end PathTemplates.Text
