import PathTemplates.Proofs.Keys
import PathTemplates.Proofs.Numerals

set_option autoImplicit false

/-!
Values are compared without being written where both are integers or both are texts, and the comparison still says what comparing
their forms would. The form of an integer is the one canonical numeral of it, down to the least integer, and is what comes of writing
the integer digit by digit.
-/

namespace PathTemplates

namespace Text

-- A shortest numeral, behind a minus if and only if the number is below zero.
inductive CanonicalDecimal : Int → List Char → Prop
  | natural (n : Nat) (digits : List Char) : Shortest digits n → CanonicalDecimal n digits
  | negative (n : Nat) (digits : List Char) : 0 < n → Shortest digits n → CanonicalDecimal (-n) ('-' :: digits)

-- Writes the digits of a number behind a text, the last of them behind all others.
def writeDigits (written : String) (n : Nat) : String :=
  if n < 10 then written.push n.digitChar else (writeDigits written (n / 10)).push (n % 10).digitChar

theorem decimal_natural (n : Nat) : (decimal n).toList = Nat.toDigits 10 n := by
  have notNegative : ¬ (n : Int) < 0 := by omega
  rw [decimal, if_neg notNegative, Int.natAbs_natCast, Nat.repr_eq_ofList_toDigits, String.toList_ofList]

theorem decimal_negative (n : Nat) (positive : 0 < n) : (decimal (-n)).toList = '-' :: Nat.toDigits 10 n := by
  have negative : (-n : Int) < 0 := by omega
  rw [decimal, if_pos negative, Int.natAbs_neg, Int.natAbs_natCast, Nat.repr_eq_ofList_toDigits, String.toList_append,
    String.toList_ofList, String.toList_ofList, List.singleton_append]

theorem canonical_iff_decimal (n : Int) (text : List Char) : CanonicalDecimal n text ↔ text = (decimal n).toList := by
  constructor
  · intro canonical
    cases canonical with
    | natural n digits shortest => rw [decimal_natural, (shortest_iff_to_digits _ n).mp shortest]
    | negative n digits positive shortest => rw [decimal_negative n positive, (shortest_iff_to_digits _ n).mp shortest]
  · rintro rfl
    rcases lt_or_ge n 0 with below | above
    · obtain ⟨magnitude, rfl⟩ := Int.exists_eq_neg_ofNat (Int.le_of_lt below)
      have positive : 0 < magnitude := by omega
      rw [decimal_negative magnitude positive]
      exact .negative magnitude _ positive ((shortest_iff_to_digits _ _).mpr rfl)
    · obtain ⟨magnitude, rfl⟩ := Int.eq_ofNat_of_zero_le above
      rw [decimal_natural]
      exact .natural magnitude _ ((shortest_iff_to_digits _ _).mpr rfl)

theorem write_digits_eq (written : String) (n : Nat) : writeDigits written n = written ++ n.repr := by
  rw [← String.toList_inj, String.toList_append, Nat.repr_eq_ofList_toDigits, String.toList_ofList]
  induction n using Nat.strong_induction_on with
  | h n ih =>
      rw [writeDigits, Nat.toDigits_eq_if (by decide)]
      by_cases single : n < 10
      · rw [if_pos single, if_pos single, String.toList_push]
      · have less : n / 10 < n := by omega
        rw [if_neg single, if_neg single, String.toList_push, ih _ less, List.append_assoc]

end Text

namespace Value

-- How far an integer is from zero, in a word without a sign; no integer is as far above zero as the least one is below.
def magnitude (n : Int64) : UInt64 := if n < 0 then ~~~n.toUInt64 + 1 else n.toUInt64

def write (written : String) : Value → String
  | .int n => Text.writeDigits (if n < 0 then written.push '-' else written) (magnitude n).toNat
  | .text s => written ++ s

theorem magnitude_eq (n : Int64) : (magnitude n).toNat = n.toInt.natAbs := by
  have value : n.toInt = if 2 * n.toUInt64.toNat < 2 ^ 64 then (n.toUInt64.toNat : Int) else n.toUInt64.toNat - (2 ^ 64 : Nat) :=
    BitVec.toInt_eq_toNat_cond n.toBitVec
  have sign : n < 0 ↔ n.toInt < 0 := Int64.lt_iff_toInt_lt
  have bound := n.toUInt64.toNat_lt
  unfold magnitude
  by_cases small : 2 * n.toUInt64.toNat < 2 ^ 64
  · rw [if_pos small] at value
    have natural : ¬ n < 0 := by
      rw [sign]
      omega
    rw [if_neg natural, value, Int.natAbs_natCast]
  · rw [if_neg small] at value
    have negative : n < 0 := by
      rw [sign]
      omega
    rw [if_pos negative, UInt64.toNat_add, UInt64.toNat_not, value]
    simp only [UInt64.size, UInt64.toNat_one]
    omega

theorem write_eq (value : Value) (written : String) : value.write written = written ++ value.form := by
  cases value with
  | text s => rfl
  | int n =>
      have sign : n < 0 ↔ n.toInt < 0 := Int64.lt_iff_toInt_lt
      rw [write, form, Text.write_digits_eq, magnitude_eq, Text.decimal]
      by_cases negative : n < 0
      · rw [if_pos negative, if_pos (sign.mp negative), ← String.append_assoc]
        rfl
      · rw [if_neg negative, if_neg fun below => negative (sign.mpr below)]

theorem same_equivalence : Equivalence fun a b : Value => a.same b = true := by
  simp only [same_iff_form]
  exact eq_equivalence.comap form

theorem same_slot_equivalence : Equivalence fun a b : Option Value => sameSlot a b = true := by
  simp only [same_slot_iff_form]
  exact eq_equivalence.comap (Option.map form)

theorem absent_same_iff (slot : Option Value) : sameSlot none slot = true ↔ slot = none := by
  cases slot <;> simp [sameSlot]

theorem same_text_iff (n : Int64) (text : String) : (int n).same (.text text) = true ↔ Text.CanonicalDecimal n.toInt text.toList := by
  rw [same_iff_form, Text.canonical_iff_decimal, String.toList_inj, eq_comm]
  rfl

end Value

theorem sameness_follows_forms :
    (∀ a b : Value, a.same b = true ↔ a.form = b.form) ∧
      (∀ (value : Value) (written : String), value.write written = written ++ value.form) ∧
      (∀ (params : Params) (name text : String),
        (name, text) ∈ params.key ↔ ∃ value, params.value? name = some value ∧ value.write "" = text) ∧
      (Equivalence fun a b : Value => a.same b = true) ∧
      (Equivalence fun a b : Option Value => Value.sameSlot a b = true) ∧
      (∀ a b : Value, Value.sameSlot (some a) (some b) = a.same b) ∧
      (∀ slot, Value.sameSlot none slot = true ↔ slot = none) ∧
      ∀ n : Int64, (∃! text, (Value.int n).same (.text text) = true) ∧
        ∀ text, (Value.int n).same (.text text) = true ↔ Text.CanonicalDecimal n.toInt text.toList := by
  refine ⟨Value.same_iff_form, Value.write_eq, fun params name text => ?_, Value.same_equivalence, Value.same_slot_equivalence,
    fun _ _ => rfl, Value.absent_same_iff, fun n => ⟨⟨Text.decimal n.toInt, ?_, ?_⟩, Value.same_text_iff n⟩⟩
  · simp only [Params.mem_key_iff, Value.write_eq, String.empty_append]
  · exact (Value.same_iff_form _ _).mpr rfl
  · intro text same
    exact ((Value.same_iff_form _ _).mp same).symm

end PathTemplates
