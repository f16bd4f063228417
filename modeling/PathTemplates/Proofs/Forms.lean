import Mathlib
import PathTemplates.Value

set_option autoImplicit false

/-! Values are told apart by their forms alone. -/

namespace PathTemplates

theorem Text.decimal_eq_repr (n : Int) : decimal n = n.repr := by
  cases n with
  | ofNat n => rfl
  | negSucc n => simp [decimal, Int.repr, Int.negSucc_lt_zero]

theorem Text.decimal_injective (m n : Int) (same : decimal m = decimal n) : m = n := by
  rw [decimal_eq_repr, decimal_eq_repr] at same
  exact Int.repr_injective same

namespace Value

theorem same_iff_form (a b : Value) : a.same b = true ↔ a.form = b.form := by
  cases a with
  | int m =>
      cases b with
      | int n =>
          have forms : Text.decimal m.toInt = Text.decimal n.toInt ↔ m = n :=
            ⟨fun same => Int64.toInt_inj.mp (Text.decimal_injective _ _ same), fun same => by rw [same]⟩
          simpa only [same, form, decide_eq_true_eq] using forms.symm
      | text t => exact decide_eq_true_iff
  | text s =>
      cases b with
      | int n => exact decide_eq_true_iff
      | text t => exact decide_eq_true_iff

theorem same_slot_iff_form (a b : Option Value) : sameSlot a b = true ↔ a.map form = b.map form := by
  cases a <;> cases b <;> simp [sameSlot, same_iff_form]

end Value

end PathTemplates
