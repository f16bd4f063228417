import PathTemplates.Text.Numeral

set_option autoImplicit false

/-! What a parameter holds: an integer of 64 bits or a text. Values are compared and written by their form. -/

namespace PathTemplates

inductive Value where
  | int (n : Int64)
  | text (s : String)
  deriving DecidableEq, Repr

namespace Value

def form : Value → String
  | .int n => Text.decimal n.toInt
  | .text s => s

-- Whether two values have one form; the form of an integer is only written to compare it with a text.
def same : Value → Value → Bool
  | .int m, .int n => m = n
  | .text s, .text t => s = t
  | a, b => a.form = b.form

def sameSlot : Option Value → Option Value → Bool
  | some a, some b => a.same b
  | none, none => true
  | _, _ => false

end Value

end PathTemplates
