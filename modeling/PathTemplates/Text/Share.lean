set_option autoImplicit false

/-! A share in six decimal places. The quotient is first rounded to a binary number of 53 digits, then to the places. -/

namespace PathTemplates.Text

-- The nearest whole number to a quotient; a half goes to the even neighbour.
def roundDiv (number divisor : Nat) : Nat :=
  let below := number / divisor
  let rest := number % divisor
  if 2 * rest < divisor || (2 * rest = divisor && below % 2 = 0) then below else below + 1

-- How often a positive quotient that is at most one has to be doubled to get a whole part of 53 binary digits.
def binaryPlaces (part whole : Nat) : Nat :=
  let places := 52 + whole.log2 - part.log2
  if (part <<< places) / whole < 1 <<< 52 then places + 1 else places

def millionths (part whole : Nat) : Nat :=
  if part = 0 || whole = 0 then 0
  else
    let places := binaryPlaces part whole
    roundDiv (roundDiv (part <<< places) whole * 1000000) (1 <<< places)

def share (part whole : Nat) : String :=
  let value := millionths part whole
  let places := Nat.toDigits 10 (value % 1000000)
  (value / 1000000).repr ++ "." ++ String.ofList (List.replicate (6 - places.length) '0' ++ places)

end PathTemplates.Text
