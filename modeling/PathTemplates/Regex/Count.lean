import PathTemplates.Regex.Blank
import PathTemplates.Regex.Tree
import PathTemplates.Text.Numeral

set_option autoImplicit false

/-! Reading how often a part is repeated. -/

namespace PathTemplates.Regex

def numberOf (digits : List Char) : Except Fault (Option Nat) :=
  if digits = [] then .ok none
  else
    match (Text.ofDigits? 10 digits).filter (· < UInt32.size) with
    | some number => .ok (some number)
    | none => .error .badCount

-- Reads a number with blanks around it; `none` if no digit stands there.
def readNumber (spaced : Bool) (text : List Char) : Except Fault (Option Nat × List Char) := do
  let (digits, rest) := gatherAll spaced Char.isDigit (text.dropWhile isBlank)
  return (← numberOf digits, rest.dropWhile isBlank)

def readMost (spaced : Bool) (least : Nat) (text : List Char) : Except Fault ((Nat × Option Nat) × List Char) := do
  match skip spaced text with
  | '}' :: rest => .ok ((least, none), rest)
  | rest =>
      match ← readNumber spaced rest with
      | (some most, '}' :: rest) => if least ≤ most then .ok ((least, some most), rest) else .error .badCount
      | _ => .error .badCount

def readCount (spaced : Bool) (text : List Char) : Except Fault ((Nat × Option Nat) × List Char) := do
  match ← readNumber spaced (skip spaced text) with
  | (some least, '}' :: rest) => .ok ((least, some least), rest)
  | (some least, ',' :: rest) => readMost spaced least rest
  | _ => .error .badCount

def readLazy : List Char → Bool × List Char
  | '?' :: rest => (true, rest)
  | text => (false, text)

end PathTemplates.Regex
