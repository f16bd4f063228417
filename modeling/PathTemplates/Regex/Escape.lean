import PathTemplates.Regex.Blank
import PathTemplates.Regex.Tree
import PathTemplates.Text.Numeral

set_option autoImplicit false

/-! Reading what follows a backslash: codes, properties, edges of words, shorthands and marks. -/

namespace PathTemplates.Regex

def isHex (c : Char) : Bool := (Text.digit? 16 c).isSome

def charOfHex? (digits : List Char) : Option Char := do
  let code ← if digits = [] then none else Text.ofDigits? 16 digits
  if code.isValidChar then some (Char.ofNat code) else none

def readCode (spaced : Bool) (size : Nat) (text : List Char) : Except Fault (Tree × List Char) :=
  match skip spaced text with
  | '{' :: rest =>
      match gatherAll spaced isHex rest with
      | (digits, '}' :: rest) =>
          match charOfHex? digits with
          | some c => .ok (.literal c false, rest)
          | none => .error .badEscape
      | _ => .error .badEscape
  | text =>
      let (digits, rest) := gather spaced isHex false size text
      if digits.length = size then
        match charOfHex? digits with
        | some c => .ok (.literal c (size = 2), rest)
        | none => .error .badEscape
      else .error .badEscape

def partAt? (separator : List Char) : List Char → Option (List Char × List Char)
  | [] => none
  | c :: rest =>
      if separator.isPrefixOf (c :: rest) then some ([], (c :: rest).drop separator.length)
      else (partAt? separator rest).map fun (left, right) => (c :: left, right)

-- A query names a property, or a property and its value with `!=`, `:` or `=` between them. With `!=` it asks for every
-- other value, which the second component tells.
def queryOf (text : List Char) : PropertyQuery × Bool :=
  match partAt? ['!', '='] text with
  | some (property, value) => (.valued (String.ofList property) (String.ofList value), true)
  | none =>
      match partAt? [':'] text <|> partAt? ['='] text with
      | some (property, value) => (.valued (String.ofList property) (String.ofList value), false)
      | none => (.alone (String.ofList text), false)

def readProperty (spaced negated : Bool) (text : List Char) : Except Fault (Tree × List Char) :=
  match skip spaced text with
  | [] => .error .badEscape
  | '{' :: rest =>
      match gatherAll spaced (· ≠ '}') rest with
      | (name, '}' :: rest) =>
          let (query, others) := queryOf name
          .ok (.property query (negated != others), rest)
      | _ => .error .badEscape
  | '\\' :: _ => .error .badEscape
  | c :: rest => .ok (.property (.alone (String.ofList [c])) negated, rest)

def isBoundaryChar (c : Char) : Bool := c.isAlpha || c = '-'

-- Reads the name in braces that may follow an edge of a word. Braces that hold no name are left for a count.
def readEdge (spaced : Bool) (text : List Char) : Except Fault (Tree × List Char) :=
  match text with
  | '{' :: inner =>
      match skip spaced inner with
      | [] => .error .badBoundary
      | c :: _ =>
          if isBoundaryChar c then
            match gatherAll spaced isBoundaryChar inner with
            | (name, '}' :: rest) =>
                match String.ofList name with
                | "start" => .ok (.assertion (.boundary .start), rest)
                | "end" => .ok (.assertion (.boundary .stop), rest)
                | "start-half" => .ok (.assertion (.boundary .startHalf), rest)
                | "end-half" => .ok (.assertion (.boundary .stopHalf), rest)
                | _ => .error .badBoundary
            | _ => .error .badBoundary
          else .ok (.assertion (.boundary .edge), text)
  | _ => .ok (.assertion (.boundary .edge), text)

def readEscape (spaced : Bool) : List Char → Except Fault (Tree × List Char)
  | [] => .error .badEscape
  | 'x' :: rest => readCode spaced 2 rest
  | 'u' :: rest => readCode spaced 4 rest
  | 'U' :: rest => readCode spaced 8 rest
  | 'p' :: rest => readProperty spaced false rest
  | 'P' :: rest => readProperty spaced true rest
  | 'd' :: rest => .ok (.shorthand .digit false, rest)
  | 'D' :: rest => .ok (.shorthand .digit true, rest)
  | 's' :: rest => .ok (.shorthand .space false, rest)
  | 'S' :: rest => .ok (.shorthand .space true, rest)
  | 'w' :: rest => .ok (.shorthand .word false, rest)
  | 'W' :: rest => .ok (.shorthand .word true, rest)
  | 'a' :: rest => .ok (.literal '\x07' false, rest)
  | 'f' :: rest => .ok (.literal '\x0c' false, rest)
  | 't' :: rest => .ok (.literal '\t' false, rest)
  | 'n' :: rest => .ok (.literal '\n' false, rest)
  | 'r' :: rest => .ok (.literal '\r' false, rest)
  | 'v' :: rest => .ok (.literal '\x0b' false, rest)
  | 'A' :: rest => .ok (.assertion .textStart, rest)
  | 'z' :: rest => .ok (.assertion .textStop, rest)
  | 'b' :: rest => readEdge spaced rest
  | 'B' :: rest => .ok (.assertion (.boundary .inside), rest)
  | '<' :: rest => .ok (.assertion (.boundary .start), rest)
  | '>' :: rest => .ok (.assertion (.boundary .stop), rest)
  | c :: rest => if c.toNat < 0x80 && !c.isAlphanum then .ok (.literal c false, rest) else .error .badEscape

end PathTemplates.Regex
