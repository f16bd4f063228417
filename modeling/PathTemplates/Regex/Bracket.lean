import PathTemplates.Regex.Escape

set_option autoImplicit false

/-!
Reading sets of characters in brackets. Sets nest, and `&&`, `--` and `~~` combine all that stands to their left with
what stands to their right.
-/

namespace PathTemplates.Regex

def asciiSet? (name : String) : Option String :=
  match name with
  | "alnum" => some "30-39 41-5a 61-7a"
  | "alpha" => some "41-5a 61-7a"
  | "ascii" => some "0-7f"
  | "blank" => some "9 20"
  | "cntrl" => some "0-1f 7f"
  | "digit" => some "30-39"
  | "graph" => some "21-7e"
  | "lower" => some "61-7a"
  | "print" => some "20-7e"
  | "punct" => some "21-2f 3a-40 5b-60 7b-7e"
  | "space" => some "9-d 20"
  | "upper" => some "41-5a"
  | "word" => some "30-39 41-5a 5f 61-7a"
  | "xdigit" => some "30-39 41-46 61-66"
  | _ => none

def readAscii? : List Char → Option (ClassSet × List Char)
  | ':' :: text =>
      let negated : Bool := text.head? = some '^'
      let text := if negated then text.tail else text
      match text.dropWhile (· ≠ ':') with
      | ':' :: ']' :: rest =>
          (asciiSet? (String.ofList (text.takeWhile (· ≠ ':')))).map fun members => (.ascii members negated, rest)
      | _ => none
  | _ => none

def readClassAtom (spaced : Bool) : List Char → Except Fault (Tree × List Char)
  | [] => .error .unclosedClass
  | '\\' :: rest => readEscape spaced rest
  | c :: rest => .ok (.literal c false, rest)

def classItemOf : Tree → Except Fault ClassSet
  | .literal c _ => .ok (.char c)
  | .shorthand kind negated => .ok (.shorthand kind negated)
  | .property query negated => .ok (.property query negated)
  | _ => .error .badClassItem

-- The character that decides whether a hyphen makes a range: the next one that is no blank. In spaced mode one number
-- sign on the way counts as a blank.
def afterHyphen? (spaced passedSign : Bool) : List Char → Option Char
  | [] => none
  | c :: rest =>
      if !spaced then some c
      else if isBlank c then afterHyphen? spaced passedSign rest
      else if c = '#' && !passedSign then afterHyphen? spaced true rest
      else some c

def rangeOf : Tree → Tree → Except Fault ClassSet
  | .literal first _, .literal last _ => if first ≤ last then .ok (.range first last) else .error .badRange
  | _, _ => .error .badRange

def readRange (spaced : Bool) (first : Tree) (text : List Char) : Except Fault (ClassSet × List Char) := do
  match skip spaced text with
  | [] => .error .unclosedClass
  | '-' :: rest =>
      if afterHyphen? spaced false rest = some ']' || afterHyphen? spaced false rest = some '-' then
        return (← classItemOf first, '-' :: rest)
      else
        let (last, rest) ← readClassAtom spaced (skip spaced rest)
        return (← rangeOf first last, rest)
  | rest => return (← classItemOf first, rest)

def readClassItem (spaced : Bool) (text : List Char) : Except Fault (ClassSet × List Char) := do
  let (first, rest) ← readClassAtom spaced text
  readRange spaced first rest

def openClass (spaced : Bool) (text : List Char) : Except Fault (Bool × List ClassSet × List Char) :=
  let text := skip spaced text
  let negated : Bool := text.head? = some '^'
  let (hyphens, rest) := gatherAll spaced (· = '-') (if negated then text.tail else text)
  match hyphens, rest with
  | _, [] => .error .unclosedClass
  | [], ']' :: rest => .ok (negated, [.char ']'], rest)
  | hyphens, rest => .ok (negated, hyphens.map .char, rest)

def unionOf : List ClassSet → ClassSet
  | [] => .nothing
  | last :: others => others.foldl (fun rest item => .both item rest) last

def finishClass (left : Option (SetOperation × ClassSet)) (items : List ClassSet) : ClassSet :=
  match left with
  | some (kind, left) => .operation kind left (unionOf items)
  | none => unionOf items

-- Reads a set up to its closing bracket. `left` is the operation that waits for its right side, and `items` are the
-- items since then in reverse order.
def readClass : Nat → Bool → Option (SetOperation × ClassSet) → List ClassSet → List Char →
    Except Fault (ClassSet × List Char)
  | 0, _, _, _, _ => .error .unclosedClass
  | fuel + 1, spaced, left, items, text =>
      match skip spaced text with
      | ']' :: rest => .ok (finishClass left items, rest)
      | '[' :: rest =>
          match readAscii? rest with
          | some (item, rest) => readClass fuel spaced left (item :: items) rest
          | none => do
              let (negated, opening, rest) ← openClass spaced rest
              let (body, rest) ← readClass fuel spaced none opening rest
              readClass fuel spaced left (.bracket negated body :: items) rest
      | '&' :: '&' :: rest => readClass fuel spaced (some (.intersection, finishClass left items)) [] rest
      | '-' :: '-' :: rest => readClass fuel spaced (some (.difference, finishClass left items)) [] rest
      | '~' :: '~' :: rest => readClass fuel spaced (some (.symmetricDifference, finishClass left items)) [] rest
      | rest => do
          let (item, rest) ← readClassItem spaced rest
          readClass fuel spaced left (item :: items) rest

end PathTemplates.Regex
