import PathTemplates.Regex.Bracket
import PathTemplates.Regex.Count
import PathTemplates.Regex.Opening

set_option autoImplicit false

/-! Reading regular expressions: branches of items, the groups among them, and whole texts. -/

namespace PathTemplates.Regex

def sequenceOf : List Tree → Tree
  | [] => .empty
  | last :: others => others.foldl (fun rest item => .sequence item rest) last

def choiceOf : List Tree → Tree
  | [] => .empty
  | last :: others => others.foldl (fun rest branch => .choice branch rest) last

def repeatLast (least : Nat) (most : Option Nat) (items : List Tree) (text : List Char) :
    Except Fault (List Tree × List Char) :=
  match items with
  | [] | .empty :: _ | .flags _ :: _ => .error .nothingToRepeat
  | last :: others =>
      let (isLazy, rest) := readLazy text
      .ok (.repetition least most isLazy last :: others, rest)

def readItem (spaced : Bool) (items : List Tree) (c : Char) (rest : List Char) : Except Fault (List Tree × List Char) :=
  match c with
  | '[' => do
      let (negated, opening, rest) ← openClass spaced rest
      let (body, rest) ← readClass rest.length.succ spaced none opening rest
      return (.bracket negated body :: items, rest)
  | '?' => repeatLast 0 (some 1) items rest
  | '*' => repeatLast 0 none items rest
  | '+' => repeatLast 1 none items rest
  | '{' => do
      let ((least, most), rest) ← readCount spaced rest
      repeatLast least most items (skip spaced rest)
  | '\\' => do
      let (item, rest) ← readEscape spaced rest
      return (item :: items, rest)
  | '.' => .ok (.dot :: items, rest)
  | '^' => .ok (.assertion .lineStart :: items, rest)
  | '$' => .ok (.assertion .lineStop :: items, rest)
  | c => .ok (.literal c false :: items, rest)

-- Whether an opened group captures, the flags that it changes, and the names known in it.
def Opening.enter (names : List (List Char)) : Opening → Bool × FlagChange × List (List Char)
  | .named name => (true, [], name :: names)
  | .plain => (true, [], names)
  | .flags change | .switch change => (false, change, names)

-- Reads branches up to a closing parenthesis, which it leaves, or the end. `branches` are the finished ones and `items`
-- those of the branch being read, both in reverse order; the names of the groups come back with the rest.
def readBranches : Nat → Bool → List (List Char) → List Tree → List Tree → List Char →
    Except Fault (Tree × List (List Char) × List Char)
  | 0, _, _, _, _, _ => .error .tooDeep
  | fuel + 1, spaced, names, branches, items, text =>
      match skip spaced text with
      | [] => .ok (choiceOf (sequenceOf items :: branches), names, [])
      | ')' :: rest => .ok (choiceOf (sequenceOf items :: branches), names, ')' :: rest)
      | '|' :: rest => readBranches fuel spaced names (sequenceOf items :: branches) [] rest
      | '(' :: rest => do
          match ← openGroup spaced names rest with
          | (.switch change, rest) =>
              if change = [] then .error .nothingToRepeat
              else
                let spaced := (change.lookup .spaced).getD spaced
                readBranches fuel spaced names branches (.flags change :: items) rest
          | (opening, rest) =>
              let (captures, change, known) := opening.enter names
              let inner := (change.lookup .spaced).getD spaced
              match ← readBranches fuel inner known [] [] rest with
              | (body, names, ')' :: rest) =>
                  readBranches fuel spaced names branches (.group captures change body :: items) rest
              | _ => .error .unclosedGroup
      | c :: rest => do
          let (items, rest) ← readItem spaced items c rest
          readBranches fuel spaced names branches items rest

def Tree.ofText (text : List Char) : Except Fault Tree := do
  match ← readBranches text.length.succ false [] [] [] text with
  | (expression, _, []) => if expression.depth .none ≤ 250 then .ok expression else .error .tooDeep
  | _ => .error .unopenedGroup

end PathTemplates.Regex
