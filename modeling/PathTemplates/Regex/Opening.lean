import PathTemplates.Regex.Blank
import PathTemplates.Regex.Tree
import PathTemplates.Unicode.Newest

set_option autoImplicit false

/-! Reading how a group opens: with a name, with flags, or plainly. -/

namespace PathTemplates.Regex

def flag? : Char → Option Flag
  | 'i' => some .ignoreCase
  | 'm' => some .multiLine
  | 's' => some .dotAll
  | 'U' => some .swapGreed
  | 'u' => some .unicode
  | 'R' => some .returns
  | 'x' => some .spaced
  | _ => none

-- How a group opens: with a name of its own or without, or with flags for what is in it. A switch is flags by
-- themselves, for what follows.
inductive Opening where
  | named (name : List Char)
  | plain
  | flags (change : FlagChange)
  | switch (change : FlagChange)
  deriving DecidableEq, Repr

def readFlags (change : FlagChange) (negated afterHyphen : Bool) : List Char → Except Fault (Opening × List Char)
  | [] => .error .badFlags
  | c :: rest =>
      if c = ':' || c = ')' then
        if afterHyphen then .error .badFlags else .ok (if c = ':' then .flags change else .switch change, rest)
      else if c = '-' then if negated then .error .badFlags else readFlags change true true rest
      else
        match flag? c with
        | some flag =>
            if (change.lookup flag).isSome then .error .badFlags
            else readFlags ((flag, !negated) :: change) negated false rest
        | none => .error .badFlags

def startsName (c : Char) : Bool := c = '_' || Unicode.Newest.alphabetic.contains c

def continuesName (c : Char) : Bool :=
  startsName c || c = '.' || c = '[' || c = ']' || Unicode.Newest.number.contains c

def groupName (names : List (List Char)) : List Char → Except Fault (List Char)
  | [] => .error .badGroupName
  | c :: more =>
      if startsName c && more.all continuesName then
        if names.contains (c :: more) then .error .repeatedGroupName else .ok (c :: more)
      else .error .badGroupName

def readName (names : List (List Char)) (text : List Char) : Except Fault (List Char × List Char) := do
  match text.dropWhile (· ≠ '>') with
  | '>' :: rest => return (← groupName names (text.takeWhile (· ≠ '>')), rest)
  | _ => .error .badGroupName

def openMarked (names : List (List Char)) (text : List Char) : Except Fault (Opening × List Char) := do
  match text with
  | '=' :: _ | '!' :: _ | '<' :: '=' :: _ | '<' :: '!' :: _ => .error .lookaround
  | 'P' :: '<' :: rest | '<' :: rest =>
      let (name, rest) ← readName names rest
      return (.named name, rest)
  | rest => readFlags [] false false rest

def openGroup (spaced : Bool) (names : List (List Char)) (text : List Char) : Except Fault (Opening × List Char) :=
  match skip spaced text with
  | '?' :: rest => openMarked names rest
  | rest => .ok (.plain, rest)

end PathTemplates.Regex
