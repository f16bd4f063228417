import PathTemplates.Regex.NamedSet
import PathTemplates.Regex.Pattern
import PathTemplates.Regex.Reader
import PathTemplates.Unicode.CaseFold

set_option autoImplicit false

/-! The pattern that a written expression stands for under the flags in force. -/

namespace PathTemplates.Regex

structure Modes where
  ignoreCase : Bool := false
  multiLine : Bool := false
  dotAll : Bool := false
  swapGreed : Bool := false
  unicode : Bool := true
  returns : Bool := false
  deriving DecidableEq, Repr

namespace Modes

def change (modes : Modes) (change : FlagChange) : Modes where
  ignoreCase := (change.lookup .ignoreCase).getD modes.ignoreCase
  multiLine := (change.lookup .multiLine).getD modes.multiLine
  dotAll := (change.lookup .dotAll).getD modes.dotAll
  swapGreed := (change.lookup .swapGreed).getD modes.swapGreed
  unicode := (change.lookup .unicode).getD modes.unicode
  returns := (change.lookup .returns).getD modes.returns

def asciiLetters : List (Nat × Nat) := (List.range 26).map fun i => (0x41 + i, 0x61 + i)

def fold (modes : Modes) (set : CharSet) : CharSet :=
  if !modes.ignoreCase then set
  else if modes.unicode then Unicode.CaseFold.close set
  else
    let touched := asciiLetters.filter fun (capital, small) => set.hasCode capital || set.hasCode small
    set.union (.ofCodes (touched.flatMap fun (capital, small) => [capital, small]))

-- Refuses a set that, outside Unicode mode, would hold bytes that are no characters.
def checked (modes : Modes) (set : CharSet) : Except Fault CharSet :=
  if modes.unicode || set.isAscii then .ok set else .error .partOfCharacter

def negate (negated : Bool) (set : CharSet) : CharSet := if negated then set.compl else set

def shorthandSet (modes : Modes) (kind : Shorthand) : CharSet :=
  match kind, modes.unicode with
  | .digit, true => Unicode.Category.decimalNumber
  | .digit, false => .table "30-39"
  | .space, true => Unicode.Property.whiteSpace
  | .space, false => .table "9-d 20"
  | .word, true => Unicode.Property.word
  | .word, false => asciiWord

def shorthand (modes : Modes) (kind : Shorthand) (negated : Bool) : Except Fault CharSet :=
  modes.checked (negate negated (modes.shorthandSet kind))

def property (modes : Modes) (query : PropertyQuery) (negated : Bool) : Except Fault CharSet :=
  if !modes.unicode then .error .partOfCharacter
  else
    match query.set? with
    | some set => .ok (negate negated (modes.fold set))
    | none => .error .unknownProperty

-- The characters of a set in brackets. Case is folded before a negation and before an operation.
def classSet (modes : Modes) : ClassSet → Except Fault CharSet
  | .nothing => .ok .empty
  | .char c => modes.checked (.single c)
  | .range first last => modes.checked ⟨[⟨first.toNat, last.toNat⟩]⟩
  | .ascii members negated => modes.checked (negate negated (modes.fold (.table members)))
  | .shorthand kind negated => modes.shorthand kind negated
  | .property query negated => modes.property query negated
  | .bracket negated body => do modes.checked (negate negated (modes.fold (← modes.classSet body)))
  | .both first rest => return (← modes.classSet first).union (← modes.classSet rest)
  | .operation kind left right => do
      let left := modes.fold (← modes.classSet left)
      let right := modes.fold (← modes.classSet right)
      match kind with
      | .intersection => return left.inter right
      | .difference => return left.diff right
      | .symmetricDifference => return left.symmDiff right

def literal (modes : Modes) (c : Char) (isByte : Bool) : Except Fault CharSet :=
  if !modes.unicode && isByte && 0x80 ≤ c.toNat then .error .partOfCharacter else .ok (modes.fold (.single c))

def dot (modes : Modes) : Except Fault CharSet :=
  if !modes.unicode then .error .partOfCharacter
  else if modes.dotAll then .ok .all
  else if modes.returns then .ok (CharSet.compl (.table "a d"))
  else .ok (CharSet.compl (.table "a"))

def look (modes : Modes) (kind : Assertion) : Look :=
  match kind with
  | .lineStart => if modes.multiLine then .lineStart modes.returns else .textStart
  | .lineStop => if modes.multiLine then .lineStop modes.returns else .textStop
  | .textStart => .textStart
  | .textStop => .textStop
  | .boundary kind => .boundary modes.unicode kind

end Modes

-- The pattern of an expression, and the flags in force after it. Flags reach to the end of their group, over the
-- branches that follow in it.
def Tree.pattern (modes : Modes) : Tree → Except Fault (Pattern × Modes)
  | .empty => .ok (.empty, modes)
  | .flags change => .ok (.empty, modes.change change)
  | .literal c isByte => return (.one (← modes.literal c isByte) modes.unicode, modes)
  | .dot => return (.one (← modes.dot) modes.unicode, modes)
  | .assertion kind => .ok (.look (modes.look kind), modes)
  | .shorthand kind negated => return (.one (← modes.shorthand kind negated) modes.unicode, modes)
  | .property query negated => return (.one (← modes.property query negated) modes.unicode, modes)
  | .bracket negated body => return (.one (← modes.classSet (.bracket negated body)) modes.unicode, modes)
  | .repetition least most isLazy body => do
      let (body, modes) ← body.pattern modes
      return (.many least most body (isLazy == modes.swapGreed), modes)
  | .group captures change body => do
      let (body, _) ← body.pattern (modes.change change)
      return (.group captures body, modes)
  | .sequence first rest => do
      let (first, modes) ← first.pattern modes
      let (rest, modes) ← rest.pattern modes
      return (.cat first rest, modes)
  | .choice first rest => do
      let (first, modes) ← first.pattern modes
      let (rest, modes) ← rest.pattern modes
      return (.alt first rest, modes)

end PathTemplates.Regex
