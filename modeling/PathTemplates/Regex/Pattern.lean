import PathTemplates.Regex.Tree
import PathTemplates.Unicode.Property

set_option autoImplicit false

/-!
What an expression demands of a text. `Spans text pattern i j` says that the pattern matches the characters of the
text from place `i` to place `j`.
-/

namespace PathTemplates.Regex

inductive Look where
  | textStart
  | textStop
  | lineStart (returns : Bool)
  | lineStop (returns : Bool)
  | boundary (unicode : Bool) (kind : Boundary)
  deriving DecidableEq, Repr

-- What an expression means. Capturing, greed and the mode that a set was written in do not bear on what matches, but on
-- how much room the automaton takes.
inductive Pattern where
  | empty
  | look (demand : Look)
  | one (set : CharSet) (unicode : Bool := true)
  | group (captures : Bool) (body : Pattern)
  | cat (first rest : Pattern)
  -- A choice between two branches, where the right one is a choice if there are more.
  | alt (left right : Pattern)
  | many (least : Nat) (most : Option Nat) (body : Pattern) (greedy : Bool := true)
  deriving DecidableEq, Repr

def Pattern.whole (body : Pattern) : Pattern := .cat (.look .textStart) (.cat body (.look .textStop))

def asciiWord : CharSet := .table "30-39 41-5a 5f 61-7a"

def isWord (unicode : Bool) (c : Option Char) : Bool :=
  c.any (if unicode then Unicode.Property.word else asciiWord).contains

def Boundary.holds (kind : Boundary) (before after : Bool) : Bool :=
  match kind with
  | .edge => before != after
  | .inside => before == after
  | .start => !before && after
  | .stop => before && !after
  | .startHalf => !before
  | .stopHalf => !after

def Look.holds (demand : Look) (before after : Option Char) : Bool :=
  match demand with
  | .textStart => before.isNone
  | .textStop => after.isNone
  | .lineStart false => before.isNone || before = some '\n'
  | .lineStop false => after.isNone || after = some '\n'
  | .lineStart true => before.isNone || before = some '\n' || (before = some '\r' && after ≠ some '\n')
  | .lineStop true => after.isNone || after = some '\r' || (after = some '\n' && before ≠ some '\r')
  | .boundary unicode kind => kind.holds (isWord unicode before) (isWord unicode after)

def before? (text : Array Char) : Nat → Option Char
  | 0 => none
  | i + 1 => text[i]?

def Chain (step : Nat → Nat → Prop) : Nat → Nat → Nat → Prop
  | 0, i, j => i = j
  | n + 1, i, k => ∃ j, step i j ∧ Chain step n j k

def Spans (text : Array Char) : Pattern → Nat → Nat → Prop
  | .empty, i, j => i = j
  | .look demand, i, j => i = j ∧ demand.holds (before? text i) text[i]? = true
  | .one set _, i, j => j = i + 1 ∧ ∃ c, text[i]? = some c ∧ set.contains c = true
  | .group _ body, i, j => Spans text body i j
  | .cat first rest, i, k => ∃ j, Spans text first i j ∧ Spans text rest j k
  | .alt left right, i, j => Spans text left i j ∨ Spans text right i j
  | .many least most body _, i, j => ∃ n, least ≤ n ∧ (∀ m ∈ most, n ≤ m) ∧ Chain (Spans text body) n i j

end PathTemplates.Regex
