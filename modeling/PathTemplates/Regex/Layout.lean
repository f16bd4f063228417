import PathTemplates.Regex.Pattern

set_option autoImplicit false

/-!
The layout of a pattern: what of it is written out as states of an automaton. Neighbouring characters are one text, a
choice between characters is one set, and what all branches of a choice begin with stands before it.
-/

namespace PathTemplates.Regex

-- A pattern without needless parts. `cat` and `alt` nest to the right only.
inductive Layout where
  | empty
  | look (demand : Look)
  | text (chars : List Char)
  | set (members : CharSet) (unicode : Bool)
  | group (body : Layout)
  | cat (first rest : Layout)
  | alt (first rest : Layout)
  | many (least : Nat) (most : Option Nat) (greedy : Bool) (body : Layout)
  deriving DecidableEq, Repr

namespace Layout

def ofSet (set : CharSet) (unicode : Bool) : Layout :=
  match set.only? with
  | some code => .text [Char.ofNat code]
  | none => .set set (unicode && !set.isEmpty)

def items : Layout → List Layout
  | .empty => []
  | .cat first rest => first :: rest.items
  | layout => [layout]

def branches : Layout → List Layout
  | .alt first rest => first :: rest.branches
  | layout => [layout]

def before : Layout → Layout → Layout
  | .text chars, .text more => .text (chars ++ more)
  | .text chars, .cat (.text more) rest => .cat (.text (chars ++ more)) rest
  | item, .empty => item
  | item, rest => .cat item rest

def andThen : Layout → Layout → Layout
  | .empty, rest => rest
  | .cat first more, rest => before first (more.andThen rest)
  | item, rest => before item rest

def ofItems (items : List Layout) : Layout := items.foldr before .empty

def ofBranches : List Layout → Layout
  | [] => .empty
  | [branch] => branch
  | branch :: more => .alt branch (ofBranches more)

def captures : Layout → Bool
  | .group _ => true
  | .many _ _ _ body => body.captures
  | .cat first rest | .alt first rest => first.captures || rest.captures
  | _ => false

-- What both lists begin with. A group that captures is like no other.
def sharedItems : List Layout → List Layout → List Layout
  | a :: as, b :: bs => if a = b && !a.captures then a :: sharedItems as bs else []
  | _, _ => []

def lead : List Layout → List Layout
  | [] => []
  | first :: more =>
      if (first :: more).all (1 < ·.items.length) then
        more.foldl (fun shared branch => sharedItems shared branch.items) first.items
      else []

def char? : Layout → Option Nat
  | .text [c] => some c.toNat
  | _ => none

def set? : Layout → Option CharSet
  | .set members _ => some members
  | _ => none

-- The choice between branches: a set if all are characters or all are sets, or else what they all begin with and then
-- the choice between their remainders. `fuel` bounds how often that is.
def chooseFrom : Nat → List Layout → Layout
  | fuel, layouts =>
      match layouts.flatMap branches with
      | [] => .empty
      | [branch] => branch
      | all =>
          match all.mapM char?, all.mapM set? with
          | some codes, _ => ofSet (.ofCodes codes) true
          | none, some sets => ofSet (.unions sets) true
          | none, none =>
              match fuel, lead all with
              | _, [] | 0, _ => ofBranches all
              | fuel + 1, shared =>
                  (ofItems shared).andThen
                    (chooseFrom fuel (all.map fun branch => ofItems (branch.items.drop shared.length)))

def choose : List Layout → Layout
  | [] => .empty
  | [layout] => layout
  | first :: more => chooseFrom first.items.length (first :: more)

def isWidthless : Layout → Bool
  | .empty | .look _ => true
  | .text _ | .set _ _ => false
  | .group body => body.isWidthless
  | .cat first rest | .alt first rest => first.isWidthless && rest.isWidthless
  | .many _ _ _ body => body.isWidthless

-- Whether every text that matches has a character; `none` if the layout needs a character of no set.
def isLong? : Layout → Option Bool
  | .empty | .look _ => some false
  | .text _ => some true
  | .set members _ => if members.isEmpty then none else some true
  | .group body => body.isLong?
  | .cat first rest => return (← first.isLong?) || (← rest.isLong?)
  | .alt first rest => return (← first.isLong?) && (← rest.isLong?)
  | .many least _ _ body => return 0 < least && (← body.isLong?)

-- Repeats a layout. To repeat what matches only the empty text more than once changes nothing.
def times (least : Nat) (most : Option Nat) (greedy : Bool) (body : Layout) : Layout :=
  let (least, most) := if body.isWidthless then (min least 1, some (min (most.getD 1) 1)) else (least, most)
  if most = some 0 then .empty
  else if least = 1 && most = some 1 then body
  else .many least most greedy body

def isAnchored (backward : Bool) : Layout → Bool
  | .look demand => demand = if backward then .textStop else .textStart
  | .group body => body.isAnchored backward
  | .cat first rest =>
      if backward then rest.isAnchored backward || rest.isWidthless && first.isAnchored backward
      else first.isAnchored backward || first.isWidthless && rest.isAnchored backward
  | .alt first rest => first.isAnchored backward && rest.isAnchored backward
  | .many least _ _ body => 0 < least && body.isAnchored backward
  | _ => false

end Layout

def Pattern.layouts : Pattern → List Layout
  | .empty => [.empty]
  | .look demand => [.look demand]
  | .one set unicode => [.ofSet set unicode]
  | .group captures body => [if captures then .group (.choose body.layouts) else .choose body.layouts]
  | .cat first rest => [(Layout.choose first.layouts).andThen (.choose rest.layouts)]
  | .alt left right => .choose left.layouts :: right.layouts
  | .many least most body greedy => [.times least most greedy (.choose body.layouts)]

def Pattern.layout (pattern : Pattern) : Layout := .choose pattern.layouts

end PathTemplates.Regex
