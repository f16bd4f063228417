import PathTemplates.Regex.Pattern

set_option autoImplicit false

/-!
Matching a pattern by the sets of places that it can reach. A set of places is a list in descending order, so that the
places ahead of all others are added in front.
-/

namespace PathTemplates.Regex

def mergePlace (a : Nat) (below : List Nat → List Nat) : List Nat → List Nat
  | [] => a :: below []
  | b :: bs =>
      if b < a then a :: below (b :: bs)
      else if a < b then b :: mergePlace a below bs
      else a :: below bs

def mergePlaces (as : List Nat) : List Nat → List Nat := as.foldr mergePlace id

def newPlace (a : Nat) (below : List Nat → List Nat) : List Nat → List Nat
  | [] => a :: below []
  | b :: bs =>
      if b < a then a :: below (b :: bs)
      else if a < b then newPlace a below bs
      else below bs

def newPlaces (as : List Nat) : List Nat → List Nat := as.foldr newPlace fun _ => []

-- Exactly `n` steps; once a step changes nothing, no further one does.
def stepTimes (step : List Nat → List Nat) : Nat → List Nat → List Nat
  | 0, places => places
  | n + 1, places =>
      let next := step places
      if next = places then places else stepTimes step n next

def stepUpTo (step : List Nat → List Nat) : Nat → List Nat → List Nat → List Nat
  | 0, _, reached => reached
  | n + 1, newest, reached =>
      match newPlaces (step newest) reached with
      | [] => reached
      | fresh => stepUpTo step n fresh (mergePlaces fresh reached)

-- Whether a demand is met between the bytes of one character that is not ASCII. To a demand on ASCII words these bytes
-- are no part of a word; no other demand is met there.
def Look.holdsInside : Look → Bool
  | .boundary false kind => kind.holds false false
  | _ => false

def Look.asksUnicode : Look → Bool
  | .boundary true _ => true
  | _ => false

namespace Pattern

def reach (text : Array Char) : Pattern → List Nat → List Nat
  | .empty, places => places
  | .look demand, places => places.filter fun i => demand.holds (before? text i) text[i]?
  | .one set _, places => (places.filter fun i => text[i]?.any set.contains).map (· + 1)
  | .group _ body, places => body.reach text places
  | .cat first rest, places => rest.reach text (first.reach text places)
  | .alt left right, places => mergePlaces (left.reach text places) (right.reach text places)
  | .many least most body _, places =>
      let start := stepTimes (body.reach text) least places
      let more := match most with
        | some most => most - least
        | none => text.size + 1
      stepUpTo (body.reach text) more start start

def holdsInside : Pattern → Bool
  | .empty => true
  | .look demand => demand.holdsInside
  | .one _ _ => false
  | .group _ body => body.holdsInside
  | .cat first rest => first.holdsInside && rest.holdsInside
  | .alt left right => left.holdsInside || right.holdsInside
  | .many least _ body _ => least = 0 || body.holdsInside

def asksUnicode : Pattern → Bool
  | .empty | .one _ _ => false
  | .look demand => demand.asksUnicode
  | .group _ body => body.asksUnicode
  | .many _ most body _ => most ≠ some 0 && body.asksUnicode
  | .cat first rest | .alt first rest => first.asksUnicode || rest.asksUnicode

def ascii : CharSet := .table "0-7f"

def onAscii : Pattern → Pattern
  | .one set unicode => .one (set.inter ascii) unicode
  | .group captures body => .group captures body.onAscii
  | .cat first rest => .cat first.onAscii rest.onAscii
  | .alt left right => .alt left.onAscii right.onAscii
  | .many least most body greedy => .many least most body.onAscii greedy
  | .empty => .empty
  | .look demand => .look demand

def matchesAmong (pattern : Pattern) (text : Array Char) : Bool :=
  !(pattern.reach text (List.range (text.size + 1)).reverse).isEmpty

-- Whether the pattern matches somewhere in a text. A search takes the match that ends first, and an empty match inside
-- a character sends it on behind that character. So a pattern that holds there can match among ASCII characters only. A
-- text of at most 128 bytes is searched from each place in turn if the pattern asks for words of Unicode, and then such
-- empty matches do not hide others.
def matchesIn (pattern : Pattern) (text : String) : Bool :=
  let chars := text.toList.toArray
  let hidden := pattern.holdsInside && !(pattern.asksUnicode && text.utf8ByteSize ≤ 128)
  (if hidden then pattern.onAscii else pattern).matchesAmong chars

end Pattern

end PathTemplates.Regex
