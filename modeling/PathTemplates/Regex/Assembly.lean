import PathTemplates.Regex.Encoding
import PathTemplates.Regex.Layout
import PathTemplates.Regex.Memo

set_option autoImplicit false

/-!
How much room the automata of a pattern take, in bytes. There are two: one reads the UTF-8 form of a text forward and
keeps the ends of groups, the other reads it backward. A state takes 32 bytes, a transition of a table 8 more and a
branch 4 more. Counted repetitions are written out.
-/

namespace PathTemplates.Regex

structure Assembly where
  states : Nat := 0
  room : Nat := 0
  memo : Memo
  deriving Repr

namespace Assembly

def limit : Nat := 10 * 1024 * 1024

def add (extra : Nat) (assembly : Assembly) : Assembly :=
  { assembly with states := assembly.states + 1, room := assembly.room + 32 + extra }

def addBranch (assembly : Assembly) : Assembly := { assembly with room := assembly.room + 4 }

def share (key : List Nat) (extra : Nat) (assembly : Assembly) : Nat × Assembly :=
  match assembly.memo.get? key with
  | some state => (state, assembly)
  | none =>
      let state := assembly.states
      let memo := assembly.memo.put key state
      (state, { states := state + 1, room := assembly.room + 32 + extra, memo })

def copies (part : Assembly → Assembly) : Nat → Assembly → Assembly
  | 0, assembly => assembly
  | n + 1, assembly => if limit < assembly.room then assembly else copies part n (part assembly)

def addBackward : Nat → List ByteRange → Assembly → Assembly
  | _, [], assembly => assembly
  | state, (first, last) :: rest, assembly =>
      let (state, assembly) := assembly.share [state, first, last] 0
      addBackward state rest assembly

-- Adds the states of words that are read forward and end in `stop`; gives the number of the first. States with the same
-- transitions are one.
def addForward (stop : Nat) : Nat → List (List ByteRange) → Assembly → Nat × Assembly
  | 0, _, assembly => (stop, assembly)
  | fuel + 1, words, assembly =>
      if words.all List.isEmpty then (stop, assembly)
      else
        let (transitions, assembly) := (byFirst words).foldl (fun (transitions, assembly) ((first, last), rests) =>
          let (next, assembly) := addForward stop fuel rests assembly
          (transitions ++ [first, last, next], assembly)) ([], assembly)
        assembly.share transitions (8 * (transitions.length / 3))

def addSet (backward : Bool) (set : CharSet) (assembly : Assembly) : Assembly :=
  if set.isAscii then (assembly.add 0).add (8 * set.ranges.length)
  else if backward then
    let stop := assembly.states + 1
    (CharSet.byteWords set).foldl (fun assembly word => (assembly.addBackward stop word).addBranch)
      ((assembly.add 0).add 0)
  else ((assembly.add 0).addForward assembly.states 4 (CharSet.byteWords set)).2

def partAtEmpty : List (List ByteRange) → List (List (List ByteRange))
  | [] => [[]]
  | [] :: rest => [] :: partAtEmpty rest
  | word :: rest =>
      match partAtEmpty rest with
      | part :: parts => (word :: part) :: parts
      | [] => [[word]]

-- Adds the states that choose between words, where an earlier word comes before a later one. Words with a common
-- beginning share its states unless a word that ends there stands between them.
def addWords : Nat → List (List ByteRange) → Assembly → Assembly
  | 0, _, assembly => assembly
  | fuel + 1, words, assembly =>
      let later := words.dropWhile List.isEmpty
      let parts := partAtEmpty later
      let ends := (if later.length < words.length then 1 else 0) + (parts.length - 1)
      let full := parts.filter (!·.isEmpty)
      let assembly := full.foldl (fun assembly part =>
        let firsts := byFirst part
        let assembly := firsts.foldl (fun assembly (_, rests) =>
          if rests.all List.isEmpty then assembly else addWords fuel rests assembly) assembly
        assembly.add (if firsts.length = 1 then 0 else 8 * firsts.length)) assembly
      assembly.add (4 * (ends + full.length))

end Assembly

inductive BranchPlace where
  | first
  | second
  | later
  deriving DecidableEq, Repr

namespace BranchPlace

def next : BranchPlace → BranchPlace
  | first => second
  | _ => later

-- Adds what a choice needs behind the branch at this place. The states that part and join the branches come with the
-- second one.
def close (place : BranchPlace) (assembly : Assembly) : Assembly :=
  match place with
  | first => assembly
  | second => (assembly.add 8).add 0
  | later => assembly.addBranch

end BranchPlace

namespace Layout

def texts? (layout : Layout) : Option (List (List Char)) :=
  layout.branches.mapM fun
    | .text chars => some chars
    | _ => none

def assemble (backward : Bool) : BranchPlace → Layout → Assembly → Assembly
  | place, .empty, assembly => place.close (assembly.add 0)
  | place, .look _, assembly => place.close (assembly.add 0)
  | place, .text chars, assembly => place.close (Assembly.copies (·.add 0) (textWord chars).length assembly)
  | place, .set members _, assembly => place.close (assembly.addSet backward members)
  | place, .group body, assembly =>
      if backward then place.close (body.assemble backward .first assembly)
      else place.close ((body.assemble backward .first (assembly.add 0)).add 0)
  | place, .cat first rest, assembly =>
      if backward then place.close (first.assemble backward .first (rest.assemble backward .first assembly))
      else place.close (rest.assemble backward .first (first.assemble backward .first assembly))
  | place, .alt first rest, assembly =>
      match if place = .first then texts? (.alt first rest) else none with
      | some texts =>
          let words := texts.map textWord
          let words := if backward then words.map List.reverse else words
          Assembly.addWords ((words.map List.length).foldl max 0 + 1) words (assembly.add 0)
      | none =>
          rest.assemble backward place.next (place.close (first.assemble backward .first assembly))
  | place, .many least most _ body, assembly =>
      let once := body.assemble backward .first
      place.close <|
        match least, most with
        | 0, some 1 => (once (assembly.add 8)).add 0
        | 0, none =>
            if body.isLong? = some true then once (assembly.add 8)
            else (((once assembly).add 8).add 8).add 0
        | least, none => (Assembly.copies once least assembly).add 8
        | least, some most =>
            let assembly := if least = 0 then assembly.add 0 else Assembly.copies once least assembly
            if least = most then assembly
            else Assembly.copies (fun assembly => once (assembly.add 8)) (most - least) (assembly.add 0)

-- The room that the automaton of a layout takes. It begins with a loop over what precedes a match, unless every match
-- stands at the end that is read first, and it ends with a state that accepts.
def room (backward : Bool) (layout : Layout) : Nat :=
  let memo := Memo.ofSize (if backward then 1000 else 10000)
  let start : Assembly :=
    if layout.isAnchored backward then ({ memo } : Assembly).add 0
    else ((({ memo } : Assembly).add 8).add 0).add 8
  let body := if backward then layout else .group layout
  ((body.assemble backward .first start).add 0).room

end Layout

def Pattern.fits (pattern : Pattern) : Bool :=
  let layout := pattern.layout
  layout.room false ≤ Assembly.limit && layout.room true ≤ Assembly.limit

end PathTemplates.Regex
