set_option autoImplicit false

/-!
Sets of characters as ranges of code points. Surrogates are no characters: U+D7FF and U+E000 are neighbours, so the
set of all characters is one range.
-/

namespace PathTemplates

structure CodeRange where
  first : Nat
  last : Nat
  deriving DecidableEq, Repr

namespace CodeRange

def single (code : Nat) : CodeRange := ⟨code, code⟩

def contains (range : CodeRange) (code : Nat) : Bool := range.first ≤ code && code ≤ range.last

def after (code : Nat) : Nat := if code = 0xD7FF then 0xE000 else code + 1

def before (code : Nat) : Nat := if code = 0xE000 then 0xD7FF else code - 1

def place (range : CodeRange) : List CodeRange → List CodeRange
  | [] => [range]
  | next :: rest => if range.first ≤ next.first then range :: next :: rest else next :: place range rest

-- Joins ranges that touch or overlap; `ranges` ascend by `first`, and none of them starts below `current`.
def fuse (current : CodeRange) : List CodeRange → List CodeRange
  | [] => [current]
  | next :: rest =>
      if next.first ≤ after current.last then fuse ⟨current.first, max current.last next.last⟩ rest
      else current :: fuse next rest

def gaps (start : Nat) : List CodeRange → List CodeRange
  | [] => if start ≤ 0x10FFFF then [⟨start, 0x10FFFF⟩] else []
  | range :: rest =>
      if start < range.first then ⟨start, before range.first⟩ :: gaps (after range.last) rest
      else gaps (after range.last) rest

end CodeRange

-- Ranges in ascending order, any two apart by at least one character.
structure CharSet where
  ranges : List CodeRange
  deriving DecidableEq, Repr

namespace CharSet

def empty : CharSet := ⟨[]⟩

def all : CharSet := ⟨[⟨0, 0x10FFFF⟩]⟩

def single (c : Char) : CharSet := ⟨[.single c.toNat]⟩

def hasCode (set : CharSet) (code : Nat) : Bool := set.ranges.any (·.contains code)

def contains (set : CharSet) (c : Char) : Bool := set.hasCode c.toNat

def isEmpty (set : CharSet) : Bool := set.ranges.isEmpty

def only? (set : CharSet) : Option Nat :=
  match set.ranges with
  | [range] => if range.first = range.last then some range.first else none
  | _ => none

def isAscii (set : CharSet) : Bool := set.ranges.all (·.last < 0x80)

def ofRanges (ranges : List CodeRange) : CharSet :=
  match ranges.foldr CodeRange.place [] with
  | [] => empty
  | least :: rest => ⟨CodeRange.fuse least rest⟩

def ofCodes (codes : List Nat) : CharSet := ofRanges (codes.map .single)

def union (a b : CharSet) : CharSet := ofRanges (a.ranges ++ b.ranges)

def unions (sets : List CharSet) : CharSet := ofRanges (sets.flatMap (·.ranges))

def compl (set : CharSet) : CharSet := ⟨CodeRange.gaps 0 set.ranges⟩

def inter (a b : CharSet) : CharSet := (a.compl.union b.compl).compl

def diff (a b : CharSet) : CharSet := (a.compl.union b).compl

def symmDiff (a b : CharSet) : CharSet := (a.union b).diff (a.inter b)

-- One entry of a written table: `first`, `first-last`, or `first-last/step` for every `step`-th code point.
private structure Entry where
  first : Nat := 0
  last : Option Nat := none
  step : Option Nat := none

private def Entry.push (entry : Entry) (digit : Nat) : Entry :=
  match entry.last, entry.step with
  | _, some step => ⟨entry.first, entry.last, some (16 * step + digit)⟩
  | some last, none => ⟨entry.first, some (16 * last + digit), none⟩
  | none, none => ⟨16 * entry.first + digit, none, none⟩

private def Entry.ranges (entry : Entry) : List CodeRange :=
  let last := entry.last.getD entry.first
  match entry.step with
  | none => [⟨entry.first, last⟩]
  | some step => (List.range ((last - entry.first) / step + 1)).map fun i => .single (entry.first + step * i)

private def readEntries : Option Entry → List Char → List CodeRange
  | entry, [] => (entry.map (·.ranges)).getD []
  | entry, c :: rest =>
      if c = ' ' || c = '\n' then (entry.map (·.ranges)).getD [] ++ readEntries none rest
      else
        let entry := entry.getD {}
        if c = '-' then readEntries (some ⟨entry.first, some 0, none⟩) rest
        else if c = '/' then readEntries (some ⟨entry.first, entry.last, some 0⟩) rest
        else
          let digit := if c.isDigit then c.toNat - '0'.toNat else c.toNat - 'a'.toNat + 10
          readEntries (some (entry.push digit)) rest

-- The set that a table in lower case hexadecimal lists, such as `41-5a b5 100-12e/2`.
def table (text : String) : CharSet := ofRanges (readEntries none text.toList)

def named? (names : List (List String × CharSet)) (name : String) : Option CharSet :=
  (names.find? (·.1.contains name)).map (·.2)

end CharSet

end PathTemplates
