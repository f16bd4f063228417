set_option autoImplicit false

/-! Regular expressions as they are written, and why a text is none. -/

namespace PathTemplates.Regex

inductive Fault where
  | unclosedGroup
  | unopenedGroup
  | lookaround
  | badGroupName
  | repeatedGroupName
  | badFlags
  | nothingToRepeat
  | badCount
  | badEscape
  | badBoundary
  | unclosedClass
  | badClassItem
  | badRange
  | unknownProperty
  -- Without Unicode mode it could match a part of a character.
  | partOfCharacter
  | tooDeep
  | tooLarge
  deriving DecidableEq, Repr

inductive Flag where
  | ignoreCase
  | multiLine
  | dotAll
  | swapGreed
  | unicode
  | returns
  | spaced
  deriving DecidableEq, Repr

abbrev FlagChange := List (Flag × Bool)

inductive Shorthand where
  | digit
  | space
  | word
  deriving DecidableEq, Repr

inductive Boundary where
  | edge
  | inside
  | start
  | stop
  | startHalf
  | stopHalf
  deriving DecidableEq, Repr

inductive Assertion where
  | lineStart
  | lineStop
  | textStart
  | textStop
  | boundary (kind : Boundary)
  deriving DecidableEq, Repr

inductive PropertyQuery where
  | alone (name : String)
  | valued (property value : String)
  deriving DecidableEq, Repr

inductive SetOperation where
  | intersection
  | difference
  | symmetricDifference
  deriving DecidableEq, Repr

inductive ClassSet where
  | nothing
  | char (c : Char)
  | range (first last : Char)
  | ascii (members : String) (negated : Bool)
  | shorthand (kind : Shorthand) (negated : Bool)
  | property (query : PropertyQuery) (negated : Bool)
  | bracket (negated : Bool) (body : ClassSet)
  | both (first rest : ClassSet)
  | operation (kind : SetOperation) (left right : ClassSet)
  deriving DecidableEq, Repr

-- A written expression. `sequence` and `choice` nest to the right.
inductive Tree where
  | empty
  | flags (change : FlagChange)
  -- A character, and whether it was given as a byte.
  | literal (c : Char) (isByte : Bool)
  | dot
  | assertion (kind : Assertion)
  | shorthand (kind : Shorthand) (negated : Bool)
  | property (query : PropertyQuery) (negated : Bool)
  | bracket (negated : Bool) (body : ClassSet)
  -- A lazy repetition prefers fewer rounds.
  | repetition (least : Nat) (most : Option Nat) (isLazy : Bool) (body : Tree)
  | group (captures : Bool) (change : FlagChange) (body : Tree)
  | sequence (first rest : Tree)
  | choice (first rest : Tree)
  deriving DecidableEq, Repr

def ClassSet.depth (inUnion : Bool) : ClassSet → Nat
  | .bracket _ body => body.depth false + 1
  | .both first rest => max (first.depth true) (rest.depth true) + if inUnion then 0 else 1
  | .operation _ left right => max (left.depth false) (right.depth false) + 1
  | _ => 0

-- The list of expressions, if any, that an expression is an item of.
inductive Spine where
  | none
  | sequence
  | choice
  deriving DecidableEq, Repr

def Tree.depth (spine : Spine) : Tree → Nat
  | .bracket _ body => body.depth false + 1
  | .repetition _ _ _ body => body.depth .none + 1
  | .group _ _ body => body.depth .none + 1
  | .sequence first rest =>
      max (first.depth .sequence) (rest.depth .sequence) + if spine = .sequence then 0 else 1
  | .choice first rest => max (first.depth .choice) (rest.depth .choice) + if spine = .choice then 0 else 1
  | _ => 0

end PathTemplates.Regex
