import PathTemplates.Requirement
import PathTemplates.Value

set_option autoImplicit false

/-! The segments of a compiled template. -/

namespace PathTemplates

-- A dynamic placeholder stands for a component of the path, a glob for the rest of it.
inductive PlaceholderKind where
  | dynamic
  | glob
  deriving DecidableEq, Repr

inductive Presence where
  | required
  | optional (default : Option Value)
  deriving DecidableEq, Repr

structure Placeholder where
  kind : PlaceholderKind
  name : String
  requirement : Requirement
  presence : Presence
  deriving DecidableEq, Repr

namespace Placeholder

def optional (placeholder : Placeholder) : Bool :=
  match placeholder.presence with
  | .required => false
  | .optional _ => true

def default (placeholder : Placeholder) : Option Value :=
  match placeholder.presence with
  | .required => none
  | .optional default => default

-- Whether the placeholder may be left out at the end of a path: it is optional, and its value is missing or, in a
-- minimized path, the same as the default.
def droppable (placeholder : Placeholder) (minimize : Bool) (value : Option Value) : Bool :=
  placeholder.optional && (value.isNone || (minimize && Value.sameSlot value placeholder.default))

end Placeholder

inductive Segment where
  | literal (text : String)
  | slot (placeholder : Placeholder)
  deriving DecidableEq, Repr

namespace Segment

def placeholder? : Segment → Option Placeholder
  | .literal _ => none
  | .slot placeholder => some placeholder

def name? (segment : Segment) : Option String := segment.placeholder?.map (·.name)

def display : Segment → String
  | .literal text => text
  | .slot placeholder =>
      match placeholder.kind with
      | .dynamic => ":" ++ placeholder.name
      | .glob => "*" ++ placeholder.name

end Segment

end PathTemplates
