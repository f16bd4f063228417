import PathTemplates.Config
import PathTemplates.Route

set_option autoImplicit false

/-! Whether a route accepts parameters, and which of its segments a path then has. -/

namespace PathTemplates

inductive Rejection where
  | filterMismatch (name : String)
  | requirementFailed (name value : String)
  | missingValue (name : String)
  | emptyComponent (name value : String)
  deriving DecidableEq, Repr

def Rejection.message : Rejection → String
  | filterMismatch name => "filter key '" ++ name ++ "' does not match its default"
  | requirementFailed name value => "value '" ++ value ++ "' for '" ++ name ++ "' fails its requirement"
  | missingValue name => "no value for required segment '" ++ name ++ "'"
  | emptyComponent name value => "value '" ++ value ++ "' for '" ++ name ++ "' has an empty path component"

def Placeholder.effective (placeholder : Placeholder) (given : Params) : Option Value :=
  (given.value? placeholder.name).or placeholder.default

def Segment.effective (segment : Segment) (given : Params) : Option Value :=
  segment.placeholder?.bind (·.effective given)

def Segment.droppable (segment : Segment) (minimize : Bool) (given : Params) : Bool :=
  segment.placeholder?.any fun placeholder => placeholder.droppable minimize (placeholder.effective given)

-- The segments that a path has, each with the form of its value.
structure Resolution where
  kept : List (Segment × Option String)
  deriving DecidableEq, Repr

namespace Resolution

def value? (resolution : Resolution) (name : String) : Option String :=
  (resolution.kept.find? (·.1.name? = some name)).bind (·.2)

def mismatch? (filters : List (String × Option Value)) (given : Params) : Option Rejection :=
  filters.findSome? fun (name, default) =>
    match given.value? name with
    | some value => if Value.sameSlot (some value) default then none else some (.filterMismatch name)
    | none => none

-- The leftmost value that its requirement does not admit, be its segment kept or not.
def failure? (segments : List Segment) (given : Params) : Option Rejection :=
  (segments.filterMap (·.placeholder?)).findSome? fun placeholder =>
    match placeholder.effective given with
    | some value =>
        if placeholder.requirement.admits value.form then none
        else some (.requirementFailed placeholder.name value.form)
    | none => none

-- The segments up to the last one that may not be left out.
def keep (minimize : Bool) (given : Params) (segments : List Segment) : List Segment :=
  (segments.reverse.dropWhile (·.droppable minimize given)).reverse

-- Why a kept segment cannot be written: a dynamic one needs a value whose every component has a character.
def flaw? (given : Params) (segment : Segment) : Option Rejection :=
  match segment with
  | .literal _ => none
  | .slot placeholder =>
      match placeholder.kind, (placeholder.effective given).map (·.form) with
      | .glob, _ => none
      | .dynamic, none => some (.missingValue placeholder.name)
      | .dynamic, some value =>
          if value = "" then some (.missingValue placeholder.name)
          else if (Text.pieces value).any (· = "") then some (.emptyComponent placeholder.name value)
          else none

end Resolution

def Route.resolve (route : Route) (given : Params) (minimize : Bool) : Except Rejection Resolution :=
  let kept := Resolution.keep minimize given route.segments
  match Resolution.mismatch? route.filters given <|> Resolution.failure? route.segments given <|>
      kept.findSome? (Resolution.flaw? given) with
  | some rejection => .error rejection
  | none => .ok ⟨kept.map fun segment => (segment, (segment.effective given).map (·.form))⟩

end PathTemplates
