import PathTemplates.Template

set_option autoImplicit false

/-! Compiled routes. -/

namespace PathTemplates

/-- A route: its declaration, its name if it has one, its place among the routes, its segments, and the declared
defaults that are no segment's. These filter: a path is not asked for with another value of them. -/
structure Route where
  declaration : Declaration
  name : Option String
  order : Nat
  segments : List Segment
  filters : List (String × Option Value)
  deriving DecidableEq, Repr

namespace Route

-- The declared defaults, in ascending order of their names, that no segment has the name of.
def filtersOf (defaults : Params) (segments : List Segment) : List (String × Option Value) :=
  defaults.toList.filter fun entry => !(segments.filterMap (·.name?)).contains entry.1

def ofDeclaration (declaration : Declaration) (explicit : Bool) (order : Nat) (name : Option String := none) :
    Except RegistrationError Route := do
  let segments ← Template.segments declaration explicit
  return ⟨declaration, name, order, segments, filtersOf declaration.defaults segments⟩

def template (route : Route) : String := route.declaration.template

def placeholders (route : Route) : List Placeholder := route.segments.filterMap (·.placeholder?)

end Route

end PathTemplates
