import PathTemplates.RegistrationError
import PathTemplates.Resolution
import PathTemplates.Text.Quoted

set_option autoImplicit false

/-! What a router tells about its work. -/

namespace PathTemplates

inductive Level where
  | trace
  | debug
  | info
  | warn
  deriving DecidableEq, Repr

def Level.label : Level → String
  | .trace => "TRACE"
  | .debug => "DEBUG"
  | .info => "INFO"
  | .warn => "WARN"

inductive Event where
  | compiled (template : String) (order segments : Nat) (filters : List (String × Option Value))
  | registered (order : Nat) (name : Option String) (template : String) (routes : Nat)
  | refused (template : String) (error : RegistrationError)
  | asked (routes params : Nat)
  | recalled (path : Option String)
  | accepted (order : Nat) (template path : String)
  | rejected (order : Nat) (template : String) (reason : Rejection)
  | unknownName (name : String)
  deriving DecidableEq, Repr

namespace Event

private def quoteOption (text : Option String) : String :=
  match text with
  | none => "None"
  | some text => "Some(" ++ Text.quote text ++ ")"

private def quoteSlot (slot : Option Value) : String :=
  match slot with
  | none => "None"
  | some (.int n) => "Some(Int(" ++ Text.decimal n.toInt ++ "))"
  | some (.text s) => "Some(Str(" ++ Text.quote s ++ "))"

private def quoteFilters (filters : List (String × Option Value)) : String :=
  let entries := filters.map fun (name, slot) => "(" ++ Text.quote name ++ ", " ++ quoteSlot slot ++ ")"
  "[" ++ String.intercalate ", " entries ++ "]"

def level : Event → Level
  | compiled .. | asked .. | accepted .. | rejected .. => .debug
  | registered .. => .info
  | refused .. | unknownName .. => .warn
  | recalled .. => .trace

def message : Event → String
  | compiled .. => "Route template compiled"
  | registered .. => "Route registered"
  | refused .. => "Route registration rejected"
  | asked .. => "Path generation attempt"
  | recalled .. => "Generation cache hit"
  | accepted .. => "Route accepted parameters"
  | rejected .. => "Route rejected parameters"
  | unknownName .. => "No route registered under this name"

def fields : Event → List (String × String)
  | compiled template order segments filters =>
      [("template", template), ("route_order", order.repr), ("segments_count", segments.repr),
        ("filter_keys", quoteFilters filters)]
  | registered order name template routes =>
      [("route_order", order.repr), ("route_name", quoteOption name), ("template", template),
        ("routes_count", routes.repr)]
  | refused template error => [("template", template), ("error", error.message)]
  | asked routes params => [("routes_count", routes.repr), ("params_count", params.repr)]
  | recalled path => [("path", quoteOption path)]
  | accepted order template path => [("route_order", order.repr), ("template", template), ("path", path)]
  | rejected order template reason =>
      [("route_order", order.repr), ("template", template), ("reason", reason.message)]
  | unknownName name => [("route_name", name)]

end Event

end PathTemplates
