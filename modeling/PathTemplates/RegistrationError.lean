set_option autoImplicit false

/-! Why a route cannot be registered. -/

namespace PathTemplates

inductive RegistrationError where
  | emptyName (template : String)
  | invalidName (template name : String)
  | duplicateSegment (template name : String)
  | multipleGlobs (template : String)
  | globBeforeDynamic (template glob dynamic : String)
  | unknownRequirement (template name : String)
  | invalidRequirement (name pattern : String)
  | duplicateRouteName (name : String)
  deriving DecidableEq, Repr

namespace RegistrationError

-- The message to the registrar. What is wrong with a regular expression is not spelled out.
def message : RegistrationError → String
  | emptyName template => "Route template '" ++ template ++ "' contains a segment with an empty name"
  | invalidName template name =>
      "Route template '" ++ template ++ "' contains invalid segment name '" ++ name ++
        "'. Names may only contain ASCII letters, digits and '_'"
  | duplicateSegment template name =>
      "Route template '" ++ template ++ "' uses segment name '" ++ name ++ "' more than once"
  | multipleGlobs template => "Route template '" ++ template ++ "' contains more than one glob segment"
  | globBeforeDynamic template glob dynamic =>
      "Route template '" ++ template ++ "' places dynamic segment ':" ++ dynamic ++ "' after glob '*" ++ glob ++ "'"
  | unknownRequirement template name =>
      "Requirement for '" ++ name ++ "' does not match any dynamic or glob segment of '" ++ template ++ "'"
  | invalidRequirement name pattern =>
      "Requirement '" ++ pattern ++ "' for '" ++ name ++ "' is not a valid regular expression: <regex>"
  | duplicateRouteName name => "A route named '" ++ name ++ "' is already registered"

end RegistrationError

end PathTemplates
