import PathTemplates.Resolution
import PathTemplates.Text.Percent

set_option autoImplicit false

/-! Writing the path of a resolution. -/

namespace PathTemplates

-- What a kept segment adds to a path, behind a slash each: a literal as it stands, or the components of a value.
def Resolution.parts (segment : Segment) (value : Option String) : List String :=
  match segment with
  | .literal text => [text]
  | .slot _ => ((value.map Text.components).getD []).map Text.encode

-- The path of a resolution. The root is a single slash with or without a slash appended.
def Resolution.path (resolution : Resolution) (appendSlash : Bool) : String :=
  let parts := resolution.kept.flatMap fun (segment, value) => parts segment value
  let path := String.join (parts.map ("/" ++ ·))
  if path = "" || appendSlash then path ++ "/" else path

def Route.path (route : Route) (given : Params) (options : PathOptions) : Except Rejection String := do
  return (← route.resolve given options.minimize).path options.appendSlash

end PathTemplates
