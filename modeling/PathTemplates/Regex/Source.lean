import PathTemplates.Regex.Assembly
import PathTemplates.Regex.Meaning

set_option autoImplicit false

/-! From the text of a regular expression to its pattern. -/

namespace PathTemplates.Regex

def Pattern.ofSource (source : String) : Except Fault Pattern := do
  let tree ← Tree.ofText source.toList
  let (pattern, _) ← tree.pattern {}
  if pattern.fits then .ok pattern else .error .tooLarge

end PathTemplates.Regex
