set_option autoImplicit false

/-! Text between slashes. -/

namespace PathTemplates.Text

-- What stands between the slashes of a text, empty pieces included: one piece more than there are slashes.
def pieces (text : String) : List String := (text.toList.splitOn '/').map String.ofList

def components (text : String) : List String := (pieces text).filter (· ≠ "")

end PathTemplates.Text
