import PathTemplates.Regex.Match
import PathTemplates.Regex.Source

set_option autoImplicit false

/-!
Requirements on the value of a placeholder. A requirement that the registrar gives is anchored at both ends of the
value; one that is not given follows from the kind and the name of the placeholder.
-/

namespace PathTemplates

open Regex (Pattern)

structure Requirement where
  source : String
  pattern : Pattern
  explicit : Bool
  deriving DecidableEq, Repr

namespace Requirement

-- The source in which a pattern must reach from the start of a value to its end.
def anchored (source : String) : String := "^(?:" ++ source ++ ")$"

def ofPattern? (source : String) : Option Requirement :=
  match Pattern.ofSource (anchored source) with
  | .ok pattern => some ⟨anchored source, pattern, true⟩
  | .error _ => none

def slashFree : Pattern := .many 1 none (.one (CharSet.single '/').compl)

def moreComponents : Pattern := .many 0 none (.cat (.one (.single '/')) slashFree)

def oneComponent : Requirement := ⟨"^[^/]+$", slashFree.whole, false⟩

def manyComponents : Requirement where
  source := "^[^/]+(?:/[^/]+)*$"
  pattern := .cat (.look .textStart) (.cat slashFree (.cat moreComponents (.look .textStop)))
  explicit := false

def anything : Requirement := ⟨"^(?s:.*)$", .whole (.many 0 none (.one .all)), false⟩

def admits (requirement : Requirement) (value : String) : Bool := requirement.pattern.matchesIn value

end Requirement

end PathTemplates
