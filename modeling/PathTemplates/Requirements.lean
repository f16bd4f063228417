import PathTemplates.Datum
import PathTemplates.NameMap

set_option autoImplicit false

/-! The patterns that a registrar demands of the values of named segments, as written. -/

namespace PathTemplates

structure Requirements where
  patterns : NameMap String
  deriving DecidableEq, Repr

namespace Requirements

def empty : Requirements := ⟨.empty⟩

def ofList (patterns : List (String × String)) : Requirements := ⟨.ofList patterns⟩

def toList (requirements : Requirements) : List (String × String) := requirements.patterns.toList

def demand (requirements : Requirements) (name pattern : String) : Requirements :=
  ⟨requirements.patterns.insert name pattern⟩

def pattern? (requirements : Requirements) (name : String) : Option String := requirements.patterns.get? name

def size (requirements : Requirements) : Nat := requirements.patterns.size

def isEmpty (requirements : Requirements) : Bool := requirements.patterns.isEmpty

def patternOfDatum? : Datum → Option String
  | .text pattern => some pattern
  | _ => none

def ofDatum? : Datum → Option Requirements
  | .record fields => do return ofList (← fields.mapM fun field => do return (field.1, ← patternOfDatum? field.2))
  | _ => none

def toDatum (requirements : Requirements) : Datum :=
  .record (requirements.toList.map fun (name, pattern) => (name, .text pattern))

end Requirements

end PathTemplates
