import PathTemplates.Datum
import PathTemplates.NameMap
import PathTemplates.Value

set_option autoImplicit false

/-!
Named parameters: the defaults of a route and what a path is asked for with. A name may be declared without a value,
which differs from no declaration only where defaults are declared.
-/

namespace PathTemplates

namespace Value

-- An integer that 64 bits cannot hold is no value.
def ofDatum? : Datum → Option Value
  | .int n => if Int64.minValue.toInt ≤ n ∧ n ≤ Int64.maxValue.toInt then some (.int (.ofInt n)) else none
  | .text s => some (.text s)
  | _ => none

def toDatum : Value → Datum
  | .int n => .int n.toInt
  | .text s => .text s

end Value

structure Params where
  slots : NameMap (Option Value)
  deriving DecidableEq, Repr

namespace Params

def empty : Params := ⟨.empty⟩

def ofList (slots : List (String × Option Value)) : Params := ⟨.ofList slots⟩

def toList (params : Params) : List (String × Option Value) := params.slots.toList

def declare (params : Params) (name : String) (value : Option Value) : Params := ⟨params.slots.insert name value⟩

def declares (params : Params) (name : String) : Bool := params.slots.contains name

def value? (params : Params) (name : String) : Option Value := (params.slots.get? name).join

def size (params : Params) : Nat := params.slots.size

def isEmpty (params : Params) : Bool := params.slots.isEmpty

-- The names that have a value among slots, each with the form of its value.
def keyOf (slots : List (String × Option Value)) : List (String × String) :=
  slots.filterMap fun (name, value) => value.map fun value => (name, value.form)

def key (params : Params) : List (String × String) := keyOf params.toList

def slotOfDatum? : Datum → Option (Option Value)
  | .null => some none
  | datum => (Value.ofDatum? datum).map some

-- Reads a record of values, in which null declares a name without one.
def ofDatum? : Datum → Option Params
  | .record fields => do return ofList (← fields.mapM fun field => do return (field.1, ← slotOfDatum? field.2))
  | _ => none

def toDatum (params : Params) : Datum :=
  .record (params.toList.map fun (name, value) => (name, (value.map Value.toDatum).getD .null))

end Params

end PathTemplates
