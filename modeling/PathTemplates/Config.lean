import PathTemplates.Datum

set_option autoImplicit false

/-! How a router compiles templates, writes paths and remembers answers. -/

namespace PathTemplates

structure PathOptions where
  minimize : Bool := true
  appendSlash : Bool := false
  deriving DecidableEq, Repr

structure Config where
  minimize : Bool := true
  -- Takes away the defaults that the names `action` and `id` have of themselves.
  explicit : Bool := false
  appendSlash : Bool := false
  -- How many answers are remembered; none are if it is zero.
  cacheSize : Nat := 1000
  deriving DecidableEq, Repr

namespace Config

def pathOptions (config : Config) : PathOptions := ⟨config.minimize, config.appendSlash⟩

private def flagOfDatum? : Datum → Option Bool
  | .bool flag => some flag
  | _ => none

private def sizeOfDatum? : Datum → Option Nat
  | .int n => if 0 ≤ n ∧ n < UInt64.size then some n.toNat else none
  | _ => none

private def part? {α : Type} (read : Datum → Option α) (default : α) : Option Datum → Option α
  | none => some default
  | some datum => read datum

private def ofParts? (minimize explicit appendSlash cacheSize : Option Datum) : Option Config := do
  let default : Config := {}
  return {
    minimize := ← part? flagOfDatum? default.minimize minimize
    explicit := ← part? flagOfDatum? default.explicit explicit
    appendSlash := ← part? flagOfDatum? default.appendSlash appendSlash
    cacheSize := ← part? sizeOfDatum? default.cacheSize cacheSize }

-- Reads a record by the names of its parts, or a list of at most four parts in order.
def ofDatum? : Datum → Option Config
  | .record fields =>
      ofParts? (fields.lookup "minimization") (fields.lookup "explicit") (fields.lookup "append_slash")
        (fields.lookup "cache_size")
  | .list parts => if parts.length ≤ 4 then ofParts? parts[0]? parts[1]? parts[2]? parts[3]? else none
  | _ => none

end Config

end PathTemplates
