import PathTemplates.Text.Share

set_option autoImplicit false

/-!
The answers that a router remembers. Parameters are remembered by their key, "no route accepts them" is an answer too,
and where there is no room for a new answer the one that was not used for longest is forgotten.
-/

namespace PathTemplates

-- The names of parameters that have a value, with the forms of the values.
abbrev CacheKey := List (String × String)

-- The entry used last stands in front. A word of 64 bits holds each count as long as there are fewer than 2 to the 64th lookups.
structure Cache where
  capacity : Nat
  entries : List (CacheKey × Option String) := []
  hits : Nat := 0
  misses : Nat := 0
  deriving DecidableEq, Repr

structure CacheStats where
  hits : Nat
  misses : Nat
  entries : Nat
  capacity : Nat
  deriving DecidableEq, Repr

namespace Cache

def ofSize? (size : Nat) : Option Cache := if size = 0 then none else some ⟨size, [], 0, 0⟩

def without (key : CacheKey) (entries : List (CacheKey × Option String)) : List (CacheKey × Option String) :=
  entries.filter (·.1 ≠ key)

def fetch (cache : Cache) (key : CacheKey) : Cache × Option (Option String) :=
  match cache.entries.lookup key with
  | some answer =>
      ({ cache with entries := (key, answer) :: without key cache.entries, hits := cache.hits + 1 }, some answer)
  | none => ({ cache with misses := cache.misses + 1 }, none)

def store (cache : Cache) (key : CacheKey) (answer : Option String) : Cache :=
  { cache with entries := ((key, answer) :: without key cache.entries).take cache.capacity }

def stats (cache : Cache) : CacheStats := ⟨cache.hits, cache.misses, cache.entries.length, cache.capacity⟩

def hitRate (cache : Cache) : String := Text.share cache.hits (cache.hits + cache.misses)

end Cache

end PathTemplates
