set_option autoImplicit false

/-!
A memo of a fixed number of slots. Every key has one slot, found by its FNV-1a hash, and what is put there displaces
what the slot held before.
-/

namespace PathTemplates.Regex

structure Memo where
  slots : Array (Option (List Nat × Nat))
  deriving Repr

namespace Memo

def ofSize (size : Nat) : Memo := ⟨Array.replicate size none⟩

-- The 64-bit FNV-1a hash of a list of numbers.
def hash (key : List Nat) : UInt64 :=
  key.foldl (fun hash number => (hash ^^^ number.toUInt64) * 1099511628211) 14695981039346656037

def slot (memo : Memo) (key : List Nat) : Nat := (hash key).toNat % memo.slots.size

def get? (memo : Memo) (key : List Nat) : Option Nat :=
  match memo.slots[memo.slot key]? with
  | some (some (held, value)) => if held = key then some value else none
  | _ => none

def put (memo : Memo) (key : List Nat) (value : Nat) : Memo :=
  ⟨memo.slots.setIfInBounds (memo.slot key) (some (key, value))⟩

end Memo

end PathTemplates.Regex
