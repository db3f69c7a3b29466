import GuildRegistry.Number.Binary64

/-! Maps keyed by numbers, in insertion order.

Two keys are the same when they are equal as numbers or both NaN, so `-0` and `+0` are
one key, stored as `+0`. Setting a present key replaces its value in place; a new key
goes to the end; erasing removes the entry and closes the gap.
-/

set_option autoImplicit false

namespace GuildRegistry

/-- Entries with distinct keys, in insertion order. -/
structure KeyMap (α : Type) where
  entries : List (Binary64 × α)
  deriving Repr, Inhabited

namespace KeyMap

variable {α β : Type}

def empty : KeyMap α := ⟨[]⟩

/-- The stored form of a key: `-0` is stored as `+0`. -/
def normalizeKey (k : Binary64) : Binary64 :=
  match k with
  | .finite true 0 => .finite false 0
  | k => k

def get? (m : KeyMap α) (k : Binary64) : Option α :=
  (m.entries.find? (fun e => Binary64.sameValueZero e.1 k)).map (·.2)

def contains (m : KeyMap α) (k : Binary64) : Bool :=
  m.entries.any (fun e => Binary64.sameValueZero e.1 k)

def set (m : KeyMap α) (k : Binary64) (v : α) : KeyMap α :=
  if m.contains k then
    ⟨m.entries.map fun e => if Binary64.sameValueZero e.1 k then (e.1, v) else e⟩
  else ⟨m.entries ++ [(normalizeKey k, v)]⟩

def erase (m : KeyMap α) (k : Binary64) : KeyMap α :=
  ⟨m.entries.filter fun e => !Binary64.sameValueZero e.1 k⟩

def size (m : KeyMap α) : Nat := m.entries.length
def keys (m : KeyMap α) : List Binary64 := m.entries.map (·.1)
def values (m : KeyMap α) : List α := m.entries.map (·.2)

/-- A map built by setting each pair in turn. -/
def ofList (pairs : List (Binary64 × α)) : KeyMap α :=
  pairs.foldl (fun m p => m.set p.1 p.2) empty

def mapValues (f : α → β) (m : KeyMap α) : KeyMap β := ⟨m.entries.map fun (k, v) => (k, f v)⟩

end KeyMap

end GuildRegistry
