/-!
Finite maps as association lists with at most one entry per key. Lookups return the entry of the
key, writes replace it in place or add it at the end, and erasing removes it.
-/

namespace Bonding

/-- A finite map from keys to values, one entry per key. -/
structure KeyMap (κ α : Type) where
  entries : List (κ × α)
  deriving Repr, Inhabited

namespace KeyMap

variable {κ α : Type} [BEq κ]

def empty : KeyMap κ α := ⟨[]⟩

def get? (m : KeyMap κ α) (k : κ) : Option α := (m.entries.find? (·.1 == k)).map (·.2)

def contains (m : KeyMap κ α) (k : κ) : Bool := m.entries.any (·.1 == k)

def insert (m : KeyMap κ α) (k : κ) (v : α) : KeyMap κ α :=
  if m.contains k then ⟨m.entries.map fun e => if e.1 == k then (k, v) else e⟩
  else ⟨m.entries ++ [(k, v)]⟩

def erase (m : KeyMap κ α) (k : κ) : KeyMap κ α := ⟨m.entries.filter fun e => !(e.1 == k)⟩

def getD (m : KeyMap κ α) (k : κ) (d : α) : α := (m.get? k).getD d

@[simp] theorem get?_empty (k : κ) : (empty : KeyMap κ α).get? k = none := rfl

end KeyMap

end Bonding
