/-!
# Slabs

A slab keeps values under numbers and hands a number that was given up to a later value, the number
given up last first.
-/
namespace EventLoop

/-- Values under small numbers. -/
structure Slab (α : Type) where
  /-- The slots in order; an empty one holds nothing. -/
  slots : List (Option α)
  /-- The numbers of the empty slots, the one that was given up last first. -/
  free : List Nat

namespace Slab

variable {α : Type}

/-- A slab without slots. -/
def empty : Slab α := ⟨[], []⟩

instance : EmptyCollection (Slab α) := ⟨empty⟩

instance : Inhabited (Slab α) := ⟨empty⟩

/-- The value in a slot. -/
def get? (slab : Slab α) (index : Nat) : Option α := (slab.slots[index]?).join

/-- Puts a value into the slot given up last, or into a new slot if none is empty. Returns the
number of the slot. -/
def insert (slab : Slab α) (value : α) : Nat × Slab α :=
  match slab.free with
  | index :: free => (index, ⟨slab.slots.set index (some value), free⟩)
  | [] => (slab.slots.length, ⟨slab.slots ++ [some value], []⟩)

/-- Empties a slot and returns what it held; an empty or missing slot changes nothing. -/
def erase (slab : Slab α) (index : Nat) : Option α × Slab α :=
  match slab.get? index with
  | some value => (some value, ⟨slab.slots.set index none, index :: slab.free⟩)
  | none => (none, slab)

/-- The count of slots in use. -/
def size (slab : Slab α) : Nat := slab.slots.length - slab.free.length

/-- The values in the order of their slots. -/
def toList (slab : Slab α) : List α := slab.slots.filterMap id

/-- Takes out every value, in the order of their slots, and forgets all slots. -/
def drain (slab : Slab α) : List α × Slab α := (slab.toList, empty)

end Slab

end EventLoop
