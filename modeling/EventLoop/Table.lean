/-!
# Tables

A table numbers its entries in the order in which they were added and never forgets one, so a number
keeps its meaning for good.
-/
namespace EventLoop

/-- Entries under the numbers 0, 1, 2, … in the order in which they were added. -/
structure Table (α : Type) where
  /-- The entries. -/
  entries : Array α

namespace Table

variable {α : Type}

/-- A table without entries. -/
def empty : Table α := ⟨#[]⟩

instance : EmptyCollection (Table α) := ⟨empty⟩

instance : Inhabited (Table α) := ⟨empty⟩

/-- The count of entries, which is also the number of the next one. -/
def size (table : Table α) : Nat := table.entries.size

/-- The entry under a number. -/
def get? (table : Table α) (id : Nat) : Option α := table.entries[id]?

/-- Adds an entry under the next number. -/
def push (table : Table α) (entry : α) : Table α := ⟨table.entries.push entry⟩

/-- Changes the entry under a number, if there is one. -/
def modify (table : Table α) (id : Nat) (change : α → α) : Table α :=
  ⟨table.entries.modify id change⟩

/-- The entries in order. -/
def toList (table : Table α) : List α := table.entries.toList

/-- Whether some entry satisfies a condition. -/
def any (table : Table α) (condition : α → Bool) : Bool := table.entries.any condition

/-- A table to which an entry is added is longer by one. -/
@[simp] theorem size_push (table : Table α) (entry : α) : (table.push entry).size = table.size + 1 := by
  simp [size, push]

/-- Changing an entry does not change how long a table is. -/
@[simp] theorem size_modify (table : Table α) (id : Nat) (change : α → α) :
    (table.modify id change).size = table.size := by
  simp [size, modify]

/-- The entry that is added is found under the next number, and the others under theirs. -/
theorem get?_push (table : Table α) (entry : α) (id : Nat) :
    (table.push entry).get? id = if id = table.size then some entry else table.get? id := by
  unfold get? push size
  exact Array.getElem?_push

/-- The entry that is changed is found changed, and the others as they are. -/
theorem get?_modify (table : Table α) (id other : Nat) (change : α → α) :
    (table.modify id change).get? other =
      if other = id then (table.get? other).map change else table.get? other := by
  simp only [get?, modify, Array.getElem?_modify]
  by_cases same : id = other
  · subst same
    simp
  · rw [if_neg same, if_neg fun h => same h.symm]

/-- An entry is found as it was changed. -/
@[simp] theorem get?_modify_self (table : Table α) (id : Nat) (change : α → α) :
    (table.modify id change).get? id = (table.get? id).map change := by
  simp [get?_modify]

/-- The entries under other numbers are found as they were. -/
theorem get?_modify_of_ne (table : Table α) {id other : Nat} (change : α → α) (differ : other ≠ id) :
    (table.modify id change).get? other = table.get? other := by
  simp [get?_modify, differ]

/-- Two changes that agree on the entry under a number are the same change of the table. -/
theorem modify_congr {table : Table α} {id : Nat} {entry : α} {change other : α → α}
    (found : table.get? id = some entry) (agree : change entry = other entry) :
    table.modify id change = table.modify id other := by
  unfold get? at found
  unfold modify
  congr 1
  apply Array.ext_getElem?
  intro index
  rw [Array.getElem?_modify, Array.getElem?_modify]
  by_cases same : id = index
  · rw [if_pos same, if_pos same, ← same, found, Option.map_some, Option.map_some, agree]
  · rw [if_neg same, if_neg same]

/-- A change that leaves the entry under a number as it is leaves the table as it is. -/
theorem modify_eq_self {table : Table α} {id : Nat} {entry : α} {change : α → α}
    (found : table.get? id = some entry) (same : change entry = entry) :
    table.modify id change = table := by
  unfold get? at found
  unfold modify
  cases table with
  | mk entries =>
    congr 1
    apply Array.ext_getElem?
    intro index
    rw [Array.getElem?_modify]
    by_cases here : id = index
    · rw [if_pos here, ← here, found, Option.map_some, same]
    · rw [if_neg here]

/-- Of two changes of one entry the second one is made of what the first one left. -/
theorem modify_modify (table : Table α) (id : Nat) (first second : α → α) :
    (table.modify id first).modify id second = table.modify id (second ∘ first) := by
  unfold modify
  congr 1
  apply Array.ext_getElem?
  intro index
  simp only [Array.getElem?_modify]
  by_cases same : id = index
  · simp [same]
  · simp [same]

/-- The entry that was added last may be changed at once. -/
theorem modify_push (table : Table α) (entry : α) (change : α → α) :
    (table.push entry).modify table.size change = table.push (change entry) := by
  unfold push modify size
  congr 1
  apply Array.ext_getElem?
  intro index
  rw [Array.getElem?_modify, Array.getElem?_push, Array.getElem?_push]
  by_cases last : table.entries.size = index
  · simp [last.symm]
  · rw [if_neg last, if_neg (fun same => last same.symm), if_neg (fun same => last same.symm)]

/-- A number of an entry is below the size. -/
theorem lt_size_of_get? {table : Table α} {id : Nat} {entry : α} (found : table.get? id = some entry) :
    id < table.size := by
  simp only [get?] at found
  exact (Array.getElem?_eq_some_iff.mp found).1

/-- There is an entry under every number below the size. -/
theorem exists_get?_of_lt_size {table : Table α} {id : Nat} (below : id < table.size) :
    ∃ entry, table.get? id = some entry :=
  ⟨table.entries[id], Array.getElem?_eq_getElem below⟩

/-- There is no entry under a number from the size on. -/
theorem get?_eq_none {table : Table α} {id : Nat} (beyond : table.size ≤ id) :
    table.get? id = none :=
  Array.getElem?_eq_none beyond

/-- An entry that is added and is the default changes no look-up with that default. -/
theorem getD_push (table : Table α) {entry default : α} (same : entry = default) (id : Nat) :
    ((table.push entry).get? id).getD default = (table.get? id).getD default := by
  rw [get?_push]
  by_cases last : id = table.size
  · rw [if_pos last, get?_eq_none (Nat.le_of_eq last.symm)]
    exact same
  · rw [if_neg last]

end Table

end EventLoop
