/-!
# Tables

A table holds at most one value for each key. Its entries are kept in the order in which their keys
came in.

## Main definitions

* `Table`: the entries.
* `Table.get?`, `Table.insert`, `Table.erase`: its operations.

## Main results

* `Table.get?_insert`, `Table.get?_erase`: what is found after an operation.
-/

namespace SyntaxWatch

/-- A table from keys to values. -/
structure Table (κ α : Type) where
  entries : List (κ × α) := []
  deriving DecidableEq, Repr

namespace Table

variable {κ α : Type} [DecidableEq κ]

/-- The table without entries. -/
def empty : Table κ α := {}

/-- The value of a key. -/
def get? (t : Table κ α) (key : κ) : Option α :=
  (t.entries.find? (·.1 = key)).map (·.2)

/-- The table without a key. -/
def erase (t : Table κ α) (key : κ) : Table κ α where
  entries := t.entries.filter (·.1 ≠ key)

/-- The table with a value for a key. A value that the key had before is replaced. -/
def insert (t : Table κ α) (key : κ) (value : α) : Table κ α where
  entries := (t.erase key).entries ++ [(key, value)]

/-- The values of the table. -/
def values (t : Table κ α) : List α :=
  t.entries.map (·.2)

/-! ### What is found -/

@[simp] theorem get?_empty (key : κ) : (empty : Table κ α).get? key = none := rfl

/-- A key that has been erased has no value. -/
theorem get?_erase_self (t : Table κ α) (key : κ) : (t.erase key).get? key = none := by
  simp only [get?, erase, Option.map_eq_none_iff, List.find?_eq_none]
  intro entry hentry
  simpa using (List.mem_filter.1 hentry).2

/-- Erasing a key leaves the values of all others. -/
theorem get?_erase_of_ne (t : Table κ α) {key other : κ} (h : other ≠ key) :
    (t.erase key).get? other = t.get? other := by
  simp only [get?, erase, List.find?_filter]
  congr 1
  refine congrArg (fun p => List.find? p t.entries) (funext fun entry => ?_)
  by_cases hentry : entry.1 = other
  · simp [hentry, h]
  · simp [hentry]

/-- What is found when a key has been taken out. -/
theorem get?_erase (t : Table κ α) (key other : κ) :
    (t.erase key).get? other = if other = key then none else t.get? other := by
  split
  · next h => rw [h, get?_erase_self]
  · next h => exact get?_erase_of_ne t h

/-- What is found when a key has been given a value. -/
theorem get?_insert (t : Table κ α) (key other : κ) (value : α) :
    (t.insert key value).get? other = if other = key then some value else t.get? other := by
  have split_append : (t.insert key value).get? other =
      ((t.erase key).get? other).or (if other = key then some value else none) := by
    simp only [get?, insert, List.find?_append, Option.map_or]
    congr 1
    by_cases h : key = other <;> simp [h, eq_comm]
  rw [split_append, get?_erase]
  by_cases h : other = key <;> simp [h]

@[simp] theorem get?_insert_self (t : Table κ α) (key : κ) (value : α) :
    (t.insert key value).get? key = some value := by
  simp [get?_insert]

/-- Inserting a value leaves those of all other keys. -/
theorem get?_insert_of_ne (t : Table κ α) {key other : κ} (value : α) (h : other ≠ key) :
    (t.insert key value).get? other = t.get? other := by
  simp [get?_insert, h]

end Table

end SyntaxWatch
