import Std.Data.HashMap

/-!
# Ordered tables

A table from keys to values that remembers the order in which the keys came in. Giving a key a
second value changes its value and not its place.

* `OrderedTable.keys`, `OrderedTable.get?` — the two views of a table.
* `OrderedTable.keys_insert`, `OrderedTable.get?_insert` — what `insert` does to each of them.
* `NameTable` — a table whose keys are names.
-/

namespace Cartridge

/-- A table from keys to values, in the order of insertion. -/
structure OrderedTable (κ α : Type) [DecidableEq κ] [Hashable κ] where
  /-- The keys, in the order of insertion. -/
  keys : Array κ
  /-- The values of the keys. -/
  values : Std.HashMap κ α
  /-- Exactly the keys that have come in have a value. -/
  mem_values_iff : ∀ key, key ∈ values ↔ key ∈ keys
  /-- No key has two places. -/
  nodup_keys : keys.toList.Nodup

/-- A table from names to values, in the order of insertion. -/
abbrev NameTable (α : Type) : Type := OrderedTable String α

namespace OrderedTable

variable {κ α : Type} [DecidableEq κ] [Hashable κ]

/-- The table without keys. -/
def empty : OrderedTable κ α where
  keys := #[]
  values := ∅
  mem_values_iff := by simp
  nodup_keys := by simp

instance : EmptyCollection (OrderedTable κ α) := ⟨empty⟩

instance : Inhabited (OrderedTable κ α) := ⟨empty⟩

/-- How many keys there are. -/
def size (table : OrderedTable κ α) : Nat := table.keys.size

/-- The value of a key. -/
def get? (table : OrderedTable κ α) (key : κ) : Option α := table.values[key]?

/-- Whether a key is in the table. -/
def contains (table : OrderedTable κ α) (key : κ) : Bool := table.values.contains key

/-- Gives a key a value. A new key goes to the end. -/
def insert (table : OrderedTable κ α) (key : κ) (value : α) : OrderedTable κ α :=
  if held : key ∈ table.values then
    { keys := table.keys
      values := table.values.insert key value
      mem_values_iff := fun other => by
        rw [Std.HashMap.mem_insert, beq_iff_eq, ← table.mem_values_iff other]
        exact ⟨fun either => either.elim (fun same => same ▸ held) id, Or.inr⟩
      nodup_keys := table.nodup_keys }
  else
    { keys := table.keys.push key
      values := table.values.insert key value
      mem_values_iff := fun other => by
        rw [Std.HashMap.mem_insert, beq_iff_eq, Array.mem_push, ← table.mem_values_iff other,
          or_comm, eq_comm]
      nodup_keys := by
        rw [Array.toList_push, List.nodup_append]
        refine ⟨table.nodup_keys, by simp, fun one member other last same => ?_⟩
        rw [List.mem_singleton] at last
        subst last same
        exact held ((table.mem_values_iff one).2 (Array.mem_toList_iff.1 member)) }

/-- The keys with their values, in order. -/
def toList (table : OrderedTable κ α) : List (κ × α) :=
  table.keys.toList.filterMap fun key => (table.get? key).map fun value => (key, value)

@[simp] theorem keys_empty : (∅ : OrderedTable κ α).keys = #[] := rfl

@[simp] theorem get?_empty (key : κ) : (∅ : OrderedTable κ α).get? key = none := by
  simp [get?, EmptyCollection.emptyCollection, empty]

/-- A new key goes to the end, a known one keeps its place. -/
theorem keys_insert (table : OrderedTable κ α) (key : κ) (value : α) :
    (table.insert key value).keys
      = if key ∈ table.keys then table.keys else table.keys.push key := by
  unfold insert
  by_cases held : key ∈ table.values
  · have place := (table.mem_values_iff key).1 held
    simp [held, place]
  · have place : key ∉ table.keys := fun member => held ((table.mem_values_iff key).2 member)
    simp [held, place]

/-- The key given a value has it, and the others keep theirs. -/
theorem get?_insert (table : OrderedTable κ α) (key other : κ) (value : α) :
    (table.insert key value).get? other
      = if key = other then some value else table.get? other := by
  have values : (table.insert key value).values = table.values.insert key value := by
    unfold insert
    split <;> rfl
  rw [get?, get?, values, Std.HashMap.getElem?_insert]
  simp

/-- A key has a value exactly if it is in the table. -/
theorem isSome_get?_iff (table : OrderedTable κ α) (key : κ) :
    (table.get? key).isSome ↔ key ∈ table.keys := by
  rw [get?, ← table.mem_values_iff, Std.HashMap.isSome_getElem?_iff_mem]

/-- Membership is decided as the keys say. -/
theorem contains_iff (table : OrderedTable κ α) (key : κ) :
    table.contains key = true ↔ key ∈ table.keys := by
  rw [contains, Std.HashMap.contains_iff_mem, table.mem_values_iff]

end OrderedTable
end Cartridge
