import Cartridge.Table.Ordered

/-!
# Looking up in ordered tables

* `OrderedTable.map_fst_toList`, `OrderedTable.mem_toList_iff`: a table as a list of pairs.
* `OrderedTable.insertAll`: a table with many more pairs.
* `OrderedTable.mem_of_get?_insertAll`: a value found in a filled table is that of one of the pairs.
* `OrderedTable.get?_insertAll_of_mem`: where no key is given twice, each pair is found.
* `OrderedTable.Mirrors`: two tables alike but for a change of all values.
-/

namespace Cartridge.OrderedTable

variable {κ α : Type} [DecidableEq κ] [Hashable κ]

/-- The pairs of a table have its keys, in their order. -/
theorem map_fst_toList (table : OrderedTable κ α) :
    table.toList.map Prod.fst = table.keys.toList := by
  have all : ∀ keys : List κ, (∀ key ∈ keys, key ∈ table.keys) →
      (keys.filterMap fun key => (table.get? key).map fun value => (key, value)).map Prod.fst
        = keys := by
    intro keys inside
    induction keys with
    | nil => rfl
    | cons key keys ih =>
      have held := (table.isSome_get?_iff key).2 (inside key List.mem_cons_self)
      obtain ⟨value, found⟩ := Option.isSome_iff_exists.1 held
      rw [List.filterMap_cons, found]
      show key :: _ = _
      rw [ih fun other member => inside other (List.mem_cons_of_mem _ member)]
  exact all _ fun key member => Array.mem_toList_iff.1 member

/-- The pairs of a table are the keys that have a value, with it. -/
theorem mem_toList_iff (table : OrderedTable κ α) (key : κ) (value : α) :
    (key, value) ∈ table.toList ↔ table.get? key = some value := by
  rw [toList, List.mem_filterMap]
  constructor
  · rintro ⟨other, _, paired⟩
    obtain ⟨found, held, same⟩ := Option.map_eq_some_iff.1 paired
    cases same
    exact held
  · intro held
    have listed := (table.isSome_get?_iff key).1 (Option.isSome_of_eq_some held)
    exact ⟨key, Array.mem_toList_iff.2 listed, by rw [held]; rfl⟩

theorem mem_keys_of_mem_toList {table : OrderedTable κ α} {pair : κ × α}
    (member : pair ∈ table.toList) : pair.1 ∈ table.keys.toList := by
  rw [← map_fst_toList]
  exact List.mem_map_of_mem member

theorem mem_keys_iff {table : OrderedTable κ α} {key : κ} :
    key ∈ table.keys.toList ↔ ∃ value, table.get? key = some value := by
  rw [Array.mem_toList_iff, ← isSome_get?_iff, Option.isSome_iff_exists]

/-- A table with the pairs of a list put in, the first one first. -/
def insertAll (table : OrderedTable κ α) (pairs : List (κ × α)) : OrderedTable κ α :=
  pairs.foldl (fun table pair => table.insert pair.1 pair.2) table

variable {table : OrderedTable κ α} {key : κ} {value : α} {pairs : List (κ × α)}

theorem get?_insertAll_of_not_mem (absent : key ∉ pairs.map Prod.fst) :
    (table.insertAll pairs).get? key = table.get? key := by
  induction pairs generalizing table with
  | nil => rfl
  | cons pair pairs ih =>
    rw [List.map_cons, List.mem_cons, not_or] at absent
    show ((table.insert pair.1 pair.2).insertAll pairs).get? key = _
    rw [ih absent.2, get?_insert, if_neg fun same => absent.1 same.symm]

/-- **Where no key is given twice, each pair is found.** -/
theorem get?_insertAll_of_mem (distinct : (pairs.map Prod.fst).Nodup)
    (member : (key, value) ∈ pairs) : (table.insertAll pairs).get? key = some value := by
  induction pairs generalizing table with
  | nil => cases member
  | cons pair pairs ih =>
    rw [List.map_cons, List.nodup_cons] at distinct
    show ((table.insert pair.1 pair.2).insertAll pairs).get? key = _
    rcases List.mem_cons.1 member with rfl | later
    · rw [get?_insertAll_of_not_mem distinct.1, get?_insert, if_pos rfl]
    · exact ih distinct.2 later

/-- **A value found in a filled table** was there before or is that of one of the pairs. -/
theorem mem_of_get?_insertAll (found : (table.insertAll pairs).get? key = some value) :
    table.get? key = some value ∨ (key, value) ∈ pairs := by
  induction pairs generalizing table with
  | nil => exact .inl found
  | cons pair pairs ih =>
    rcases ih (show ((table.insert pair.1 pair.2).insertAll pairs).get? key = _ from found)
      with before | later
    · rw [get?_insert] at before
      split at before
      · rename_i same
        cases before
        subst same
        exact .inr List.mem_cons_self
      · exact .inl before
    · exact .inr (List.mem_cons_of_mem _ later)

theorem mem_keys_insertAll :
    key ∈ (table.insertAll pairs).keys ↔ key ∈ table.keys ∨ key ∈ pairs.map Prod.fst := by
  induction pairs generalizing table with
  | nil => simp [insertAll]
  | cons pair pairs ih =>
    show key ∈ ((table.insert pair.1 pair.2).insertAll pairs).keys ↔ _
    rw [ih, keys_insert, List.map_cons, List.mem_cons, ← or_assoc]
    refine or_congr_left ?_
    by_cases known : pair.1 ∈ table.keys
    · rw [if_pos known]
      exact ⟨Or.inl, fun either => either.elim id fun same => same ▸ known⟩
    · rw [if_neg known, Array.mem_push]

/-- **Two tables with the same keys in the same order**, the values of the second one being made from
those of the first one. -/
structure Mirrors {β : Type} (change : α → β) (table : OrderedTable κ α) (other : OrderedTable κ β) :
    Prop where
  keys : other.keys = table.keys
  get?_eq : ∀ key, other.get? key = (table.get? key).map change

theorem mirrors_empty {β : Type} (change : α → β) :
    Mirrors change (∅ : OrderedTable κ α) ∅ where
  keys := rfl
  get?_eq := fun key => by rw [get?_empty, get?_empty, Option.map_none]

theorem Mirrors.insert {β : Type} {change : α → β} {other : OrderedTable κ β}
    (mirrors : Mirrors change table other) (key : κ) (value : α) :
    Mirrors change (table.insert key value) (other.insert key (change value)) where
  keys := by rw [keys_insert, keys_insert, mirrors.keys]
  get?_eq := fun asked => by
    rw [get?_insert, get?_insert, mirrors.get?_eq asked]
    split <;> rfl

/-- **Many pairs more, with changed values in the second table, keep two tables alike.** -/
theorem Mirrors.insertAll {β : Type} {change : α → β} {other : OrderedTable κ β}
    (mirrors : Mirrors change table other) (pairs : List (κ × α)) :
    Mirrors change (table.insertAll pairs)
      (other.insertAll (pairs.map fun pair => (pair.1, change pair.2))) := by
  induction pairs generalizing table other with
  | nil => exact mirrors
  | cons pair pairs ih => exact ih (mirrors.insert pair.1 pair.2)

end Cartridge.OrderedTable
