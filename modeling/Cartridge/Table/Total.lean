/-!
# Totals

* `total` — the sum of a list of numbers.
* `total_append` — the total of two lists together.
* `total_eq_of_perm` — the total does not depend on the order.
* `length_flatMap_eq_total` — the length of what is put together from parts.
-/

namespace Cartridge

/-- The sum of a list of numbers. -/
def total : List Nat → Nat
  | [] => 0
  | number :: rest => number + total rest

@[simp]
theorem total_nil : total [] = 0 := rfl

@[simp]
theorem total_cons (number : Nat) (rest : List Nat) :
    total (number :: rest) = number + total rest := rfl

@[simp]
theorem total_append (first second : List Nat) :
    total (first ++ second) = total first + total second := by
  induction first with
  | nil => simp
  | cons number rest ih => simp [ih, Nat.add_assoc]

/-- The order of the numbers does not matter. -/
theorem total_eq_of_perm {first second : List Nat} (perm : first.Perm second) :
    total first = total second := by
  induction perm with
  | nil => rfl
  | cons number _ ih => rw [total_cons, total_cons, ih]
  | swap number other rest =>
    rw [total_cons, total_cons, total_cons, total_cons, Nat.add_left_comm]
  | trans _ _ head tail => exact head.trans tail

/-- What is put together from parts is as long as the parts are together. -/
theorem length_flatMap_eq_total {α β : Type} (part : α → List β) (items : List α) :
    (items.flatMap part).length = total (items.map fun item => (part item).length) := by
  induction items with
  | nil => rfl
  | cons item rest ih => simp [ih]

end Cartridge
