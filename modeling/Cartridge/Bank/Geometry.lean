/-!
# The geometry of the data banks

The cartridge's data lies in banks of one size. An offset into a bank and the number of a bank are
two bytes each.

* `Geometry.budget` — how many bytes all banks hold, or why the geometry is refused.
* `Geometry.IsValid` — a geometry that is not refused.
* `CapacityError` — why data does not fit the banks.
-/

namespace Cartridge

/-- The banks that the data may use. -/
structure Geometry where
  /-- The size of a bank. -/
  capacity : Nat
  /-- The greatest number of banks. -/
  ceiling : Nat
  /-- The number of the first bank. -/
  firstBank : UInt16
  deriving DecidableEq, Repr

/-- The size of a bank whose offsets use all of two bytes. -/
def Geometry.greatestCapacity : Nat := 0x10000

/-- Why data does not fit the banks. -/
inductive CapacityError where
  /-- Some symbols are larger than a bank; each is given with its size. -/
  | symbolTooLarge (symbols : List (String × Nat)) (capacity : Nat)
  /-- All symbols together are larger than all banks. -/
  | totalExceeded (required available : Nat)
  /-- A symbol needs one more bank than there may be. -/
  | ceilingExceeded (symbol : String) (size needed ceiling : Nat)
  /-- Offsets would not fit two bytes. -/
  | badCapacity (capacity : Nat)
  /-- Bank numbers would not fit two bytes. -/
  | badCeiling (ceiling : Nat) (firstBank : UInt16)
  deriving DecidableEq, Repr

/-- The message for data that does not fit. -/
def CapacityError.message : CapacityError → String
  | symbolTooLarge symbols capacity =>
    s!"symbol(s) larger than one bank ({capacity} bytes): "
      ++ ", ".intercalate (symbols.map fun (name, size) => s!"{name} ({size} bytes)")
  | totalExceeded required available =>
    s!"data needs {required} bytes but only {available} are available "
      ++ s!"({required - available} short)"
  | ceilingExceeded symbol size needed ceiling =>
    s!"placing `{symbol}` ({size} bytes) would need bank {needed} of at most {ceiling}"
  | badCapacity capacity =>
    s!"invalid bank geometry: bank_capacity {capacity} is outside "
      ++ s!"1..={Geometry.greatestCapacity}"
  | badCeiling ceiling firstBank =>
    s!"invalid bank geometry: {ceiling} banks from bank {firstBank} run past bank 65535"

/-- How many bytes all banks hold. -/
def Geometry.budget (geometry : Geometry) : Except CapacityError Nat :=
  if geometry.capacity = 0 ∨ Geometry.greatestCapacity < geometry.capacity then
    .error (.badCapacity geometry.capacity)
  else if 65536 < geometry.firstBank.toNat + geometry.ceiling then
    .error (.badCeiling geometry.ceiling geometry.firstBank)
  else .ok (geometry.capacity * geometry.ceiling)

/-- A geometry whose offsets and bank numbers fit two bytes each. -/
structure Geometry.IsValid (geometry : Geometry) : Prop where
  capacity_pos : 0 < geometry.capacity
  capacity_le : geometry.capacity ≤ 65536
  numbers_le : geometry.firstBank.toNat + geometry.ceiling ≤ 65536

/-- A valid geometry has room for as many banks as it names. -/
theorem Geometry.IsValid.budget_eq {geometry : Geometry} (valid : geometry.IsValid) :
    geometry.budget = .ok (geometry.capacity * geometry.ceiling) := by
  have positive := valid.capacity_pos
  have bounded := valid.capacity_le
  have numbers := valid.numbers_le
  rw [budget, greatestCapacity, if_neg (by omega), if_neg (by omega)]

/-- The valid geometries are those that are not refused. -/
theorem Geometry.isValid_iff {geometry : Geometry} :
    geometry.IsValid ↔ ∃ available, geometry.budget = .ok available := by
  refine ⟨fun valid => ⟨_, valid.budget_eq⟩, ?_⟩
  rintro ⟨available, accepted⟩
  unfold budget greatestCapacity at accepted
  split at accepted
  · cases accepted
  · split at accepted
    · cases accepted
    · exact ⟨by omega, by omega, by omega⟩

end Cartridge
