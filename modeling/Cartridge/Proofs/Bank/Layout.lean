import Mathlib.Data.List.Forall2
import Cartridge.Bank.Allocation
import Cartridge.Proofs.Success
import Cartridge.Proofs.Table.Lookup

/-!
# Sound bank layouts

Each symbol is put behind all others of its bank, at the next place that its alignment allows. So
the symbols of a bank stand apart, and each symbol stands in just one bank, with its own bytes.

* `Bank.IsSound`: the symbols of a bank stand apart and within the capacity.
* `Allocation.Lays`: the banks after some symbols have been placed.
* `Allocation.Lays.place`: placing one symbol more keeps to it.
* `Allocation.ofBlobs_eq`: the checks and the placements that a layout is made of.
* `Allocation.Accepts.lays`: so the banks of an accepted layout hold exactly what was to be placed.
* `Allocation.exists_ofBlobs`: as many banks as symbols are always enough.
* `Allocation.Accepts.exists_address`: and everything has an address, which is where it stands.
* `Allocation.Accepts.exists_areApart`: at the addresses, different things have no byte in common.
-/

namespace Cartridge

/-! ### Banks -/

/-- Where a symbol ends. -/
def Placed.past (symbol : Placed) : Nat := symbol.offset.toNat + symbol.bytes.size

/-- **A symbol stands for what was to be placed**, with its bytes and at a place that its alignment
allows. -/
structure Blob.StandsAs (blob : Blob) (symbol : Placed) : Prop where
  name : symbol.name = blob.name
  bytes : symbol.bytes = blob.bytes
  aligned : blob.align ∣ symbol.offset.toNat

theorem Blob.StandsAs.map_name {blobs : List Blob} {symbols : List Placed}
    (standFor : List.Forall₂ Blob.StandsAs blobs symbols) :
    symbols.map Placed.name = blobs.map Blob.name := by
  induction standFor with
  | nil => rfl
  | cons stands _ ih => rw [List.map_cons, List.map_cons, stands.name, ih]

namespace Bank

/-- **A bank whose symbols stand apart**, in the order of their offsets, within the capacity. -/
structure IsSound (capacity : Nat) (bank : Bank) : Prop where
  apart : bank.symbols.toList.Pairwise fun first second => first.past ≤ second.offset.toNat
  past_le : ∀ symbol ∈ bank.symbols, symbol.past ≤ bank.used
  used_le : bank.used ≤ capacity

variable {capacity : Nat} {bank : Bank} {blob : Blob} {offset : UInt16}

@[simp] theorem index_put : (bank.put offset blob).index = bank.index := rfl

@[simp] theorem used_put : (bank.put offset blob).used = offset.toNat + blob.size := rfl

@[simp] theorem symbols_put :
    (bank.put offset blob).symbols = bank.symbols.push ⟨blob.name, offset, blob.bytes⟩ := rfl

/-- **Where something fits**: the first place behind all others that the alignment allows. -/
theorem fit?_eq_some (fits : bank.fit? capacity blob = some offset) :
    bank.used ≤ offset.toNat ∧ offset.toNat < bank.used + blob.align
      ∧ blob.align ∣ offset.toNat ∧ offset.toNat + blob.size ≤ capacity := by
  unfold fit? at fits
  dsimp only at fits
  split at fits
  · rename_i room
    cases fits
    have positive := blob.align_pos
    have split := Nat.div_add_mod (bank.used + blob.align - 1) blob.align
    have less := Nat.mod_lt (bank.used + blob.align - 1) positive
    rw [Nat.mul_comm] at split
    rw [UInt16.toNat_ofNat_of_lt' room.2]
    exact ⟨by omega, by omega, Nat.dvd_mul_left _ _, room.1⟩
  · cases fits

theorem IsSound.put (sound : bank.IsSound capacity) (behind : bank.used ≤ offset.toNat)
    (room : offset.toNat + blob.size ≤ capacity) : (bank.put offset blob).IsSound capacity where
  apart := by
    rw [symbols_put, Array.toList_push, List.pairwise_append]
    refine ⟨sound.apart, List.pairwise_singleton _ _, fun symbol member last only => ?_⟩
    rw [List.mem_singleton.1 only]
    exact Nat.le_trans (sound.past_le symbol (Array.mem_toList_iff.1 member)) behind
  past_le := fun symbol member => by
    rw [symbols_put] at member
    rcases Array.mem_push.1 member with old | rfl
    · have inside := sound.past_le symbol old
      rw [used_put]
      omega
    · exact Nat.le_refl _
  used_le := room

theorem isSound_opened (capacity : Nat) (index : UInt16) : (opened index).IsSound capacity where
  apart := List.Pairwise.nil
  past_le := fun symbol member => by simp [opened] at member
  used_le := Nat.zero_le capacity

/-- Two symbols of a sound bank with different names stand one behind the other. -/
theorem IsSound.apart_of_ne (sound : bank.IsSound capacity) {first second : Placed}
    (member : first ∈ bank.symbols) (also : second ∈ bank.symbols)
    (differ : first.name ≠ second.name) :
    first.past ≤ second.offset.toNat ∨ second.past ≤ first.offset.toNat := by
  have order := List.pairwise_iff_getElem.1 sound.apart
  obtain ⟨place, inside, rfl⟩ := List.getElem_of_mem (Array.mem_toList_iff.2 member)
  obtain ⟨other, alsoInside, rfl⟩ := List.getElem_of_mem (Array.mem_toList_iff.2 also)
  rcases Nat.lt_trichotomy place other with before | rfl | behind
  · exact .inl (order _ _ inside alsoInside before)
  · exact absurd rfl differ
  · exact .inr (order _ _ alsoInside inside behind)

end Bank

/-! ### Placing -/

namespace Allocation

/-- All symbols that stand in some banks, in the order of the banks. -/
def standing (banks : Array Bank) : List Placed :=
  banks.toList.flatMap fun bank => bank.symbols.toList

/-- **The banks after some symbols have been placed.** -/
structure Lays (geometry : Geometry) (banks : Array Bank) (blobs : List Blob) : Prop where
  size_le : banks.size ≤ geometry.ceiling
  /-- The banks are numbered from the first one on. -/
  numbered : banks.toList.map Bank.index
    = (List.range banks.size).map fun place => geometry.firstBank + UInt16.ofNat place
  sound : ∀ bank ∈ banks, bank.IsSound geometry.capacity
  /-- Each of them stands in one bank, once, and nothing else does. -/
  placed : ∃ symbols, List.Forall₂ Blob.StandsAs blobs symbols ∧ symbols.Perm (standing banks)

variable {geometry : Geometry} {banks result : Array Bank} {blobs : List Blob} {blob : Blob}

/-- **Where a symbol goes**: into the first bank with room, or into a new one. -/
theorem place_cases (placed : place geometry banks blob = .ok result) :
    (∃ before bank after offset, banks.toList = before ++ bank :: after
        ∧ (∀ other ∈ before, other.fit? geometry.capacity blob = none)
        ∧ bank.fit? geometry.capacity blob = some offset
        ∧ result.toList = before ++ bank.put offset blob :: after)
      ∨ (∀ bank ∈ banks, bank.fit? geometry.capacity blob = none)
        ∧ banks.size < geometry.ceiling
        ∧ result = banks.push
          ((Bank.opened (geometry.firstBank + UInt16.ofNat banks.size)).put 0 blob) := by
  unfold place at placed
  split at placed
  · rename_i found first
    cases placed
    obtain ⟨inside, fits, earlier⟩ := Array.findIdx?_eq_some_iff_getElem.1 first
    obtain ⟨offset, fits⟩ := Option.isSome_iff_exists.1 fits
    have added : Bank.add geometry.capacity blob banks[found] = banks[found].put offset blob := by
      rw [Bank.add, fits]
    refine .inl ⟨banks.toList.take found, banks[found], banks.toList.drop (found + 1), offset, ?_,
      fun other member => ?_, fits, ?_⟩
    · rw [← Array.getElem_toList, ← List.drop_eq_getElem_cons, List.take_append_drop]
    · obtain ⟨place, least, rfl⟩ := List.mem_take_iff_getElem.1 member
      have before : place < found := Nat.lt_of_lt_of_le least (Nat.min_le_left _ _)
      exact Option.not_isSome_iff_eq_none.1 (earlier place before)
    · rw [Array.toList_modify, List.modify_eq_take_cons_drop (by simpa using inside),
        Array.getElem_toList, added]
  · rename_i nowhere
    have full : ∀ bank ∈ banks, bank.fit? geometry.capacity blob = none := by
      intro bank member
      have refused := Array.findIdx?_eq_none_iff.1 nowhere bank member
      exact Option.isNone_iff_eq_none.1 (by simpa using refused)
    split at placed
    · cases placed
    · rename_i few
      cases placed
      exact .inr ⟨full, Nat.lt_of_not_le few, rfl⟩

/-- What is put behind all others of a bank is new, and all else stays. -/
theorem standing_put {before after : List Bank} {bank : Bank} {offset : UInt16}
    (whole : banks.toList = before ++ bank :: after)
    (next : result.toList = before ++ bank.put offset blob :: after) :
    (standing banks ++ [(⟨blob.name, offset, blob.bytes⟩ : Placed)]).Perm (standing result) := by
  unfold standing
  rw [whole, next, List.flatMap_append, List.flatMap_append, List.flatMap_cons, List.flatMap_cons,
    Bank.symbols_put, Array.toList_push, List.append_assoc, List.append_assoc, List.append_assoc]
  exact ((List.perm_append_comm).append_left _).append_left _

theorem lays_empty (geometry : Geometry) : Lays geometry #[] [] where
  size_le := Nat.zero_le _
  numbered := rfl
  sound := fun bank member => by simp at member
  placed := ⟨[], List.Forall₂.nil, List.Perm.nil⟩

/-- **Placing one symbol more keeps to the layout**, if it fits into a bank. -/
theorem Lays.place (lays : Lays geometry banks blobs) (small : blob.size ≤ geometry.capacity)
    (placed : Allocation.place geometry banks blob = .ok result) :
    Lays geometry result (blobs ++ [blob]) := by
  obtain ⟨symbols, standFor, perm⟩ := lays.placed
  rcases place_cases placed with ⟨before, bank, after, offset, whole, _, fits, next⟩
    | ⟨_, few, rfl⟩
  · obtain ⟨behind, _, aligned, room⟩ := Bank.fit?_eq_some fits
    have sizes : result.size = banks.size := by
      rw [← Array.length_toList, ← Array.length_toList, next, whole, List.length_append,
        List.length_append, List.length_cons, List.length_cons]
    have indices : result.toList.map Bank.index = banks.toList.map Bank.index := by
      rw [next, whole, List.map_append, List.map_append, List.map_cons, List.map_cons,
        Bank.index_put]
    refine ⟨sizes ▸ lays.size_le, by rw [indices, sizes]; exact lays.numbered,
      fun other member => ?_, ?_⟩
    · have inside : ∀ one ∈ before ++ bank :: after, one.IsSound geometry.capacity := by
        rw [← whole]
        exact fun one member => lays.sound one (Array.mem_toList_iff.1 member)
      rw [← Array.mem_toList_iff, next] at member
      rcases List.mem_append.1 member with old | rest
      · exact inside other (List.mem_append_left _ old)
      · rcases List.mem_cons.1 rest with rfl | old
        · exact (inside bank (List.mem_append_right _ List.mem_cons_self)).put behind room
        · exact inside other (List.mem_append_right _ (List.mem_cons_of_mem _ old))
    · exact ⟨symbols ++ [⟨blob.name, offset, blob.bytes⟩],
        List.rel_append standFor (.cons ⟨rfl, rfl, aligned⟩ .nil),
        (perm.append_right _).trans (standing_put whole next)⟩
  · refine ⟨by rw [Array.size_push]; exact few, ?_, fun other member => ?_, ?_⟩
    · rw [Array.toList_push, List.map_append, lays.numbered, Array.size_push, List.range_succ,
        List.map_append]
      rfl
    · rcases Array.mem_push.1 member with old | rfl
      · exact lays.sound other old
      · refine (Bank.isSound_opened _ _).put (Nat.zero_le _) ?_
        show 0 + blob.size ≤ geometry.capacity
        rwa [Nat.zero_add]
    · refine ⟨symbols ++ [⟨blob.name, 0, blob.bytes⟩],
        List.rel_append standFor (.cons ⟨rfl, rfl, Nat.dvd_zero _⟩ .nil), ?_⟩
      rw [standing, Array.toList_push, List.flatMap_append]
      exact perm.append_right _

/-- **Placing symbols one after the other keeps to the layout.** -/
theorem Lays.foldlM (later : List Blob) (small : ∀ blob ∈ later, blob.size ≤ geometry.capacity)
    {banks : Array Bank} {blobs : List Blob} (lays : Lays geometry banks blobs)
    (placed : later.foldlM (Allocation.place geometry) banks = .ok result) :
    Lays geometry result (blobs ++ later) :=
  foldlM_invariant (fun blobs banks => Lays geometry banks blobs) blobs later
    (fun blob member _ _ _ lays placed => lays.place (small blob member) placed) lays placed

/-! ### Whole layouts -/

variable {allocation : Allocation}

/-- **What an accepted layout is**: the geometry is sound, everything fits into a bank, and all has
been placed. -/
structure Accepts (geometry : Geometry) (blobs : List Blob) (allocation : Allocation) : Prop where
  capacity_pos : 0 < geometry.capacity
  capacity_le : geometry.capacity ≤ 65536
  numbers_le : geometry.firstBank.toNat + geometry.ceiling ≤ 65536
  small : ∀ blob ∈ blobs, blob.size ≤ geometry.capacity
  banks : (blobs.mergeSort Blob.precedes).foldlM (place geometry) #[] = .ok allocation.banks
  capacity : allocation.capacity = geometry.capacity
  firstBank : allocation.firstBank = geometry.firstBank
  addresses : allocation.addresses = addressTable allocation.banks

theorem budget_eq_ok {available : Nat} (accepted : geometry.budget = .ok available) :
    0 < geometry.capacity ∧ geometry.capacity ≤ 65536
      ∧ geometry.firstBank.toNat + geometry.ceiling ≤ 65536 := by
  have valid := Geometry.isValid_iff.2 ⟨available, accepted⟩
  exact ⟨valid.capacity_pos, valid.capacity_le, valid.numbers_le⟩

theorem ofBlobs_eq_ok (laid : ofBlobs geometry blobs = .ok allocation) :
    Accepts geometry blobs allocation := by
  obtain ⟨available, accepted, laid⟩ := bind_eq_ok laid
  obtain ⟨positive, bounded, numbers⟩ := budget_eq_ok accepted
  dsimp only at laid
  split at laid
  · cases laid
  rename_i fitting
  split at laid
  · cases laid
  obtain ⟨banks, placed, laid⟩ := bind_eq_ok laid
  cases laid
  refine ⟨positive, bounded, numbers, fun blob member => ?_, placed, rfl, rfl, rfl⟩
  rw [Bool.not_eq_true, Bool.not_eq_false', List.isEmpty_iff, List.filter_eq_nil_iff] at fitting
  exact Nat.le_of_not_lt fun large => fitting blob member (decide_eq_true large)

/-- **The banks of an accepted layout hold exactly what was to be placed.** -/
theorem Accepts.lays (accepts : Accepts geometry blobs allocation) :
    Lays geometry allocation.banks (blobs.mergeSort Blob.precedes) := by
  refine (lays_empty geometry).foldlM _ (fun blob member => accepts.small blob ?_) accepts.banks
  exact (List.mergeSort_perm blobs Blob.precedes).mem_iff.1 member

/-- While there may be one bank more, every symbol is placed, and opens at most one. -/
theorem exists_place (blob : Blob) (few : banks.size < geometry.ceiling) :
    ∃ result, place geometry banks blob = .ok result ∧ result.size ≤ banks.size + 1 := by
  unfold place
  split
  · exact ⟨_, rfl, by rw [Array.size_modify]; exact Nat.le_succ _⟩
  · rw [if_neg (Nat.not_le_of_lt few)]
    exact ⟨_, rfl, Nat.le_of_eq (Array.size_push _)⟩

theorem exists_foldlM_place (later : List Blob) {banks : Array Bank}
    (few : banks.size + later.length ≤ geometry.ceiling) :
    ∃ result, later.foldlM (place geometry) banks = .ok result := by
  induction later generalizing banks with
  | nil => exact ⟨banks, rfl⟩
  | cons blob later ih =>
    rw [List.length_cons] at few
    obtain ⟨next, placed, size⟩ := exists_place blob (show banks.size < geometry.ceiling by omega)
    rw [List.foldlM_cons, placed]
    exact ih (by omega)

theorem total_size_le {capacity : Nat} (small : ∀ blob ∈ blobs, blob.size ≤ capacity) :
    total (blobs.map Blob.size) ≤ capacity * blobs.length := by
  induction blobs with
  | nil => exact Nat.zero_le _
  | cons blob blobs ih =>
    have first := small blob List.mem_cons_self
    have rest := ih fun other member => small other (List.mem_cons_of_mem _ member)
    rw [List.map_cons, total_cons, List.length_cons, Nat.mul_succ]
    omega

/-- The symbols that are larger than a bank. -/
def oversized (geometry : Geometry) (blobs : List Blob) : List Blob :=
  blobs.filter (geometry.capacity < ·.size)

theorem oversized_eq_nil_iff :
    oversized geometry blobs = [] ↔ ∀ blob ∈ blobs, blob.size ≤ geometry.capacity := by
  simp [oversized, List.filter_eq_nil_iff]

/-- **What a valid geometry makes of some symbols**: two checks of their sizes, then one placement
after the other. -/
theorem ofBlobs_eq (valid : geometry.IsValid) (blobs : List Blob) :
    ofBlobs geometry blobs
      = if oversized geometry blobs ≠ [] then
          .error (.symbolTooLarge ((oversized geometry blobs).map fun blob => (blob.name, blob.size))
            geometry.capacity)
        else if geometry.capacity * geometry.ceiling < total (blobs.map Blob.size) then
          .error (.totalExceeded (total (blobs.map Blob.size))
            (geometry.capacity * geometry.ceiling))
        else
          (blobs.mergeSort Blob.precedes).foldlM (place geometry) #[] >>= fun banks =>
            .ok ⟨geometry.capacity, geometry.firstBank, banks, addressTable banks⟩ := by
  rw [ofBlobs, valid.budget_eq]
  show (if (!(oversized geometry blobs).isEmpty) = true then _ else _) = _
  by_cases fitting : oversized geometry blobs = []
  · rw [if_neg (not_not_intro fitting), fitting, if_neg (by decide)]
    show (if geometry.capacity * geometry.ceiling < total (blobs.map Blob.size) then _ else _) = _
    split <;> rfl
  · rw [if_pos fitting, if_pos (by simpa using fitting)]
    rfl

/-- A layout is accepted if its symbols can be placed one after the other, the geometry being sound
and everything fitting into a bank and into all of them together. -/
theorem ofBlobs_of_foldlM (positive : 0 < geometry.capacity) (bounded : geometry.capacity ≤ 65536)
    (numbers : geometry.firstBank.toNat + geometry.ceiling ≤ 65536)
    (small : ∀ blob ∈ blobs, blob.size ≤ geometry.capacity)
    (enough : total (blobs.map Blob.size) ≤ geometry.capacity * geometry.ceiling)
    (placed : (blobs.mergeSort Blob.precedes).foldlM (place geometry) #[] = .ok banks) :
    ofBlobs geometry blobs
      = .ok ⟨geometry.capacity, geometry.firstBank, banks, addressTable banks⟩ := by
  rw [ofBlobs_eq ⟨positive, bounded, numbers⟩, if_neg (not_not_intro (oversized_eq_nil_iff.2 small)),
    if_neg (Nat.not_lt_of_le enough), placed]
  rfl

/-- **A layout is accepted if there may be a bank for each symbol**, the geometry being sound and
everything fitting into a bank. -/
theorem exists_ofBlobs (positive : 0 < geometry.capacity) (bounded : geometry.capacity ≤ 65536)
    (numbers : geometry.firstBank.toNat + geometry.ceiling ≤ 65536)
    (small : ∀ blob ∈ blobs, blob.size ≤ geometry.capacity)
    (few : blobs.length ≤ geometry.ceiling) :
    ∃ allocation, ofBlobs geometry blobs = .ok allocation := by
  obtain ⟨banks, placed⟩ := @exists_foldlM_place geometry (blobs.mergeSort Blob.precedes) #[]
    (by rw [List.length_mergeSort, Array.size_empty, Nat.zero_add]; exact few)
  have enough := Nat.le_trans (total_size_le small) (Nat.mul_le_mul_left geometry.capacity few)
  exact ⟨_, ofBlobs_of_foldlM positive bounded numbers small enough placed⟩

theorem Lays.exists_standing (lays : Lays geometry banks blobs) (member : blob ∈ blobs) :
    ∃ (place : Nat) (bank : Bank) (symbol : Placed), banks[place]? = some bank
      ∧ symbol ∈ bank.symbols ∧ blob.StandsAs symbol := by
  obtain ⟨symbols, standFor, perm⟩ := lays.placed
  obtain ⟨place, inside, rfl⟩ := List.getElem_of_mem member
  have stands := standFor.get inside (standFor.length_eq ▸ inside)
  have there := perm.mem_iff.1 (List.get_mem symbols ⟨place, standFor.length_eq ▸ inside⟩)
  obtain ⟨bank, listed, symbol⟩ := List.mem_flatMap.1 there
  obtain ⟨number, found⟩ := Array.mem_iff_getElem?.1 (Array.mem_toList_iff.1 listed)
  exact ⟨number, bank, _, found, Array.mem_toList_iff.1 symbol, stands⟩

theorem Lays.names_perm (lays : Lays geometry banks blobs) :
    ((standing banks).map Placed.name).Perm (blobs.map Blob.name) := by
  obtain ⟨symbols, standFor, perm⟩ := lays.placed
  rw [← Blob.StandsAs.map_name standFor]
  exact (perm.map Placed.name).symm

/-- **The banks are numbered without wrapping around.** -/
theorem Lays.toNat_index (lays : Lays geometry banks blobs)
    (numbers : geometry.firstBank.toNat + geometry.ceiling ≤ 65536) {place : Nat} {bank : Bank}
    (found : banks[place]? = some bank) : bank.index.toNat = geometry.firstBank.toNat + place := by
  obtain ⟨inside, there⟩ := Array.getElem?_eq_some_iff.1 found
  have few := lays.size_le
  have listed : (banks.toList.map Bank.index)[place]? = some bank.index := by
    rw [List.getElem?_map, Array.getElem?_toList, found]
    rfl
  rw [lays.numbered, List.getElem?_map, List.getElem?_range inside] at listed
  have index := Option.some.inj listed
  rw [← index, UInt16.toNat_add, UInt16.toNat_ofNat_of_lt' (show place < 65536 by omega)]
  exact Nat.mod_eq_of_lt (by omega)

/-- **No two banks have the same number.** -/
theorem Lays.nodup_indices (lays : Lays geometry banks blobs)
    (numbers : geometry.firstBank.toNat + geometry.ceiling ≤ 65536) :
    (banks.toList.map Bank.index).Nodup := by
  refine List.pairwise_iff_getElem.2 fun first second inside alsoInside less same => ?_
  rw [List.length_map, Array.length_toList] at inside alsoInside
  simp only [List.getElem_map, Array.getElem_toList] at same
  have number := lays.toNat_index numbers (Array.getElem?_eq_getElem inside)
  rw [same, lays.toNat_index numbers (Array.getElem?_eq_getElem alsoInside)] at number
  omega

/-! ### Addresses -/

/-- The symbols that stand in some banks, each with its address. -/
def addressed (banks : Array Bank) : List (String × UInt16 × UInt16) :=
  banks.toList.flatMap fun bank =>
    bank.symbols.toList.map fun symbol => (symbol.name, bank.index, symbol.offset)

theorem addressTable_eq (banks : Array Bank) :
    addressTable banks = OrderedTable.insertAll ∅ (addressed banks) := by
  rw [addressTable, OrderedTable.insertAll, addressed, ← Array.foldl_toList, List.foldl_flatMap]
  refine congrArg (fun step => banks.toList.foldl step ∅) (funext fun table => funext fun bank => ?_)
  rw [List.foldl_map, ← Array.foldl_toList]

theorem names_addressed (banks : Array Bank) :
    (addressed banks).map Prod.fst = (standing banks).map Placed.name := by
  rw [addressed, standing, List.map_flatMap, List.map_flatMap]
  simp only [List.map_map]
  rfl

/-- **Everything stands once**, and nothing else does. -/
theorem Accepts.names_perm (accepts : Accepts geometry blobs allocation) :
    ((standing allocation.banks).map Placed.name).Perm (blobs.map Blob.name) :=
  accepts.lays.names_perm.trans ((List.mergeSort_perm blobs Blob.precedes).map Blob.name)

theorem Accepts.contains_addresses (accepts : Accepts geometry blobs allocation) (name : String) :
    allocation.addresses.contains name = true ↔ name ∈ blobs.map Blob.name := by
  rw [OrderedTable.contains_iff, accepts.addresses, addressTable_eq,
    OrderedTable.mem_keys_insertAll, names_addressed, accepts.names_perm.mem_iff]
  simp

/-- **The address of a symbol is where it stands**, if no two have the same name. -/
theorem Accepts.address?_eq (accepts : Accepts geometry blobs allocation)
    (distinct : (blobs.map Blob.name).Nodup) {bank : Bank} {symbol : Placed}
    (listed : bank ∈ allocation.banks) (member : symbol ∈ bank.symbols) :
    allocation.address? symbol.name = some (bank.index, symbol.offset) := by
  rw [address?, accepts.addresses, addressTable_eq]
  refine OrderedTable.get?_insertAll_of_mem ?_ ?_
  · rw [names_addressed]
    exact accepts.names_perm.nodup_iff.2 distinct
  · exact List.mem_flatMap.2 ⟨bank, Array.mem_toList_iff.2 listed,
      List.mem_map.2 ⟨symbol, Array.mem_toList_iff.2 member, rfl⟩⟩

/-- **Everything that was to be placed has an address**, where it stands with its own bytes. -/
theorem Accepts.exists_address (accepts : Accepts geometry blobs allocation)
    (distinct : (blobs.map Blob.name).Nodup) (member : blob ∈ blobs) :
    ∃ (place : Nat) (bank : Bank) (symbol : Placed), allocation.banks[place]? = some bank
      ∧ symbol ∈ bank.symbols ∧ blob.StandsAs symbol
      ∧ bank.index.toNat = geometry.firstBank.toNat + place
      ∧ allocation.address? blob.name = some (bank.index, symbol.offset) := by
  have sorted := (List.mergeSort_perm blobs Blob.precedes).mem_iff.2 member
  obtain ⟨place, bank, symbol, found, there, stands⟩ := accepts.lays.exists_standing sorted
  refine ⟨place, bank, symbol, found, there, stands,
    accepts.lays.toNat_index accepts.numbers_le found, ?_⟩
  rw [← stands.name]
  exact accepts.address?_eq distinct (Array.mem_of_getElem? found) there

/-- **Whether runs of bytes have no byte in common**, given the banks and the offsets of their first
bytes, and their sizes. -/
def AreApart (first : UInt16 × UInt16) (size : Nat) (second : UInt16 × UInt16) (otherSize : Nat) :
    Prop :=
  first.1 = second.1 →
    first.2.toNat + size ≤ second.2.toNat ∨ second.2.toNat + otherSize ≤ first.2.toNat

/-- **Different things stand apart.** -/
theorem Accepts.exists_areApart (accepts : Accepts geometry blobs allocation)
    (distinct : (blobs.map Blob.name).Nodup) {first second : Blob} (member : first ∈ blobs)
    (also : second ∈ blobs) (differ : first.name ≠ second.name) :
    ∃ address other, allocation.address? first.name = some address
      ∧ allocation.address? second.name = some other
      ∧ AreApart address first.size other second.size := by
  obtain ⟨place, bank, symbol, found, there, stands, number, address⟩ :=
    accepts.exists_address distinct member
  obtain ⟨otherPlace, otherBank, otherSymbol, otherFound, otherThere, otherStands, otherNumber,
    otherAddress⟩ := accepts.exists_address distinct also
  refine ⟨_, _, address, otherAddress, fun same => ?_⟩
  have samePlace : place = otherPlace := by
    have numbers := congrArg UInt16.toNat same
    rw [number, otherNumber] at numbers
    exact Nat.add_left_cancel numbers
  subst samePlace
  cases found.symm.trans otherFound
  have apart := (accepts.lays.sound bank (Array.mem_of_getElem? found)).apart_of_ne there otherThere
    (by rw [stands.name, otherStands.name]; exact differ)
  unfold Placed.past at apart
  rwa [stands.bytes, otherStands.bytes] at apart

end Allocation
end Cartridge
