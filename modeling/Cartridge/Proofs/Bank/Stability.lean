import Mathlib.Data.List.Nodup
import Mathlib.Data.String.Basic
import Cartridge.Proofs.Bank.Layout

/-!
# What a layout depends on

Symbols are sorted before they are placed, and symbols with different names have only one sorted
order. The ceiling is only looked at when a bank is to be opened, and the number of the first bank
goes into nothing but the numbers of the banks.

* `Blob.mergeSort_eq_of_perm`: symbols in any order are sorted alike.
* `Allocation.agrees_of_perm`: so their order makes no difference, but for the list of those that are
  too large.
* `Allocation.place_of_le`: a symbol goes where it would go under a lower ceiling.
* `Allocation.place_move`: with another first bank it goes to the bank at the same place.
* `Allocation.ofBlobs_depends`: so it is for whole layouts.
-/

namespace Cartridge

/-! ### One sorted order -/

namespace Blob

variable {first second third : Blob} {blobs others : List Blob}

theorem precedes_iff : first.precedes second = true
    ↔ second.size < first.size ∨ second.size = first.size ∧ first.name ≤ second.name := by
  simp [precedes]

theorem precedes_trans (before : first.precedes second = true)
    (after : second.precedes third = true) : first.precedes third = true := by
  rw [precedes_iff] at before after ⊢
  rcases before with larger | ⟨even, named⟩
  · left
    rcases after with more | ⟨same, _⟩ <;> omega
  · rcases after with more | ⟨same, last⟩
    · left
      omega
    · exact .inr ⟨same.trans even, le_trans named last⟩

theorem precedes_total (first second : Blob) :
    (first.precedes second || second.precedes first) = true := by
  rw [Bool.or_eq_true, precedes_iff, precedes_iff]
  rcases Nat.lt_trichotomy first.size second.size with less | even | more
  · exact .inr (.inl less)
  · rcases le_total first.name second.name with named | named
    · exact .inl (.inr ⟨even.symm, named⟩)
    · exact .inr (.inr ⟨even, named⟩)
  · exact .inl (.inl more)

/-- Symbols that precede one another have the same name. -/
theorem name_eq_of_precedes (before : first.precedes second = true)
    (after : second.precedes first = true) : first.name = second.name := by
  rw [precedes_iff] at before after
  rcases before with larger | ⟨_, named⟩
  · rcases after with more | ⟨same, _⟩ <;> omega
  · rcases after with more | ⟨_, last⟩
    · omega
    · exact le_antisymm named last

/-- Sorted symbols stand in their order. -/
theorem pairwise_mergeSort (blobs : List Blob) :
    (blobs.mergeSort precedes).Pairwise fun first second => first.precedes second = true :=
  @List.pairwise_mergeSort _ precedes (fun _ _ _ => precedes_trans) precedes_total blobs

/-- **Symbols with different names have only one sorted order.** -/
theorem mergeSort_eq_of_perm (distinct : (blobs.map Blob.name).Nodup) (perm : others.Perm blobs) :
    others.mergeSort precedes = blobs.mergeSort precedes := by
  refine List.Perm.eq_of_pairwise (fun one other member also before after => ?_)
    (pairwise_mergeSort others) (pairwise_mergeSort blobs)
    (((List.mergeSort_perm others precedes).trans perm).trans
      (List.mergeSort_perm blobs precedes).symm)
  exact List.inj_on_of_nodup_map distinct
    (perm.mem_iff.1 ((List.mergeSort_perm others precedes).mem_iff.1 member))
    ((List.mergeSort_perm blobs precedes).mem_iff.1 also) (name_eq_of_precedes before after)

end Blob

namespace Allocation

variable {geometry : Geometry} {banks result : Array Bank} {blobs others : List Blob} {blob : Blob}
  {allocation : Allocation}

/-! ### Another order -/

/-- **Whether two outcomes agree**, up to the order in which symbols that are too large are listed. -/
inductive Agrees : Except CapacityError Allocation → Except CapacityError Allocation → Prop where
  | same (outcome : Except CapacityError Allocation) : Agrees outcome outcome
  | reordered {symbols others : List (String × Nat)} {capacity : Nat}
    (perm : symbols.Perm others) :
    Agrees (.error (.symbolTooLarge symbols capacity)) (.error (.symbolTooLarge others capacity))

/-- **The order of the symbols makes no difference.** -/
theorem agrees_of_perm (valid : geometry.IsValid) (distinct : (blobs.map Blob.name).Nodup)
    (perm : others.Perm blobs) :
    Agrees (ofBlobs geometry others) (ofBlobs geometry blobs) := by
  have large : (oversized geometry others).Perm (oversized geometry blobs) := perm.filter _
  rw [ofBlobs_eq valid, ofBlobs_eq valid, total_eq_of_perm (perm.map Blob.size),
    Blob.mergeSort_eq_of_perm distinct perm]
  by_cases fitting : oversized geometry blobs = []
  · rw [if_neg (not_not_intro fitting),
      if_neg (not_not_intro (List.perm_nil.1 (fitting ▸ large)))]
    exact .same _
  · have also : oversized geometry others ≠ [] := fun none =>
      fitting (List.nil_perm.1 (none ▸ large))
    rw [if_pos fitting, if_pos also]
    exact .reordered (large.map _)

/-! ### A higher ceiling -/

/-- **A symbol goes where it would go under a lower ceiling.** -/
theorem place_of_le {ceiling : Nat} (higher : geometry.ceiling ≤ ceiling)
    (placed : place geometry banks blob = .ok result) :
    place { geometry with ceiling := ceiling } banks blob = .ok result := by
  unfold place at placed ⊢
  dsimp only
  split at placed
  · exact placed
  · split at placed
    · cases placed
    · rename_i few
      rw [if_neg fun many => few (Nat.le_trans higher many)]
      exact placed

theorem foldlM_place_of_le {ceiling : Nat} (higher : geometry.ceiling ≤ ceiling)
    (later : List Blob) {banks : Array Bank}
    (placed : later.foldlM (place geometry) banks = .ok result) :
    later.foldlM (place { geometry with ceiling := ceiling }) banks = .ok result := by
  induction later generalizing banks with
  | nil => exact placed
  | cons blob later ih =>
    rw [List.foldlM_cons] at placed ⊢
    obtain ⟨next, head, tail⟩ := bind_eq_ok placed
    rw [place_of_le higher head]
    exact ih tail

/-- **A layout stays as it is under a higher ceiling.** -/
theorem ofBlobs_of_le {ceiling : Nat} (higher : geometry.ceiling ≤ ceiling)
    (valid : Geometry.IsValid { geometry with ceiling := ceiling })
    (laid : ofBlobs geometry blobs = .ok allocation) :
    ofBlobs { geometry with ceiling := ceiling } blobs = .ok allocation := by
  have accepts := ofBlobs_eq_ok laid
  have known : geometry.IsValid :=
    ⟨accepts.capacity_pos, accepts.capacity_le, accepts.numbers_le⟩
  have placed := foldlM_place_of_le higher _ accepts.banks
  rw [ofBlobs_eq known, accepts.banks] at laid
  split at laid
  · cases laid
  · split at laid
    · cases laid
    · rename_i less
      have enough := Nat.le_trans (Nat.le_of_not_lt less)
        (Nat.mul_le_mul_left geometry.capacity higher)
      exact (ofBlobs_of_foldlM valid.capacity_pos valid.capacity_le valid.numbers_le accepts.small
        enough placed).trans laid

/-! ### Another first bank -/

end Allocation

/-- A geometry whose banks are numbered from another one on. -/
def Geometry.move (distance : UInt16) (geometry : Geometry) : Geometry :=
  { geometry with firstBank := geometry.firstBank + distance }

/-- Every first bank is some distance away. -/
theorem Geometry.move_sub (geometry : Geometry) (firstBank : UInt16) :
    geometry.move (firstBank - geometry.firstBank) = { geometry with firstBank := firstBank } := by
  rw [move, UInt16.add_comm, UInt16.sub_add_cancel]

namespace Bank

/-- A bank with another number. -/
def move (distance : UInt16) (bank : Bank) : Bank :=
  { bank with index := bank.index + distance }

variable {capacity : Nat} {blob : Blob} {distance : UInt16} {bank : Bank}

@[simp] theorem fit?_move : (bank.move distance).fit? capacity blob = bank.fit? capacity blob := rfl

/-- Where a symbol goes in a bank has nothing to do with the number of the bank. -/
theorem add_move : (bank.move distance).add capacity blob = (bank.add capacity blob).move distance := by
  unfold add
  rw [fit?_move]
  split <;> rfl

end Bank

namespace Allocation

variable {geometry : Geometry} {banks : Array Bank} {blobs : List Blob} {allocation : Allocation}
  {distance : UInt16}

/-- **With another first bank a symbol goes to the bank at the same place.** -/
theorem place_move (geometry : Geometry) (distance : UInt16) (banks : Array Bank) (blob : Blob) :
    place (geometry.move distance) (banks.map (Bank.move distance)) blob
      = (place geometry banks blob).map (Array.map (Bank.move distance)) := by
  have same : (banks.map (Bank.move distance)).findIdx?
        (fun bank => (bank.fit? (geometry.move distance).capacity blob).isSome)
      = banks.findIdx? fun bank => (bank.fit? geometry.capacity blob).isSome := by
    rw [Array.findIdx?_map]
    rfl
  unfold place
  rw [same]
  split
  · refine congrArg Except.ok (Array.ext (by simp) fun place inside also => ?_)
    rw [Array.getElem_map, Array.getElem_modify, Array.getElem_modify, Array.getElem_map]
    split
    · exact Bank.add_move
    · rfl
  · rw [Array.size_map]
    show (if geometry.ceiling ≤ banks.size then _ else _) = Except.map _ (if _ then _ else _)
    split
    · rfl
    · refine congrArg Except.ok ?_
      have number : geometry.firstBank + distance + UInt16.ofNat banks.size
          = geometry.firstBank + UInt16.ofNat banks.size + distance := by
        rw [UInt16.add_assoc, UInt16.add_comm distance, UInt16.add_assoc]
      rw [Array.map_push]
      show (banks.map (Bank.move distance)).push
        ((Bank.opened (geometry.firstBank + distance + UInt16.ofNat banks.size)).put 0 blob) = _
      rw [number]
      rfl

theorem foldlM_place_move (geometry : Geometry) (distance : UInt16) (later : List Blob)
    (banks : Array Bank) :
    later.foldlM (place (geometry.move distance)) (banks.map (Bank.move distance))
      = (later.foldlM (place geometry) banks).map (Array.map (Bank.move distance)) := by
  induction later generalizing banks with
  | nil => rfl
  | cons blob later ih =>
    rw [List.foldlM_cons, List.foldlM_cons, place_move]
    cases place geometry banks blob with
    | error fault => rfl
    | ok next => exact ih next

/-- A layout whose banks have other numbers. -/
def move (distance : UInt16) (allocation : Allocation) : Allocation where
  capacity := allocation.capacity
  firstBank := allocation.firstBank + distance
  banks := allocation.banks.map (Bank.move distance)
  addresses := addressTable (allocation.banks.map (Bank.move distance))

/-- **With another first bank a layout has other numbers of banks.** -/
theorem ofBlobs_move (valid : geometry.IsValid) (also : (geometry.move distance).IsValid)
    (blobs : List Blob) :
    ofBlobs (geometry.move distance) blobs = (ofBlobs geometry blobs).map (move distance) := by
  have placed := foldlM_place_move geometry distance (blobs.mergeSort Blob.precedes) #[]
  rw [Array.map_empty] at placed
  rw [ofBlobs_eq valid, ofBlobs_eq also, placed]
  show (if oversized geometry blobs ≠ [] then _ else if geometry.capacity * geometry.ceiling
    < total (blobs.map Blob.size) then _ else _) = _
  split
  · rfl
  · split
    · rfl
    · cases (blobs.mergeSort Blob.precedes).foldlM (place geometry) #[] <;> rfl

/-- The addresses change as the banks do. -/
theorem mirrors_addressTable (distance : UInt16) (banks : Array Bank) :
    OrderedTable.Mirrors (fun address => (address.1 + distance, address.2)) (addressTable banks)
      (addressTable (banks.map (Bank.move distance))) := by
  have moved : addressed (banks.map (Bank.move distance))
      = (addressed banks).map fun pair => (pair.1, pair.2.1 + distance, pair.2.2) := by
    unfold addressed
    rw [Array.toList_map, List.flatMap_map, List.map_flatMap]
    simp only [List.map_map]
    rfl
  rw [addressTable_eq, addressTable_eq, moved]
  exact (OrderedTable.mirrors_empty _).insertAll (addressed banks)

/-- **Whether two numbers of banks are as far apart as two first banks.** -/
def AsFar (first second number other : UInt16) : Prop :=
  (other.toNat : Int) - number.toNat = second.toNat - first.toNat

/-- **Whether a layout differs from another one only in the numbers of the banks**, all of them by
what the first banks differ by. -/
structure IsMoved (allocation moved : Allocation) : Prop where
  capacity : moved.capacity = allocation.capacity
  banks : List.Forall₂ (fun bank other : Bank => other.symbols = bank.symbols
      ∧ other.used = bank.used ∧ AsFar allocation.firstBank moved.firstBank bank.index other.index)
    allocation.banks.toList moved.banks.toList
  /-- The addresses are in the same order. -/
  names : moved.addresses.keys = allocation.addresses.keys
  addresses : ∀ name, Option.Rel (fun address other => other.2 = address.2
      ∧ AsFar allocation.firstBank moved.firstBank address.1 other.1)
    (allocation.address? name) (moved.address? name)

/-- No number of a bank wraps around, neither before nor after. -/
theorem Accepts.asFar_move (accepts : Accepts geometry blobs allocation)
    (moved : Accepts (geometry.move distance) blobs (allocation.move distance)) {bank : Bank}
    (listed : bank ∈ allocation.banks) :
    AsFar allocation.firstBank (allocation.move distance).firstBank bank.index
      (bank.index + distance) := by
  obtain ⟨place, found⟩ := Array.mem_iff_getElem?.1 listed
  have there : (allocation.move distance).banks[place]? = some (bank.move distance) := by
    show (allocation.banks.map (Bank.move distance))[place]? = _
    rw [Array.getElem?_map, found]
    rfl
  have before := accepts.lays.toNat_index accepts.numbers_le found
  have after : (bank.index + distance).toNat = _ :=
    moved.lays.toNat_index moved.numbers_le there
  rw [AsFar, accepts.firstBank, moved.firstBank, before, after]
  omega

theorem Accepts.isMoved (accepts : Accepts geometry blobs allocation)
    (moved : Accepts (geometry.move distance) blobs (allocation.move distance)) :
    IsMoved allocation (allocation.move distance) where
  capacity := rfl
  banks := by
    show List.Forall₂ _ _ (allocation.banks.map (Bank.move distance)).toList
    rw [Array.toList_map, List.forall₂_map_right_iff, List.forall₂_same]
    exact fun bank listed => ⟨rfl, rfl, accepts.asFar_move moved (Array.mem_toList_iff.1 listed)⟩
  names := by
    rw [accepts.addresses]
    exact (mirrors_addressTable distance allocation.banks).keys
  addresses := fun name => by
    have changed := (mirrors_addressTable distance allocation.banks).get?_eq name
    rw [← accepts.addresses] at changed
    show Option.Rel _ (allocation.addresses.get? name)
      ((addressTable (allocation.banks.map (Bank.move distance))).get? name)
    rw [changed]
    cases found : allocation.addresses.get? name with
    | none => exact .none
    | some address =>
      rw [accepts.addresses, addressTable_eq] at found
      rcases OrderedTable.mem_of_get?_insertAll found with before | member
      · rw [OrderedTable.get?_empty] at before
        cases before
      · obtain ⟨bank, listed, member⟩ := List.mem_flatMap.1 member
        obtain ⟨symbol, _, paired⟩ := List.mem_map.1 member
        cases paired
        exact .some ⟨rfl, accepts.asFar_move moved (Array.mem_toList_iff.1 listed)⟩

/-! ### Whole layouts -/

/-- **What a layout depends on.** For symbols with different names and a valid geometry, it does not
depend on their order, but for the order in which those that are too large are reported. With more
banks to use, an accepted layout stays as it is. With another first bank, what was refused is refused
alike, and in what was accepted the numbers of the banks differ by what the first banks do, and
nothing else. -/
theorem ofBlobs_depends (valid : geometry.IsValid) (distinct : (blobs.map Blob.name).Nodup) :
    (∀ others : List Blob, others.Perm blobs →
        Agrees (ofBlobs geometry others) (ofBlobs geometry blobs))
      ∧ (∀ ceiling allocation, geometry.ceiling ≤ ceiling →
          Geometry.IsValid { geometry with ceiling := ceiling } →
            ofBlobs geometry blobs = .ok allocation →
              ofBlobs { geometry with ceiling := ceiling } blobs = .ok allocation)
      ∧ ∀ firstBank, Geometry.IsValid { geometry with firstBank := firstBank } →
          (∀ fault, ofBlobs { geometry with firstBank := firstBank } blobs = .error fault
              ↔ ofBlobs geometry blobs = .error fault)
            ∧ ∀ allocation, ofBlobs geometry blobs = .ok allocation →
                allocation.firstBank = geometry.firstBank
                  ∧ ∃ moved, ofBlobs { geometry with firstBank := firstBank } blobs = .ok moved
                    ∧ moved.firstBank = firstBank ∧ IsMoved allocation moved := by
  refine ⟨fun others => agrees_of_perm valid distinct,
    fun ceiling allocation higher also => ofBlobs_of_le higher also, fun firstBank also => ?_⟩
  rw [← Geometry.move_sub] at also ⊢
  rw [ofBlobs_move valid also]
  refine ⟨fun fault => ?_, fun allocation laid => ?_⟩
  · cases ofBlobs geometry blobs with
    | error other => exact Iff.rfl
    | ok allocation => exact ⟨fun same => (by cases same), fun same => (by cases same)⟩
  · have accepts := ofBlobs_eq_ok laid
    have moved := ofBlobs_eq_ok ((ofBlobs_move valid also blobs).trans (congrArg _ laid))
    refine ⟨accepts.firstBank, _, congrArg _ laid, moved.firstBank.trans ?_, accepts.isMoved moved⟩
    rw [Geometry.move_sub]

/-- Two symbols that do not fit into one bank of ten bytes, and one for the rest of the first bank. -/
def parcels : List Blob :=
  [.aligned "a" (.replicate 6 0) 1, .aligned "b" (.replicate 6 0) 1,
    .aligned "c" (.replicate 4 0) 2]

/-- The two banks stay as they are when the symbols come the other way round and when there may be a
third bank, and are numbered from five on when that is the number of the first bank. -/
theorem ofBlobs_depends_parcels :
    ∃ allocation, ofBlobs ⟨10, 2, 1⟩ parcels = .ok allocation
      ∧ allocation.banks.map Bank.index = #[1, 2]
      ∧ Agrees (ofBlobs ⟨10, 2, 1⟩ parcels.reverse) (.ok allocation)
      ∧ ofBlobs ⟨10, 3, 1⟩ parcels = .ok allocation
      ∧ ∃ moved, ofBlobs ⟨10, 2, 5⟩ parcels = .ok moved ∧ moved.firstBank = 5
        ∧ IsMoved allocation moved := by
  have valid : Geometry.IsValid ⟨10, 2, 1⟩ := ⟨by decide, by decide, by decide⟩
  have sorted : parcels.mergeSort Blob.precedes = parcels :=
    List.mergeSort_of_pairwise (by decide)
  have placed : ∃ banks, parcels.foldlM (place ⟨10, 2, 1⟩) #[] = .ok banks
      ∧ banks.map Bank.index = #[1, 2] := ⟨_, by cbv, by cbv⟩
  obtain ⟨banks, placed, indices⟩ := placed
  have laid : ofBlobs ⟨10, 2, 1⟩ parcels = .ok ⟨10, 1, banks, addressTable banks⟩ :=
    ofBlobs_of_foldlM valid.capacity_pos valid.capacity_le valid.numbers_le (by decide) (by decide)
      (by rw [sorted, placed])
  obtain ⟨order, higher, moved⟩ := @ofBlobs_depends ⟨10, 2, 1⟩ parcels valid (by decide)
  have agrees := order parcels.reverse (List.reverse_perm parcels)
  rw [laid] at agrees
  exact ⟨_, laid, indices, agrees,
    higher 3 _ (by decide) ⟨by decide, by decide, by decide⟩ laid,
    ((moved 5 ⟨by decide, by decide, by decide⟩).2 _ laid).2⟩

end Allocation
end Cartridge
