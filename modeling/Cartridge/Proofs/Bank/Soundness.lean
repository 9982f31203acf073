import Mathlib.Data.List.Nodup
import Cartridge.Proofs.Bank.Image

/-!
# Accepted layouts are sound

The places of symbols are counted in words. Counted without a limit they would be the same: in each
bank its symbols stand one behind the other, each at the first place that its alignment allows.

* `Bank.Holds`: a bank holds some symbols, and nothing else, at the places counted without a limit.
* `Allocation.Distributes`: each bank holds its share of the symbols.
* `Allocation.Distributes.foldlM`: placing symbols one after the other keeps to it.
* `Allocation.IsSound`: all that an accepted layout has to be.
* `Allocation.isSound_ofBlobs`: every accepted layout of symbols with different names is sound.
-/

namespace Cartridge

/-! ### Places counted without a limit -/

namespace Blob

/-- The first place from another one on that the alignment of a symbol allows. -/
def placeFrom (blob : Blob) (used : Nat) : Nat :=
  (used + blob.align - 1) / blob.align * blob.align

/-- Where symbols stand that are put one behind the other from a place on. -/
def placesFrom (used : Nat) : List Blob → List Nat
  | [] => []
  | blob :: blobs => blob.placeFrom used :: placesFrom (blob.placeFrom used + blob.size) blobs

/-- Where the last of them ends. -/
def endFrom (used : Nat) : List Blob → Nat
  | [] => used
  | blob :: blobs => endFrom (blob.placeFrom used + blob.size) blobs

theorem placesFrom_append_singleton (used : Nat) (blobs : List Blob) (blob : Blob) :
    placesFrom used (blobs ++ [blob])
      = placesFrom used blobs ++ [blob.placeFrom (endFrom used blobs)] := by
  induction blobs generalizing used with
  | nil => rfl
  | cons first blobs ih => rw [List.cons_append, placesFrom, ih, placesFrom, endFrom, List.cons_append]

theorem endFrom_append_singleton (used : Nat) (blobs : List Blob) (blob : Blob) :
    endFrom used (blobs ++ [blob])
      = blob.placeFrom (endFrom used blobs) + blob.size := by
  induction blobs generalizing used with
  | nil => rfl
  | cons first blobs ih => rw [List.cons_append, endFrom, ih, endFrom]

/-- At the beginning of a bank every alignment is satisfied. -/
theorem placeFrom_zero (blob : Blob) : blob.placeFrom 0 = 0 := by
  have positive := blob.align_pos
  rw [placeFrom, Nat.zero_add, Nat.div_eq_of_lt (by omega), Nat.zero_mul]

end Blob

namespace Bank

variable {capacity : Nat} {bank : Bank} {blob : Blob} {blobs : List Blob} {offset : UInt16}

/-- The offset at which a symbol fits is the place counted without a limit. -/
theorem toNat_of_fit? (fits : bank.fit? capacity blob = some offset) :
    offset.toNat = blob.placeFrom bank.used := by
  unfold fit? at fits
  dsimp only at fits
  split at fits
  · rename_i room
    cases fits
    exact UInt16.toNat_ofNat_of_lt' room.2
  · cases fits

/-- **A bank holds some symbols and nothing else**, one behind the other, at the places counted
without a limit. -/
structure Holds (blobs : List Blob) (bank : Bank) : Prop where
  stands : List.Forall₂ Blob.StandsAs blobs bank.symbols.toList
  offsets : bank.symbols.toList.map (fun symbol => symbol.offset.toNat) = Blob.placesFrom 0 blobs
  used : bank.used = Blob.endFrom 0 blobs

theorem holds_opened (index : UInt16) : (opened index).Holds [] where
  stands := .nil
  offsets := rfl
  used := rfl

/-- **A symbol put where it belongs is held**, behind those that were there. -/
theorem Holds.put (holds : bank.Holds blobs) (aligned : blob.align ∣ offset.toNat)
    (exact : offset.toNat = blob.placeFrom bank.used) :
    (bank.put offset blob).Holds (blobs ++ [blob]) where
  stands := by
    rw [symbols_put, Array.toList_push]
    exact List.rel_append holds.stands (.cons ⟨rfl, rfl, aligned⟩ .nil)
  offsets := by
    rw [symbols_put, Array.toList_push, List.map_append, holds.offsets,
      Blob.placesFrom_append_singleton, ← holds.used, ← exact]
    rfl
  used := by rw [used_put, Blob.endFrom_append_singleton, ← holds.used, ← exact]

end Bank

/-! ### The symbols of each bank -/

namespace Allocation

variable {geometry : Geometry} {banks result : Array Bank} {shares : List (List Blob)}
  {blobs : List Blob} {blob : Blob} {allocation : Allocation}

/-- **Each bank holds its share of the symbols.** -/
def Distributes (shares : List (List Blob)) (banks : Array Bank) : Prop :=
  List.Forall₂ (fun share bank => Bank.Holds share bank) shares banks.toList

/-- **Placing one symbol more adds it to a share**, or to one of its own. -/
theorem Distributes.place (distributes : Distributes shares banks)
    (placed : Allocation.place geometry banks blob = .ok result) :
    ∃ next, Distributes next result ∧ next.flatten.Perm (shares.flatten ++ [blob]) := by
  unfold Distributes at distributes
  rcases place_cases placed with ⟨before, bank, after, offset, whole, _, fits, next⟩ | ⟨_, _, rfl⟩
  · rw [whole] at distributes
    have early := List.forall₂_take_append shares before (bank :: after) distributes
    have late := List.forall₂_drop_append shares before (bank :: after) distributes
    obtain ⟨share, later, holds, rest, split⟩ := List.forall₂_cons_right_iff.1 late
    obtain ⟨_, _, aligned, _⟩ := Bank.fit?_eq_some fits
    refine ⟨shares.take before.length ++ (share ++ [blob]) :: later, ?_, ?_⟩
    · rw [Distributes, next]
      exact List.rel_append early (.cons (holds.put aligned (Bank.toNat_of_fit? fits)) rest)
    · have shared : shares = shares.take before.length ++ share :: later := by
        rw [← split, List.take_append_drop]
      rw [shared, List.flatten_append, List.flatten_append, List.flatten_cons, List.flatten_cons,
        ← shared, List.append_assoc, List.append_assoc, List.append_assoc]
      exact ((List.perm_append_comm).append_left _).append_left _
  · refine ⟨shares ++ [[blob]], ?_, ?_⟩
    · rw [Distributes, Array.toList_push]
      refine List.rel_append distributes (.cons ?_ .nil)
      exact (Bank.holds_opened _).put (Nat.dvd_zero _) blob.placeFrom_zero.symm
    · rw [List.flatten_append]
      exact List.Perm.refl _

/-- **Placing symbols one after the other distributes them.** -/
theorem Distributes.foldlM (later : List Blob) {banks : Array Bank} {shares : List (List Blob)}
    (distributes : Distributes shares banks)
    (placed : later.foldlM (Allocation.place geometry) banks = .ok result) :
    ∃ next, Distributes next result ∧ next.flatten.Perm (shares.flatten ++ later) := by
  refine foldlM_invariant (fun earlier banks => ∃ next, Distributes next banks
    ∧ next.flatten.Perm (shares.flatten ++ earlier)) [] later ?_ ⟨shares, distributes, by simp⟩ placed
  rintro blob _ earlier banks next ⟨before, distributed, first⟩ placed
  obtain ⟨all, final, second⟩ := distributed.place placed
  refine ⟨all, final, second.trans ?_⟩
  rw [← List.append_assoc]
  exact first.append_right [blob]

theorem Accepts.exists_distributes (accepts : Accepts geometry blobs allocation) :
    ∃ shares, Distributes shares allocation.banks ∧ shares.flatten.Perm blobs := by
  obtain ⟨shares, distributed, perm⟩ := Distributes.foldlM _ (.nil : Distributes [] #[]) accepts.banks
  exact ⟨shares, distributed, perm.trans (List.mergeSort_perm blobs Blob.precedes)⟩

/-! ### Spots -/

/-- The symbol at a spot: the place of its bank, and its number there. -/
def symbolAt? (banks : Array Bank) (spot : Nat × Nat) : Option Placed :=
  banks[spot.1]?.bind fun bank => bank.symbols[spot.2]?

/-- The names of the symbols in a bank. -/
def bankNames (bank : Bank) : List String := bank.symbols.toList.map Placed.name

theorem symbolAt?_eq_some {spot : Nat × Nat} {symbol : Placed}
    (found : symbolAt? banks spot = some symbol) :
    ∃ bank, banks.toList[spot.1]? = some bank ∧ (bankNames bank)[spot.2]? = some symbol.name := by
  obtain ⟨bank, listed, there⟩ := Option.bind_eq_some_iff.1 found
  refine ⟨bank, by rw [Array.getElem?_toList, listed], ?_⟩
  rw [bankNames, List.getElem?_map, Array.getElem?_toList, there]
  rfl

/-- Banks at different places have no name in common, if no two symbols have the same name. -/
theorem not_mem_bankNames_of_lt (distinct : ((standing banks).map Placed.name).Nodup)
    {place other : Nat} (before : place < other) {first second : Bank}
    (firstThere : banks.toList[place]? = some first)
    (secondThere : banks.toList[other]? = some second) {name : String}
    (member : name ∈ bankNames first) : name ∉ bankNames second := by
  rw [standing, List.map_flatMap, List.nodup_flatMap] at distinct
  obtain ⟨inside, rfl⟩ := List.getElem?_eq_some_iff.1 firstThere
  obtain ⟨otherInside, rfl⟩ := List.getElem?_eq_some_iff.1 secondThere
  exact fun also => List.pairwise_iff_getElem.1 distinct.2 place other inside otherInside before
    member also

/-- **A symbol stands at one spot only**, if no two have the same name. -/
theorem eq_of_symbolAt? (distinct : ((standing banks).map Placed.name).Nodup)
    {spot other : Nat × Nat} {symbol found : Placed} (there : symbolAt? banks spot = some symbol)
    (elsewhere : symbolAt? banks other = some found) (same : found.name = symbol.name) :
    other = spot := by
  obtain ⟨bank, listed, named⟩ := symbolAt?_eq_some there
  obtain ⟨otherBank, otherListed, otherNamed⟩ := symbolAt?_eq_some elsewhere
  rw [same] at otherNamed
  have member := List.mem_of_getElem? named
  have otherMember := List.mem_of_getElem? otherNamed
  rcases Nat.lt_trichotomy spot.1 other.1 with before | level | behind
  · exact (not_mem_bankNames_of_lt distinct before listed otherListed member otherMember).elim
  · rw [level] at listed
    cases Option.some.inj (listed.symm.trans otherListed)
    rw [standing, List.map_flatMap, List.nodup_flatMap] at distinct
    have apart := distinct.1 bank (List.mem_of_getElem? listed)
    obtain ⟨inside, _⟩ := List.getElem?_eq_some_iff.1 named
    have number := (List.getElem?_inj inside apart).1 (named.trans otherNamed.symm)
    exact Prod.ext level.symm number.symm
  · exact (not_mem_bankNames_of_lt distinct behind otherListed listed otherMember member).elim

/-! ### Sound layouts -/

/-- **A sound layout of some symbols.** -/
structure IsSound (geometry : Geometry) (blobs : List Blob) (allocation : Allocation) : Prop where
  size_le : allocation.banks.size ≤ geometry.ceiling
  /-- The banks are numbered from the first one on, and no number wraps around. -/
  index : ∀ place bank, allocation.banks[place]? = some bank →
    bank.index.toNat = geometry.firstBank.toNat + place
  /-- All symbols are shared out to the banks, and each bank holds its share and nothing else, with
  offsets that are counted without a limit. -/
  shares : ∃ shares : List (List Blob), shares.flatten.Perm blobs
    ∧ Distributes shares allocation.banks
  /-- In each bank the symbols stand apart and within the capacity. -/
  sound : ∀ bank ∈ allocation.banks, bank.IsSound geometry.capacity
  /-- Each symbol stands at one spot only, as it is and aligned, and that is its address. -/
  spot : ∀ blob ∈ blobs, ∃ spot bank symbol, allocation.banks[Prod.fst spot]? = some bank
    ∧ bank.symbols[Prod.snd spot]? = some symbol ∧ blob.StandsAs symbol
    ∧ allocation.address? blob.name = some (bank.index, symbol.offset)
    ∧ ∀ other found, symbolAt? allocation.banks other = some found → found.name = blob.name →
      other = spot
  address_none : ∀ name, name ∉ blobs.map Blob.name → allocation.address? name = none
  shows : ∀ bank ∈ allocation.banks, bank.ShowsSymbols

/-- **Every accepted layout of symbols with different names is sound**, whatever their sizes and
alignments and whatever the geometry. -/
theorem isSound_ofBlobs (laid : ofBlobs geometry blobs = .ok allocation)
    (distinct : (blobs.map Blob.name).Nodup) : allocation.IsSound geometry blobs := by
  have accepts := ofBlobs_eq_ok laid
  obtain ⟨shares, distributes, perm⟩ := accepts.exists_distributes
  have names := accepts.names_perm.nodup_iff.2 distinct
  refine ⟨accepts.lays.size_le, fun place bank => accepts.lays.toNat_index accepts.numbers_le,
    ⟨shares, perm, distributes⟩, accepts.lays.sound, fun blob member => ?spot,
    fun name absent => ?missing, fun bank member => (accepts.lays.sound bank member).showsSymbols⟩
  case spot =>
    obtain ⟨place, bank, symbol, found, there, stands, _, address⟩ :=
      accepts.exists_address distinct member
    obtain ⟨number, numbered⟩ := Array.mem_iff_getElem?.1 there
    have spotted : symbolAt? allocation.banks (place, number) = some symbol := by
      rw [symbolAt?, found]
      exact numbered
    refine ⟨(place, number), bank, symbol, found, numbered, stands, address, ?_⟩
    intro other elsewhere seen same
    exact eq_of_symbolAt? names spotted seen (same.trans stands.name.symm)
  case missing =>
    rw [← accepts.contains_addresses, OrderedTable.contains_iff, ← OrderedTable.isSome_get?_iff]
      at absent
    exact Option.not_isSome_iff_eq_none.1 absent

/-- A map that nearly fills a bank, an odd number of bytes, and a tile whose place is a multiple of
sixteen. -/
def cargo : List Blob :=
  [.aligned "map" (.replicate 18 2) 1, .aligned "odd" (.replicate 5 7) 1,
    .aligned "tile" (.replicate 4 1) 16]

/-- In the last two banks that have numbers, the tile is put behind a gap at the very end. -/
theorem isSound_ofBlobs_cargo :
    ∃ allocation, ofBlobs ⟨20, 2, 65534⟩ cargo = .ok allocation
      ∧ (cargo.map Blob.name).Nodup
      ∧ allocation.IsSound ⟨20, 2, 65534⟩ cargo
      ∧ (allocation.banks.toList.map fun bank =>
          (bank.index, bank.symbols.toList.map fun symbol => (symbol.name, symbol.offset)))
        = [(65534, [("map", 0)]), (65535, [("odd", 0), ("tile", 16)])] := by
  have sorted : cargo.mergeSort Blob.precedes = cargo :=
    List.mergeSort_of_pairwise (by decide)
  have placed : ∃ banks, cargo.foldlM (place ⟨20, 2, 65534⟩) #[] = .ok banks
      ∧ (banks.toList.map fun bank =>
          (bank.index, bank.symbols.toList.map fun symbol => (symbol.name, symbol.offset)))
        = [(65534, [("map", 0)]), (65535, [("odd", 0), ("tile", 16)])] :=
    ⟨_, by cbv, by cbv⟩
  obtain ⟨banks, placed, shown⟩ := placed
  rw [← sorted] at placed
  have distinct : (cargo.map Blob.name).Nodup := by decide
  have laid := ofBlobs_of_foldlM (by decide) (by decide) (by decide) (by decide) (by decide) placed
  exact ⟨_, laid, distinct, isSound_ofBlobs laid distinct, shown⟩

end Allocation
end Cartridge
