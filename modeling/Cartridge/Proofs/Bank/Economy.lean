import Cartridge.Proofs.Bank.Density
import Cartridge.Proofs.Bank.Stability

/-!
# Economical bank layouts

Symbols are placed the largest first, each into the first bank with room. However symbols without
alignment are given out to banks, they need at least two thirds of the banks of a layout.

The reason is what stands in the bank that comes right behind as many banks as are needed. If it
has a symbol that is larger than half a bank, so has every bank before it, and no two such symbols
go into one bank. If it has none, there is none behind it either: so all banks from there on but the
last one hold at least two symbols, none of which any of the banks before has room for.

* `IsInTurn`: numbers in groups that were opened only for what did not go elsewhere.
* `IsInTurn.two_mul_length_le`: the number of groups against the number of large numbers and the
  total.
* `Allocation.FillsInTurn`: the banks after symbols of falling size have been placed.
* `Allocation.FillsInTurn.place`, `Allocation.FillsInTurn.exists_foldlM`: placing symbols keeps to
  it, and banks for one and a half times as many as are needed are enough.
* `Allocation.ofBlobs_isEconomical`: so it is for whole layouts.
-/

namespace Cartridge

/-! ### Numbers in groups -/

theorem total_flatten (groups : List (List Nat)) :
    total groups.flatten = total (groups.map total) := by
  induction groups with
  | nil => rfl
  | cons group groups ih => rw [List.flatten_cons, total_append, List.map_cons, total_cons, ih]

theorem total_le_of_sublist {part numbers : List Nat} (within : part.Sublist numbers) :
    total part ≤ total numbers := by
  induction within with
  | slnil => exact Nat.le_refl _
  | cons number _ ih => exact Nat.le_trans ih (Nat.le_add_left _ _)
  | cons_cons number _ ih => exact Nat.add_le_add_left ih number

/-- Whether a number is more than half of a bound. -/
def isLarge (bound number : Nat) : Bool := decide (bound < 2 * number)

theorem isLarge_iff {bound number : Nat} : isLarge bound number = true ↔ bound < 2 * number :=
  decide_eq_true_iff

theorem countP_isLarge_mul_le (bound : Nat) (numbers : List Nat) :
    numbers.countP (isLarge bound) * (bound + 1) ≤ 2 * total numbers := by
  induction numbers with
  | nil => exact Nat.le_of_eq (Nat.zero_mul _)
  | cons number numbers ih =>
    rw [List.countP_cons, total_cons, Nat.add_mul]
    by_cases large : isLarge bound number = true
    · have half := isLarge_iff.1 large
      rw [if_pos large]
      omega
    · rw [if_neg large]
      omega

/-- **There is at most one large number in each group within the bound.** -/
theorem countP_isLarge_le_length {bound : Nat} {groups : List (List Nat)}
    (fits : ∀ group ∈ groups, total group ≤ bound) :
    groups.flatten.countP (isLarge bound) ≤ groups.length := by
  induction groups with
  | nil => exact Nat.le_refl _
  | cons group groups ih =>
    have rest := ih fun other member => fits other (List.mem_cons_of_mem _ member)
    have one : group.countP (isLarge bound) ≤ 1 := by
      by_contra several
      have least : 2 * (bound + 1) ≤ group.countP (isLarge bound) * (bound + 1) :=
        Nat.mul_le_mul_right _ (Nat.lt_of_not_le several)
      have most := countP_isLarge_mul_le bound group
      have within := fits group List.mem_cons_self
      omega
    rw [List.flatten_cons, List.countP_append, List.length_cons]
    omega

theorem total_flatten_le {bound : Nat} {groups : List (List Nat)}
    (fits : ∀ group ∈ groups, total group ≤ bound) :
    total groups.flatten ≤ groups.length * bound := by
  induction groups with
  | nil => exact Nat.zero_le _
  | cons group groups ih =>
    have first := fits group List.mem_cons_self
    have rest := ih fun other member => fits other (List.mem_cons_of_mem _ member)
    rw [List.flatten_cons, total_append, List.length_cons, Nat.succ_mul]
    omega

theorem length_le_countP_flatten {holds : Nat → Bool} {groups : List (List Nat)}
    (each : ∀ group ∈ groups, ∃ number ∈ group, holds number = true) :
    groups.length ≤ groups.flatten.countP holds := by
  induction groups with
  | nil => exact Nat.le_refl _
  | cons group groups ih =>
    have rest := ih fun other member => each other (List.mem_cons_of_mem _ member)
    have first := List.countP_pos_iff.2 (each group List.mem_cons_self)
    rw [List.flatten_cons, List.countP_append, List.length_cons]
    omega

/-- **Loads that no number of a list goes on top of**, and as many of the numbers as there are loads,
are more than the bound for each load. -/
theorem length_mul_le_total {bound : Nat} {loads numbers : List Nat}
    (exceeds : ∀ load ∈ loads, ∀ number ∈ numbers, bound < load + number)
    (enough : loads.length ≤ numbers.length) :
    loads.length * (bound + 1) ≤ total loads + total numbers := by
  induction loads generalizing numbers with
  | nil => exact Nat.le_trans (Nat.le_of_eq (Nat.zero_mul _)) (Nat.zero_le _)
  | cons load loads ih =>
    cases numbers with
    | nil => exact absurd enough (Nat.not_succ_le_zero _)
    | cons number numbers =>
      have pair := exceeds load List.mem_cons_self number List.mem_cons_self
      have rest := ih (fun other member next listed =>
        exceeds other (List.mem_cons_of_mem _ member) next (List.mem_cons_of_mem _ listed))
        (Nat.le_of_succ_le_succ enough)
      rw [List.length_cons, Nat.succ_mul, total_cons, total_cons]
      omega

/-- **A group that was opened before another one.** What is in the other one does not go on top of
this one, and is not larger than all that is in it. -/
def OpensBefore (bound : Nat) (first second : List Nat) : Prop :=
  ∀ number ∈ second, bound < total first + number ∧ ∃ larger ∈ first, number ≤ larger

theorem OpensBefore.append_left {bound : Nat} {first second : List Nat}
    (opens : OpensBefore bound first second) (more : List Nat) :
    OpensBefore bound (first ++ more) second := by
  intro number listed
  obtain ⟨exceeds, larger, found, least⟩ := opens number listed
  rw [total_append]
  exact ⟨by omega, larger, List.mem_append_left _ found, least⟩

theorem OpensBefore.append_right {bound : Nat} {first second more : List Nat}
    (opens : OpensBefore bound first second) (also : OpensBefore bound first more) :
    OpensBefore bound first (second ++ more) := by
  intro number listed
  exact (List.mem_append.1 listed).elim (opens number) (also number)

/-- **Numbers in groups that were filled in turn**, each group being opened for something. -/
structure IsInTurn (bound : Nat) (groups : List (List Nat)) : Prop where
  ne_nil : ∀ group ∈ groups, group ≠ []
  pairs : groups.Pairwise (OpensBefore bound)

namespace IsInTurn

variable {bound : Nat} {groups : List (List Nat)}

/-- **Where no number is large, all groups but the last one have two numbers or more.** -/
theorem two_mul_length_le_succ (inTurn : IsInTurn bound groups)
    (small : ∀ group ∈ groups, ∀ number ∈ group, ¬ bound < 2 * number) :
    2 * groups.length ≤ groups.flatten.length + 1 := by
  induction groups with
  | nil => exact Nat.zero_le _
  | cons group groups ih =>
    obtain ⟨head, tail⟩ := List.pairwise_cons.1 inTurn.pairs
    have some := List.length_pos_iff.2 (inTurn.ne_nil group List.mem_cons_self)
    have rest := ih ⟨fun other member => inTurn.ne_nil other (List.mem_cons_of_mem _ member), tail⟩
      fun other member => small other (List.mem_cons_of_mem _ member)
    rw [List.flatten_cons, List.length_append, List.length_cons]
    cases groups with
    | nil =>
      simp only [List.length_nil, List.flatten_nil]
      omega
    | cons next groups =>
      -- What opened the next group did not fit on top of this one, and is no more than a half.
      have several : 2 ≤ group.length := by
        obtain ⟨number, listed⟩ := List.exists_mem_of_ne_nil next
          (inTurn.ne_nil next (List.mem_cons_of_mem _ List.mem_cons_self))
        obtain ⟨exceeds, _⟩ := head next List.mem_cons_self number listed
        have half := small next (List.mem_cons_of_mem _ List.mem_cons_self) number listed
        by_contra few
        obtain ⟨only, rfl⟩ : ∃ only, group = [only] :=
          List.length_eq_one_iff.1 (by omega)
        have also := small [only] List.mem_cons_self only List.mem_cons_self
        rw [total_cons, total_nil] at exceeds
        omega
      omega

/-- **The number of groups is at most one and a half times a number that is neither less than the
number of large numbers nor, in bounds, than the total.** -/
theorem two_mul_length_le (inTurn : IsInTurn bound groups)
    (positive : ∀ group ∈ groups, ∀ number ∈ group, 0 < number) (count : Nat)
    (few : groups.flatten.countP (isLarge bound) ≤ count)
    (little : total groups.flatten ≤ count * bound) : 2 * groups.length ≤ 3 * count := by
  by_contra many
  have inside : count < groups.length := by omega
  have whole : groups = groups.take count ++ groups[count] :: groups.drop (count + 1) := by
    rw [← List.drop_eq_getElem_cons inside, List.take_append_drop]
  have length : (groups.take count).length = count :=
    List.length_take_of_le (Nat.le_of_lt inside)
  have pairs := inTurn.pairs
  rw [whole, List.pairwise_append, List.pairwise_cons] at pairs
  obtain ⟨_, ⟨behind, later⟩, across⟩ := pairs
  by_cases large : ∃ number ∈ groups[count], isLarge bound number = true
  · -- Then every group up to here has a large number.
    obtain ⟨number, listed, exceeds⟩ := large
    have each : ∀ group ∈ groups.take count ++ [groups[count]],
        ∃ number ∈ group, isLarge bound number = true := by
      intro group member
      rcases List.mem_append.1 member with before | here
      · obtain ⟨_, larger, found, least⟩ :=
          across group before groups[count] List.mem_cons_self number listed
        have half := isLarge_iff.1 exceeds
        exact ⟨larger, found, isLarge_iff.2 (by omega)⟩
      · rw [List.mem_singleton.1 here]
        exact ⟨number, listed, exceeds⟩
    have least := length_le_countP_flatten each
    rw [List.length_append, length, List.length_singleton] at least
    rw [whole, List.append_cons, List.flatten_append, List.countP_append] at few
    omega
  · -- Then no group from here on has one, and no group before has room for what they hold.
    have small : ∀ group ∈ groups[count] :: groups.drop (count + 1),
        ∀ number ∈ group, ¬ bound < 2 * number := by
      intro group member number listed half
      rcases List.mem_cons.1 member with rfl | after
      · exact large ⟨number, listed, isLarge_iff.2 half⟩
      · obtain ⟨_, larger, found, least⟩ := behind group after number listed
        exact large ⟨larger, found, isLarge_iff.2 (by omega)⟩
    have rest : IsInTurn bound (groups[count] :: groups.drop (count + 1)) := by
      refine ⟨fun group member => inTurn.ne_nil group ?_, List.pairwise_cons.2 ⟨behind, later⟩⟩
      rw [whole]
      exact List.mem_append_right _ member
    have several := rest.two_mul_length_le_succ small
    rw [List.length_cons, List.length_drop] at several
    have together := @length_mul_le_total bound ((groups.take count).map total)
      (groups[count] :: groups.drop (count + 1)).flatten (by
        intro load member number listed
        obtain ⟨group, before, rfl⟩ := List.mem_map.1 member
        obtain ⟨other, after, found⟩ := List.mem_flatten.1 listed
        exact (across group before other after number found).1) (by
        rw [List.length_map, length]
        omega)
    rw [List.length_map, length, ← total_flatten, ← total_append, ← List.flatten_append, ← whole]
      at together
    rw [Nat.mul_succ] at together
    -- So there is no bank to give out at all, though there is a group, and something in it.
    obtain ⟨number, listed⟩ := List.exists_mem_of_ne_nil groups[count]
      (inTurn.ne_nil _ (List.getElem_mem inside))
    have filled := positive _ (List.getElem_mem inside) number listed
    have least : total [number] ≤ total groups.flatten :=
      total_le_of_sublist (List.singleton_sublist.2
        (List.mem_flatten.2 ⟨_, List.getElem_mem inside, listed⟩))
    rw [total_cons, total_nil] at least
    have none : count = 0 := by omega
    rw [none, Nat.zero_mul] at little
    omega

end IsInTurn

/-! ### Filling banks -/

/-- The sizes of what stands in a bank. -/
def Bank.sizes (bank : Bank) : List Nat := bank.symbols.toList.map fun symbol => symbol.bytes.size

@[simp]
theorem Bank.sizes_put (bank : Bank) (offset : UInt16) (blob : Blob) :
    (bank.put offset blob).sizes = bank.sizes ++ [blob.size] := by
  rw [sizes, symbols_put, Array.toList_push, List.map_append]
  rfl

namespace Allocation

variable {geometry : Geometry} {banks result : Array Bank} {blobs : List Blob} {blob : Blob}
  {capacity : Nat}

/-- **A symbol without alignment that is not larger than those before it.** -/
structure Follows (blobs : List Blob) (blob : Blob) : Prop where
  filled : 0 < blob.size
  plain : blob.align = 1
  least : ∀ other ∈ blobs, blob.size ≤ other.size

/-- **The banks after symbols of falling size have been placed without gaps.** -/
structure FillsInTurn (capacity : Nat) (blobs : List Blob) (banks : Array Bank) : Prop where
  /-- There are no gaps. -/
  used : ∀ bank ∈ banks.toList, bank.used = total bank.sizes
  inTurn : IsInTurn capacity (banks.toList.map Bank.sizes)
  /-- The symbols stand in the banks, and nothing else does. -/
  perm : (banks.toList.map Bank.sizes).flatten.Perm (blobs.map Blob.size)

theorem fillsInTurn_empty (capacity : Nat) : FillsInTurn capacity [] #[] where
  used := fun bank member => by cases member
  inTurn := ⟨fun group member => (List.not_mem_nil member).elim, List.Pairwise.nil⟩
  perm := List.Perm.nil

/-- A bank without room for a symbol was opened before one for that symbol would be. -/
theorem FillsInTurn.opensBefore (fills : FillsInTurn capacity blobs banks)
    (bounded : capacity ≤ 65536) (follows : Follows blobs blob) {bank : Bank}
    (member : bank ∈ banks.toList) (full : bank.fit? capacity blob = none) :
    OpensBefore capacity bank.sizes [blob.size] := by
  have exceeds := Bank.lt_of_fit?_eq_none bounded follows.filled full
  have plain := follows.plain
  have listed := List.mem_map_of_mem (f := Bank.sizes) member
  obtain ⟨size, found⟩ := List.exists_mem_of_ne_nil _ (fills.inTurn.ne_nil _ listed)
  obtain ⟨other, placed, rfl⟩ := List.mem_map.1
    (fills.perm.mem_iff.1 (List.mem_flatten.2 ⟨_, listed, found⟩))
  intro number only
  rw [List.mem_singleton.1 only, ← fills.used bank member]
  exact ⟨by omega, _, found, follows.least other placed⟩

theorem append_middle_perm (first second third last : List Nat) :
    (first ++ (second ++ (third ++ last))).Perm ((first ++ (second ++ last)) ++ third) := by
  rw [List.append_assoc, List.append_assoc]
  exact (List.perm_append_comm.append_left second).append_left first

/-- **A symbol that joins the first bank with room** keeps to it. -/
theorem FillsInTurn.join (fills : FillsInTurn capacity blobs banks) (bounded : capacity ≤ 65536)
    (follows : Follows blobs blob) {before after : List Bank} {bank : Bank} {offset : UInt16}
    (whole : banks.toList = before ++ bank :: after)
    (full : ∀ other ∈ before, other.fit? capacity blob = none)
    (fits : bank.fit? capacity blob = some offset)
    (next : result.toList = before ++ bank.put offset blob :: after) :
    FillsInTurn capacity (blobs ++ [blob]) result where
  used := by
    intro other member
    have used := fills.used
    rw [whole] at used
    rw [next] at member
    rcases List.mem_append.1 member with early | rest
    · exact used other (List.mem_append_left _ early)
    · rcases List.mem_cons.1 rest with rfl | late
      · have exact := Bank.toNat_of_fit?_of_align follows.plain fits
        have filledBefore := used bank (List.mem_append_right _ List.mem_cons_self)
        rw [Bank.used_put, Bank.sizes_put, total_append, total_cons, total_nil]
        omega
      · exact used other (List.mem_append_right _ (List.mem_cons_of_mem _ late))
  inTurn := by
    have turn := fills.inTurn
    obtain ⟨some, pairs⟩ := turn
    rw [whole, List.map_append, List.map_cons] at some pairs
    rw [next, List.map_append, List.map_cons, Bank.sizes_put]
    rw [List.pairwise_append, List.pairwise_cons] at pairs
    obtain ⟨early, ⟨head, late⟩, across⟩ := pairs
    refine ⟨fun group member => ?_, List.pairwise_append.2 ⟨early, List.pairwise_cons.2
      ⟨fun group listed => (head group listed).append_left _, late⟩, ?_⟩⟩
    · rcases List.mem_append.1 member with first | rest
      · exact some group (List.mem_append_left _ first)
      · rcases List.mem_cons.1 rest with rfl | last
        · simp
        · exact some group (List.mem_append_right _ (List.mem_cons_of_mem _ last))
    · intro group listed other member
      rcases List.mem_cons.1 member with rfl | last
      · refine (across group listed _ List.mem_cons_self).append_right ?_
        obtain ⟨one, found, rfl⟩ := List.mem_map.1 listed
        exact fills.opensBefore bounded follows
          (by rw [whole]; exact List.mem_append_left _ found) (full one found)
      · exact across group listed other (List.mem_cons_of_mem _ last)
  perm := by
    have perm := fills.perm
    rw [whole, List.map_append, List.map_cons, List.flatten_append, List.flatten_cons] at perm
    rw [next, List.map_append, List.map_cons, List.flatten_append, List.flatten_cons,
      Bank.sizes_put, List.map_append, List.append_assoc]
    exact (append_middle_perm _ _ _ _).trans (perm.append_right _)

/-- **A bank that is opened for a symbol for which no bank has room** keeps to it. -/
theorem FillsInTurn.opened (fills : FillsInTurn capacity blobs banks) (bounded : capacity ≤ 65536)
    (follows : Follows blobs blob) (full : ∀ bank ∈ banks, bank.fit? capacity blob = none) (index : UInt16) :
    FillsInTurn capacity (blobs ++ [blob]) (banks.push ((Bank.opened index).put 0 blob)) where
  used := by
    intro bank member
    rw [Array.toList_push] at member
    rcases List.mem_append.1 member with old | last
    · exact fills.used bank old
    · rw [List.mem_singleton.1 last, Bank.used_put, Bank.sizes_put, total_append]
      rfl
  inTurn := by
    rw [Array.toList_push, List.map_append, List.map_singleton, Bank.sizes_put]
    refine ⟨fun group member => ?_, List.pairwise_append.2 ⟨fills.inTurn.pairs,
      List.pairwise_singleton _ _, fun group member other last => ?_⟩⟩
    · rcases List.mem_append.1 member with old | last
      · exact fills.inTurn.ne_nil group old
      · rw [List.mem_singleton.1 last]
        simp
    · obtain ⟨bank, listed, rfl⟩ := List.mem_map.1 member
      rw [List.mem_singleton.1 last]
      exact fills.opensBefore bounded follows listed
        (full bank (Array.mem_toList_iff.1 listed))
  perm := by
    rw [Array.toList_push, List.map_append, List.flatten_append, List.map_append]
    exact fills.perm.append_right _

/-- **Placing one symbol more keeps to it**, if it is not larger than those before it. -/
theorem FillsInTurn.place (fills : FillsInTurn geometry.capacity blobs banks)
    (bounded : geometry.capacity ≤ 65536) (follows : Follows blobs blob)
    (placed : Allocation.place geometry banks blob = .ok result) :
    FillsInTurn geometry.capacity (blobs ++ [blob]) result := by
  rcases place_cases placed with ⟨before, bank, after, offset, whole, full, fits, next⟩
    | ⟨full, _, rfl⟩
  · exact fills.join bounded follows whole full fits next
  · exact fills.opened bounded follows full _

/-- One symbol more is placed if there may be as many banks as it could need. -/
theorem FillsInTurn.exists_place (fills : FillsInTurn geometry.capacity blobs banks)
    (bounded : geometry.capacity ≤ 65536) (follows : Follows blobs blob)
    (enough : ∀ next, FillsInTurn geometry.capacity (blobs ++ [blob]) next →
      next.size ≤ geometry.ceiling) :
    ∃ result, Allocation.place geometry banks blob = .ok result := by
  unfold Allocation.place
  split
  · exact ⟨_, rfl⟩
  · rename_i nowhere
    rw [exists_ite_eq_ok_iff]
    intro many
    have full : ∀ bank ∈ banks, bank.fit? geometry.capacity blob = none := by
      intro bank member
      have refused := Array.findIdx?_eq_none_iff.1 nowhere bank member
      exact Option.isNone_iff_eq_none.1 (by simpa using refused)
    have more := enough _ (fills.opened bounded follows full geometry.firstBank)
    rw [Array.size_push] at more
    exact Nat.not_succ_le_self _ (Nat.le_trans more many)

/-- **Symbols given out to banks in some way**: each of them to one bank, and to no bank more than it
takes. -/
structure GivesOut (capacity : Nat) (blobs : List Blob) (shares : List (List Blob)) : Prop where
  perm : shares.flatten.Perm blobs
  fits : ∀ share ∈ shares, total (share.map Blob.size) ≤ capacity

variable {shares : List (List Blob)}

theorem GivesOut.map_size (gives : GivesOut capacity blobs shares) :
    (shares.map (List.map Blob.size)).flatten.Perm (blobs.map Blob.size) := by
  rw [← List.map_flatten]
  exact gives.perm.map _

theorem GivesOut.fits_map_size (gives : GivesOut capacity blobs shares) :
    ∀ group ∈ shares.map (List.map Blob.size), total group ≤ capacity := by
  intro group member
  obtain ⟨share, listed, rfl⟩ := List.mem_map.1 member
  exact gives.fits share listed

/-- **The banks are at most one and a half times as many as the symbols can be given out to**, and
other symbols with them. -/
theorem FillsInTurn.two_mul_size_le {all : List Blob} (fills : FillsInTurn capacity blobs banks)
    (filled : ∀ blob ∈ blobs, 0 < blob.size) (gives : GivesOut capacity all shares)
    (within : blobs.Sublist all) : 2 * banks.size ≤ 3 * shares.length := by
  have sizes := within.map Blob.size
  have positive : ∀ group ∈ banks.toList.map Bank.sizes, ∀ size ∈ group, 0 < size := by
    intro group member size listed
    obtain ⟨blob, placed, rfl⟩ := List.mem_map.1
      (fills.perm.mem_iff.1 (List.mem_flatten.2 ⟨group, member, listed⟩))
    exact filled blob placed
  have few := countP_isLarge_le_length gives.fits_map_size
  have little := total_flatten_le gives.fits_map_size
  rw [gives.map_size.countP_eq, List.length_map] at few
  rw [total_eq_of_perm gives.map_size, List.length_map] at little
  have bound := fills.inTurn.two_mul_length_le positive shares.length
    (by
      rw [fills.perm.countP_eq]
      exact Nat.le_trans sizes.countP_le few)
    (by
      rw [total_eq_of_perm fills.perm]
      exact Nat.le_trans (total_le_of_sublist sizes) little)
  rwa [List.length_map, Array.length_toList] at bound

/-- **More symbols are placed if there may be one and a half times as many banks as are needed.** -/
theorem FillsInTurn.exists_foldlM (bounded : geometry.capacity ≤ 65536) (later : List Blob)
    {banks : Array Bank} {blobs : List Blob} (fills : FillsInTurn geometry.capacity blobs banks)
    (filled : ∀ blob ∈ blobs ++ later, 0 < blob.size)
    (plain : ∀ blob ∈ later, blob.align = 1)
    (falling : (blobs ++ later).Pairwise fun first second => second.size ≤ first.size)
    (gives : GivesOut geometry.capacity (blobs ++ later) shares)
    (enough : 3 * shares.length / 2 ≤ geometry.ceiling) :
    ∃ result, later.foldlM (Allocation.place geometry) banks = .ok result
      ∧ FillsInTurn geometry.capacity (blobs ++ later) result := by
  induction later generalizing banks blobs with
  | nil => exact ⟨banks, rfl, by rwa [List.append_nil]⟩
  | cons blob later ih =>
    have follows : Follows blobs blob :=
      ⟨filled blob (List.mem_append_right _ List.mem_cons_self), plain blob List.mem_cons_self,
        fun other member =>
          (List.pairwise_append.1 falling).2.2 other member blob List.mem_cons_self⟩
    rw [List.append_cons] at filled falling gives
    have within : (blobs ++ [blob]).Sublist (blobs ++ [blob] ++ later) :=
      List.sublist_append_left _ _
    obtain ⟨next, placed⟩ := fills.exists_place bounded follows fun next fillsNext => by
      have most := fillsNext.two_mul_size_le
        (fun other member => filled other (List.mem_append_left _ member)) gives within
      omega
    have fillsNext := fills.place bounded follows placed
    rw [List.foldlM_cons, placed, List.append_cons]
    exact ih fillsNext filled (fun other member => plain other (List.mem_cons_of_mem _ member))
      falling gives

/-! ### Whole layouts -/

/-- **A layout has at most one and a half times as many banks as are needed.** However symbols
without alignment can be given out to banks, they are accepted if there may be one and a half times
as many banks, and take no more. -/
theorem ofBlobs_isEconomical (valid : geometry.IsValid) (filled : ∀ blob ∈ blobs, 0 < blob.size)
    (plain : ∀ blob ∈ blobs, blob.align = 1) (gives : GivesOut geometry.capacity blobs shares)
    (enough : 3 * shares.length / 2 ≤ geometry.ceiling) :
    ∃ allocation, ofBlobs geometry blobs = .ok allocation
      ∧ allocation.banks.size ≤ 3 * shares.length / 2 := by
  have perm := List.mergeSort_perm blobs Blob.precedes
  have falling : (blobs.mergeSort Blob.precedes).Pairwise fun first second =>
      second.size ≤ first.size :=
    (Blob.pairwise_mergeSort blobs).imp fun {first second} before => by
      rcases Blob.precedes_iff.1 before with larger | ⟨even, _⟩ <;> omega
  have sorted : GivesOut geometry.capacity (blobs.mergeSort Blob.precedes) shares :=
    ⟨gives.perm.trans perm.symm, gives.fits⟩
  have each : ∀ blob ∈ blobs.mergeSort Blob.precedes, 0 < blob.size :=
    fun blob member => filled blob (perm.mem_iff.1 member)
  obtain ⟨banks, placed, fills⟩ := (fillsInTurn_empty geometry.capacity).exists_foldlM
    valid.capacity_le _ each (fun blob member => plain blob (perm.mem_iff.1 member)) falling sorted
    enough
  have small : ∀ blob ∈ blobs, blob.size ≤ geometry.capacity := by
    intro blob member
    obtain ⟨share, listed, found⟩ := List.mem_flatten.1 (gives.perm.mem_iff.2 member)
    have fits := gives.fits share listed
    have part : total [blob.size] ≤ total (share.map Blob.size) :=
      total_le_of_sublist (List.singleton_sublist.2 (List.mem_map_of_mem found))
    exact Nat.le_trans part fits
  have room : total (blobs.map Blob.size) ≤ geometry.capacity * geometry.ceiling := by
    have together := total_flatten_le gives.fits_map_size
    rw [total_eq_of_perm gives.map_size, List.length_map, Nat.mul_comm] at together
    exact Nat.le_trans together (Nat.mul_le_mul_left _ (by omega))
  have most := fills.two_mul_size_le each sorted (List.Sublist.refl _)
  exact ⟨_, ofBlobs_of_foldlM valid.capacity_pos valid.capacity_le valid.numbers_le small room
    placed, by dsimp only; omega⟩

/-- Symbols of one size without alignment. -/
def plates (size : Nat) (names : List String) : List Blob :=
  names.map fun name => .aligned name (.replicate size 0) 1

/-- Two banks of seven bytes take two symbols of three bytes and four of two bytes. The layout has
both of the larger ones in one bank, three of the smaller ones in the next one and a third bank for
the last: the bound is met. -/
theorem ofBlobs_isEconomical_plates :
    GivesOut 7 (plates 3 ["a", "b"] ++ plates 2 ["c", "d", "e", "f"])
        [plates 3 ["a"] ++ plates 2 ["c", "d"], plates 3 ["b"] ++ plates 2 ["e", "f"]]
      ∧ ∃ allocation,
        ofBlobs ⟨7, 3, 1⟩ (plates 3 ["a", "b"] ++ plates 2 ["c", "d", "e", "f"]) = .ok allocation
          ∧ allocation.banks.size ≤ 3 * 2 / 2 ∧ allocation.banks.size = 3 := by
  have gives : GivesOut 7 (plates 3 ["a", "b"] ++ plates 2 ["c", "d", "e", "f"])
      [plates 3 ["a"] ++ plates 2 ["c", "d"], plates 3 ["b"] ++ plates 2 ["e", "f"]] :=
    ⟨List.Perm.cons _ (@List.perm_middle _ _ (plates 2 ["c", "d"]) (plates 2 ["e", "f"])),
      by decide⟩
  obtain ⟨allocation, laid, most⟩ := @ofBlobs_isEconomical ⟨7, 3, 1⟩ _ _
    ⟨by decide, by decide, by decide⟩ (by decide) (by decide) gives (by decide)
  have sorted : (plates 3 ["a", "b"] ++ plates 2 ["c", "d", "e", "f"]).mergeSort Blob.precedes
      = plates 3 ["a", "b"] ++ plates 2 ["c", "d", "e", "f"] :=
    List.mergeSort_of_pairwise (by decide)
  have placed : ∃ banks, (plates 3 ["a", "b"] ++ plates 2 ["c", "d", "e", "f"]).foldlM
      (place ⟨7, 3, 1⟩) #[] = .ok banks ∧ banks.size = 3 := ⟨_, by cbv, by cbv⟩
  obtain ⟨banks, placed, three⟩ := placed
  have same := (ofBlobs_eq_ok laid).banks
  rw [sorted, placed] at same
  cases same
  exact ⟨gives, allocation, laid, most, three⟩

end Allocation
end Cartridge
