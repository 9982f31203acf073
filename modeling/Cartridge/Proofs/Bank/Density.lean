import Cartridge.Proofs.Bank.Layout

/-!
# Dense bank layouts

A bank is opened only for a symbol that none of the banks before it has room for. So any two banks
together hold more than one bank takes, up to a gap left by an alignment, and symbols that are
refused for want of a bank need more than half of all banks.

* `lt_two_mul_total`: numbers of which any two exceed a bound are large together.
* `Allocation.IsDense`: any two banks together hold more than one bank takes, up to a gap.
* `Allocation.IsDense.place`, `Allocation.IsDense.foldlM`: placing symbols keeps to it.
* `Allocation.IsFilledBy`: the banks hold the bytes of some symbols and no gaps.
* `Allocation.IsFilledBy.exists_foldlM`: more symbols are placed if all of them need at most half of
  the banks.
* `Allocation.ofBlobs_isDense`: so it is for whole layouts.
-/

namespace Cartridge

/-! ### Numbers that are large in pairs -/

theorem length_mul_le_two_mul_total {bound : Nat} {numbers : List Nat}
    (large : ∀ number ∈ numbers, bound ≤ 2 * number) :
    numbers.length * bound ≤ 2 * total numbers := by
  induction numbers with
  | nil => exact Nat.le_of_eq (Nat.zero_mul bound)
  | cons number rest ih =>
    have first := large number List.mem_cons_self
    have others := ih fun other member => large other (List.mem_cons_of_mem _ member)
    rw [List.length_cons, total_cons, Nat.succ_mul]
    omega

/-- **Numbers of which any two exceed a bound** exceed it half as often as there are numbers. -/
theorem lt_two_mul_total {bound : Nat} {numbers : List Nat}
    (large : numbers.Pairwise fun first second => bound < first + second)
    (several : 2 ≤ numbers.length) : numbers.length * bound < 2 * total numbers := by
  induction numbers with
  | nil => exact absurd several (by decide)
  | cons number rest ih =>
    obtain ⟨others, pairs⟩ := List.pairwise_cons.1 large
    rcases Nat.lt_or_ge 1 rest.length with more | few
    · rcases Nat.lt_or_ge bound (2 * number) with half | small
      · have together := ih pairs more
        rw [List.length_cons, total_cons, Nat.succ_mul]
        omega
      · -- Only one number is below the half, and what it lacks the next one has.
        obtain ⟨next, last, rfl⟩ := List.exists_cons_of_length_pos (Nat.zero_lt_of_lt more)
        have pair := others next List.mem_cons_self
        have above : ∀ other ∈ last, bound ≤ 2 * other := fun other member => by
          have exceeds := others other (List.mem_cons_of_mem _ member)
          omega
        have together := length_mul_le_two_mul_total above
        rw [List.length_cons, List.length_cons, total_cons, total_cons, Nat.succ_mul, Nat.succ_mul]
        omega
    · obtain ⟨next, rfl⟩ : ∃ next, rest = [next] :=
        List.length_eq_one_iff.1 (Nat.le_antisymm few (Nat.le_of_succ_le_succ several))
      have pair := others next List.mem_cons_self
      simp only [List.length_cons, List.length_nil, total_cons, total_nil]
      omega

/-! ### Room in a bank -/

namespace Bank

variable {capacity : Nat} {bank : Bank} {blob : Blob} {offset : UInt16}

/-- **What does not fit into a bank exceeds it**, together with what is there and the gap before
it. -/
theorem lt_of_fit?_eq_none (bounded : capacity ≤ 65536) (filled : 0 < blob.size)
    (refused : bank.fit? capacity blob = none) :
    capacity < bank.used + blob.size + (blob.align - 1) := by
  have positive := blob.align_pos
  have least := Nat.div_mul_le_self (bank.used + blob.align - 1) blob.align
  unfold fit? at refused
  dsimp only at refused
  split at refused
  · cases refused
  · omega

/-- Without alignment there is no gap. -/
theorem toNat_of_fit?_of_align (plain : blob.align = 1)
    (fits : bank.fit? capacity blob = some offset) : offset.toNat = bank.used := by
  obtain ⟨behind, before, _, _⟩ := fit?_eq_some fits
  omega

end Bank

namespace Allocation

variable {geometry : Geometry} {banks result : Array Bank} {blobs : List Blob} {blob : Blob}
  {gap : Nat}

/-! ### Any two banks -/

/-- **Any two banks together hold more than one bank takes**, up to a gap. -/
def IsDense (capacity gap : Nat) (banks : Array Bank) : Prop :=
  banks.toList.Pairwise fun first second => capacity < first.used + second.used + gap

/-- **Placing one symbol more keeps banks dense**, if its alignment leaves no larger gap. A bank that
it joins holds more than before, and for a new bank all others had no room. -/
theorem IsDense.place (dense : IsDense geometry.capacity gap banks)
    (bounded : geometry.capacity ≤ 65536) (filled : 0 < blob.size) (narrow : blob.align ≤ gap + 1)
    (placed : Allocation.place geometry banks blob = .ok result) :
    IsDense geometry.capacity gap result := by
  unfold IsDense at dense ⊢
  rcases place_cases placed with ⟨before, bank, after, offset, whole, _, fits, next⟩
    | ⟨full, _, rfl⟩
  · obtain ⟨behind, _, _, _⟩ := Bank.fit?_eq_some fits
    have grown : bank.used ≤ (bank.put offset blob).used := by
      rw [Bank.used_put]
      omega
    rw [whole, List.pairwise_append, List.pairwise_cons] at dense
    rw [next, List.pairwise_append, List.pairwise_cons]
    obtain ⟨first, ⟨head, tail⟩, across⟩ := dense
    refine ⟨first, ⟨fun other member => ?_, tail⟩, fun one member other listed => ?_⟩
    · have pair := head other member
      omega
    · rcases List.mem_cons.1 listed with rfl | later
      · have pair := across one member bank List.mem_cons_self
        omega
      · exact across one member other (List.mem_cons_of_mem _ later)
  · rw [Array.toList_push, List.pairwise_append]
    refine ⟨dense, List.pairwise_singleton _ _, fun bank member opened only => ?_⟩
    rw [List.mem_singleton.1 only, Bank.used_put]
    have refused := Bank.lt_of_fit?_eq_none bounded filled (full bank (Array.mem_toList_iff.1 member))
    show geometry.capacity < bank.used + (0 + blob.size) + gap
    omega

/-- **Placing symbols one after the other keeps banks dense.** -/
theorem IsDense.foldlM (bounded : geometry.capacity ≤ 65536) (later : List Blob)
    (filled : ∀ blob ∈ later, 0 < blob.size) (narrow : ∀ blob ∈ later, blob.align ≤ gap + 1)
    {banks : Array Bank} (dense : IsDense geometry.capacity gap banks)
    (placed : later.foldlM (Allocation.place geometry) banks = .ok result) :
    IsDense geometry.capacity gap result :=
  foldlM_invariant (fun _ banks => IsDense geometry.capacity gap banks) [] later
    (fun blob member _ _ _ dense placed =>
      dense.place bounded (filled blob member) (narrow blob member) placed) dense placed

/-- Of two different banks one comes before the other. -/
theorem IsDense.lt_of_ne {capacity : Nat} (dense : IsDense capacity gap banks) {place other : Nat}
    {first second : Bank} (differ : place ≠ other) (found : banks[place]? = some first)
    (also : banks[other]? = some second) : capacity < first.used + second.used + gap := by
  have pairs := List.pairwise_iff_getElem.1 dense
  obtain ⟨inside, rfl⟩ := Array.getElem?_eq_some_iff.1 found
  obtain ⟨alsoInside, rfl⟩ := Array.getElem?_eq_some_iff.1 also
  rcases Nat.lt_or_gt_of_ne differ with before | behind
  · exact pairs place other (by simpa using inside) (by simpa using alsoInside) before
  · have pair := pairs other place (by simpa using alsoInside) (by simpa using inside) behind
    simp only [Array.getElem_toList] at pair
    omega

/-! ### Symbols without alignment -/

/-- **The banks hold the bytes of some symbols and no gaps**, and any two of them hold more than one
bank takes. -/
structure IsFilledBy (geometry : Geometry) (blobs : List Blob) (banks : Array Bank) : Prop where
  used : total (banks.toList.map Bank.used) = total (blobs.map Blob.size)
  dense : IsDense geometry.capacity 0 banks

theorem isFilledBy_empty (geometry : Geometry) : IsFilledBy geometry [] #[] where
  used := rfl
  dense := List.Pairwise.nil

theorem IsFilledBy.place (isFilled : IsFilledBy geometry blobs banks)
    (bounded : geometry.capacity ≤ 65536) (filled : 0 < blob.size) (plain : blob.align = 1)
    (placed : Allocation.place geometry banks blob = .ok result) :
    IsFilledBy geometry (blobs ++ [blob]) result where
  used := by
    have before := isFilled.used
    rw [List.map_append, total_append, List.map_singleton, total_cons, total_nil]
    rcases place_cases placed with ⟨earlier, bank, after, offset, whole, _, fits, next⟩ | ⟨_, _, rfl⟩
    · have exact := Bank.toNat_of_fit?_of_align plain fits
      rw [whole, List.map_append, List.map_cons, total_append, total_cons] at before
      rw [next, List.map_append, List.map_cons, total_append, total_cons, Bank.used_put]
      omega
    · rw [Array.toList_push, List.map_append, total_append, before]
      show _ + (0 + blob.size + 0) = _
      omega
  dense := isFilled.dense.place bounded filled (Nat.le_of_eq plain) placed

/-- **One symbol more is placed if all of them need at most half of the banks.** A symbol for which
there is no bank left would be one more thing of which any two exceed a bank. -/
theorem IsFilledBy.exists_place (isFilled : IsFilledBy geometry blobs banks)
    (bounded : geometry.capacity ≤ 65536) (possible : 0 < geometry.ceiling) (filled : 0 < blob.size)
    (plain : blob.align = 1)
    (half : 2 * (total (blobs.map Blob.size) + blob.size)
      ≤ (geometry.ceiling + 1) * geometry.capacity) :
    ∃ result, Allocation.place geometry banks blob = .ok result := by
  unfold Allocation.place
  split
  · exact ⟨_, rfl⟩
  · rename_i nowhere
    rw [exists_ite_eq_ok_iff]
    intro many
    have refused : ∀ bank ∈ banks.toList.map Bank.used, geometry.capacity < bank + blob.size := by
      intro used member
      obtain ⟨bank, listed, rfl⟩ := List.mem_map.1 member
      have without := Array.findIdx?_eq_none_iff.1 nowhere bank (Array.mem_toList_iff.1 listed)
      have exceeds := Bank.lt_of_fit?_eq_none bounded filled
        (Option.isNone_iff_eq_none.1 (by simpa using without))
      omega
    have large : (banks.toList.map Bank.used ++ [blob.size]).Pairwise fun first second =>
        geometry.capacity < first + second := by
      rw [List.pairwise_append, List.pairwise_map]
      refine ⟨isFilled.dense, List.pairwise_singleton _ _, fun used member size only => ?_⟩
      rw [List.mem_singleton.1 only]
      exact refused used member
    have length : (banks.toList.map Bank.used ++ [blob.size]).length = banks.size + 1 := by simp
    have together := lt_two_mul_total large (by omega)
    have room : (geometry.ceiling + 1) * geometry.capacity
        ≤ (banks.size + 1) * geometry.capacity :=
      Nat.mul_le_mul_right _ (Nat.succ_le_succ many)
    rw [length, total_append, isFilled.used, total_cons, total_nil] at together
    omega

/-- **More symbols are placed if all of them need at most half of the banks.** -/
theorem IsFilledBy.exists_foldlM (bounded : geometry.capacity ≤ 65536)
    (possible : 0 < geometry.ceiling) (later : List Blob) (filled : ∀ blob ∈ later, 0 < blob.size)
    (plain : ∀ blob ∈ later, blob.align = 1) {banks : Array Bank} {blobs : List Blob}
    (isFilled : IsFilledBy geometry blobs banks)
    (half : 2 * total ((blobs ++ later).map Blob.size)
      ≤ (geometry.ceiling + 1) * geometry.capacity) :
    ∃ result, later.foldlM (Allocation.place geometry) banks = .ok result := by
  induction later generalizing banks blobs with
  | nil => exact ⟨banks, rfl⟩
  | cons blob later ih =>
    have size := filled blob List.mem_cons_self
    have align := plain blob List.mem_cons_self
    have enough : 2 * (total (blobs.map Blob.size) + blob.size)
        ≤ (geometry.ceiling + 1) * geometry.capacity := by
      rw [List.map_append, total_append, List.map_cons, total_cons] at half
      omega
    obtain ⟨next, placed⟩ := isFilled.exists_place bounded possible size align enough
    rw [List.foldlM_cons, placed]
    rw [List.append_cons] at half
    exact ih (fun other member => filled other (List.mem_cons_of_mem _ member))
      (fun other member => plain other (List.mem_cons_of_mem _ member))
      (isFilled.place bounded size align placed) half

/-! ### Whole layouts -/

/-- **Accepted layouts are dense, and symbols that need at most half of the banks are accepted.** Any
two banks of an accepted layout hold more than one bank takes, up to the gap that the greatest
alignment leaves. Symbols without alignment of which each fits into a bank are accepted if all
together they take at most half of the banks and of one bank more; so if there is no bank left for
one of them, they take more. -/
theorem ofBlobs_isDense (valid : geometry.IsValid) (possible : 0 < geometry.ceiling)
    (filled : ∀ blob ∈ blobs, 0 < blob.size) :
    (∀ greatest allocation, (∀ blob ∈ blobs, blob.align ≤ greatest) →
        ofBlobs geometry blobs = .ok allocation →
          ∀ (place other : Nat) (first second : Bank), place ≠ other →
            allocation.banks[place]? = some first → allocation.banks[other]? = some second →
              geometry.capacity < first.used + second.used + (greatest - 1))
      ∧ ((∀ blob ∈ blobs, blob.align = 1) → (∀ blob ∈ blobs, blob.size ≤ geometry.capacity) →
          2 * total (blobs.map Blob.size) ≤ (geometry.ceiling + 1) * geometry.capacity →
            ∃ allocation, ofBlobs geometry blobs = .ok allocation)
      ∧ ((∀ blob ∈ blobs, blob.align = 1) → ∀ name size needed ceiling,
          ofBlobs geometry blobs = .error (.ceilingExceeded name size needed ceiling) →
            (geometry.ceiling + 1) * geometry.capacity < 2 * total (blobs.map Blob.size)) := by
  have sorted : ∀ blob, blob ∈ blobs.mergeSort Blob.precedes ↔ blob ∈ blobs :=
    fun blob => (List.mergeSort_perm blobs Blob.precedes).mem_iff
  have accepted : (∀ blob ∈ blobs, blob.align = 1) →
      (∀ blob ∈ blobs, blob.size ≤ geometry.capacity) →
      2 * total (blobs.map Blob.size) ≤ (geometry.ceiling + 1) * geometry.capacity →
      ∃ allocation, ofBlobs geometry blobs = .ok allocation := by
    intro plain small half
    have same : total ((blobs.mergeSort Blob.precedes).map Blob.size)
        = total (blobs.map Blob.size) :=
      total_eq_of_perm ((List.mergeSort_perm blobs Blob.precedes).map Blob.size)
    obtain ⟨banks, placed⟩ := (isFilledBy_empty geometry).exists_foldlM valid.capacity_le possible
      (blobs.mergeSort Blob.precedes) (fun blob member => filled blob ((sorted blob).1 member))
      (fun blob member => plain blob ((sorted blob).1 member))
      (by rwa [List.nil_append, same])
    have enough : total (blobs.map Blob.size) ≤ geometry.capacity * geometry.ceiling := by
      have least := Nat.mul_le_mul_right geometry.capacity possible
      rw [Nat.succ_mul geometry.ceiling] at half
      rw [Nat.mul_comm]
      omega
    exact ⟨_, ofBlobs_of_foldlM valid.capacity_pos valid.capacity_le valid.numbers_le small enough
      placed⟩
  refine ⟨fun greatest allocation narrow laid => ?_, accepted, ?_⟩
  · have accepts := ofBlobs_eq_ok laid
    have dense : IsDense geometry.capacity (greatest - 1) allocation.banks :=
      IsDense.foldlM valid.capacity_le _ (fun blob member => filled blob ((sorted blob).1 member))
        (fun blob member => by
          have bound := narrow blob ((sorted blob).1 member)
          omega)
        (List.Pairwise.nil : IsDense geometry.capacity (greatest - 1) #[]) accepts.banks
    exact fun place other first second => dense.lt_of_ne
  · intro plain name size needed ceiling refused
    by_contra few
    rw [ofBlobs_eq valid] at refused
    split at refused
    · cases refused
    · rename_i fitting
      obtain ⟨allocation, laid⟩ := accepted plain
        (oversized_eq_nil_iff.1 (not_not.1 fitting)) (Nat.le_of_not_lt few)
      rw [ofBlobs_eq valid, if_neg fitting] at laid
      cases laid.symm.trans refused

/-- Three symbols of some sizes, without alignment. -/
def crates (first second third : Nat) : List Blob :=
  [.aligned "a" (.replicate first 0) 1, .aligned "b" (.replicate second 0) 1,
    .aligned "c" (.replicate third 0) 1]

/-- Two banks of ten bytes are enough for fifteen bytes, and hold more than ten together. They do not
take three symbols of six bytes, which are eighteen bytes, and more than fifteen. -/
theorem ofBlobs_isDense_crates :
    (∃ allocation first second, ofBlobs ⟨10, 2, 1⟩ (crates 6 5 4) = .ok allocation
        ∧ allocation.banks[0]? = some first ∧ allocation.banks[1]? = some second
        ∧ 10 < first.used + second.used)
      ∧ ofBlobs ⟨10, 2, 1⟩ (crates 6 6 6) = .error (.ceilingExceeded "c" 6 3 2)
      ∧ (2 + 1) * 10 < 2 * total ((crates 6 6 6).map Blob.size) := by
  have valid : Geometry.IsValid ⟨10, 2, 1⟩ := ⟨by decide, by decide, by decide⟩
  constructor
  · have sorted : (crates 6 5 4).mergeSort Blob.precedes = crates 6 5 4 :=
      List.mergeSort_of_pairwise (by decide)
    obtain ⟨dense, accepted, _⟩ := @ofBlobs_isDense ⟨10, 2, 1⟩ (crates 6 5 4) valid (by decide)
      (by decide)
    obtain ⟨allocation, laid⟩ := accepted (by decide) (by decide) (by decide)
    have placed : ∃ banks first second, (crates 6 5 4).foldlM (place ⟨10, 2, 1⟩) #[] = .ok banks
        ∧ banks[0]? = some first ∧ banks[1]? = some second := ⟨_, _, _, by cbv, by cbv, by cbv⟩
    obtain ⟨banks, first, second, placed, begins, ends⟩ := placed
    have same := (ofBlobs_eq_ok laid).banks
    rw [sorted, placed] at same
    cases same
    exact ⟨allocation, first, second, laid, begins, ends,
      dense 1 allocation (by decide) laid 0 1 first second (by decide) begins ends⟩
  · have sorted : (crates 6 6 6).mergeSort Blob.precedes = crates 6 6 6 :=
      List.mergeSort_of_pairwise (by decide)
    have placed : (crates 6 6 6).foldlM (place ⟨10, 2, 1⟩) #[]
        = .error (.ceilingExceeded "c" 6 3 2) := by cbv
    have refused : ofBlobs ⟨10, 2, 1⟩ (crates 6 6 6) = .error (.ceilingExceeded "c" 6 3 2) := by
      rw [ofBlobs_eq valid, if_neg (not_not_intro (oversized_eq_nil_iff.2 (by decide))),
        if_neg (by decide), sorted, placed]
      rfl
    obtain ⟨_, _, crowded⟩ := @ofBlobs_isDense ⟨10, 2, 1⟩ (crates 6 6 6) valid (by decide)
      (by decide)
    exact ⟨refused, crowded (by decide) _ _ _ _ refused⟩

end Allocation
end Cartridge
