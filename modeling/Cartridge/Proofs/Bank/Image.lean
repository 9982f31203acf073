import Cartridge.Proofs.Bank.Layout
import Cartridge.Source.Data

/-!
# What the banks hold

* `Bank.getElem?_image`: in the contents of a sound bank, each symbol stands at its offset.
* `Bank.IsSound.showsSymbols`: between the symbols there are zeros.
* `extract_bankImage_segment`: in the data of all banks, each bank stands at its place.
* `extract_bankImage`: so the bytes of a symbol are found in the data of all banks.
-/

namespace Cartridge

/-! ### One bank -/

namespace Bank

variable {image : Array UInt8} {bytes : List UInt8} {place index : Nat}

@[simp] theorem size_overwrite : (overwrite image place bytes).size = image.size := by
  induction bytes generalizing image place with
  | nil => rfl
  | cons byte bytes ih => rw [overwrite, ih, Array.size_setIfInBounds]

theorem getElem?_overwrite_outside
    (outside : index < place ∨ place + bytes.length ≤ index) :
    (overwrite image place bytes)[index]? = image[index]? := by
  induction bytes generalizing image place with
  | nil => rfl
  | cons byte bytes ih =>
    rw [List.length_cons] at outside
    rw [overwrite, ih (by omega), Array.getElem?_setIfInBounds, if_neg (by omega)]

theorem getElem?_overwrite_inside (inside : index < bytes.length)
    (room : place + bytes.length ≤ image.size) :
    (overwrite image place bytes)[place + index]? = bytes[index]? := by
  induction bytes generalizing image place index with
  | nil => exact (Nat.not_lt_zero _ inside).elim
  | cons byte bytes ih =>
    rw [List.length_cons] at inside room
    rw [overwrite]
    cases index with
    | zero =>
      show (overwrite _ _ bytes)[place]? = _
      rw [getElem?_overwrite_outside (.inl (Nat.lt_add_one place)),
        Array.getElem?_setIfInBounds, if_pos rfl, if_pos (by omega)]
      rfl
    | succ index =>
      have later := @ih (image.setIfInBounds place byte) (place + 1) index (by omega)
        (by rw [Array.size_setIfInBounds]; omega)
      rw [List.getElem?_cons_succ, ← later, Nat.add_assoc, Nat.add_comm 1]

/-- The contents of a bank with the bytes of some symbols written. -/
def written (image : Array UInt8) (symbols : List Placed) : Array UInt8 :=
  symbols.foldl (fun image symbol => overwrite image symbol.offset.toNat symbol.bytes.toList) image

theorem image_eq (bank : Bank) :
    bank.image = written (Array.replicate bank.used 0) bank.symbols.toList := by
  rw [written, Array.foldl_toList]
  rfl

theorem size_written (image : Array UInt8) (symbols : List Placed) :
    (written image symbols).size = image.size := by
  induction symbols generalizing image with
  | nil => rfl
  | cons symbol symbols ih =>
    show (written (overwrite _ _ _) symbols).size = _
    rw [ih, size_overwrite]

theorem size_image (bank : Bank) : bank.image.size = bank.used := by
  rw [image_eq, size_written, Array.size_replicate]

/-- Where no symbol stands nothing is written. -/
theorem getElem?_written_outside {symbols : List Placed}
    (outside : ∀ symbol ∈ symbols, index < symbol.offset.toNat ∨ symbol.past ≤ index) :
    (written image symbols)[index]? = image[index]? := by
  induction symbols generalizing image with
  | nil => rfl
  | cons symbol symbols ih =>
    show (written (overwrite _ _ _) symbols)[index]? = _
    rw [ih fun other member => outside other (List.mem_cons_of_mem _ member),
      getElem?_overwrite_outside (outside symbol List.mem_cons_self)]

/-- **Where symbols stand apart, each is written where it stands**: those behind it do not reach it,
and those before it are written earlier. -/
theorem getElem?_written {symbols : List Placed} {symbol : Placed}
    (apart : symbols.Pairwise fun first second => first.past ≤ second.offset.toNat)
    (room : ∀ other ∈ symbols, other.past ≤ image.size) (member : symbol ∈ symbols)
    (inside : index < symbol.bytes.size) :
    (written image symbols)[symbol.offset.toNat + index]? = symbol.bytes[index]? := by
  induction symbols generalizing image with
  | nil => cases member
  | cons first symbols ih =>
    obtain ⟨behind, apart⟩ := List.pairwise_cons.1 apart
    show (written (overwrite _ _ _) symbols)[_]? = _
    rcases List.mem_cons.1 member with rfl | later
    · have past := room symbol List.mem_cons_self
      unfold Placed.past at past behind
      rw [getElem?_written_outside fun other member => .inl ?_, getElem?_overwrite_inside inside past,
        Array.getElem?_toList]
      have far := behind other member
      omega
    · refine ih apart (fun other member => ?_) later
      rw [size_overwrite]
      exact room other (List.mem_cons_of_mem _ member)

/-- **In a sound bank each symbol stands at its offset.** -/
theorem getElem?_image {capacity : Nat} {bank : Bank} (sound : bank.IsSound capacity)
    {symbol : Placed} (member : symbol ∈ bank.symbols) (inside : index < symbol.bytes.size) :
    bank.image[symbol.offset.toNat + index]? = symbol.bytes[index]? := by
  rw [image_eq]
  refine getElem?_written sound.apart (fun other listed => ?_) (Array.mem_toList_iff.2 member) inside
  rw [Array.size_replicate]
  exact sound.past_le other (Array.mem_toList_iff.1 listed)

/-- **The contents of a bank show its symbols**, with zeros between them. No symbol is written beyond
their end. -/
structure ShowsSymbols (bank : Bank) : Prop where
  size : bank.image.size = bank.used
  inside : ∀ symbol ∈ bank.symbols, symbol.past ≤ bank.image.size
  bytes : ∀ symbol ∈ bank.symbols,
    bank.image.extract symbol.offset.toNat symbol.past = symbol.bytes
  zeros : ∀ index < bank.used,
    (∀ symbol ∈ bank.symbols, index < symbol.offset.toNat ∨ symbol.past ≤ index) →
      bank.image[index]? = some 0

/-- **A sound bank shows its symbols.** -/
theorem IsSound.showsSymbols {capacity : Nat} {bank : Bank} (sound : bank.IsSound capacity) :
    bank.ShowsSymbols where
  size := bank.size_image
  inside := by
    rw [size_image]
    exact sound.past_le
  bytes := fun symbol member => by
    have past := sound.past_le symbol member
    unfold Placed.past at past ⊢
    refine Array.ext_getElem? fun index => ?_
    rw [Array.getElem?_extract]
    by_cases inside : index < symbol.bytes.size
    · rw [size_image, if_pos (by omega), getElem?_image sound member inside]
    · rw [if_neg (by omega), Array.getElem?_eq_none (Nat.le_of_not_lt inside)]
  zeros := fun index less outside => by
    rw [image_eq, getElem?_written_outside fun symbol member =>
      outside symbol (Array.mem_toList_iff.1 member), Array.getElem?_replicate, if_pos less]

/-- The contents of a bank, filled up with zeros. -/
def segment (capacity : Nat) (bank : Bank) : Array UInt8 :=
  bank.image ++ Array.replicate (capacity - bank.used) 0

theorem size_segment {capacity : Nat} {bank : Bank} (sound : bank.IsSound capacity) :
    (bank.segment capacity).size = capacity := by
  rw [segment, Array.size_append, size_image, Array.size_replicate]
  exact Nat.add_sub_cancel' sound.used_le

end Bank

/-! ### All banks -/

/-- The data of some banks behind other data. -/
def segmentsOnto (capacity : Nat) (image : Array UInt8) (banks : List Bank) : Array UInt8 :=
  banks.foldl (fun image bank => image ++ bank.segment capacity) image

variable {capacity : Nat} {banks : List Bank} {allocation : Allocation} {bank : Bank}

theorem bankImage_eq (allocation : Allocation) :
    bankImage allocation = segmentsOnto allocation.capacity #[] allocation.banks.toList := by
  rw [segmentsOnto, Array.foldl_toList]
  refine congrArg (fun step => allocation.banks.foldl step #[])
    (funext fun image => funext fun bank => ?_)
  rw [Bank.segment, Array.append_assoc]

theorem size_segmentsOnto (sound : ∀ bank ∈ banks, bank.IsSound capacity) (image : Array UInt8) :
    (segmentsOnto capacity image banks).size = image.size + banks.length * capacity := by
  induction banks generalizing image with
  | nil => rw [List.length_nil, Nat.zero_mul]; rfl
  | cons bank banks ih =>
    show (segmentsOnto capacity (image ++ bank.segment capacity) banks).size = _
    rw [ih fun other member => sound other (List.mem_cons_of_mem _ member), Array.size_append,
      Bank.size_segment (sound bank List.mem_cons_self), List.length_cons, Nat.succ_mul,
      Nat.add_assoc, Nat.add_comm capacity]

theorem getElem?_segmentsOnto_before {image : Array UInt8} {index : Nat}
    (before : index < image.size) :
    (segmentsOnto capacity image banks)[index]? = image[index]? := by
  induction banks generalizing image with
  | nil => rfl
  | cons bank banks ih =>
    show (segmentsOnto capacity (image ++ bank.segment capacity) banks)[index]? = _
    rw [ih (by rw [Array.size_append]; omega), Array.getElem?_append_left before]

theorem getElem?_segmentsOnto (sound : ∀ bank ∈ banks, bank.IsSound capacity) {image : Array UInt8}
    {place index : Nat} (found : banks[place]? = some bank) (inside : index < capacity) :
    (segmentsOnto capacity image banks)[image.size + (place * capacity + index)]?
      = (bank.segment capacity)[index]? := by
  induction banks generalizing image place with
  | nil => cases found
  | cons first banks ih =>
    have size := Bank.size_segment (sound first List.mem_cons_self)
    show (segmentsOnto capacity (image ++ first.segment capacity) banks)[_]? = _
    cases place with
    | zero =>
      cases found
      rw [Nat.zero_mul, Nat.zero_add,
        getElem?_segmentsOnto_before (by rw [Array.size_append, size]; omega),
        Array.getElem?_append_right (Nat.le_add_right _ _), Nat.add_sub_cancel_left]
    | succ place =>
      have later := @ih (fun other member => sound other (List.mem_cons_of_mem _ member))
        (image ++ first.segment capacity) place found
      rw [← later, Array.size_append, size, Nat.succ_mul]
      congr 1
      omega

/-- **All banks together are as large as so many banks.** -/
theorem size_bankImage (sound : ∀ bank ∈ allocation.banks, bank.IsSound allocation.capacity) :
    (bankImage allocation).size = allocation.banks.size * allocation.capacity := by
  rw [bankImage_eq, size_segmentsOnto fun bank member => sound bank (Array.mem_toList_iff.1 member)]
  rw [Array.size_empty, Nat.zero_add, Array.length_toList]

/-- **In the data of all banks each bank stands at its place.** -/
theorem getElem?_bankImage (sound : ∀ bank ∈ allocation.banks, bank.IsSound allocation.capacity)
    {place index : Nat} (found : allocation.banks[place]? = some bank)
    (inside : index < allocation.capacity) :
    (bankImage allocation)[place * allocation.capacity + index]?
      = (bank.segment allocation.capacity)[index]? := by
  have all : ∀ bank ∈ allocation.banks.toList, bank.IsSound allocation.capacity :=
    fun bank member => sound bank (Array.mem_toList_iff.1 member)
  rw [← Array.getElem?_toList] at found
  have there := @getElem?_segmentsOnto _ _ _ all #[] _ _ found inside
  rwa [Array.size_empty, Nat.zero_add, ← bankImage_eq] at there

/-- The part of a bank in the data of all banks. -/
theorem extract_bankImage_segment
    (sound : ∀ bank ∈ allocation.banks, bank.IsSound allocation.capacity) {place : Nat}
    (found : allocation.banks[place]? = some bank) :
    (bankImage allocation).extract (place * allocation.capacity)
        ((place + 1) * allocation.capacity) = bank.segment allocation.capacity := by
  have size := Bank.size_segment (sound bank (Array.mem_of_getElem? found))
  obtain ⟨few, _⟩ := Array.getElem?_eq_some_iff.1 found
  have within : (place + 1) * allocation.capacity ≤ (bankImage allocation).size := by
    rw [size_bankImage sound]
    exact Nat.mul_le_mul_right _ few
  rw [Nat.succ_mul] at within ⊢
  refine Array.ext_getElem? fun index => ?_
  rw [Array.getElem?_extract]
  by_cases inside : index < allocation.capacity
  · rw [if_pos (by omega), getElem?_bankImage sound found inside]
  · rw [if_neg (by omega), Array.getElem?_eq_none (by omega)]

/-- **The bytes of a symbol are found in the data of all banks**, at its offset in its bank. -/
theorem extract_bankImage (sound : ∀ bank ∈ allocation.banks, bank.IsSound allocation.capacity)
    {place : Nat} (found : allocation.banks[place]? = some bank) {symbol : Placed}
    (member : symbol ∈ bank.symbols) :
    (bankImage allocation).extract (place * allocation.capacity + symbol.offset.toNat)
        (place * allocation.capacity + symbol.past) = symbol.bytes := by
  have bankSound := sound bank (Array.mem_of_getElem? found)
  have shown := bankSound.showsSymbols
  have inside := shown.inside symbol member
  have past : symbol.past ≤ allocation.capacity :=
    Nat.le_trans (bankSound.past_le symbol member) bankSound.used_le
  calc (bankImage allocation).extract (place * allocation.capacity + symbol.offset.toNat)
        (place * allocation.capacity + symbol.past)
      = ((bankImage allocation).extract (place * allocation.capacity)
          ((place + 1) * allocation.capacity)).extract symbol.offset.toNat symbol.past := by
        rw [Array.extract_extract, Nat.succ_mul, Nat.min_eq_left (Nat.add_le_add_left past _)]
    _ = (bank.segment allocation.capacity).extract symbol.offset.toNat symbol.past := by
        rw [extract_bankImage_segment sound found]
    _ = bank.image.extract symbol.offset.toNat symbol.past := by
        rw [Bank.segment, Array.extract_append, Nat.sub_eq_zero_of_le inside, Array.extract_zero,
          Array.append_empty]
    _ = symbol.bytes := shown.bytes symbol member

end Cartridge
