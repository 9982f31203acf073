import Cartridge.Proofs.Script.Patching
import Cartridge.Script.Compilation

/-!
# The addresses of labels

The labels of a block stand for a range of numbers, and get their addresses one after the other in
the order of the code.

* `Assembly.bindAll`: addresses given to consecutive labels.
* `Assembly.Awaits`: a range of labels waits for its addresses, and so does the label behind the loop
  around.
* `Assembly.Awaits.bindAll`: when some labels have got their addresses, the others wait on.
-/

namespace Cartridge.Assembly

/-! ### Addresses of consecutive labels -/

/-- Gives addresses to consecutive labels, the first one being number `first`. -/
def bindAll (addresses : Array (Option UInt16)) (first : Nat) (labels : List Nat) :
    Array (Option UInt16) :=
  addresses.mapIdx fun number old =>
    if number < first then old else (labels[number - first]?.map UInt16.ofNat).or old

variable {addresses : Array (Option UInt16)}

theorem size_bindAll (first : Nat) (labels : List Nat) :
    (bindAll addresses first labels).size = addresses.size := Array.size_mapIdx

theorem getElem?_bindAll (first : Nat) (labels : List Nat) (number : Nat) :
    (bindAll addresses first labels)[number]?
      = addresses[number]?.map fun old =>
        if number < first then old else (labels[number - first]?.map UInt16.ofNat).or old :=
  Array.getElem?_mapIdx

theorem getElem?_bindAll_of_apart {first : Nat} {labels : List Nat} {number : Nat}
    (apart : number < first ∨ first + labels.length ≤ number) :
    (bindAll addresses first labels)[number]? = addresses[number]? := by
  rw [getElem?_bindAll]
  rcases apart with before | behind
  · simp [before]
  · have late : ¬ number < first := by omega
    have none : labels[number - first]? = none := List.getElem?_eq_none (by omega)
    simp [late, none]

theorem getElem?_bindAll_of_mem {first : Nat} {labels : List Nat} {index address : Nat}
    (listed : labels[index]? = some address) (inside : first + index < addresses.size) :
    (bindAll addresses first labels)[first + index]? = some (some (UInt16.ofNat address)) := by
  have late : ¬ first + index < first := by omega
  rw [getElem?_bindAll, Array.getElem?_eq_getElem inside]
  simp [late, listed]

theorem bindAll_nil (first : Nat) : bindAll addresses first [] = addresses := by
  refine Array.ext_getElem? fun number => ?_
  exact getElem?_bindAll_of_apart (by simp; omega)

theorem bindAll_append (first : Nat) (labels more : List Nat) :
    bindAll (bindAll addresses first labels) (first + labels.length) more
      = bindAll addresses first (labels ++ more) := by
  refine Array.ext_getElem? fun number => ?_
  simp only [getElem?_bindAll, Option.map_map]
  congr 1
  funext old
  by_cases before : number < first
  · simp [before, show number < first + labels.length by omega]
  · by_cases within : number < first + labels.length
    · have inside : number - first < labels.length := by omega
      simp [before, within, List.getElem?_append_left inside]
    · have behind : labels.length ≤ number - first := by omega
      have none : labels[number - first]? = none := List.getElem?_eq_none behind
      have place : number - (first + labels.length) = number - first - labels.length := by omega
      simp [before, within, List.getElem?_append_right behind, none, place]

theorem bindAll_comm {first second : Nat} {labels more : List Nat}
    (apart : first + labels.length ≤ second ∨ second + more.length ≤ first) :
    bindAll (bindAll addresses first labels) second more
      = bindAll (bindAll addresses second more) first labels := by
  refine Array.ext_getElem? fun number => ?_
  by_cases outside : number < first ∨ first + labels.length ≤ number
  · have kept : (bindAll (bindAll addresses second more) first labels)[number]?
        = (bindAll addresses second more)[number]? := getElem?_bindAll_of_apart outside
    rw [kept, getElem?_bindAll second, getElem?_bindAll second,
      getElem?_bindAll_of_apart outside]
  · have other : number < second ∨ second + more.length ≤ number := by omega
    have kept : (bindAll (bindAll addresses first labels) second more)[number]?
        = (bindAll addresses first labels)[number]? := getElem?_bindAll_of_apart other
    rw [kept, getElem?_bindAll first, getElem?_bindAll first, getElem?_bindAll_of_apart other]

theorem setIfInBounds_eq_bindAll (number address : Nat) :
    addresses.setIfInBounds number (some (UInt16.ofNat address))
      = bindAll addresses number [address] := by
  refine Array.ext_getElem? fun other => ?_
  rw [Array.getElem?_setIfInBounds]
  by_cases same : number = other
  · subst same
    rw [if_pos rfl, getElem?_bindAll]
    by_cases inside : number < addresses.size
    · rw [Array.getElem?_eq_getElem inside]
      simp [inside]
    · rw [Array.getElem?_eq_none (Nat.le_of_not_lt inside)]
      simp [inside]
  · rw [if_neg same]
    refine (getElem?_bindAll_of_apart ?_).symm
    rw [List.length_singleton]
    omega

theorem address?_ofNat {number : Nat} (small : number < 65536) :
    address? addresses (UInt16.ofNat number) = addresses[number]?.join := by
  rw [address?, UInt16.toNat_ofNat_of_lt' small]

/-- The labels of a loop are bound at its start, in its body and behind it. -/
theorem bindAll_loop (fresh entry past : Nat) (inner : List Nat) :
    bindAll (bindAll (bindAll addresses fresh [entry]) (fresh + 2) inner) (fresh + 1) [past]
      = bindAll addresses fresh ([entry] ++ [past] ++ inner) := by
  have own : bindAll (bindAll addresses fresh [entry]) (fresh + 1) [past]
      = bindAll addresses fresh ([entry] ++ [past]) := bindAll_append fresh [entry] [past]
  have apart : fresh + 2 + inner.length ≤ fresh + 1 ∨ fresh + 1 + [past].length ≤ fresh + 2 :=
    .inr (Nat.le_refl _)
  rw [bindAll_comm apart, own]
  exact bindAll_append fresh ([entry] ++ [past]) inner

/-! ### Labels that wait for their addresses -/

/-- **A range of labels waits for its addresses**, and so does the label behind the loop around,
which is none of them. -/
structure Awaits (addresses : Array (Option UInt16)) (fresh count : Nat) (exit : Label) :
    Prop where
  small : addresses.size ≤ 65536
  waiting : ∀ number, fresh ≤ number → number < fresh + count → addresses[number]? = some none
  exitWaiting : address? addresses exit = none
  exitApart : exit.toNat < fresh ∨ fresh + count ≤ exit.toNat

namespace Awaits

variable {fresh count : Nat} {exit : Label}

theorem lt_size (awaits : Awaits addresses fresh count exit) {number : Nat}
    (least : fresh ≤ number) (less : number < fresh + count) : number < addresses.size := by
  refine Nat.lt_of_not_le fun outside => ?_
  have waiting := awaits.waiting number least less
  rw [Array.getElem?_eq_none outside] at waiting
  cases waiting

theorem lt_limit (awaits : Awaits addresses fresh count exit) {number : Nat}
    (least : fresh ≤ number) (less : number < fresh + count) : number < 65536 :=
  Nat.lt_of_lt_of_le (awaits.lt_size least less) awaits.small

theorem address?_eq_none (awaits : Awaits addresses fresh count exit) {number : Nat}
    (least : fresh ≤ number) (less : number < fresh + count) :
    address? addresses (UInt16.ofNat number) = none := by
  rw [address?_ofNat (awaits.lt_limit least less), awaits.waiting number least less]
  rfl

/-- When some labels have got their addresses, the others wait on. -/
theorem bindAll (awaits : Awaits addresses fresh count exit) {first later less : Nat}
    {labels : List Nat} (least : fresh ≤ later) (most : later + less ≤ fresh + count)
    (apart : first + labels.length ≤ later ∨ later + less ≤ first)
    (other : exit.toNat < first ∨ first + labels.length ≤ exit.toNat) :
    Awaits (bindAll addresses first labels) later less exit where
  small := by
    rw [size_bindAll]
    exact awaits.small
  waiting := fun number low high => by
    rw [getElem?_bindAll_of_apart (by omega)]
    exact awaits.waiting number (by omega) (by omega)
  exitWaiting := by
    rw [address?, getElem?_bindAll_of_apart other]
    exact awaits.exitWaiting
  exitApart := by
    have bounded := awaits.exitApart
    omega

theorem mono (awaits : Awaits addresses fresh count exit) {later less : Nat}
    (least : fresh ≤ later) (most : later + less ≤ fresh + count) :
    Awaits addresses later less exit where
  small := awaits.small
  waiting := fun number low high => awaits.waiting number (by omega) (by omega)
  exitWaiting := awaits.exitWaiting
  exitApart := by
    have bounded := awaits.exitApart
    omega

theorem address?_bindAll {labels : List Nat} (awaits : Awaits addresses fresh labels.length exit)
    {index address : Nat} (listed : labels[index]? = some address) :
    address? (Assembly.bindAll addresses fresh labels) (UInt16.ofNat (fresh + index))
      = some (UInt16.ofNat address) := by
  obtain ⟨inside, _⟩ := List.getElem?_eq_some_iff.1 listed
  have least : fresh ≤ fresh + index := by omega
  have less : fresh + index < fresh + labels.length := by omega
  rw [address?_ofNat (awaits.lt_limit least less),
    getElem?_bindAll_of_mem listed (awaits.lt_size least less)]
  rfl

theorem exit_bindAll {labels : List Nat} (awaits : Awaits addresses fresh labels.length exit) :
    address? (Assembly.bindAll addresses fresh labels) exit = none := by
  rw [address?, getElem?_bindAll_of_apart awaits.exitApart]
  exact awaits.exitWaiting

/-- In the body of a loop, the label behind that loop is waited for. -/
theorem enterLoop (awaits : Awaits addresses fresh (2 + count) exit) (entry : Nat) :
    Awaits (Assembly.bindAll addresses fresh [entry]) (fresh + 2) count
      (UInt16.ofNat (fresh + 1)) where
  small := by
    rw [size_bindAll]
    exact awaits.small
  waiting := fun number low high => by
    rw [getElem?_bindAll_of_apart (by simp; omega)]
    exact awaits.waiting number (by omega) (by omega)
  exitWaiting := by
    have small : fresh + 1 < 65536 := awaits.lt_limit (by omega) (by omega)
    rw [address?_ofNat small, getElem?_bindAll_of_apart (by simp),
      awaits.waiting (fresh + 1) (by omega) (by omega)]
    rfl
  exitApart := by
    have small : fresh + 1 < 65536 := awaits.lt_limit (by omega) (by omega)
    rw [UInt16.toNat_ofNat_of_lt' small]
    omega

/-- In the body of a loop and behind it, the label at its start has its address. -/
theorem address?_entry (awaits : Awaits addresses fresh (2 + count) exit) (entry : Nat)
    (inner : List Nat) :
    address? (Assembly.bindAll (Assembly.bindAll addresses fresh [entry]) (fresh + 2) inner)
      (UInt16.ofNat fresh) = some (UInt16.ofNat entry) := by
  have least : fresh < fresh + (2 + count) := by omega
  have bound : (Assembly.bindAll addresses fresh [entry])[fresh + 0]?
      = some (some (UInt16.ofNat entry)) :=
    getElem?_bindAll_of_mem rfl (awaits.lt_size (Nat.le_refl fresh) least)
  rw [address?_ofNat (awaits.lt_limit (Nat.le_refl fresh) least),
    getElem?_bindAll_of_apart (by omega)]
  exact congrArg Option.join bound

/-- In the second branch of a conditional, its own labels and those of the first branch may have got
their addresses. -/
theorem enterSecond {own later : Nat} {first labels : List Nat}
    (awaits : Awaits addresses fresh (own + first.length + later) exit)
    (few : labels.length ≤ own) :
    Awaits (Assembly.bindAll (Assembly.bindAll addresses (fresh + own) first) fresh labels)
      (fresh + own + first.length) later exit := by
  have apart := awaits.exitApart
  have inFirst : Awaits (Assembly.bindAll addresses (fresh + own) first)
      (fresh + own + first.length) later exit :=
    awaits.bindAll (by omega) (by omega) (by omega) (by omega)
  exact inFirst.bindAll (Nat.le_refl _) (Nat.le_refl _) (by omega) (by omega)

end Awaits

end Cartridge.Assembly
