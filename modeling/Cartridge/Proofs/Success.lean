import Mathlib.Data.List.Forall2

/-!
# Computations that succeed, and faults

* `bind_eq_ok`, `mapError_eq_ok`: what has succeeded has succeeded step by step.
* `mapError_eq_error_iff`: what has failed has failed by another name.
* `exists_bind_eq_ok_iff`, `exists_ite_eq_ok_iff`, `exists_mapError_eq_ok_iff`: whether there is a
  result at all.
* `forall₂_of_mapM`: a list of results comes from a list of items one by one.
* `exists_of_mem_of_forall₂`: each of them comes from something.
* `check_bind_eq_ok_iff`, `forM_eq_ok_iff`: checks succeed together just if each of them does.
* `bind_congr_of_ok`: what follows a computation only has to agree on its value.
* `foldlM_invariant`: what each step keeps holds after all of them.
* `faultOf`, `faultOf_bind`: the fault of a computation is that of its first step that has one.
* `mapM_eq_error_iff`: the fault of many computations is that of the first one that has one.
-/

namespace Cartridge

variable {ε ε' α β : Type}

/-- A computation that succeeds succeeds step by step. -/
theorem bind_eq_ok {first : Except ε α} {next : α → Except ε β} {result : β}
    (succeeded : first >>= next = .ok result) :
    ∃ value, first = .ok value ∧ next value = .ok result := by
  cases first with
  | error fault => cases succeeded
  | ok value => exact ⟨value, rfl, succeeded⟩

theorem exists_bind_eq_ok_iff {first : Except ε α} {next : α → Except ε β} :
    (∃ result, first >>= next = .ok result)
      ↔ ∃ value, first = .ok value ∧ ∃ result, next value = .ok result := by
  constructor
  · rintro ⟨result, succeeded⟩
    obtain ⟨value, head, tail⟩ := bind_eq_ok succeeded
    exact ⟨value, head, result, tail⟩
  · rintro ⟨value, rfl, result, tail⟩
    exact ⟨result, tail⟩

theorem exists_ite_eq_ok_iff {refused : Prop} [Decidable refused] {fault : ε} {value : α} :
    (∃ result, (if refused then Except.error fault else .ok value) = .ok result) ↔ ¬ refused := by
  split <;> simp [*]

theorem exists_mapError_eq_ok_iff {rename : ε → ε'} {computation : Except ε α} :
    (∃ result, computation.mapError rename = .ok result) ↔ ∃ result, computation = .ok result := by
  cases computation <;> simp [Except.mapError]

/-- Renaming faults does not make a success. -/
theorem mapError_eq_ok {rename : ε → ε'} {computation : Except ε α} {result : α}
    (succeeded : computation.mapError rename = .ok result) : computation = .ok result := by
  cases computation with
  | error fault => cases succeeded
  | ok value => cases succeeded; rfl

theorem eq_ok_of_toOption {computation : Except ε α} {result : α}
    (found : computation.toOption = some result) : computation = .ok result := by
  cases computation with
  | error fault => cases found
  | ok other => exact congrArg _ (Option.some.inj found)

/-- A renamed fault is a fault by another name. -/
theorem mapError_eq_error_iff {rename : ε → ε'} {computation : Except ε α} {fault : ε'} :
    computation.mapError rename = .error fault
      ↔ ∃ cause, computation = .error cause ∧ rename cause = fault := by
  cases computation <;> simp [Except.mapError]

/-- **A list of results comes from a list of items one by one.** -/
theorem forall₂_of_mapM {compute : α → Except ε β} {items : List α} {results : List β}
    (succeeded : items.mapM compute = .ok results) :
    List.Forall₂ (fun item result => compute item = .ok result) items results := by
  induction items generalizing results with
  | nil =>
    cases succeeded
    exact .nil
  | cons item items ih =>
    rw [List.mapM_cons] at succeeded
    obtain ⟨result, head, succeeded⟩ := bind_eq_ok succeeded
    obtain ⟨rest, tail, succeeded⟩ := bind_eq_ok succeeded
    cases succeeded
    exact .cons head (ih tail)

/-- What stands in the second of two related lists is related to something in the first one. -/
theorem exists_of_mem_of_forall₂ {related : α → β → Prop} {first : List α} {second : List β}
    (all : List.Forall₂ related first second) {value : β} (member : value ∈ second) :
    ∃ source ∈ first, related source value := by
  induction all with
  | nil => exact (List.not_mem_nil member).elim
  | cons head _ ih =>
    rcases List.mem_cons.1 member with rfl | later
    · exact ⟨_, List.mem_cons_self, head⟩
    · obtain ⟨source, inside, here⟩ := ih later
      exact ⟨source, List.mem_cons_of_mem _ inside, here⟩

/-- What comes behind a check succeeds just if the check does, too. -/
theorem check_bind_eq_ok_iff {check : Except ε Unit} {next : Unit → Except ε β} {result : β} :
    check >>= next = .ok result ↔ check = .ok () ∧ next () = .ok result := by
  constructor
  · intro succeeded
    obtain ⟨⟨⟩, first, rest⟩ := bind_eq_ok succeeded
    exact ⟨first, rest⟩
  · rintro ⟨rfl, rest⟩
    exact rest

/-- **Checks of many items succeed together just if each of them does.** -/
theorem forM_eq_ok_iff {check : α → Except ε Unit} {items : List α} :
    items.forM check = .ok () ↔ ∀ item ∈ items, check item = .ok () := by
  induction items with
  | nil => exact ⟨fun _ _ member => (List.not_mem_nil member).elim, fun _ => rfl⟩
  | cons item items ih =>
    rw [List.forall_mem_cons, ← ih]
    exact check_bind_eq_ok_iff

/-- Two continuations that agree on the value of a computation do the same after it. -/
theorem bind_congr_of_ok {computation : Except ε α} {first second : α → Except ε β}
    (same : ∀ value, computation = .ok value → first value = second value) :
    computation >>= first = computation >>= second := by
  cases computation with
  | error fault => rfl
  | ok value => exact same value rfl

/-- **What each step keeps holds after all of them.** It may speak of the items so far. -/
theorem foldlM_invariant {σ : Type} {step : σ → α → Except ε σ} (holds : List α → σ → Prop)
    (earlier later : List α)
    (kept : ∀ item ∈ later, ∀ {earlier state next}, holds earlier state →
      step state item = .ok next → holds (earlier ++ [item]) next)
    {state result : σ} (start : holds earlier state)
    (done : later.foldlM step state = .ok result) : holds (earlier ++ later) result := by
  induction later generalizing earlier state with
  | nil =>
    cases done
    rwa [List.append_nil]
  | cons item later ih =>
    rw [List.foldlM_cons] at done
    obtain ⟨next, head, tail⟩ := bind_eq_ok done
    rw [List.append_cons]
    exact ih _ (fun other member => kept other (List.mem_cons_of_mem _ member))
      (kept item List.mem_cons_self start head) tail

/-! ### Faults -/

/-- The fault of a computation, if it has one. -/
def faultOf : Except ε α → Option ε
  | .error fault => some fault
  | .ok _ => none

theorem faultOf_eq_some_iff {computation : Except ε α} {fault : ε} :
    faultOf computation = some fault ↔ computation = .error fault := by
  cases computation <;> simp [faultOf]

theorem faultOf_mapError {computation : Except ε α} {rename : ε → ε'} :
    faultOf (computation.mapError rename) = (faultOf computation).map rename := by
  cases computation <;> rfl

/-- The fault of the first step, or of the second one, if that does not depend on the value of the
first one. -/
theorem faultOf_bind {first : Except ε α} {next : α → Except ε β} {rest : Option ε}
    (same : ∀ value, faultOf (next value) = rest) :
    faultOf (first >>= next) = (faultOf first).or rest := by
  cases first with
  | error fault => rfl
  | ok value => exact same value

variable {γ δ : Type}

/-- The value that is made at the end does not matter. -/
theorem faultOf_bind_ok {first : Except ε α} {result : α → δ} :
    faultOf (first >>= fun one => .ok (result one)) = faultOf first := by
  cases first <;> rfl

theorem faultOf_bind₂_ok {first : Except ε α} {second : Except ε β} {result : α → β → δ} :
    faultOf (first >>= fun one => second >>= fun two => .ok (result one two))
      = (faultOf first).or (faultOf second) :=
  faultOf_bind fun _ => faultOf_bind_ok

theorem faultOf_bind₃_ok {first : Except ε α} {second : Except ε β} {third : Except ε γ}
    {result : α → β → γ → δ} :
    faultOf (first >>= fun one => second >>= fun two => third >>= fun three =>
        .ok (result one two three))
      = (faultOf first).or ((faultOf second).or (faultOf third)) :=
  faultOf_bind fun _ => faultOf_bind₂_ok

theorem findSome?_cons_eq_or {find : α → Option β} {item : α} {items : List α} :
    (item :: items).findSome? find = (find item).or (items.findSome? find) := by
  rw [List.findSome?_cons]
  cases find item <;> rfl

theorem faultOf_mapM {compute : α → Except ε β} {items : List α} :
    faultOf (items.mapM compute) = items.findSome? fun item => faultOf (compute item) := by
  induction items with
  | nil => rfl
  | cons item items ih =>
    rw [List.mapM_cons, findSome?_cons_eq_or, ← ih]
    exact faultOf_bind₂_ok

/-- **The fault of many computations is that of the first one that has one.** -/
theorem mapM_eq_error_iff {compute : α → Except ε β} {items : List α} {fault : ε} :
    items.mapM compute = .error fault ↔ ∃ before item after, items = before ++ item :: after
      ∧ (∀ earlier ∈ before, ∃ result, compute earlier = .ok result)
      ∧ compute item = .error fault := by
  have none : ∀ item, faultOf (compute item) = none ↔ ∃ result, compute item = .ok result :=
    fun item => by cases compute item <;> simp [faultOf]
  rw [← faultOf_eq_some_iff, faultOf_mapM, List.findSome?_eq_some_iff]
  constructor
  · rintro ⟨before, item, after, whole, found, earlier⟩
    exact ⟨before, item, after, whole, fun other member => (none other).1 (earlier other member),
      faultOf_eq_some_iff.1 found⟩
  · rintro ⟨before, item, after, whole, earlier, found⟩
    exact ⟨before, item, after, whole, faultOf_eq_some_iff.2 found,
      fun other member => (none other).2 (earlier other member)⟩

end Cartridge
