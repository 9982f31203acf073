import Cartridge.Asset.Packing
import Cartridge.Proofs.Success

/-!
# Storing everything once

What is stored is looked up by its digest, so that nothing is stored twice. The symbols are aliases
of what is stored; where a symbol is given twice, the later one counts.

* `eraseDups_append_of_mem`, `eraseDups_append_of_not_mem`: the different items of a list, in the
  order in which they come.
* `PackedAssets.Progress.Holds`: what the packer knows after some things have been stored.
* `PackedAssets.Progress.Holds.store`: storing one thing more keeps to it.
* `PackedAssets.Progress.Holds.get?_eq`: where equal digests mean equal things, every symbol has what
  was stored for it last.
-/

namespace Cartridge

section EraseDups

variable {α : Type} [BEq α] [LawfulBEq α] {items : List α} {item : α}

theorem eraseDups_append_of_mem (member : item ∈ items) :
    (items ++ [item]).eraseDups = items.eraseDups := by
  rw [List.eraseDups_append, List.removeAll]
  simp [member]

theorem eraseDups_append_of_not_mem (new : item ∉ items) :
    (items ++ [item]).eraseDups = items.eraseDups ++ [item] := by
  rw [List.eraseDups_append, List.removeAll]
  simp [new, List.eraseDups_cons]

end EraseDups

namespace PackedAssets

/-- A symbol and what is stored for it. -/
abbrev Entry : Type := String × PackedAsset

namespace Progress

/-- **What the packer knows after the entries have been stored.** -/
structure Holds (progress : Progress) (entries : List Entry) : Prop where
  /-- The places are those of what is stored, by digests. -/
  places_iff : ∀ (digest : Digest) (place : Nat), progress.places[digest]? = some place
    ↔ ∃ asset : PackedAsset, progress.assets.packed[place]? = some asset ∧ asset.digest = digest
  stored : ∀ asset ∈ progress.assets.packed, ∃ symbol, (symbol, asset) ∈ entries
  /-- Each digest is stored when it is first seen, and not again. -/
  order : progress.assets.packed.toList.map PackedAsset.digest
    = (entries.map fun one => one.2.digest).eraseDups
  /-- The last entry of a symbol counts. -/
  last : ∀ before symbol asset after, entries = before ++ (symbol, asset) :: after →
    (∀ other ∈ after, other.1 ≠ symbol) →
      ∃ found, progress.assets.get? symbol = some found ∧ found.digest = asset.digest

variable {progress : Progress} {entries : List Entry} {symbol : String} {asset : PackedAsset}

/-- What has been stored gets one more alias. -/
theorem store_of_known {place : Nat} (known : progress.places[asset.digest]? = some place) :
    progress.store symbol asset
      = { progress with
          assets := ⟨progress.assets.packed, progress.assets.aliases.insert symbol place⟩ } := by
  simp only [store, known]

theorem store_of_new (unknown : progress.places[asset.digest]? = none) :
    progress.store symbol asset
      = { progress with
          assets := ⟨progress.assets.packed.push asset,
            progress.assets.aliases.insert symbol progress.assets.packed.size⟩
          places := progress.places.insert asset.digest progress.assets.packed.size } := by
  simp only [store, unknown]

theorem decoded_store (progress : Progress) (symbol : String) (asset : PackedAsset) :
    (progress.store symbol asset).decoded = progress.decoded := by
  cases known : progress.places[asset.digest]? with
  | some place => rw [store_of_known known]
  | none => rw [store_of_new known]

theorem errors_store (progress : Progress) (symbol : String) (asset : PackedAsset) :
    (progress.store symbol asset).errors = progress.errors := by
  cases known : progress.places[asset.digest]? with
  | some place => rw [store_of_known known]
  | none => rw [store_of_new known]

theorem get?_eq_bind (assets : PackedAssets) (symbol : String) :
    assets.get? symbol = (assets.aliases.get? symbol).bind fun place => assets.packed[place]? :=
  rfl

/-- What is stored for a symbol then has the digest that it should have. -/
theorem Holds.get?_store_self (holds : progress.Holds entries) :
    ∃ found, (progress.store symbol asset).assets.get? symbol = some found
      ∧ found.digest = asset.digest := by
  cases known : progress.places[asset.digest]? with
  | some place =>
    obtain ⟨found, there, same⟩ := (holds.places_iff _ _).1 known
    refine ⟨found, ?_, same⟩
    rw [store_of_known known, get?_eq_bind, OrderedTable.get?_insert, if_pos rfl]
    exact there
  | none =>
    refine ⟨asset, ?_, rfl⟩
    rw [store_of_new known, get?_eq_bind, OrderedTable.get?_insert, if_pos rfl]
    exact Array.getElem?_push_size

theorem get?_store_of_ne {other : String} {found : PackedAsset} (differ : symbol ≠ other)
    (had : progress.assets.get? other = some found) :
    (progress.store symbol asset).assets.get? other = some found := by
  cases known : progress.places[asset.digest]? with
  | some place =>
    rw [store_of_known known, get?_eq_bind, OrderedTable.get?_insert, if_neg differ]
    exact had
  | none =>
    rw [get?_eq_bind] at had
    obtain ⟨place, aliased, there⟩ := Option.bind_eq_some_iff.1 had
    obtain ⟨inside, _⟩ := Array.getElem?_eq_some_iff.1 there
    rw [store_of_new known, get?_eq_bind, OrderedTable.get?_insert, if_neg differ, aliased]
    show (progress.assets.packed.push asset)[place]? = some found
    rw [Array.getElem?_push, if_neg (Nat.ne_of_lt inside)]
    exact there

theorem Holds.places_iff_store (holds : progress.Holds entries) (digest : Digest) (place : Nat) :
    (progress.store symbol asset).places[digest]? = some place
      ↔ ∃ found, (progress.store symbol asset).assets.packed[place]? = some found
        ∧ found.digest = digest := by
  cases known : progress.places[asset.digest]? with
  | some _ =>
    rw [store_of_known known]
    exact holds.places_iff digest place
  | none =>
    rw [store_of_new known]
    show (progress.places.insert asset.digest progress.assets.packed.size)[digest]? = some place
      ↔ ∃ found, (progress.assets.packed.push asset)[place]? = some found ∧ found.digest = digest
    rw [Std.HashMap.getElem?_insert, Array.getElem?_push]
    by_cases last : place = progress.assets.packed.size
    · rw [if_pos last]
      by_cases same : asset.digest = digest
      · simp [same, last]
      · have unknown : progress.places[digest]? ≠ some place := fun there => by
          obtain ⟨_, found, _⟩ := (holds.places_iff _ _).1 there
          rw [last, Array.getElem?_eq_none (Nat.le_refl _)] at found
          cases found
        simp [same, unknown]
    · rw [if_neg last]
      by_cases same : asset.digest = digest
      · have other : ¬ ∃ found : PackedAsset, progress.assets.packed[place]? = some found
            ∧ found.digest = digest := fun there => by
          have placed := (holds.places_iff _ _).2 there
          rw [← same, known] at placed
          cases placed
        rw [iff_false_right other, if_pos (beq_iff_eq.2 same)]
        exact fun there => last (Option.some.inj there).symm
      · rw [if_neg (by simpa using same)]
        exact holds.places_iff digest place

theorem Holds.mem_digests_iff (holds : progress.Holds entries) (digest : Digest) :
    digest ∈ entries.map (fun one => one.2.digest)
      ↔ ∃ place, progress.places[digest]? = some place := by
  rw [← List.mem_eraseDups, ← holds.order, List.mem_map]
  constructor
  · rintro ⟨asset, member, same⟩
    obtain ⟨place, there⟩ := Array.mem_iff_getElem?.1 (Array.mem_toList_iff.1 member)
    exact ⟨place, (holds.places_iff _ _).2 ⟨asset, there, same⟩⟩
  · rintro ⟨place, known⟩
    obtain ⟨asset, there, same⟩ := (holds.places_iff _ _).1 known
    exact ⟨asset, Array.mem_toList_iff.2 (Array.mem_of_getElem? there), same⟩

/-- **Storing one thing more keeps to what the packer knows.** -/
theorem Holds.store (holds : progress.Holds entries) (symbol : String) (asset : PackedAsset) :
    (progress.store symbol asset).Holds (entries ++ [(symbol, asset)]) where
  places_iff := holds.places_iff_store
  stored := fun found member => by
    cases known : progress.places[asset.digest]? with
    | some _ =>
      rw [store_of_known known] at member
      obtain ⟨name, listed⟩ := holds.stored found member
      exact ⟨name, List.mem_append_left _ listed⟩
    | none =>
      rw [store_of_new known] at member
      rcases Array.mem_push.1 member with old | rfl
      · obtain ⟨name, listed⟩ := holds.stored found old
        exact ⟨name, List.mem_append_left _ listed⟩
      · exact ⟨symbol, List.mem_append_right _ List.mem_cons_self⟩
  order := by
    have seen := holds.mem_digests_iff asset.digest
    rw [List.map_append, List.map_singleton]
    cases known : progress.places[asset.digest]? with
    | some place =>
      rw [store_of_known known, eraseDups_append_of_mem (seen.2 ⟨place, known⟩)]
      exact holds.order
    | none =>
      have new : asset.digest ∉ entries.map fun one => one.2.digest := by
        rw [seen, known]
        exact nofun
      rw [store_of_new known, eraseDups_append_of_not_mem new, ← holds.order, Array.toList_push,
        List.map_append]
      rfl
  last := fun before name other after whole later => by
    rcases List.eq_nil_or_concat after with rfl | ⟨rest, final, rfl⟩
    · obtain ⟨_, same⟩ := List.append_inj' whole rfl
      cases same
      exact holds.get?_store_self
    · rw [List.concat_eq_append] at whole later
      rw [← List.cons_append, ← List.append_assoc] at whole
      obtain ⟨earlier, same⟩ := List.append_inj' whole rfl
      cases same
      obtain ⟨found, had, digest⟩ := holds.last before name other rest earlier fun one member =>
        later one (List.mem_append_left _ member)
      refine ⟨found, get?_store_of_ne ?_ had, digest⟩
      exact later _ (List.mem_append_right _ List.mem_cons_self)

theorem holds_start : Progress.start.Holds [] where
  places_iff := fun digest place => by simp [start, empty]
  stored := fun asset member => by simp [start, empty] at member
  order := rfl
  last := fun before symbol asset after whole => by simp at whole

/-- **Where equal digests mean equal things, a symbol has what was stored for it last.** -/
theorem Holds.get?_eq (holds : progress.Holds entries)
    (apart : ∀ first ∈ entries, ∀ second ∈ entries,
      first.2.digest = second.2.digest → first.2 = second.2)
    {before after : List Entry} (whole : entries = before ++ (symbol, asset) :: after)
    (later : ∀ other ∈ after, other.1 ≠ symbol) :
    progress.assets.get? symbol = some asset := by
  obtain ⟨found, had, digest⟩ := holds.last before symbol asset after whole later
  rw [get?_eq_bind] at had
  obtain ⟨place, _, there⟩ := Option.bind_eq_some_iff.1 had
  obtain ⟨name, listed⟩ := holds.stored found (Array.mem_of_getElem? there)
  have same : found = asset :=
    apart _ listed (symbol, asset) (by rw [whole]; simp) digest
  rw [get?_eq_bind, had, same]

end Progress
end PackedAssets
end Cartridge
