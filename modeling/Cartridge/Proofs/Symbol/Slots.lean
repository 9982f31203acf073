import Cartridge.Proofs.Success
import Cartridge.Proofs.Symbol.Naming
import Cartridge.Proofs.Table.Lookup

/-!
# The slots of names

* `Tables.get?_slotsFrom_iff`: the slot of a name is its place.
* `Tables.perm_keys_slotsFrom`, `Tables.perm_keys_actorSlots`: just the declared names have slots.
* `Header.slotMacro_eq_iff`: two names share a macro just if they share their identifier.
* `Header.isPart_of_mem_slotMacro`, `Header.isPart_of_mem_symbolMacro`: macros are made of the
  characters of identifiers.
-/

namespace Cartridge

namespace Tables

theorem slotsFrom_eq (table : NameTable UInt8) (first : Nat) (names : List String) :
    slotsFrom table first names
      = table.insertAll (names.zipIdx.map fun pair => (pair.1, UInt8.ofNat (first + pair.2))) := by
  rw [OrderedTable.insertAll, List.foldl_map]
  rfl

theorem mem_keys_slotsFrom (table : NameTable UInt8) (first : Nat) (names : List String)
    (name : String) : name ∈ (slotsFrom table first names).keys ↔ name ∈ table.keys ∨ name ∈ names := by
  rw [slotsFrom_eq, OrderedTable.mem_keys_insertAll, List.map_map]
  exact or_congr_right (iff_of_eq (congrArg _ (List.zipIdx_map_fst 0 names)))

theorem perm_keys_slotsFrom {names : List String} (distinct : names.Nodup) :
    (slotsFrom ∅ 0 names).keys.toList.Perm names := by
  refine (List.perm_ext_iff_of_nodup (OrderedTable.nodup_keys _) distinct).2 fun name => ?_
  rw [Array.mem_toList_iff, mem_keys_slotsFrom]
  simp

/-- The player's slot comes before those of the actors. -/
theorem actorSlots_eq (names : List String) :
    actorSlots names = slotsFrom ∅ 0 (playerName :: names) := by
  rw [actorSlots, slotsFrom_eq, slotsFrom_eq, List.zipIdx_cons', List.map_cons, List.map_map]
  refine congrArg _ (List.map_congr_left fun pair _ => ?_)
  rw [Function.comp_apply, Prod.map_fst, Prod.map_snd, Nat.zero_add, Nat.add_comm]
  rfl

/-- **The slot of a name is its place.** -/
theorem get?_slotsFrom_iff {names : List String} (distinct : names.Nodup)
    (few : names.length ≤ 256) {name : String} {slot : UInt8} :
    (slotsFrom ∅ 0 names).get? name = some slot ↔ names[slot.toNat]? = some name := by
  rw [slotsFrom_eq]
  constructor
  · intro found
    rcases OrderedTable.mem_of_get?_insertAll found with before | listed
    · rw [OrderedTable.get?_empty] at before
      cases before
    · obtain ⟨⟨other, place⟩, member, same⟩ := List.mem_map.1 listed
      cases same
      have there := List.mk_mem_zipIdx_iff_getElem?.1 member
      have small : place < 256 := by
        obtain ⟨inside, _⟩ := List.getElem?_eq_some_iff.1 there
        exact Nat.lt_of_lt_of_le inside few
      rwa [Nat.zero_add, UInt8.toNat_ofNat_of_lt' small]
  · intro there
    refine OrderedTable.get?_insertAll_of_mem ?_ (List.mem_map.2 ⟨(name, slot.toNat),
      List.mk_mem_zipIdx_iff_getElem?.2 there, ?_⟩)
    · rw [List.map_map]
      exact (List.zipIdx_map_fst 0 names).symm ▸ distinct
    · rw [Nat.zero_add, UInt8.ofNat_toNat]

theorem perm_keys_actorSlots {names : List String} (distinct : (playerName :: names).Nodup) :
    (actorSlots names).keys.toList.Perm (playerName :: names) := by
  rw [actorSlots_eq]
  exact perm_keys_slotsFrom distinct

/-- The tables of a project have slots for its variables, its flags, and the player and its actors. -/
theorem slots_of_ofProject {project : Project} {tables : Tables}
    (made : ofProject project = .ok tables) :
    tables.gameVariables = slotsFrom ∅ 0 project.gameVariables
      ∧ tables.flags = slotsFrom ∅ 0 project.flags
      ∧ tables.actors = actorSlots (project.actors.map (·.name)) := by
  obtain ⟨symbols, _, made⟩ := bind_eq_ok made
  cases made
  exact ⟨rfl, rfl, rfl⟩

end Tables

namespace Identifier

theorem isPart_toUpper {c : Char} (part : isPart c = true) : isPart c.toUpper = true := by
  by_cases small : c.isLower = true
  · have letter : c.toUpper.isAlpha = true := by
      rw [Char.isAlpha_toUpper_eq_isAlpha, Char.isAlpha, small, Bool.or_true]
    simp [isPart, Char.isAlphanum, letter]
  · rwa [Char.toUpper_eq_of_not_isLower small]

/-- The spelling for constants brings no other characters in. -/
theorem isPart_of_mem_upper {identifier : String}
    (part : ∀ c ∈ identifier.toList, isPart c = true) {c : Char}
    (member : c ∈ (upper identifier).toList) : isPart c = true := by
  rw [upper, String.toList_map] at member
  obtain ⟨original, listed, rfl⟩ := List.mem_map.1 member
  exact isPart_toUpper (part original listed)

end Identifier

namespace Header

/-- The name of the macro of a name with a slot. -/
def slotMacro (start name : String) : String := start ++ Identifier.upper (Identifier.ofName name)

theorem isPart_of_mem_slotMacro {start : String}
    (plain : ∀ c ∈ start.toList, Identifier.isPart c = true) (name : String) :
    ∀ c ∈ (slotMacro start name).toList, Identifier.isPart c = true := by
  intro c member
  rw [slotMacro, String.toList_append, List.mem_append] at member
  rcases member with inStart | inName
  · exact plain c inStart
  · exact Identifier.isPart_of_mem_upper (fun _ => Identifier.isPart_of_mem_ofName) inName

theorem isPart_of_mem_symbolMacro (declaration : Declaration) :
    ∀ c ∈ (symbolMacro declaration.symbol).toList, Identifier.isPart c = true := by
  intro c member
  rw [symbolMacro, String.toList_append, List.mem_append] at member
  have start : ∀ c ∈ "SYM_".toList, Identifier.isPart c = true := by
    simp [Identifier.isPart, Char.isAlphanum]
  rcases member with inStart | inSymbol
  · exact start c inStart
  · exact Identifier.isPart_of_mem_upper (fun _ => declaration.isPart_of_mem_symbol) inSymbol

/-- **Two names share a macro just if they share their identifier.** -/
theorem slotMacro_eq_iff {start first second : String} :
    slotMacro start first = slotMacro start second
      ↔ Identifier.ofName first = Identifier.ofName second := by
  constructor
  · intro same
    have spelled : Identifier.upper (Identifier.ofName first)
        = Identifier.upper (Identifier.ofName second) := String.append_right_inj _ |>.1 same
    rw [← Identifier.map_toLower_upper fun _ => Identifier.isUpper_of_mem_ofName, spelled,
      Identifier.map_toLower_upper fun _ => Identifier.isUpper_of_mem_ofName]
  · intro same
    rw [slotMacro, slotMacro, same]

end Header
end Cartridge
