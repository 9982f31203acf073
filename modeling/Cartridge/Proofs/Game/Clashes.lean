import Cartridge.Proofs.Game.Making
import Cartridge.Proofs.Project.Validity
import Cartridge.Proofs.Source.Definitions

/-!
# Which macros clash

The names of variables, flags and actors are unique as they are written, but a macro has the
identifier of a name only, and different names can share one. What has a symbol is compared by its
identifier, what has a slot is not.

* `Game.IsMade.definesOnce_symbolMacro`: the macro of a symbol is never defined twice.
* `Game.IsMade.definesOnce_gameVariable_iff`, `Game.IsMade.definesOnce_flag_iff`,
  `Game.IsMade.definesOnce_actor_iff`, `Game.IsMade.definesOnce_fixed_iff`: when the others are not.
* `Game.ofProject_defines`: all of this for every game that is made.
-/

namespace Cartridge

namespace Header

/-! ### The macros of one family -/

theorem lead_slotMacro {start : String} (long : 4 ≤ start.toList.length) (name : String) :
    lead (slotMacro start name) = lead start := by
  rw [lead, slotMacro, String.toList_append, List.take_append_of_le_length long]
  rfl

/-- **The macro of a name with a slot is defined once in its family** just if no other name there has
the same identifier. -/
theorem filter_slotValues_iff (start : String) {slots : NameTable UInt8} {name : String}
    {slot : UInt8} (found : slots.get? name = some slot) :
    (slotValues start slots).filter (fun pair => pair.1 = slotMacro start name)
        = [(slotMacro start name, toString slot.toNat)]
      ↔ ∀ other ∈ slots.keys.toList, Identifier.ofName other = Identifier.ofName name →
        other = name := by
  have listed : (name, slot) ∈ slots.toList := (OrderedTable.mem_toList_iff slots name slot).2 found
  have family : (slotValues start slots).filter (fun pair => pair.1 = slotMacro start name)
      = (slots.toList.filter fun pair => Identifier.ofName pair.1 = Identifier.ofName name).map
        fun pair => (slotMacro start pair.1, toString pair.2.toNat) := by
    rw [slotValues, List.filter_map]
    refine congrArg _ (List.filter_congr fun pair _ => decide_eq_decide.2 ?_)
    exact slotMacro_eq_iff
  rw [family]
  constructor
  · intro once other declared same
    have length := congrArg List.length once
    rw [List.length_map] at length
    obtain ⟨only, alone⟩ := List.length_eq_one_iff.1 length
    obtain ⟨value, held⟩ := OrderedTable.mem_keys_iff.1 declared
    have mine : (name, slot) ∈ [only] := by
      rw [← alone]
      exact List.mem_filter.2 ⟨listed, decide_eq_true rfl⟩
    have others : (other, value) ∈ [only] := by
      rw [← alone]
      exact List.mem_filter.2 ⟨(OrderedTable.mem_toList_iff slots other value).2 held,
        decide_eq_true same⟩
    exact congrArg Prod.fst
      ((List.mem_singleton.1 others).trans (List.mem_singleton.1 mine).symm)
  · intro unique
    have keys : (slots.toList.map Prod.fst).Nodup := by
      rw [OrderedTable.map_fst_toList]
      exact slots.nodup_keys
    have alone : slots.toList.filter (fun pair => Identifier.ofName pair.1 = Identifier.ofName name)
        = [(name, slot)] := by
      rw [← filter_eq_singleton keys listed]
      exact List.filter_congr fun pair member => decide_eq_decide.2
        ⟨unique pair.1 (OrderedTable.mem_keys_of_mem_toList member), congrArg _⟩
    rw [alone]
    rfl

end Header

/-- **No two macros of a project clash.** Its variables have different identifiers, and its flags do,
and no actor has that of the player or of the number of actors. -/
structure Project.MacrosApart (project : Project) : Prop where
  gameVariables : ∀ first ∈ project.gameVariables, ∀ second ∈ project.gameVariables,
    Identifier.ofName first = Identifier.ofName second → first = second
  flags : ∀ first ∈ project.flags, ∀ second ∈ project.flags,
    Identifier.ofName first = Identifier.ofName second → first = second
  actors : ∀ actor ∈ project.actors,
    Identifier.ofName actor.name ≠ "player" ∧ Identifier.ofName actor.name ≠ "count"

namespace Game

open Header

variable {game : Game}

/-! ### The fixed macros -/

/-- The names of the fixed macros. -/
def fixedNames : List String :=
  ["BANKS_H", "DATA_PTRS_H", "NUM_BANKS", "FIRST_DATA_BANK", "BANK_CAPACITY", "NO_SYMBOL",
    "SYMBOL_COUNT", "START_SCENE_SYMBOL", "NUM_VARIABLES", "NUM_FLAGS", "SCENE_COUNT",
    "ACTOR_COUNT", "TRIGGER_COUNT"]

theorem map_fst_fixedDefinitions (game : Game) :
    game.fixedDefinitions.map Prod.fst = fixedNames := rfl

theorem filter_fixedDefinitions {pair : String × String} (member : pair ∈ game.fixedDefinitions) :
    game.fixedDefinitions.filter (fun other => other.1 = pair.1) = [pair] := by
  refine filter_eq_singleton ?_ member
  rw [map_fst_fixedDefinitions]
  decide

theorem mem_fixedNames {pair : String × String} (member : pair ∈ game.fixedDefinitions) :
    pair.1 ∈ fixedNames := by
  rw [← game.map_fst_fixedDefinitions]
  exact List.mem_map_of_mem member

/-- No fixed macro looks like one of a symbol, a variable or a flag. -/
theorem filter_fixedDefinitions_eq_nil {name : String}
    (family : ∃ start ∈ ["SYM_", "VAR_", "FLAG_"], lead name = lead start) :
    game.fixedDefinitions.filter (fun pair => pair.1 = name) = [] := by
  have apart : ∀ start ∈ ["SYM_", "VAR_", "FLAG_"], ∀ other ∈ fixedNames,
      lead other ≠ lead start := by decide
  obtain ⟨start, listed, same⟩ := family
  refine filter_eq_nil_of_lead fun pair member => ?_
  rw [same]
  exact apart start listed pair.1 (mem_fixedNames member)

/-- Only the number of actors looks like the macro of an actor. -/
theorem eq_of_lead_actor : ∀ name ∈ fixedNames, lead name = lead "ACTOR_" → name = "ACTOR_COUNT" := by
  decide

namespace IsMade

variable {read : String → Except FileError ByteArray} {geometry : Geometry} {project : Project}

theorem perm_keys (isMade : IsMade read geometry project game) :
    game.tables.gameVariables.keys.toList.Perm project.gameVariables
      ∧ game.tables.flags.keys.toList.Perm project.flags
      ∧ game.tables.actors.keys.toList.Perm (playerName :: project.actors.map (·.name)) := by
  have unique := Project.namesUnique_of_validate isMade.valid
  obtain ⟨gameVariables, flags, actors⟩ := Tables.slots_of_ofProject isMade.tables
  rw [gameVariables, flags, actors]
  exact ⟨Tables.perm_keys_slotsFrom unique.gameVariables, Tables.perm_keys_slotsFrom unique.flags,
    Tables.perm_keys_actorSlots unique.actors⟩

/-- **The macro of a symbol is defined once.** -/
theorem definesOnce_symbolMacro (isMade : IsMade read geometry project game) {symbol : String}
    {index : UInt16} (found : game.tables.symbols.get? symbol = some index) :
    game.DefinesOnce (symbolMacro symbol) (toString index.toNat) := by
  have own : lead (symbolMacro symbol) = lead "SYM_" := lead_symbolMacro symbol
  rw [definesOnce_iff isMade.numbers,
    filter_fixedDefinitions_eq_nil ⟨"SYM_", by decide, own⟩,
    filter_slotValues_eq_nil (by decide) (by rw [own]; decide) game.tables.gameVariables,
    filter_slotValues_eq_nil (by decide) (by rw [own]; decide) game.tables.flags,
    filter_slotValues_eq_nil (by decide) (by rw [own]; decide) game.tables.actors,
    filter_symbolMacros isMade.numbers found]
  rfl

/-- **The macro of a variable is defined once** just if no other variable has its identifier. -/
theorem definesOnce_gameVariable_iff (isMade : IsMade read geometry project game) {name : String}
    {slot : UInt8} (found : game.tables.gameVariables.get? name = some slot) :
    game.DefinesOnce (slotMacro "VAR_" name) (toString slot.toNat)
      ↔ ∀ other ∈ project.gameVariables, Identifier.ofName other = Identifier.ofName name →
        other = name := by
  have own : lead (slotMacro "VAR_" name) = lead "VAR_" := lead_slotMacro (by decide) name
  rw [definesOnce_iff isMade.numbers,
    filter_fixedDefinitions_eq_nil ⟨"VAR_", by decide, own⟩,
    filter_symbolMacros_eq_nil (by rw [own]; decide),
    filter_slotValues_eq_nil (by decide) (by rw [own]; decide) game.tables.flags,
    filter_slotValues_eq_nil (by decide) (by rw [own]; decide) game.tables.actors,
    List.nil_append, List.nil_append, List.append_nil, List.append_nil,
    filter_slotValues_iff "VAR_" found]
  simp only [isMade.perm_keys.1.mem_iff]

/-- **The macro of a flag is defined once** just if no other flag has its identifier. -/
theorem definesOnce_flag_iff (isMade : IsMade read geometry project game) {name : String}
    {slot : UInt8} (found : game.tables.flags.get? name = some slot) :
    game.DefinesOnce (slotMacro "FLAG_" name) (toString slot.toNat)
      ↔ ∀ other ∈ project.flags, Identifier.ofName other = Identifier.ofName name →
        other = name := by
  have own : lead (slotMacro "FLAG_" name) = lead "FLAG_" := lead_slotMacro (by decide) name
  rw [definesOnce_iff isMade.numbers,
    filter_fixedDefinitions_eq_nil ⟨"FLAG_", by decide, own⟩,
    filter_symbolMacros_eq_nil (by rw [own]; decide),
    filter_slotValues_eq_nil (by decide) (by rw [own]; decide) game.tables.gameVariables,
    filter_slotValues_eq_nil (by decide) (by rw [own]; decide) game.tables.actors,
    List.nil_append, List.nil_append, List.nil_append, List.append_nil,
    filter_slotValues_iff "FLAG_" found]
  simp only [isMade.perm_keys.2.1.mem_iff]

/-! ### Actors -/

theorem slotMacro_eq_actorCount_iff {name : String} :
    slotMacro "ACTOR_" name = "ACTOR_COUNT" ↔ Identifier.ofName name = "count" := by
  have kept : Identifier.ofName "count" = "count" := by decide
  have spelled : slotMacro "ACTOR_" "count" = "ACTOR_COUNT" := by
    apply String.ext
    rw [slotMacro, kept, String.toList_append, Identifier.upper, String.toList_map]
    decide
  rw [← spelled, slotMacro_eq_iff, kept]

/-- **The macro of the player or of an actor is defined once** just if no other one has its identifier
and that is not the one of the number of actors. -/
theorem definesOnce_actor_iff (isMade : IsMade read geometry project game) {name : String}
    {slot : UInt8} (found : game.tables.actors.get? name = some slot) :
    game.DefinesOnce (slotMacro "ACTOR_" name) (toString slot.toNat)
      ↔ Identifier.ofName name ≠ "count"
        ∧ ∀ other ∈ playerName :: project.actors.map (·.name),
          Identifier.ofName other = Identifier.ofName name → other = name := by
  have own : lead (slotMacro "ACTOR_" name) = lead "ACTOR_" := lead_slotMacro (by decide) name
  rw [definesOnce_iff isMade.numbers,
    filter_symbolMacros_eq_nil (by rw [own]; decide),
    filter_slotValues_eq_nil (by decide) (by rw [own]; decide) game.tables.gameVariables,
    filter_slotValues_eq_nil (by decide) (by rw [own]; decide) game.tables.flags,
    List.nil_append, List.nil_append, List.nil_append]
  by_cases count : Identifier.ofName name = "count"
  · refine iff_of_false (fun once => ?_) fun apart => apart.1 count
    have listed : ("ACTOR_COUNT", toString game.world.actors.length) ∈ game.fixedDefinitions := by
      simp [fixedDefinitions]
    have named := slotMacro_eq_actorCount_iff.2 count
    rw [named, filter_fixedDefinitions listed, List.singleton_append] at once
    have none := List.filter_eq_nil_iff.1 (List.cons.inj once).2
    refine none (slotMacro "ACTOR_" name, toString slot.toNat) ?_ (decide_eq_true named)
    exact List.mem_map.2 ⟨(name, slot), (OrderedTable.mem_toList_iff _ _ _).2 found, rfl⟩
  · have fixed : game.fixedDefinitions.filter (fun pair => pair.1 = slotMacro "ACTOR_" name)
        = [] := by
      refine List.filter_eq_nil_iff.2 fun pair member same => count ?_
      have named := of_decide_eq_true same
      refine slotMacro_eq_actorCount_iff.1 (named ▸ eq_of_lead_actor pair.1 (mem_fixedNames member) ?_)
      rw [named, own]
    rw [fixed, List.nil_append, filter_slotValues_iff "ACTOR_" found]
    simp only [isMade.perm_keys.2.2.mem_iff, ne_eq, count, not_false_eq_true, true_and]

/-- **A fixed macro is defined once**, but for the number of actors: that is so just if no actor has
its identifier. -/
theorem definesOnce_fixed_iff (isMade : IsMade read geometry project game)
    {pair : String × String} (member : pair ∈ game.fixedDefinitions) :
    game.DefinesOnce pair.1 pair.2
      ↔ (pair.1 = "ACTOR_COUNT" → ∀ actor ∈ project.actors,
        Identifier.ofName actor.name ≠ "count") := by
  have apart : ∀ start ∈ ["SYM_", "VAR_", "FLAG_"], ∀ name ∈ fixedNames, lead start ≠ lead name := by
    decide
  have named := mem_fixedNames member
  rw [definesOnce_iff isMade.numbers, filter_fixedDefinitions member,
    filter_symbolMacros_eq_nil (apart "SYM_" (by decide) _ named),
    filter_slotValues_eq_nil (by decide) (apart "VAR_" (by decide) _ named)
      game.tables.gameVariables,
    filter_slotValues_eq_nil (by decide) (apart "FLAG_" (by decide) _ named) game.tables.flags,
    List.nil_append, List.nil_append, List.nil_append, List.singleton_append]
  constructor
  · rintro once count actor declared same
    have none := List.filter_eq_nil_iff.1 (List.cons.inj once).2
    have key : actor.name ∈ game.tables.actors.keys.toList :=
      isMade.perm_keys.2.2.mem_iff.2 (List.mem_cons_of_mem _ (List.mem_map_of_mem declared))
    obtain ⟨slot, found⟩ := OrderedTable.mem_keys_iff.1 key
    refine none (slotMacro "ACTOR_" actor.name, toString slot.toNat) ?_
      (decide_eq_true ((slotMacro_eq_actorCount_iff.2 same).trans count.symm))
    exact List.mem_map.2 ⟨(actor.name, slot), (OrderedTable.mem_toList_iff _ _ _).2 found, rfl⟩
  · intro none
    refine congrArg _ (List.filter_eq_nil_iff.2 fun other listed same => ?_)
    obtain ⟨⟨name, slot⟩, held, rfl⟩ := List.mem_map.1 listed
    have spelled : slotMacro "ACTOR_" name = pair.1 := of_decide_eq_true same
    have family : lead pair.1 = lead "ACTOR_" := by
      rw [← spelled, lead_slotMacro (by decide)]
    have count := eq_of_lead_actor pair.1 named family
    have identifier := slotMacro_eq_actorCount_iff.1 (spelled.trans count)
    have key := isMade.perm_keys.2.2.mem_iff.1 (OrderedTable.mem_keys_of_mem_toList held)
    rcases List.mem_cons.1 key with rfl | declared
    · exact absurd identifier (by decide)
    · obtain ⟨actor, inside, rfl⟩ := List.mem_map.1 declared
      exact none count actor inside identifier

/-- Actors have symbols, so no two of them have the same identifier. -/
theorem eq_of_ofName_actor (isMade : IsMade read geometry project game) {first second : String}
    (one : first ∈ project.actors.map (·.name)) (other : second ∈ project.actors.map (·.name))
    (same : Identifier.ofName first = Identifier.ofName second) : first = second := by
  have declared : ∀ name ∈ project.actors.map (·.name),
      Declaration.mk .actor name ∈ project.declarations := by
    intro name member
    obtain ⟨actor, inside, rfl⟩ := List.mem_map.1 member
    have listed : Declaration.mk .actor actor.name ∈ project.actors.map (⟨.actor, ·.name⟩) :=
      List.mem_map_of_mem inside
    simp only [Project.declarations, List.mem_append, listed, true_or, or_true]
  have symbols : actorSymbol first = actorSymbol second :=
    (Declaration.symbol_eq_iff _ _).2 ⟨rfl, same⟩
  exact congrArg Declaration.name
    (List.inj_on_of_nodup_map isMade.numbers.nodup (declared _ one) (declared _ other) symbols)

/-- **The macro of the player is defined once** just if no actor has its identifier. -/
theorem definesOnce_player_iff (isMade : IsMade read geometry project game) {slot : UInt8}
    (found : game.tables.actors.get? playerName = some slot) :
    game.DefinesOnce (slotMacro "ACTOR_" playerName) (toString slot.toNat)
      ↔ ∀ actor ∈ project.actors, Identifier.ofName actor.name ≠ "player" := by
  have unique := (Project.namesUnique_of_validate isMade.valid).actors
  have player : Identifier.ofName playerName = "player" := by decide
  rw [isMade.definesOnce_actor_iff found, player]
  constructor
  · rintro ⟨_, alone⟩ actor member same
    have listed : actor.name ∈ project.actors.map (·.name) := List.mem_map_of_mem member
    have named := alone actor.name (List.mem_cons_of_mem _ listed) same
    exact (List.nodup_cons.1 unique).1 (named ▸ listed)
  · intro none
    refine ⟨by decide, fun other listed same => ?_⟩
    rcases List.mem_cons.1 listed with rfl | declared
    · rfl
    · obtain ⟨actor, inside, rfl⟩ := List.mem_map.1 declared
      exact absurd same (none actor inside)

/-- **The macro of a declared actor is defined once** just if its identifier is not that of the player
and not that of the number of actors. -/
theorem definesOnce_declaredActor_iff (isMade : IsMade read geometry project game) {actor : Actor}
    (member : actor ∈ project.actors) {slot : UInt8}
    (found : game.tables.actors.get? actor.name = some slot) :
    game.DefinesOnce (slotMacro "ACTOR_" actor.name) (toString slot.toNat)
      ↔ Identifier.ofName actor.name ≠ "player" ∧ Identifier.ofName actor.name ≠ "count" := by
  have unique := (Project.namesUnique_of_validate isMade.valid).actors
  have listed : actor.name ∈ project.actors.map (·.name) := List.mem_map_of_mem member
  have player : Identifier.ofName playerName = "player" := by decide
  rw [isMade.definesOnce_actor_iff found, and_comm]
  refine and_congr_left' ⟨fun alone same => ?_, fun apart other otherListed same => ?_⟩
  · have named := alone playerName List.mem_cons_self (player.trans same.symm)
    exact (List.nodup_cons.1 unique).1 (named ▸ listed)
  · rcases List.mem_cons.1 otherListed with rfl | declared
    · exact absurd (same.symm.trans player) apart
    · exact isMade.eq_of_ofName_actor declared listed same

theorem mem_definitions (isMade : IsMade read geometry project game) {pair : String × String} :
    pair ∈ game.definitions
      ↔ pair ∈ game.fixedDefinitions
        ∨ (∃ symbol index, game.tables.symbols.get? symbol = some index
          ∧ pair = (symbolMacro symbol, toString index.toNat))
        ∨ (∃ name slot, game.tables.gameVariables.get? name = some slot
          ∧ pair = (slotMacro "VAR_" name, toString slot.toNat))
        ∨ (∃ name slot, game.tables.flags.get? name = some slot
          ∧ pair = (slotMacro "FLAG_" name, toString slot.toNat))
        ∨ ∃ name slot, game.tables.actors.get? name = some slot
          ∧ pair = (slotMacro "ACTOR_" name, toString slot.toNat) := by
  rw [(perm_definitions isMade.numbers).mem_iff]
  simp only [List.mem_append, symbolMacros, slotValues, List.mem_map, Prod.exists,
    OrderedTable.mem_toList_iff, eq_comm (b := pair)]
  rfl

theorem exists_slots (isMade : IsMade read geometry project game) :
    (∀ name ∈ project.gameVariables, ∃ slot, game.tables.gameVariables.get? name = some slot)
      ∧ (∀ name ∈ project.flags, ∃ slot, game.tables.flags.get? name = some slot)
      ∧ ∀ name ∈ playerName :: project.actors.map (·.name),
        ∃ slot, game.tables.actors.get? name = some slot := by
  obtain ⟨gameVariables, flags, actors⟩ := isMade.perm_keys
  exact ⟨fun _ declared => OrderedTable.mem_keys_iff.1 (gameVariables.mem_iff.2 declared),
    fun _ declared => OrderedTable.mem_keys_iff.1 (flags.mem_iff.2 declared),
    fun _ declared => OrderedTable.mem_keys_iff.1 (actors.mem_iff.2 declared)⟩

/-- **No macro is defined twice** just if no two macros of the project clash. -/
theorem nodup_definitions_iff_macrosApart (isMade : IsMade read geometry project game) :
    (game.definitions.map Prod.fst).Nodup ↔ project.MacrosApart := by
  rw [nodup_definitions_iff]
  obtain ⟨gameVariables, flags, actors⟩ := isMade.exists_slots
  constructor
  · intro once
    refine ⟨fun first declared second other same => ?_, fun first declared second other same => ?_,
      fun actor declared => ?_⟩
    · obtain ⟨slot, found⟩ := gameVariables second other
      exact (isMade.definesOnce_gameVariable_iff found).1
        (once _ (isMade.mem_definitions.2 (.inr (.inr (.inl ⟨_, _, found, rfl⟩))))) first declared same
    · obtain ⟨slot, found⟩ := flags second other
      exact (isMade.definesOnce_flag_iff found).1
        (once _ (isMade.mem_definitions.2 (.inr (.inr (.inr (.inl ⟨_, _, found, rfl⟩)))))) first
        declared same
    · obtain ⟨slot, found⟩ := actors actor.name
        (List.mem_cons_of_mem _ (List.mem_map_of_mem declared))
      exact (isMade.definesOnce_declaredActor_iff declared found).1
        (once _ (isMade.mem_definitions.2 (.inr (.inr (.inr (.inr ⟨_, _, found, rfl⟩))))))
  · intro apart pair member
    rcases isMade.mem_definitions.1 member with fixed | ⟨symbol, index, found, rfl⟩
      | ⟨name, slot, found, rfl⟩ | ⟨name, slot, found, rfl⟩ | ⟨name, slot, found, rfl⟩
    · exact (isMade.definesOnce_fixed_iff fixed).2 fun _ actor declared =>
        (apart.actors actor declared).2
    · exact isMade.definesOnce_symbolMacro found
    · have declared := isMade.perm_keys.1.mem_iff.1 (OrderedTable.mem_keys_iff.2 ⟨slot, found⟩)
      exact (isMade.definesOnce_gameVariable_iff found).2 fun other listed same =>
        apart.gameVariables other listed name declared same
    · have declared := isMade.perm_keys.2.1.mem_iff.1 (OrderedTable.mem_keys_iff.2 ⟨slot, found⟩)
      exact (isMade.definesOnce_flag_iff found).2 fun other listed same =>
        apart.flags other listed name declared same
    · have declared := isMade.perm_keys.2.2.mem_iff.1 (OrderedTable.mem_keys_iff.2 ⟨slot, found⟩)
      rcases List.mem_cons.1 declared with rfl | listed
      · exact (isMade.definesOnce_player_iff found).2 fun actor inside =>
          (apart.actors actor inside).1
      · obtain ⟨actor, inside, rfl⟩ := List.mem_map.1 listed
        exact (isMade.definesOnce_declaredActor_iff inside found).2 (apart.actors actor inside)

end IsMade

/-! ### Two variables with one macro -/

/-- A project with two variables whose names differ in a character that identifiers do not have. -/
def hitPoints : Project where
  title := ""
  startScene := none
  gameVariables := ["hit points", "hit_points"]
  flags := []
  palettes := []
  assets := []
  scenes := []
  actors := []
  triggers := []
  scripts := []

theorem validate_hitPoints : hitPoints.validate = .ok () := by
  have none : ∀ kind, requireUnique kind [] = .ok () := fun kind =>
    (requireUnique_eq_ok_iff kind []).2 List.nodup_nil
  have both : requireUnique .gameVariable ["hit points", "hit_points"] = .ok () :=
    (requireUnique_eq_ok_iff _ _).2 (by decide)
  simp only [Project.validate, hitPoints, List.map_nil, none, both]
  rfl

theorem exists_hitPoints (read : String → Except FileError ByteArray) :
    ∃ game, ofProject read ⟨16384, 4, 1⟩ hitPoints = .ok game := by
  obtain ⟨tables, madeTables⟩ : ∃ tables, Tables.ofProject hitPoints = .ok tables :=
    Tables.exists_ofProject List.nodup_nil (by decide)
  obtain ⟨assets, madeAssets, packed⟩ : ∃ assets, PackedAssets.ofProject read hitPoints = .ok assets
      ∧ assets.packed = #[] := ⟨_, rfl, rfl⟩
  obtain ⟨allocation, allocated⟩ : ∃ allocation,
      Allocation.ofBlobs ⟨16384, 4, 1⟩ (blobs [] assets) = .ok allocation := by
    have nothing : blobs [] assets = [] := by
      rw [blobs, packed]
      rfl
    rw [nothing]
    exact Allocation.exists_ofBlobs (by decide) (by decide) (by decide) nofun (by decide)
  exact ⟨⟨hitPoints.title, tables, [], assets, World.ofProject hitPoints tables, allocation⟩,
    ofProject_eq_ok_iff.2 ⟨rfl, validate_hitPoints, madeTables, rfl, madeAssets, allocated, rfl⟩⟩

/-! ### Every macro -/

variable {read : String → Except FileError ByteArray} {geometry : Geometry} {project : Project}

/-- **Which macros are defined once**, in the two headers of a game. That of a symbol always is, as its
index. That of a variable is, as its slot, just if no other variable has the same identifier; so it is
for flags. That of the player is just if no actor has its identifier, and that of an actor just if its
identifier is not that of the player and not that of the number of actors. A fixed one is, unless it
is the number of actors and an actor has its identifier. So no macro is defined twice just if no two
macros of the project clash. -/
theorem ofProject_defines (compiled : ofProject read geometry project = .ok game) :
    (∀ symbol index, game.tables.symbols.get? symbol = some index →
        game.DefinesOnce (symbolMacro symbol) (toString index.toNat))
      ∧ (∀ name ∈ project.gameVariables, ∃ slot, game.tables.gameVariables.get? name = some slot
        ∧ (game.DefinesOnce (slotMacro "VAR_" name) (toString slot.toNat)
          ↔ ∀ other ∈ project.gameVariables, Identifier.ofName other = Identifier.ofName name →
            other = name))
      ∧ (∀ name ∈ project.flags, ∃ slot, game.tables.flags.get? name = some slot
        ∧ (game.DefinesOnce (slotMacro "FLAG_" name) (toString slot.toNat)
          ↔ ∀ other ∈ project.flags, Identifier.ofName other = Identifier.ofName name →
            other = name))
      ∧ (∃ slot, game.tables.actors.get? playerName = some slot
        ∧ (game.DefinesOnce (slotMacro "ACTOR_" playerName) (toString slot.toNat)
          ↔ ∀ actor ∈ project.actors, Identifier.ofName actor.name ≠ "player"))
      ∧ (∀ actor ∈ project.actors, ∃ slot, game.tables.actors.get? actor.name = some slot
        ∧ (game.DefinesOnce (slotMacro "ACTOR_" actor.name) (toString slot.toNat)
          ↔ Identifier.ofName actor.name ≠ "player" ∧ Identifier.ofName actor.name ≠ "count"))
      ∧ (∀ pair ∈ game.fixedDefinitions, game.DefinesOnce pair.1 pair.2
        ↔ (pair.1 = "ACTOR_COUNT" → ∀ actor ∈ project.actors,
          Identifier.ofName actor.name ≠ "count"))
      ∧ ((game.definitions.map Prod.fst).Nodup ↔ project.MacrosApart) := by
  have isMade := ofProject_eq_ok_iff.1 compiled
  obtain ⟨gameVariables, flags, actors⟩ := isMade.exists_slots
  refine ⟨fun _ _ found => isMade.definesOnce_symbolMacro found, fun name declared => ?_,
    fun name declared => ?_, ?_, fun actor declared => ?_,
    fun _ member => isMade.definesOnce_fixed_iff member, isMade.nodup_definitions_iff_macrosApart⟩
  · obtain ⟨slot, found⟩ := gameVariables name declared
    exact ⟨slot, found, isMade.definesOnce_gameVariable_iff found⟩
  · obtain ⟨slot, found⟩ := flags name declared
    exact ⟨slot, found, isMade.definesOnce_flag_iff found⟩
  · obtain ⟨slot, found⟩ := actors playerName List.mem_cons_self
    exact ⟨slot, found, isMade.definesOnce_player_iff found⟩
  · obtain ⟨slot, found⟩ := actors actor.name
      (List.mem_cons_of_mem _ (List.mem_map_of_mem declared))
    exact ⟨slot, found, isMade.definesOnce_declaredActor_iff declared found⟩

/-- The project with two variables is accepted, and their macro is defined twice. -/
theorem ofProject_defines_hitPoints :
    ∃ game, ofProject (fun _ => .ok .empty) ⟨16384, 4, 1⟩ hitPoints = .ok game
      ∧ ¬ (game.definitions.map Prod.fst).Nodup := by
  obtain ⟨game, compiled⟩ := exists_hitPoints fun _ => .ok .empty
  obtain ⟨_, _, _, _, _, _, distinct⟩ := ofProject_defines compiled
  refine ⟨game, compiled, fun nodup => ?_⟩
  have same := (distinct.1 nodup).gameVariables "hit points" (by decide) "hit_points" (by decide)
    (by decide)
  exact absurd same (by decide)

end Game
end Cartridge
