import Cartridge.Proofs.Script.Declared
import Cartridge.World

/-!
# Everything stands in its place

Slots, numbers of scenes and indices are made with casts that could cut a number short, and with
values to fall back on where a name is not found. In a valid project neither ever happens.

* `Tables.Counts`: a table in which each name has its place for a slot.
* `Project.IsSceneNumber`: a byte that is the number of the scene with a name.
* `Tables.IsAssetIndex`: an index that is that of a declared asset of some kind.
* `World.IsPlaced`: what is asked of tables and placements. `World.ofProject_isPlaced`: those of a
  valid project are so.
-/

namespace Cartridge

/-- **Each name has its place for a slot**, and no two names have the same one. -/
structure Tables.Counts (table : NameTable UInt8) (names : List String) : Prop where
  exists_slot : ∀ (place : Nat) (name : String), names[place]? = some name →
    ∃ slot, table.get? name = some slot ∧ slot.toNat = place
  apart : ∀ first second slot,
    table.get? first = some slot → table.get? second = some slot → first = second

/-- **A byte is the number of a scene**: the scene with that name stands at this place, and there
only. It is not the byte that stands for no scene. -/
structure Project.IsSceneNumber (project : Project) (name : String) (number : UInt8) : Prop where
  lt_length : number.toNat < project.scenes.length
  ne_greatest : number ≠ 255
  place_iff : ∀ place : Nat,
    project.scenes[place]?.map (·.name) = some name ↔ place = number.toNat

/-- **An index is that of an asset**: an asset of this kind is declared under that name, and its
symbol has the index. -/
def Tables.IsAssetIndex (project : Project) (tables : Tables) (kind : AssetKind) (name : String)
    (index : UInt16) : Prop :=
  project.HasAsset kind name ∧ tables.symbols.get? (assetSymbol name) = some index

/-- **Nothing is cut short and nothing is fallen back on**: each slot, each number and each index is
that of what is named. -/
structure World.IsPlaced (project : Project) (tables : Tables) (world : World) : Prop where
  gameVariables : Tables.Counts tables.gameVariables project.gameVariables
  flags : Tables.Counts tables.flags project.flags
  actors : Tables.Counts tables.actors (playerName :: project.actors.map (·.name))
  player : tables.actors.get? playerName = some 0
  /-- The slot of an actor is one more than the byte of its place, which is not the greatest. -/
  actorSlots : ∀ (place : Nat) (actor : Actor), project.actors[place]? = some actor →
    tables.actors.get? actor.name = some (UInt8.ofNat place + 1)
      ∧ (UInt8.ofNat place).toNat = place ∧ (UInt8.ofNat place).toNat + 1 < 256
  placedScenes : List.Forall₂ (fun scene entry =>
    tables.symbols.get? (sceneSymbol scene.name) = some entry.init
      ∧ ∀ name, scene.background = some name →
        tables.IsAssetIndex project .tileset name entry.background) project.scenes world.scenes
  placedActors : List.Forall₂ (fun actor entry =>
    tables.actors.get? actor.name = some entry.slot
      ∧ project.IsSceneNumber actor.scene entry.scene
      ∧ tables.symbols.get? (actorSymbol actor.name) = some entry.interact
      ∧ ∀ name, actor.sprite = some name →
        tables.IsAssetIndex project .image name entry.sprite) project.actors world.actors
  placedTriggers : List.Forall₂ (fun trigger entry =>
    project.IsSceneNumber trigger.scene entry.scene
      ∧ tables.symbols.get? (triggerSymbol trigger.name) = some entry.enter)
    project.triggers world.triggers
  startScene : project.scenes ≠ [] → ∃ scene ∈ project.scenes,
    tables.startScene = some (sceneSymbol scene.name)
      ∧ sceneSymbol scene.name ∈ tables.symbols.keys

variable {project : Project} {tables : Tables}

namespace Project

/-! ### Scenes that are named -/

theorem hasScene_of_validateActor {actor : Actor} (valid : project.validateActor actor = .ok ()) :
    project.hasScene actor.scene = true := by
  rw [validateActor, if_neg (ne_playerName_of_validateActor valid)] at valid
  by_contra absent
  rw [Bool.not_eq_true] at absent
  rw [absent] at valid
  cases valid

theorem hasScene_of_validateTrigger {trigger : Trigger}
    (valid : project.validateTrigger trigger = .ok ()) : project.hasScene trigger.scene = true := by
  by_contra absent
  rw [validateTrigger, if_neg absent] at valid
  cases valid

/-- The player and the actors are few enough for slots. -/
theorem IsValid.length_slots_le (isValid : project.IsValid) :
    (playerName :: project.actors.map (·.name)).length ≤ 256 := by
  have actorCount := isValid.actorCount
  rw [List.length_cons, List.length_map]
  omega

/-- **The number of a scene that is declared is its place**: there are too few scenes for it to be
cut short. -/
theorem IsValid.isSceneNumber (isValid : project.IsValid) {name : String}
    (declared : project.hasScene name = true) :
    project.IsSceneNumber name (World.sceneNumber project name) := by
  obtain ⟨scene, member, named⟩ := List.any_eq_true.1 declared
  obtain ⟨place, found⟩ : ∃ place, project.scenes.findIdx? (·.name = name) = some place :=
    Option.isSome_iff_exists.1 (by
      rw [List.findIdx?_isSome]
      exact declared)
  obtain ⟨inside, there, _⟩ := List.findIdx?_eq_some_iff_getElem.1 found
  have few := isValid.sceneCount
  have small : place < 256 := by omega
  have number : (World.sceneNumber project name).toNat = place := by
    rw [World.sceneNumber, found]
    show (if place < 256 then UInt8.ofNat place else 255).toNat = place
    rw [if_pos small, UInt8.toNat_ofNat_of_lt' small]
  have here : (project.scenes.map (·.name))[place]? = some name := by
    rw [List.getElem?_map, List.getElem?_eq_getElem inside]
    exact congrArg some (of_decide_eq_true there)
  refine ⟨number.symm ▸ inside, fun greatest => ?_, fun other => ?_⟩
  · rw [greatest] at number
    have : place = 255 := number.symm
    omega
  · rw [number, ← List.getElem?_map]
    constructor
    · intro same
      obtain ⟨listed, _⟩ := List.getElem?_eq_some_iff.1 same
      exact (List.getElem?_inj listed isValid.scenes).1 (same.trans here.symm)
    · rintro rfl
      exact here

end Project

namespace Tables

/-! ### Slots and indices -/

theorem counts_slotsFrom {names : List String} (distinct : names.Nodup)
    (few : names.length ≤ 256) : Counts (slotsFrom ∅ 0 names) names where
  exists_slot place name there := by
    obtain ⟨inside, _⟩ := List.getElem?_eq_some_iff.1 there
    have byte : (UInt8.ofNat place).toNat = place :=
      UInt8.toNat_ofNat_of_lt' (Nat.lt_of_lt_of_le inside few)
    exact ⟨UInt8.ofNat place, (get?_slotsFrom_iff distinct few).2 (byte.symm ▸ there), byte⟩
  apart first second slot one other := by
    rw [get?_slotsFrom_iff distinct few] at one other
    exact Option.some.inj (one.symm.trans other)

/-- The slot of an actor is its place, the player having the first one. -/
theorem get?_actors_iff (valid : project.validate = .ok ())
    (made : ofProject project = .ok tables) {name : String} {slot : UInt8} :
    tables.actors.get? name = some slot
      ↔ (playerName :: project.actors.map (·.name))[slot.toNat]? = some name := by
  have few := (Project.validate_eq_ok_iff.1 valid).length_slots_le
  rw [(slots_of_ofProject made).2.2, actorSlots_eq]
  exact get?_slotsFrom_iff (Project.namesUnique_of_validate valid).actors few

/-- **An actor has the slot behind that of its place**, and neither is cut short. -/
theorem get?_actors_of_getElem? (valid : project.validate = .ok ())
    (made : ofProject project = .ok tables) {place : Nat} {actor : Actor}
    (there : project.actors[place]? = some actor) :
    tables.actors.get? actor.name = some (UInt8.ofNat place + 1)
      ∧ (UInt8.ofNat place).toNat = place ∧ (UInt8.ofNat place).toNat + 1 < 256 := by
  obtain ⟨inside, _⟩ := List.getElem?_eq_some_iff.1 there
  have actorCount := (Project.validate_eq_ok_iff.1 valid).actorCount
  have small : place + 1 < 256 := by omega
  have byte : (UInt8.ofNat place).toNat = place :=
    UInt8.toNat_ofNat_of_lt' (Nat.lt_of_succ_lt small)
  have next : (UInt8.ofNat place + 1).toNat = place + 1 := by
    rw [UInt8.toNat_add, byte]
    exact Nat.mod_eq_of_lt small
  refine ⟨(get?_actors_iff valid made).2 ?_, byte, byte.symm ▸ small⟩
  rw [next, List.getElem?_cons_succ, List.getElem?_map, there]
  rfl

/-- The symbol of a declaration has an index, so that none is fallen back on. -/
theorem get?_symbolIndex (made : ofProject project = .ok tables) {declaration : Declaration}
    (declared : declaration ∈ project.declarations) :
    tables.symbols.get? declaration.symbol
      = some (World.symbolIndex tables declaration.symbol) := by
  obtain ⟨index, found⟩ := (ofProject_eq_ok made).1.exists_index (List.mem_map_of_mem declared)
  rw [World.symbolIndex, found, Option.getD_some]

theorem isAssetIndex_assetIndex (made : ofProject project = .ok tables) {kind : AssetKind}
    {asset : Option String} {name : String} (declared : project.HasAsset kind name)
    (shown : asset = some name) :
    tables.IsAssetIndex project kind name (World.assetIndex tables asset) := by
  subst shown
  exact ⟨declared, get?_symbolIndex made declared.mem_declarations⟩

/-- The scene to start in is declared, and it is the first one if none is given. -/
theorem exists_startScene (valid : project.validate = .ok ())
    (made : ofProject project = .ok tables) (some : project.scenes ≠ []) :
    ∃ scene ∈ project.scenes, tables.startScene = .some (sceneSymbol scene.name) := by
  rw [(ofProject_eq_ok made).2.2]
  cases start : project.startScene with
  | some name =>
    obtain ⟨scene, member, rfl⟩ := project.exists_startScene valid start
    exact ⟨scene, member, rfl⟩
  | none =>
    obtain ⟨scene, scenes, whole⟩ := List.exists_cons_of_ne_nil some
    exact ⟨scene, by rw [whole]; exact List.mem_cons_self, by rw [whole]; rfl⟩

end Tables

namespace World

/-- **All that a valid project names stands in its place.** -/
theorem ofProject_isPlaced (valid : project.validate = .ok ())
    (made : Tables.ofProject project = .ok tables) :
    (ofProject project tables).IsPlaced project tables := by
  have isValid := Project.validate_eq_ok_iff.1 valid
  have unique := Project.namesUnique_of_validate valid
  obtain ⟨gameVariables, flags, actors⟩ := Tables.slots_of_ofProject made
  have symbol : ∀ {declaration : Declaration}, declaration ∈ project.declarations →
      tables.symbols.get? declaration.symbol = some (symbolIndex tables declaration.symbol) :=
    Tables.get?_symbolIndex made
  constructor
  case gameVariables =>
    exact gameVariables ▸ Tables.counts_slotsFrom unique.gameVariables isValid.gameVariableCount
  case flags => exact flags ▸ Tables.counts_slotsFrom unique.flags isValid.flagCount
  case actors =>
    rw [actors, Tables.actorSlots_eq]
    exact Tables.counts_slotsFrom unique.actors isValid.length_slots_le
  case player => exact (Tables.get?_actors_iff valid made).2 rfl
  case actorSlots => exact fun place actor => Tables.get?_actors_of_getElem? valid made
  case placedScenes =>
    rw [ofProject, List.forall₂_map_right_iff, List.forall₂_same]
    refine fun scene member => ⟨symbol (Project.mem_declarations_scene.2
      (List.mem_map_of_mem member)), fun name shown => ?_⟩
    exact Tables.isAssetIndex_assetIndex made (isValid.exists_background member shown) shown
  case placedActors =>
    rw [ofProject, List.forall₂_map_right_iff, List.forall₂_same]
    refine fun actor member => ⟨?_, ?_, symbol ?_, fun name shown => ?_⟩
    · obtain ⟨place, there⟩ := List.getElem?_of_mem member
      rw [(Tables.get?_actors_of_getElem? valid made there).1, Option.getD_some]
    · exact isValid.isSceneNumber
        (Project.hasScene_of_validateActor (isValid.placedActors actor member))
    · simp only [Project.declarations, List.mem_append, List.mem_map]
      exact .inl (.inl (.inl (.inl (.inr ⟨actor, member, rfl⟩))))
    · exact Tables.isAssetIndex_assetIndex made (isValid.exists_sprite member shown) shown
  case placedTriggers =>
    rw [ofProject, List.forall₂_map_right_iff, List.forall₂_same]
    refine fun trigger member => ⟨isValid.isSceneNumber
      (Project.hasScene_of_validateTrigger (isValid.placedTriggers trigger member)), symbol ?_⟩
    simp only [Project.declarations, List.mem_append, List.mem_map]
    exact .inl (.inl (.inl (.inr ⟨trigger, member, rfl⟩)))
  case startScene =>
    intro some
    obtain ⟨scene, member, start⟩ := Tables.exists_startScene valid made some
    have index := symbol (Project.mem_declarations_scene.2 (List.mem_map_of_mem member))
    exact ⟨scene, member, start,
      (tables.symbols.isSome_get?_iff _).1 (Option.isSome_of_eq_some index)⟩

/-! ### A project with a bit of everything -/

/-- Two rooms; in the second one, a cat that is shown and a door. -/
def house : Project where
  title := "House"
  startScene := none
  gameVariables := ["coins"]
  flags := ["fed", "awake"]
  palettes := []
  assets := [⟨"floor", .tileset, "floor.png"⟩, ⟨"fur", .image, "fur.png"⟩]
  scenes := [⟨"hall", none, []⟩, ⟨"attic", some "floor", []⟩]
  actors := [⟨"cat", "attic", some "fur", 3, 4, []⟩]
  triggers := [⟨"door", "attic", 0, 0, 2, 1, []⟩]
  scripts := []

theorem validate_house : house.validate = .ok () := by
  refine Project.validate_eq_ok_iff.2 ?_
  constructor <;> simp [house, Project.validateActor, Project.validateTrigger,
    Project.validateScene, Project.requireAsset, Project.asset?, Project.hasScene, playerName]

theorem exists_tables_house : ∃ tables, Tables.ofProject house = .ok tables :=
  Tables.exists_ofProject (by decide) (by decide)

/-- The cat has the slot behind the player, and it is placed in the second room. -/
theorem ofProject_isPlaced_house : ∃ tables, Tables.ofProject house = .ok tables
    ∧ house.validate = .ok ()
    ∧ tables.actors.get? "cat" = some 1
    ∧ ∃ entry, (ofProject house tables).actors = [entry]
      ∧ house.IsSceneNumber "attic" entry.scene
      ∧ tables.symbols.get? (assetSymbol "fur") = some entry.sprite := by
  obtain ⟨tables, made⟩ := exists_tables_house
  have isPlaced := ofProject_isPlaced validate_house made
  obtain ⟨slot, scene, _, sprite⟩ := (List.forall₂_cons.1 isPlaced.placedActors).1
  exact ⟨tables, made, validate_house, (isPlaced.actorSlots 0 _ rfl).1, _, rfl, scene,
    (sprite "fur" rfl).2⟩

end World
end Cartridge
