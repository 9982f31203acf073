import Cartridge.Proofs.Project.Validity
import Cartridge.Proofs.Symbol.Indexing
import Cartridge.Proofs.Symbol.Naming
import Cartridge.World

/-!
# The index that stands for no symbol

The greatest index stands for no symbol in the placement tables. There are indices for 65536 symbols,
so a project may declare so many that a symbol of its own has that index.

* `Project.IsLast`: the declaration for which only the greatest index is left.
* `Tables.get?_eq_noSymbol_iff`: that declaration, and no other, has the index.
* `World.ofProject_marks`: which placements hold the index, and that no project of up to 65535
  declarations has a symbol with it.
-/

namespace Cartridge

/-- The declaration for which only the greatest index is left. -/
def Project.IsLast (project : Project) (declaration : Declaration) : Prop :=
  project.declarations[65535]? = some declaration

namespace Project

variable {project : Project}

theorem mem_declarations_of_isLast {declaration : Declaration}
    (last : project.IsLast declaration) : declaration ∈ project.declarations :=
  List.mem_of_getElem? last

/-- Scenes and actors come first, and are too few for one of them to be the last. -/
theorem IsValid.not_isLast (valid : project.IsValid) (distinct : project.declarations.Nodup)
    {declaration : Declaration}
    (early : declaration ∈ project.scenes.map (Declaration.mk .scene ·.name)
      ++ project.actors.map (Declaration.mk .actor ·.name)) : ¬ project.IsLast declaration := by
  obtain ⟨others, whole⟩ : ∃ others, project.declarations
      = (project.scenes.map (Declaration.mk .scene ·.name)
        ++ project.actors.map (Declaration.mk .actor ·.name)) ++ others :=
    ⟨project.triggers.map (⟨.trigger, ·.name⟩) ++ (project.scripts.map (⟨.script, ·.name⟩)
      ++ (project.assets.map (⟨.asset, ·.name⟩) ++ project.palettes.map (⟨.palette, ·.name⟩))),
      by simp only [declarations, List.append_assoc]⟩
  intro last
  obtain ⟨place, there⟩ := List.mem_iff_getElem?.1 early
  obtain ⟨inside, _⟩ := List.getElem?_eq_some_iff.1 there
  have found : project.declarations[place]? = some declaration := by
    rw [whole, List.getElem?_append_left inside, there]
  obtain ⟨listed, _⟩ := List.getElem?_eq_some_iff.1 found
  have same : place = 65535 := (List.getElem?_inj listed distinct).1 (found.trans last.symm)
  have sceneCount := valid.sceneCount
  have actorCount := valid.actorCount
  rw [List.length_append, List.length_map, List.length_map] at inside
  omega

end Project

variable {project : Project} {tables : Tables}

namespace Tables

theorem nodup_declarations (made : ofProject project = .ok tables) :
    project.declarations.Nodup :=
  (ofProject_eq_ok made).1.nodup.of_map _

/-- **Only the last declaration has the index that stands for no symbol.** -/
theorem get?_eq_noSymbol_iff (made : ofProject project = .ok tables) {declaration : Declaration}
    (declared : declaration ∈ project.declarations) :
    tables.symbols.get? declaration.symbol = some noSymbol ↔ project.IsLast declaration := by
  have numbers := (ofProject_eq_ok made).1
  rw [numbers.get?_eq_some_iff, List.getElem?_map, Option.map_eq_some_iff]
  constructor
  · rintro ⟨other, there, same⟩
    have equal := List.inj_on_of_nodup_map numbers.nodup (List.mem_of_getElem? there) declared same
    exact equal ▸ there
  · exact fun last => ⟨declaration, last, rfl⟩

/-- No symbol has it just if an index is left over. -/
theorem forall_ne_noSymbol_iff (made : ofProject project = .ok tables) :
    (∀ declaration ∈ project.declarations, tables.symbols.get? declaration.symbol ≠ some noSymbol)
      ↔ project.declarations.length ≤ 65535 := by
  constructor
  · intro never
    by_contra many
    have last := List.getElem?_eq_getElem (Nat.lt_of_not_le many)
    have declared := List.mem_of_getElem? last
    exact never _ declared ((get?_eq_noSymbol_iff made declared).2 last)
  · intro few declaration declared marked
    have last : project.declarations[65535]? = some declaration :=
      (get?_eq_noSymbol_iff made declared).1 marked
    rw [List.getElem?_eq_none few] at last
    cases last

end Tables

namespace World

theorem symbolIndex_eq_noSymbol_iff (made : Tables.ofProject project = .ok tables)
    {declaration : Declaration} (declared : declaration ∈ project.declarations) :
    symbolIndex tables declaration.symbol = noSymbol ↔ project.IsLast declaration := by
  have numbers := (Tables.ofProject_eq_ok made).1
  obtain ⟨index, found⟩ := numbers.exists_index (List.mem_map_of_mem declared)
  rw [← Tables.get?_eq_noSymbol_iff made declared, symbolIndex, found, Option.getD_some,
    Option.some_inj]

/-- An asset that is named and declared is taken for absent just if it is the last declaration. -/
theorem assetIndex_eq_noSymbol_iff (made : Tables.ofProject project = .ok tables)
    {asset : Option String}
    (declared : ∀ name, asset = some name → ∃ source ∈ project.assets, source.name = name) :
    assetIndex tables asset = noSymbol
      ↔ asset = none ∨ ∃ name, asset = some name ∧ project.IsLast ⟨.asset, name⟩ := by
  cases asset with
  | none => exact ⟨fun _ => .inl rfl, fun _ => rfl⟩
  | some name =>
    obtain ⟨source, member, rfl⟩ := declared name rfl
    have listed : (⟨.asset, source.name⟩ : Declaration) ∈ project.declarations := by
      simp only [Project.declarations, List.mem_append, List.mem_map]
      exact .inl (.inr ⟨source, member, rfl⟩)
    rw [assetIndex, symbolIndex_eq_noSymbol_iff made listed]
    simp

/-! ### As many symbols as there are indices -/

/-- A project with that many scripts, and a scene that shows the one asset. -/
def crowded (scriptCount : Nat) : Project where
  title := ""
  startScene := none
  gameVariables := []
  flags := []
  palettes := []
  assets := [⟨"sky", .tileset, "sky.png"⟩]
  scenes := [⟨"hill", some "sky", []⟩]
  actors := []
  triggers := []
  scripts := (List.range scriptCount).map fun number =>
    ⟨String.ofList (List.replicate (number + 1) 'x'), []⟩

theorem ofName_replicate (count : Nat) :
    Identifier.ofName (String.ofList (List.replicate (count + 1) 'x'))
      = String.ofList (List.replicate (count + 1) 'x') := by
  have small : Identifier.character 'x' = 'x' := by decide
  rw [Identifier.ofName, String.toList_ofList, List.map_replicate, small]
  rfl

theorem replicate_injective {first second : Nat}
    (same : String.ofList (List.replicate (first + 1) 'x')
      = String.ofList (List.replicate (second + 1) 'x')) : first = second := by
  have lengths := congrArg List.length (String.ofList_injective same)
  rw [List.length_replicate, List.length_replicate] at lengths
  exact Nat.succ.inj lengths

theorem validate_crowded (scriptCount : Nat) : (crowded scriptCount).validate = .ok () := by
  refine Project.validate_eq_ok_iff.2 ?_
  constructor
  case scripts =>
    rw [crowded, List.map_map]
    exact List.nodup_range.map fun _ _ => replicate_injective
  all_goals simp [crowded, Project.validateScene, Project.requireAsset, Project.asset?]

theorem declarations_crowded (scriptCount : Nat) : (crowded scriptCount).declarations
    = ⟨.scene, "hill"⟩ :: ((List.range scriptCount).map fun number =>
        ⟨.script, String.ofList (List.replicate (number + 1) 'x')⟩) ++ [⟨.asset, "sky"⟩] := by
  simp [Project.declarations, crowded]

theorem exists_tables_crowded {scriptCount : Nat} (few : scriptCount ≤ 65534) :
    ∃ tables, Tables.ofProject (crowded scriptCount) = .ok tables := by
  have scripts : ((List.range scriptCount).map fun number =>
      (⟨.script, String.ofList (List.replicate (number + 1) 'x')⟩ : Declaration)).Nodup :=
    List.nodup_range.map fun _ _ same => replicate_injective (congrArg Declaration.name same)
  have distinct : (crowded scriptCount).declarations.Nodup := by
    rw [declarations_crowded, List.nodup_append, List.nodup_cons]
    refine ⟨⟨?_, scripts⟩, List.nodup_singleton _, ?_⟩ <;> simp
  apply Tables.exists_ofProject
  · refine distinct.map_on fun first one second another same => ?_
    obtain ⟨category, identifier⟩ := (Declaration.symbol_eq_iff first second).1 same
    rw [declarations_crowded] at one another
    simp only [List.mem_append, List.mem_cons, List.mem_map, List.not_mem_nil, or_false]
      at one another
    rcases one with (rfl | ⟨number, _, rfl⟩) | rfl <;>
      rcases another with (rfl | ⟨other, _, rfl⟩) | rfl <;> first | rfl | cases category
    rw [ofName_replicate, ofName_replicate] at identifier
    rw [identifier]
  · rw [declarations_crowded, List.length_append, List.length_cons, List.length_map,
      List.length_range, List.length_singleton]
    omega

/-- The asset of a project with one scene and 65534 scripts is the last declaration. -/
theorem isLast_crowded : (crowded 65534).IsLast ⟨.asset, "sky"⟩ := by
  rw [Project.IsLast, declarations_crowded, List.getElem?_append_right] <;>
    rw [List.length_cons, List.length_map, List.length_range]
  rfl

/-! ### All placements -/

/-- **Which placements are taken for absent.** The last declaration, if there are as many as there are
indices, has the index that stands for no symbol; no other one has it. So a scene has no background
just if none is given, or the one that is given is the last declaration; so it is for the sprites of
actors. The script of a scene or an actor is never taken for absent; that of a trigger is just if the
trigger is the last declaration. No symbol has the index just if there are at most 65535. -/
theorem ofProject_marks (valid : project.validate = .ok ())
    (made : Tables.ofProject project = .ok tables) :
    (∀ declaration ∈ project.declarations,
        tables.symbols.get? declaration.symbol = some noSymbol ↔ project.IsLast declaration)
      ∧ List.Forall₂ (fun scene entry => entry.init ≠ noSymbol
          ∧ (entry.background = noSymbol ↔ scene.background = none
            ∨ ∃ name, scene.background = some name ∧ project.IsLast ⟨.asset, name⟩))
        project.scenes (ofProject project tables).scenes
      ∧ List.Forall₂ (fun actor entry => entry.interact ≠ noSymbol
          ∧ (entry.sprite = noSymbol ↔ actor.sprite = none
            ∨ ∃ name, actor.sprite = some name ∧ project.IsLast ⟨.asset, name⟩))
        project.actors (ofProject project tables).actors
      ∧ List.Forall₂ (fun trigger entry =>
          entry.enter = noSymbol ↔ project.IsLast ⟨.trigger, trigger.name⟩)
        project.triggers (ofProject project tables).triggers
      ∧ ((∀ declaration ∈ project.declarations,
          tables.symbols.get? declaration.symbol ≠ some noSymbol)
        ↔ project.declarations.length ≤ 65535) := by
  have isValid := Project.validate_eq_ok_iff.1 valid
  have early : ∀ declaration ∈ project.scenes.map (Declaration.mk .scene ·.name)
      ++ project.actors.map (Declaration.mk .actor ·.name),
      symbolIndex tables declaration.symbol ≠ noSymbol := by
    intro declaration placed
    have declared : declaration ∈ project.declarations := by
      simp only [Project.declarations, List.append_assoc] at placed ⊢
      rw [← List.append_assoc]
      exact List.mem_append_left _ placed
    rw [Ne, symbolIndex_eq_noSymbol_iff made declared]
    exact isValid.not_isLast (Tables.nodup_declarations made) placed
  refine ⟨fun _ => Tables.get?_eq_noSymbol_iff made, ?_, ?_, ?_, Tables.forall_ne_noSymbol_iff made⟩
  · rw [ofProject, List.forall₂_map_right_iff, List.forall₂_same]
    refine fun scene member => ⟨early _ (List.mem_append_left _ (List.mem_map_of_mem member)),
      assetIndex_eq_noSymbol_iff made fun name shown => ?_⟩
    obtain ⟨source, declared, named, _⟩ := isValid.exists_background member shown
    exact ⟨source, declared, named⟩
  · rw [ofProject, List.forall₂_map_right_iff, List.forall₂_same]
    refine fun actor member => ⟨early _ (List.mem_append_right _ (List.mem_map_of_mem member)),
      assetIndex_eq_noSymbol_iff made fun name shown => ?_⟩
    obtain ⟨source, declared, named, _⟩ := isValid.exists_sprite member shown
    exact ⟨source, declared, named⟩
  · rw [ofProject, List.forall₂_map_right_iff, List.forall₂_same]
    intro trigger member
    apply symbolIndex_eq_noSymbol_iff made
    simp only [Project.declarations, List.mem_append, List.mem_map]
    exact .inl (.inl (.inl (.inr ⟨trigger, member, rfl⟩)))

/-- The crowded project is accepted, its one asset has the index that stands for no symbol, and its
scene, which shows that asset, is placed without a background. -/
theorem ofProject_marks_crowded : ∃ tables, (crowded 65534).validate = .ok ()
    ∧ Tables.ofProject (crowded 65534) = .ok tables
    ∧ tables.symbols.get? (assetSymbol "sky") = some noSymbol
    ∧ ∃ entry ∈ (ofProject (crowded 65534) tables).scenes, entry.background = noSymbol := by
  obtain ⟨tables, made⟩ := exists_tables_crowded (Nat.le_refl 65534)
  obtain ⟨indices, scenes, _⟩ := ofProject_marks (validate_crowded 65534) made
  obtain ⟨_, shown⟩ : _ ∧ _ := (List.forall₂_cons.1 scenes).1
  refine ⟨tables, validate_crowded 65534, made,
    (indices _ (Project.mem_declarations_of_isLast isLast_crowded)).2 isLast_crowded, _,
    List.mem_cons_self, shown.2 (.inr ⟨"sky", rfl, isLast_crowded⟩)⟩

end World
end Cartridge
