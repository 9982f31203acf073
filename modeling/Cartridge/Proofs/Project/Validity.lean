import Mathlib.Tactic.MkIffOfInductiveProp
import Cartridge.Project.Validity
import Cartridge.Proofs.Success

/-!
# What is known of valid projects

* `requireUnique_eq_ok_iff`: names are taken to be unique just if no two of them are the same.
* `Project.validate_eq_ok_iff`: a project is accepted just if all that is checked holds.
* `Project.NamesUnique`: the names that a valid project gives to variables, flags and actors.
* `Project.exists_startScene`, `Project.IsValid.exists_sprite`, `Project.IsValid.exists_background`:
  what a valid project names is declared.
-/

namespace Cartridge

theorem requireUnique_eq_ok_iff (kind : Named) (names : List String) :
    requireUnique kind names = .ok () ↔ names.Nodup := by
  rw [← firstRepeated?_eq_none_iff, requireUnique]
  cases firstRepeated? names <;> simp

theorem requireAtMost_eq_ok_iff (kind : Named) (limit count : Nat) :
    requireAtMost kind limit count = .ok () ↔ count ≤ limit := by
  unfold requireAtMost
  split
  case isTrue many => simp [Nat.not_le_of_lt many]
  case isFalse few => simp [Nat.le_of_not_lt few]

namespace Project

variable {project : Project}

/-- **What is checked of a project.** -/
@[mk_iff]
structure IsValid (project : Project) : Prop where
  gameVariables : project.gameVariables.Nodup
  flags : project.flags.Nodup
  palettes : (project.palettes.map (·.name)).Nodup
  assets : (project.assets.map (·.name)).Nodup
  scenes : (project.scenes.map (·.name)).Nodup
  actors : (project.actors.map (·.name)).Nodup
  triggers : (project.triggers.map (·.name)).Nodup
  scripts : (project.scripts.map (·.name)).Nodup
  gameVariableCount : project.gameVariables.length ≤ 256
  flagCount : project.flags.length ≤ 256
  actorCount : project.actors.length ≤ 255
  sceneCount : project.scenes.length ≤ 255
  startScene : ∀ name, project.startScene = some name → project.hasScene name = true
  placedActors : ∀ actor ∈ project.actors, project.validateActor actor = .ok ()
  placedTriggers : ∀ trigger ∈ project.triggers, project.validateTrigger trigger = .ok ()
  shownScenes : ∀ scene ∈ project.scenes, project.validateScene scene = .ok ()

/-- Refuses a scene to start in that is not declared. -/
def validateStart (project : Project) : Except ProjectError Unit :=
  match project.startScene with
  | some scene => if !project.hasScene scene then .error (.unknownStartScene scene) else .ok ()
  | none => .ok ()

theorem validateStart_eq_ok_iff : project.validateStart = .ok ()
    ↔ ∀ name, project.startScene = some name → project.hasScene name = true := by
  unfold validateStart
  cases project.startScene with
  | none => simp
  | some scene => cases declared : project.hasScene scene <;> simp [declared]

/-- All checks, one after the other. -/
theorem validate_eq : project.validate = (do
    requireUnique .gameVariable project.gameVariables
    requireUnique .flag project.flags
    requireUnique .palette (project.palettes.map (·.name))
    requireUnique .asset (project.assets.map (·.name))
    requireUnique .scene (project.scenes.map (·.name))
    requireUnique .actor (project.actors.map (·.name))
    requireUnique .trigger (project.triggers.map (·.name))
    requireUnique .script (project.scripts.map (·.name))
    requireAtMost .gameVariable 256 project.gameVariables.length
    requireAtMost .flag 256 project.flags.length
    requireAtMost .actor 255 project.actors.length
    requireAtMost .scene 255 project.scenes.length
    project.validateStart
    project.actors.forM project.validateActor
    project.triggers.forM project.validateTrigger
    project.scenes.forM project.validateScene) := by
  unfold validate validateStart
  cases project.startScene with
  | none => rfl
  | some scene => cases declared : project.hasScene scene <;> simp only [declared] <;> rfl

/-- **A project is accepted just if all that is checked holds.** -/
theorem validate_eq_ok_iff : project.validate = .ok () ↔ project.IsValid := by
  rw [validate_eq, isValid_iff]
  simp only [check_bind_eq_ok_iff, requireUnique_eq_ok_iff, requireAtMost_eq_ok_iff,
    validateStart_eq_ok_iff, forM_eq_ok_iff]

/-- **The names of variables, flags and actors are unique**, and no actor is called like the one that
the player moves. -/
structure NamesUnique (project : Project) : Prop where
  gameVariables : project.gameVariables.Nodup
  flags : project.flags.Nodup
  actors : (playerName :: project.actors.map (·.name)).Nodup

theorem ne_playerName_of_validateActor {actor : Actor}
    (valid : project.validateActor actor = .ok ()) : actor.name ≠ playerName := by
  intro reserved
  rw [validateActor, if_pos reserved] at valid
  cases valid

theorem namesUnique_of_validate (valid : project.validate = .ok ()) : project.NamesUnique := by
  have isValid := validate_eq_ok_iff.1 valid
  refine ⟨isValid.gameVariables, isValid.flags, List.nodup_cons.2 ⟨fun reserved => ?_,
    isValid.actors⟩⟩
  obtain ⟨actor, member, named⟩ := List.mem_map.1 reserved
  exact ne_playerName_of_validateActor (isValid.placedActors actor member) named

/-! ### What is named is declared -/

theorem exists_startScene (valid : project.validate = .ok ()) {name : String}
    (start : project.startScene = some name) : ∃ scene ∈ project.scenes, scene.name = name := by
  have declared := (validate_eq_ok_iff.1 valid).startScene name start
  obtain ⟨scene, member, same⟩ := List.any_eq_true.1 declared
  exact ⟨scene, member, of_decide_eq_true same⟩

theorem exists_asset_of_requireAsset {user : AssetUser} {name : String} {wanted : AssetKind}
    (required : project.requireAsset user name wanted = .ok ()) :
    ∃ asset ∈ project.assets, asset.name = name ∧ asset.kind = wanted := by
  unfold requireAsset at required
  split at required
  case h_1 asset found =>
    rw [asset?] at found
    have named : asset.name = name := by simpa using List.find?_some found
    have kind : asset.kind = wanted := by
      by_contra other
      rw [if_neg other] at required
      cases required
    exact ⟨asset, List.mem_of_find?_eq_some found, named, kind⟩
  case h_2 => cases required

theorem IsValid.exists_sprite (valid : project.IsValid) {actor : Actor}
    (member : actor ∈ project.actors) {name : String} (shown : actor.sprite = some name) :
    ∃ asset ∈ project.assets, asset.name = name ∧ asset.kind = .image := by
  have placed := valid.placedActors actor member
  rw [validateActor, if_neg (ne_playerName_of_validateActor placed), shown] at placed
  by_cases declared : project.hasScene actor.scene = true
  · rw [declared] at placed
    exact exists_asset_of_requireAsset placed
  · rw [Bool.not_eq_true] at declared
    rw [declared] at placed
    cases placed

theorem IsValid.exists_background (valid : project.IsValid) {scene : Scene}
    (member : scene ∈ project.scenes) {name : String} (shown : scene.background = some name) :
    ∃ asset ∈ project.assets, asset.name = name ∧ asset.kind = .tileset := by
  have accepted := valid.shownScenes scene member
  rw [validateScene, shown] at accepted
  exact exists_asset_of_requireAsset accepted

end Project
end Cartridge
