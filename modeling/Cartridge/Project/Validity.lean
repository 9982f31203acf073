import Std.Data.HashSet
import Cartridge.Project.Error

/-!
# Valid projects

The checks that need no script to be compiled: names are unique, slots suffice, and every scene and
asset that is named where things are placed is declared, the asset with the right kind.

* `Project.validate` — the first fault of a project, in the order of the checks.
* `firstRepeated?_eq_none_iff` — a list has no repeated name exactly if its names are distinct.
-/

namespace Cartridge

/-- The first name of a list that is among those `seen`, or repeats an earlier one. -/
def firstRepeatedAfter (seen : Std.HashSet String) : List String → Option String
  | [] => none
  | name :: names =>
    if name ∈ seen then some name else firstRepeatedAfter (seen.insert name) names

/-- The first name of a list that repeats an earlier one. -/
def firstRepeated? (names : List String) : Option String :=
  firstRepeatedAfter ∅ names

theorem firstRepeatedAfter_eq_none_iff (seen : Std.HashSet String) (names : List String) :
    firstRepeatedAfter seen names = none ↔ names.Nodup ∧ ∀ name ∈ names, name ∉ seen := by
  induction names generalizing seen with
  | nil => simp [firstRepeatedAfter]
  | cons name names ih =>
    rw [firstRepeatedAfter]
    by_cases held : name ∈ seen
    · simp [held]
    · simp only [held, if_false, ih, Std.HashSet.mem_insert, beq_iff_eq, List.nodup_cons,
        List.mem_cons, forall_eq_or_imp, not_false_eq_true, true_and, not_or]
      constructor
      · rintro ⟨distinct, fresh⟩
        exact ⟨⟨fun repeated => (fresh name repeated).1 rfl, distinct⟩,
          fun other member => (fresh other member).2⟩
      · rintro ⟨⟨absent, distinct⟩, fresh⟩
        exact ⟨distinct, fun other member =>
          ⟨fun same => absent (same ▸ member), fresh other member⟩⟩

/-- A list has no repeated name exactly if its names are distinct. -/
theorem firstRepeated?_eq_none_iff (names : List String) :
    firstRepeated? names = none ↔ names.Nodup := by
  simp [firstRepeated?, firstRepeatedAfter_eq_none_iff]

/-- Refuses names that repeat. -/
def requireUnique (kind : Named) (names : List String) : Except ProjectError Unit :=
  match firstRepeated? names with
  | some name => .error (.duplicateName kind name)
  | none => .ok ()

/-- Refuses more things than there are slots for. -/
def requireAtMost (kind : Named) (limit count : Nat) : Except ProjectError Unit :=
  if limit < count then .error (.tooMany kind count limit) else .ok ()

namespace Project

/-- Whether a scene is declared. -/
def hasScene (project : Project) (name : String) : Bool :=
  project.scenes.any (·.name = name)

/-- The declaration of an asset. -/
def asset? (project : Project) (name : String) : Option AssetSource :=
  project.assets.find? (·.name = name)

/-- Refuses an asset that is not declared with that kind. -/
def requireAsset (project : Project) (user : AssetUser) (name : String) (wanted : AssetKind) :
    Except ProjectError Unit :=
  match project.asset? name with
  | some found =>
    if found.kind = wanted then .ok () else .error (.wrongAssetKind user name wanted found.kind)
  | none => .error (.unknownAsset user name)

/-- Refuses an actor that cannot be placed. -/
def validateActor (project : Project) (actor : Actor) : Except ProjectError Unit := do
  if actor.name = playerName then throw .reservedName
  if !project.hasScene actor.scene then throw (.unknownScene .actor actor.name actor.scene)
  match actor.sprite with
  | some sprite => project.requireAsset (.actor actor.name) sprite .image
  | none => return

/-- Refuses a trigger that cannot be placed. -/
def validateTrigger (project : Project) (trigger : Trigger) : Except ProjectError Unit :=
  if project.hasScene trigger.scene then .ok ()
  else .error (.unknownScene .trigger trigger.name trigger.scene)

/-- Refuses a scene whose background is no tileset. -/
def validateScene (project : Project) (scene : Scene) : Except ProjectError Unit :=
  match scene.background with
  | some background => project.requireAsset (.scene scene.name) background .tileset
  | none => .ok ()

/-- Refuses a project with a fault; the first one met is reported. A scene's number is one byte, and
the greatest one stands for no scene; an actor's slot is one byte, and the player has the first. -/
def validate (project : Project) : Except ProjectError Unit := do
  requireUnique .gameVariable project.gameVariables
  requireUnique .flag project.flags
  requireUnique .palette (project.palettes.map (·.name))
  requireUnique .asset (project.assets.map (·.name))
  requireUnique .scene (project.scenes.map (·.name))
  requireUnique .actor (project.actors.map (·.name))
  requireUnique .trigger (project.triggers.map (·.name))
  requireUnique .script (project.scripts.map (·.name))
  requireAtMost .gameVariable 256 project.gameVariables.length
  requireAtMost .flag 256 project.flags.length
  requireAtMost .actor 255 project.actors.length
  requireAtMost .scene 255 project.scenes.length
  match project.startScene with
  | some scene => if !project.hasScene scene then throw (.unknownStartScene scene)
  | none => pure ()
  project.actors.forM project.validateActor
  project.triggers.forM project.validateTrigger
  project.scenes.forM project.validateScene

end Project
end Cartridge
