import Cartridge.Project.Basic

/-!
# Faults of a project

What can be wrong with a project as a whole, before any of its scripts or resources is looked at.
-/

namespace Cartridge

/-- What the author gives names to. -/
inductive Named where
  | gameVariable
  | flag
  | palette
  | asset
  | scene
  | actor
  | trigger
  | script
  deriving DecidableEq, Repr

/-- The noun for what is named. -/
def Named.noun : Named → String
  | gameVariable => "variable"
  | flag => "flag"
  | palette => "palette"
  | asset => "asset"
  | scene => "scene"
  | actor => "actor"
  | trigger => "trigger"
  | script => "script"

/-- What uses an asset. -/
inductive AssetUser where
  | actor (name : String)
  | scene (name : String)
  deriving DecidableEq, Repr

/-- How the user of an asset is called in messages. -/
def AssetUser.description : AssetUser → String
  | actor name => s!"actor `{name}`"
  | scene name => s!"scene `{name}`"

/-- Why a project is refused. -/
inductive ProjectError where
  /-- Two things of one kind have the same name. -/
  | duplicateName (kind : Named) (name : String)
  /-- More things of one kind are declared than there are slots for. -/
  | tooMany (kind : Named) (count limit : Nat)
  /-- The scene that the game starts in is not declared. -/
  | unknownStartScene (scene : String)
  /-- An actor has the name of the player. -/
  | reservedName
  /-- An actor or a trigger stands in a scene that is not declared. -/
  | unknownScene (kind : Named) (name scene : String)
  /-- An asset of the wrong kind is used. -/
  | wrongAssetKind (user : AssetUser) (asset : String) (wanted found : AssetKind)
  /-- An asset that is not declared is used. -/
  | unknownAsset (user : AssetUser) (asset : String)
  /-- Two declarations have the same symbol. -/
  | duplicateSymbol (symbol : String)
  /-- There are more symbols than indices. -/
  | tooManySymbols
  deriving DecidableEq, Repr

/-- What is wrong with a project. -/
def ProjectError.reason : ProjectError → String
  | duplicateName kind name => s!"duplicate {kind.noun} name `{name}`"
  | tooMany kind count limit =>
    s!"{count} {kind.noun}s declared, at most {limit} are supported"
  | unknownStartScene scene => s!"start scene `{scene}` does not exist"
  | reservedName => s!"actor name `{playerName}` is reserved"
  | unknownScene kind name scene => s!"{kind.noun} `{name}` is placed in unknown scene `{scene}`"
  | wrongAssetKind user asset wanted found =>
    s!"{user.description} uses `{asset}` as {wanted.name}, but it is a {found.name}"
  | unknownAsset user asset => s!"{user.description} uses unknown asset `{asset}`"
  | duplicateSymbol symbol => s!"two declarations map to the same symbol `{symbol}`"
  | tooManySymbols => "more than 65535 symbols"

/-- The message for a refused project. -/
def ProjectError.message (error : ProjectError) : String :=
  "invalid project: " ++ error.reason

end Cartridge
