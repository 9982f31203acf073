import Cartridge.Game
import Cartridge.Proofs.Bank.Layout
import Cartridge.Proofs.Symbol.Indexing

/-!
# How a game is made

* `Game.IsMade`: the stages that a game has come through.
* `Game.ofProject_eq_ok_iff`: a game comes from its project just if it has come through these.
-/

namespace Cartridge.Game

/-- **How a game is made.** -/
structure IsMade (read : String → Except FileError ByteArray) (geometry : Geometry)
    (project : Project) (game : Game) : Prop where
  title : game.title = project.title
  valid : project.validate = .ok ()
  tables : Tables.ofProject project = .ok game.tables
  scripts : project.compileScripts game.tables = .ok game.scripts
  assets : PackedAssets.ofProject read project = .ok game.assets
  allocation : Allocation.ofBlobs geometry (blobs game.scripts game.assets) = .ok game.allocation
  world : game.world = World.ofProject project game.tables

variable {read : String → Except FileError ByteArray} {geometry : Geometry} {project : Project}
  {game : Game}

/-- A game comes from its project just if it is made in this way. -/
theorem ofProject_eq_ok_iff :
    ofProject read geometry project = .ok game ↔ IsMade read geometry project game := by
  constructor
  · intro compiled
    obtain ⟨_, valid, compiled⟩ := bind_eq_ok compiled
    obtain ⟨tables, madeTables, compiled⟩ := bind_eq_ok compiled
    obtain ⟨scripts, madeScripts, compiled⟩ := bind_eq_ok compiled
    obtain ⟨assets, madeAssets, compiled⟩ := bind_eq_ok compiled
    obtain ⟨allocation, madeAllocation, compiled⟩ := bind_eq_ok compiled
    cases compiled
    exact ⟨rfl, mapError_eq_ok valid, mapError_eq_ok madeTables, mapError_eq_ok madeScripts,
      mapError_eq_ok madeAssets, mapError_eq_ok madeAllocation, rfl⟩
  · rintro ⟨title, valid, tables, scripts, assets, allocation, world⟩
    rw [ofProject, valid, tables]
    show (project.compileScripts game.tables).mapError _ >>= _ = _
    rw [scripts, assets]
    show (Allocation.ofBlobs _ _).mapError _ >>= _ = _
    rw [allocation, ← title, ← world]
    rfl

namespace IsMade

theorem numbers (isMade : IsMade read geometry project game) :
    Tables.Numbers game.tables.symbols (project.declarations.map Declaration.symbol) :=
  (Tables.ofProject_eq_ok isMade.tables).1

theorem accepts (isMade : IsMade read geometry project game) :
    Allocation.Accepts geometry (blobs game.scripts game.assets) game.allocation :=
  Allocation.ofBlobs_eq_ok isMade.allocation

theorem isSound_of_mem_banks (isMade : IsMade read geometry project game) :
    ∀ bank ∈ game.allocation.banks, bank.IsSound game.allocation.capacity := by
  rw [isMade.accepts.capacity]
  exact isMade.accepts.lays.sound

end IsMade
end Cartridge.Game
