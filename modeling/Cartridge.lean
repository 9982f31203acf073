import Cartridge.Main
import Cartridge.Proofs.Bytecode.Machine
import Cartridge.Proofs.Script.Compilation
import Cartridge.Proofs.Script.Decoding
import Cartridge.Proofs.Script.Execution
import Cartridge.Proofs.Script.Simulation
import Cartridge.Proofs.Asset.Packing
import Cartridge.Proofs.Bank.Layout
import Cartridge.Proofs.Bank.Image
import Cartridge.Proofs.Bank.Soundness
import Cartridge.Proofs.Symbol.Indexing
import Cartridge.Proofs.Symbol.Naming
import Cartridge.Proofs.Source.Macros
import Cartridge.Proofs.Source.Numeral
import Cartridge.Proofs.Source.PointerTable
import Cartridge.Proofs.Script.Mentions
import Cartridge.Proofs.Project.Validity
import Cartridge.Proofs.Game.Making
import Cartridge.Proofs.Game.Pointers
import Cartridge.Proofs.Source.Definitions
import Cartridge.Proofs.Game.Clashes
import Cartridge.Proofs.Build.Exclusion
import Cartridge.Proofs.Build.Running
import Cartridge.Proofs.World.NoSymbol
import Cartridge.Proofs.Script.Gathering
import Cartridge.Proofs.Script.Names
import Cartridge.Proofs.Script.Declared
import Cartridge.Proofs.Build.Hearing
import Cartridge.Proofs.Build.Life
import Cartridge.Proofs.Build.Watching
import Cartridge.Proofs.FileSystem.Trail
import Cartridge.Proofs.Text.Path
import Cartridge.Proofs.FileSystem.Change
import Cartridge.Proofs.FileSystem.Frame
import Cartridge.Proofs.Build.Staging
import Cartridge.Proofs.Build.Visibility
import Cartridge.Proofs.Build.Cancellation
import Cartridge.Proofs.World.Placement
import Cartridge.Proofs.Game.Sharing
import Cartridge.Proofs.Game.Writers
import Cartridge.Proofs.Bank.Density
import Cartridge.Proofs.Bank.Stability
import Cartridge.Proofs.Symbol.Collisions
import Cartridge.Proofs.Script.Paths
import Cartridge.Proofs.Script.Blame
import Cartridge.Proofs.Bank.Economy
import Cartridge.Proofs.Asset.Image
import Cartridge.Proofs.Asset.Pitch
import Cartridge.Proofs.Asset.Tileset
import Cartridge.Proofs.Source.TextLiteral
import Cartridge.Proofs.Asset.Samples
import Cartridge.Proofs.Text.Utf8
import Cartridge.Proofs.Asset.Score
import Cartridge.Proofs.FileSystem.Route
import Cartridge.Proofs.Build.Independence
import Cartridge.Proofs.Script.Filling
import Cartridge.Proofs.Script.Nesting
import Cartridge.Proofs.Script.Emission
