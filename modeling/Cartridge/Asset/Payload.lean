import Cartridge.Asset.Shade
import Cartridge.Asset.Song
import Cartridge.Asset.Sound
import Cartridge.FileSystem.Basic
import Cartridge.Picture.Recognition
import Cartridge.Project.Basic
import Cartridge.Text.FilePath

/-!
# Payloads of resource files

* `AssetKind.payload` — what the cartridge holds for a resource file, or why it can hold nothing.
* `AssetError.message` — the message for a resource file that cannot be packed.
-/

namespace Cartridge

/-- Why a resource file cannot be packed. -/
inductive AssetFault where
  /-- The file cannot be read. -/
  | unreadable (fault : FileError)
  /-- The file is no picture. -/
  | noPicture
  | grid (fault : ShadeGrid.Fault)
  | song (fault : Song.Fault)
  | sound (fault : Sound.Fault)
  deriving DecidableEq, Repr

namespace AssetFault

/-- The ways in which a resource file can fail. -/
inductive Manner where
  | unreadable
  /-- The file was understood, but the cartridge cannot hold it. -/
  | unsupported (kind : AssetKind)
  /-- The file is malformed. -/
  | undecodable
  deriving DecidableEq, Repr

/-- The way in which a file fails. -/
def manner : AssetFault → Manner
  | unreadable _ => .unreadable
  | grid .tooManyTiles => .unsupported .tileset
  | song (.tooManyRows _) => .unsupported .song
  | sound .badExtension | sound (.tooManySamples _) => .unsupported .sound
  | noPicture | grid _ | song _ | sound _ => .undecodable

/-- The operation that crashes the program over a file that is not just refused. -/
def overflow? : AssetFault → Option Overflow
  | song (.badLine _ _ (.overflow operation)) => some operation
  | _ => none

/-- Why a file fails. Pictures that are none get no closer reason. -/
def reason : AssetFault → String
  | unreadable fault => fault.message
  | noPicture => "<image library>"
  | grid (.ragged width height) =>
    s!"{width}x{height} is not a multiple of {tileSide}x{tileSide} tiles"
  | grid (.tooLarge width height) => s!"{width}x{height} exceeds 255 tiles per side"
  | grid .tooManyTiles => s!"more than {ShadeGrid.tilesetLimit} unique tiles"
  | song (.notText fault) => fault.message
  | song (.badLine number note fault) => s!"line {number}: {fault.reason note}"
  | song (.tooManyRows count) => s!"{count} rows, at most 65535"
  | sound .badExtension => "expected unsigned 8-bit PCM (.raw or .pcm)"
  | sound .noSamples => "no samples"
  | sound (.tooManySamples count) => s!"{count} samples, at most 65535"

end AssetFault

/-- A resource file that cannot be packed. -/
structure AssetError where
  /-- The path as the project gives it. -/
  path : String
  fault : AssetFault
  deriving DecidableEq, Repr

/-- The message for a resource file that cannot be packed. -/
def AssetError.message (error : AssetError) : String :=
  let said := match error.fault.manner with
    | .unreadable => "cannot read asset"
    | .unsupported kind => s!"unsupported {kind.name} asset"
    | .undecodable => "failed to decode"
  s!"{error.path}: {said}: {error.fault.reason}"

/-- The message for all resource files that cannot be packed. -/
def AssetError.report (errors : List AssetError) : String :=
  s!"{errors.length} asset(s) failed to pack:\n"
    ++ "\n".intercalate (errors.map fun error => "  - " ++ error.message)

/-- The shades of a picture file. -/
def ShadeGrid.ofBytes (bytes : ByteArray) : Except AssetFault ShadeGrid :=
  match Picture.ofBytes? bytes with
  | some picture => (ShadeGrid.ofPicture picture).mapError .grid
  | none => .error .noPicture

/-- The payload of a file of a kind. The path matters to sounds only. -/
def AssetKind.payload (kind : AssetKind) (path : String) (bytes : ByteArray) :
    Except AssetFault (List UInt8) :=
  match kind with
  | image => return (← ShadeGrid.ofBytes bytes).imagePayload
  | tileset => do ((← ShadeGrid.ofBytes bytes).tilesetPayload).mapError .grid
  | song => (Song.payload bytes.toList).mapError .song
  | sound => (Sound.payload (FilePath.extension? path) bytes.toList).mapError .sound

end Cartridge
