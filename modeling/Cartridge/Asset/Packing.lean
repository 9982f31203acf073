import Cartridge.Asset.Digest
import Cartridge.Asset.Palette
import Cartridge.Asset.Payload
import Cartridge.Symbol.Declaration
import Cartridge.Table.Ordered
import Cartridge.Text.Encoded

/-!
# Packing assets

Assets and palettes with the same contents are stored once. What is stored has a name of its own,
made from a digest of the contents, and the symbols of the assets are aliases of it. A file whose
bytes have been seen before is not decoded again. A file that cannot be packed does not keep the
packer from trying the others, but one that crashes the program does.

* `PackedAssets.ofProject` — what a project stores, or every resource file that cannot be packed.
* `PackedAssets.get?` — what is stored for a symbol.
-/

namespace Cartridge

/-- What is stored. -/
inductive PackedKind where
  | asset (kind : AssetKind)
  | palette
  deriving DecidableEq, Repr, Hashable

namespace PackedKind

/-- The name of what is stored. -/
def name : PackedKind → String
  | asset kind => kind.name
  | palette => "palette"

/-- Where tiles are, and must be, aligned; the rest is not. -/
def align : PackedKind → Nat
  | asset .image | asset .tileset => 16
  | asset .song | asset .sound | palette => 1

end PackedKind

/-- Something stored once. -/
structure PackedAsset where
  kind : PackedKind
  payload : List UInt8
  /-- The digest of the kind and the payload. -/
  digest : Digest
  deriving DecidableEq

namespace PackedAsset

/-- A payload of a kind. Between the kind and the payload, the digest takes in a zero byte. -/
def ofPayload (kind : PackedKind) (payload : List UInt8) : PackedAsset :=
  ⟨kind, payload, Digest.ofBytes (encoded kind.name ++ 0 :: payload)⟩

/-- The name under which it is stored. -/
def symbol (asset : PackedAsset) : String :=
  "blob_" ++ String.ofList (asset.digest.hex.toList.take 16)

end PackedAsset

/-- What is stored, and for whom. -/
structure PackedAssets where
  /-- No two of these have the same digest. -/
  packed : Array PackedAsset
  /-- The place of what is stored for the symbols of assets and palettes. -/
  aliases : NameTable Nat

/-- Why nothing is stored. -/
inductive PackingFault where
  /-- Some resource files cannot be packed. -/
  | refused (errors : List AssetError)
  /-- The program crashes over a resource file. -/
  | crash (operation : Overflow)

/-- The message of the packer, or of the crash. -/
def PackingFault.message : PackingFault → String
  | refused errors => AssetError.report errors
  | crash operation => operation.message

namespace PackedAssets

/-- Nothing is stored. -/
def empty : PackedAssets := ⟨#[], ∅⟩

/-- What is stored for a symbol. -/
def get? (assets : PackedAssets) (symbol : String) : Option PackedAsset := do
  assets.packed[← assets.aliases.get? symbol]?

/-- The payloads of files that have been decoded, by their kinds and the digests of their bytes. -/
abbrev Decoded : Type := Std.HashMap (AssetKind × Digest) (List UInt8)

/-- A run of the packer. -/
structure Progress where
  assets : PackedAssets
  /-- The places of what is stored, by their digests. -/
  places : Std.HashMap Digest Nat
  decoded : Decoded
  /-- The files that cannot be packed. -/
  errors : Array AssetError

/-- Nothing has been done. -/
def Progress.start : Progress := ⟨empty, ∅, ∅, #[]⟩

/-- Stores something for a symbol, unless its like is stored. -/
def Progress.store (progress : Progress) (symbol : String) (asset : PackedAsset) : Progress :=
  let ⟨⟨packed, aliases⟩, places, decoded, errors⟩ := progress
  match places[asset.digest]? with
  | some place => ⟨⟨packed, aliases.insert symbol place⟩, places, decoded, errors⟩
  | none =>
    let place := packed.size
    ⟨⟨packed.push asset, aliases.insert symbol place⟩, places.insert asset.digest place, decoded,
      errors⟩

/-- The payload of a file, and what has been decoded then. -/
def decode (decoded : Decoded) (source : AssetSource) (bytes : ByteArray) :
    Except AssetFault (List UInt8 × Decoded) :=
  let key := (source.kind, Digest.ofArray bytes)
  match decoded[key]? with
  | some payload => .ok (payload, decoded)
  | none =>
    match source.kind.payload source.path bytes with
    | .ok payload => .ok (payload, decoded.insert key payload)
    | .error fault => .error fault

/-- Packs the file of an asset, unless the program crashes. -/
def Progress.addAsset (read : String → Except FileError ByteArray) (progress : Progress)
    (source : AssetSource) : Except Overflow Progress :=
  let found := match read source.path with
    | .ok bytes => decode progress.decoded source bytes
    | .error fault => .error (.unreadable fault)
  match found with
  | .ok (payload, decoded) =>
    .ok (({ progress with decoded }).store (assetSymbol source.name)
      (.ofPayload (.asset source.kind) payload))
  | .error fault =>
    match fault.overflow? with
    | some operation => .error operation
    | none => .ok { progress with errors := progress.errors.push ⟨source.path, fault⟩ }

/-- Packs a palette. -/
def Progress.addPalette (progress : Progress) (palette : Palette) : Progress :=
  progress.store (paletteSymbol palette.name) (.ofPayload .palette palette.payload)

/-- What a project stores, given how its resource files are read. Every file is tried, unless the
program crashes over one of them. -/
def ofProject (read : String → Except FileError ByteArray) (project : Project) :
    Except PackingFault PackedAssets := do
  let packed ← (project.assets.foldlM (Progress.addAsset read) .start).mapError .crash
  let all := project.palettes.foldl Progress.addPalette packed
  if all.errors.isEmpty then .ok all.assets else .error (.refused all.errors.toList)

end PackedAssets
end Cartridge
