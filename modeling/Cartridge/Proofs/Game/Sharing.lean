import Cartridge.Proofs.Asset.Deduplication
import Cartridge.Proofs.Game.Pointers

/-!
# What is shared in the banks

Assets and palettes with the same contents have the same place in the banks, and others have not.
For that, neither may two different things look the same to the packer, nor may a thing be so small
that another one stands at the same place.

* `Project.resourceSymbols`: the symbols of the assets and the palettes.
* `Game.Shares`: what is asked of a game.
* `Game.IsMade.farPointer_eq_iff`: far pointers are the same just for the same contents.
* `Game.ofProject_shares`: every game that is made shares just what is the same.
-/

namespace Cartridge

open PackedAssets (entries made NamesApart DigitsApart)

variable {read : String → Except FileError ByteArray} {project : Project} {geometry : Geometry}
  {game : Game}

/-- The symbols of the assets and the palettes. -/
def Project.resourceSymbols (project : Project) : List String :=
  project.assets.map (fun source => assetSymbol source.name)
    ++ project.palettes.map fun palette => paletteSymbol palette.name

namespace Game

/-- **A game shares what is the same, and nothing else.** -/
structure Shares (game : Game) (read : String → Except FileError ByteArray) (project : Project) :
    Prop where
  /-- What is made of the assets and the palettes is stored, each thing once, in the order in which
  it first comes. -/
  packed : game.assets.packed.toList = ((entries (made read) project).map Prod.snd).eraseDups
  distinct : ∀ (place other : Nat) (first second : PackedAsset),
    game.assets.packed[place]? = some first → game.assets.packed[other]? = some second →
    first.kind = second.kind → first.payload = second.payload → place = other
  /-- The symbol of an asset stands for what was made of it, as a thing of its kind. -/
  asset : ∀ earlier source later, project.assets = earlier ++ source :: later →
    ∃ payload, made read earlier source = .ok payload
      ∧ game.assets.get? (assetSymbol source.name)
        = some (.ofPayload (.asset source.kind) payload)
  palette : ∀ palette ∈ project.palettes, game.assets.get? (paletteSymbol palette.name)
    = some (.ofPayload .palette palette.payload)
  /-- Nothing is stored for nobody. -/
  aliased : ∀ asset ∈ game.assets.packed, ∃ symbol ∈ project.resourceSymbols,
    game.assets.get? symbol = some asset
  /-- Far pointers are the same just for the same contents. -/
  farPointers : ∀ first ∈ project.resourceSymbols, ∀ second ∈ project.resourceSymbols,
    ∃ one other pointer target,
      game.assets.get? first = some one ∧ game.assets.get? second = some other
        ∧ game.farPointer? first = some pointer ∧ game.farPointer? second = some target
        ∧ (pointer = target ↔ one.kind = other.kind ∧ one.payload = other.payload)
  /-- They are those of what is stored. -/
  physical : ∀ symbol ∈ project.resourceSymbols, ∃ asset ∈ game.assets.packed,
    game.assets.get? symbol = some asset
      ∧ game.farPointer? symbol = game.farPointer? asset.symbol
  /-- Different things in the banks have no byte in common. -/
  apart : ∀ first ∈ blobs game.scripts game.assets, ∀ second ∈ blobs game.scripts game.assets,
    first ≠ second → ∃ pointer target,
      game.farPointer? first.name = some pointer ∧ game.farPointer? second.name = some target
        ∧ Allocation.AreApart pointer first.size target second.size
  /-- Each of them stands in the banks once, and nothing else does. -/
  once : ((Allocation.standing game.allocation.banks).map Placed.name).Nodup
    ∧ ((Allocation.standing game.allocation.banks).map Placed.name).Perm
      ((blobs game.scripts game.assets).map Blob.name)

/-- Where two symbols stand for known contents, these decide whether their far pointers are the
same. -/
theorem Shares.exists_farPointers (shares : game.Shares read project) {first second : String}
    {one other : PackedAsset} (declared : first ∈ project.resourceSymbols)
    (alsoDeclared : second ∈ project.resourceSymbols) (stands : game.assets.get? first = some one)
    (alsoStands : game.assets.get? second = some other) :
    ∃ pointer target, game.farPointer? first = some pointer
      ∧ game.farPointer? second = some target
      ∧ (pointer = target ↔ one.kind = other.kind ∧ one.payload = other.payload) := by
  obtain ⟨_, _, pointer, target, found, alsoFound, there, alsoThere, same⟩ :=
    shares.farPointers first declared second alsoDeclared
  cases found.symm.trans stands
  cases alsoFound.symm.trans alsoStands
  exact ⟨pointer, target, there, alsoThere, same⟩

namespace IsMade

variable {symbol other : String} {asset second : PackedAsset}

theorem exists_entry (isMade : IsMade read geometry project game)
    (declared : symbol ∈ project.resourceSymbols) :
    ∃ asset, (symbol, asset) ∈ entries (made read) project := by
  rw [Project.resourceSymbols, ← isMade.map_fst_entries] at declared
  obtain ⟨⟨_, asset⟩, member, rfl⟩ := List.mem_map.1 declared
  exact ⟨asset, member⟩

theorem mem_resourceSymbols (isMade : IsMade read geometry project game)
    (member : (symbol, asset) ∈ entries (made read) project) :
    symbol ∈ project.resourceSymbols := by
  rw [Project.resourceSymbols, ← isMade.map_fst_entries]
  exact List.mem_map.2 ⟨(symbol, asset), member, rfl⟩

theorem farPointer?_of_mem_blobs (isMade : IsMade read geometry project game) {blob : Blob}
    (member : blob ∈ blobs game.scripts game.assets) :
    game.farPointer? blob.name = game.allocation.address? blob.name := by
  rw [farPointer?, isMade.physicalSymbol?_of_mem_blobs member]
  rfl

theorem farPointer?_of_mem_entries (isMade : IsMade read geometry project game)
    (apart : NamesApart read project) (member : (symbol, asset) ∈ entries (made read) project) :
    game.farPointer? symbol = game.farPointer? asset.symbol := by
  have stored := isMade.farPointer?_of_mem_blobs (isMade.mem_blobs_of_mem_entries apart member)
  rw [farPointer?, isMade.physicalSymbol?_of_mem_entries apart member]
  exact stored.symm

/-- **Different things in the banks have no byte in common.** -/
theorem exists_areApart (isMade : IsMade read geometry project game)
    (apart : NamesApart read project) {first second : Blob}
    (member : first ∈ blobs game.scripts game.assets)
    (also : second ∈ blobs game.scripts game.assets) (differ : first.name ≠ second.name) :
    ∃ pointer target,
      game.farPointer? first.name = some pointer ∧ game.farPointer? second.name = some target
        ∧ Allocation.AreApart pointer first.size target second.size := by
  rw [isMade.farPointer?_of_mem_blobs member, isMade.farPointer?_of_mem_blobs also]
  exact isMade.accepts.exists_areApart (isMade.nodup_names apart) member also differ

/-- **Far pointers are the same just for the same contents**, since nothing that is stored is
empty. -/
theorem farPointer_eq_iff (isMade : IsMade read geometry project game)
    (apart : NamesApart read project) (member : (symbol, asset) ∈ entries (made read) project)
    (also : (other, second) ∈ entries (made read) project) :
    ∃ pointer target, game.farPointer? symbol = some pointer ∧ game.farPointer? other = some target
      ∧ (pointer = target ↔ asset.kind = second.kind ∧ asset.payload = second.payload) := by
  rw [isMade.farPointer?_of_mem_entries apart member, isMade.farPointer?_of_mem_entries apart also]
  have listed := isMade.mem_blobs_of_mem_entries apart member
  have alsoListed := isMade.mem_blobs_of_mem_entries apart also
  by_cases same : asset.symbol = second.symbol
  · obtain ⟨_, _, _, _, _, _, _, address⟩ :=
      isMade.accepts.exists_address (isMade.nodup_names apart) listed
    have pointer := (isMade.farPointer?_of_mem_blobs listed).trans address
    have equal : asset = second := apart _ member _ also same
    refine ⟨_, _, pointer, same ▸ pointer, ?_⟩
    simp [equal]
  · obtain ⟨pointer, target, first, next, disjoint⟩ :=
      isMade.exists_areApart apart listed alsoListed same
    refine ⟨pointer, target, first, next, fun equal => ?_, fun ⟨kind, payload⟩ => ?_⟩
    · have size : 0 < asset.payload.length :=
        PackedAssets.length_payload_pos_of_mem_entries member
      have otherSize : 0 < second.payload.length :=
        PackedAssets.length_payload_pos_of_mem_entries also
      have behind := disjoint (congrArg Prod.fst equal)
      rw [equal] at behind
      simp only [Blob.size, Blob.aligned, List.size_toArray] at behind
      omega
    · have equal : asset = second := PackedAssets.eq_of_mem_entries member also kind payload
      exact absurd (congrArg PackedAsset.symbol equal) same

end IsMade

/-- **Every game that is made shares what is the same, and nothing else**, if the first digits of
digests do not collide. -/
theorem ofProject_shares (compiled : ofProject read geometry project = .ok game)
    (digitsApart : DigitsApart read project) : game.Shares read project := by
  have isMade := ofProject_eq_ok_iff.1 compiled
  have apart := digitsApart.namesApart
  have distinct := isMade.nodup_names apart
  have perm := isMade.accepts.names_perm
  constructor
  case packed => exact PackedAssets.packed_eq isMade.assets apart
  case distinct =>
    exact fun _ _ _ _ there also =>
      PackedAssets.place_eq_of_payload_eq isMade.assets apart there also
  case asset =>
    intro earlier source later whole
    obtain ⟨payload, packed⟩ := PackedAssets.accepts_of_refusals_eq_nil
      (PackedAssets.ofProject_eq_ok isMade.assets).1 whole
    have member := PackedAssets.mem_entries_of_eq_ok whole packed
    exact ⟨payload, packed, isMade.get?_of_mem_entries apart member⟩
  case palette =>
    intro palette declared
    exact isMade.get?_of_mem_entries apart (PackedAssets.mem_entries_of_mem_palettes declared)
  case aliased =>
    intro asset stored
    obtain ⟨symbol, member⟩ := PackedAssets.mem_entries_of_mem_packed isMade.assets stored
    exact ⟨symbol, isMade.mem_resourceSymbols member, isMade.get?_of_mem_entries apart member⟩
  case farPointers =>
    intro first declared second alsoDeclared
    obtain ⟨one, member⟩ := isMade.exists_entry declared
    obtain ⟨other, also⟩ := isMade.exists_entry alsoDeclared
    obtain ⟨pointer, target, pointers⟩ := isMade.farPointer_eq_iff apart member also
    exact ⟨one, other, pointer, target, isMade.get?_of_mem_entries apart member,
      isMade.get?_of_mem_entries apart also, pointers⟩
  case physical =>
    intro symbol declared
    obtain ⟨asset, member⟩ := isMade.exists_entry declared
    have found := isMade.get?_of_mem_entries apart member
    exact ⟨asset, PackedAssets.mem_packed_of_get? found, found,
      isMade.farPointer?_of_mem_entries apart member⟩
  case apart =>
    intro first member second also differ
    refine isMade.exists_areApart apart member also fun same => differ ?_
    exact List.inj_on_of_nodup_map distinct member also same
  case once => exact ⟨perm.nodup_iff.2 distinct, perm⟩

/-! ### A project with palettes and a song -/

/-- A palette of one colour, but for the lightest shade. -/
def night (name : String) : Palette := ⟨name, ⟨#[⟨24, 0, 0⟩, ⟨0, 0, 0⟩, ⟨0, 0, 0⟩, ⟨0, 0, 0⟩], rfl⟩⟩

/-- A palette of one colour. -/
def dim (name : String) : Palette := ⟨name, .replicate 4 ⟨255, 128, 64⟩⟩

/-- The same colours twice, others, and a song. -/
def twilight : Project where
  title := "Twilight"
  startScene := none
  gameVariables := []
  flags := []
  palettes := [dim "dawn", dim "dusk", night "midnight"]
  assets := [⟨"hush", .song, "hush.txt"⟩]
  scenes := []
  actors := []
  triggers := []
  scripts := []

/-- The file of the song: three rows without a note. -/
def hushFile : String → Except FileError ByteArray := fun _ =>
  .ok ⟨#[0x2D, 0x2D, 0x2D, 0x0A, 0x2D, 0x2D, 0x2D, 0x0A, 0x2D, 0x2D, 0x2D]⟩

/-- What is packed for the song. -/
def hushed : PackedAsset := .ofPayload (.asset .song) [3, 0, 0, 0, 0, 0, 0, 0]

/-- The song is packed as the same bytes as one of the palettes. -/
theorem payload_hushed : hushed.payload = (night "midnight").payload := by decide

theorem made_hush : made hushFile [] ⟨"hush", .song, "hush.txt"⟩ = .ok [3, 0, 0, 0, 0, 0, 0, 0] := by
  have packed : (AssetKind.payload .song "hush.txt"
      ⟨#[0x2D, 0x2D, 0x2D, 0x0A, 0x2D, 0x2D, 0x2D, 0x0A, 0x2D, 0x2D, 0x2D]⟩).toOption
      = some [3, 0, 0, 0, 0, 0, 0, 0] := by decide +kernel
  rw [PackedAssets.made_nil]
  exact eq_ok_of_toOption packed

theorem entries_twilight : entries (made hushFile) twilight
    = [(assetSymbol "hush", hushed),
      (paletteSymbol "dawn", .ofPayload .palette (dim "").payload),
      (paletteSymbol "dusk", .ofPayload .palette (dim "").payload),
      (paletteSymbol "midnight", .ofPayload .palette (night "").payload)] := by
  show (PackedAssets.entry (made hushFile) [] _ ++ []) ++ _ = _
  rw [PackedAssets.entry, made_hush]
  rfl

theorem digitsApart_twilight : DigitsApart hushFile twilight := by
  refine @PackedAssets.digitsApart_of_nodup _ _ (hushed :: [dim "", night ""].map fun palette =>
    .ofPayload .palette palette.payload) ?_ (by decide +kernel)
  rw [entries_twilight]
  simp

theorem exists_twilight : ∃ game, ofProject hushFile ⟨16384, 4, 2⟩ twilight = .ok game := by
  have valid : twilight.validate = .ok () := by
    refine Project.validate_eq_ok_iff.2 ?_
    constructor <;> simp [twilight, dim, night]
  obtain ⟨tables, madeTables⟩ : ∃ tables, Tables.ofProject twilight = .ok tables :=
    Tables.exists_ofProject (by decide) (by decide)
  obtain ⟨progress, _, result⟩ := PackedAssets.ofProject_eq hushFile twilight
  have accepted : PackedAssets.refusals (made hushFile) twilight.assets = [] := by
    show PackedAssets.refusal _ [] _ ++ [] = _
    rw [PackedAssets.refusal, made_hush]
    rfl
  have packed := result.trans (PackedAssets.verdict_eq_ok_iff.2 ⟨accepted, rfl⟩)
  have stored : progress.assets.packed.toList = [hushed,
      .ofPayload .palette (dim "").payload, .ofPayload .palette (night "").payload] := by
    have otherKind : ∀ payload, PackedAsset.ofPayload .palette payload ≠ hushed := by
      intro payload same
      cases congrArg PackedAsset.kind same
    have otherColours : PackedAsset.ofPayload .palette (night "").payload
        ≠ .ofPayload .palette (dim "").payload :=
      fun same => absurd (congrArg PackedAsset.payload same) (by decide)
    rw [PackedAssets.packed_eq packed digitsApart_twilight.namesApart, entries_twilight]
    simp [List.eraseDups_cons, otherKind, otherColours]
  obtain ⟨allocation, allocated⟩ : ∃ allocation,
      Allocation.ofBlobs ⟨16384, 4, 2⟩ (blobs [] progress.assets) = .ok allocation := by
    refine Allocation.exists_ofBlobs (by decide) (by decide) (by decide) ?_ ?_
    · rw [blobs, stored]
      decide
    · rw [blobs, stored]
      exact (by decide : 3 ≤ 4)
  exact ⟨⟨twilight.title, tables, [], progress.assets, World.ofProject twilight tables, allocation⟩,
    ofProject_eq_ok_iff.2 ⟨rfl, valid, madeTables, rfl, packed, allocated, rfl⟩⟩

/-- Two palettes have the same far pointer. One with other colours has not, and the song has neither,
though it has the bytes of a palette. -/
theorem ofProject_shares_twilight :
    ∃ game, ofProject hushFile ⟨16384, 4, 2⟩ twilight = .ok game
      ∧ DigitsApart hushFile twilight ∧ hushed.payload = (night "midnight").payload
      ∧ ∃ dawn midnight hush, game.farPointer? (paletteSymbol "dawn") = some dawn
        ∧ game.farPointer? (paletteSymbol "dusk") = some dawn
        ∧ game.farPointer? (paletteSymbol "midnight") = some midnight
        ∧ game.farPointer? (assetSymbol "hush") = some hush
        ∧ dawn ≠ midnight ∧ midnight ≠ hush := by
  obtain ⟨game, compiled⟩ := exists_twilight
  have apart := digitsApart_twilight
  have shares := ofProject_shares compiled apart
  have dawn := shares.palette (dim "dawn") (by simp [twilight])
  have dusk := shares.palette (dim "dusk") (by simp [twilight])
  have midnight := shares.palette (night "midnight") (by simp [twilight])
  obtain ⟨payload, packed, hush⟩ := shares.asset [] ⟨"hush", .song, "hush.txt"⟩ [] rfl
  cases packed.symm.trans made_hush
  have declared : twilight.resourceSymbols = [assetSymbol "hush", paletteSymbol "dawn",
    paletteSymbol "dusk", paletteSymbol "midnight"] := rfl
  obtain ⟨first, second, atDawn, atDusk, same⟩ :=
    shares.exists_farPointers (by simp [declared, dim]) (by simp [declared, dim]) dawn dusk
  obtain ⟨_, third, alsoAtDawn, atMidnight, differ⟩ :=
    shares.exists_farPointers (by simp [declared, dim]) (by simp [declared, night]) dawn midnight
  obtain ⟨_, fourth, alsoAtMidnight, atHush, kinds⟩ :=
    shares.exists_farPointers (by simp [declared, night]) (by simp [declared]) midnight hush
  cases alsoAtDawn.symm.trans atDawn
  cases alsoAtMidnight.symm.trans atMidnight
  refine ⟨game, compiled, apart, payload_hushed, first, third, fourth, atDawn,
    same.2 ⟨rfl, rfl⟩ ▸ atDusk, atMidnight, atHush, fun equal => ?_, fun equal => ?_⟩
  · exact absurd (differ.1 equal).2 (by decide)
  · cases (kinds.1 equal).1

end Game
end Cartridge
