import Cartridge.Proofs.Asset.Deduplication
import Cartridge.Proofs.Bank.Image
import Cartridge.Proofs.Game.Clashes
import Cartridge.Proofs.Game.Files
import Cartridge.Proofs.Script.Mentions
import Cartridge.Proofs.Source.Texts
import Cartridge.Proofs.World.Placement

/-!
# Where the pointers lead

The engine finds a script, an asset or a palette by the index of its symbol: the index picks a row of
the pointer table, the row gives a bank and an offset, and there are the bytes. The macros with the
indices, the table and the banks all come from the generated files.

* `Output`: what the engine takes from the files. `Game.Emits`: the files that it is taken from.
* `Project.Contents`: the bytes that a symbol stands for.
* `Game.Leads`: the bytes that the engine finds for an index.
* `Game.IsMade.leads`: for the index of a symbol, it finds the bytes that the symbol stands for.
* `Game.IsMade.leadsTo`: so it does for the indices in the code of a script, and they are those of
  what the script mentions.
* `Game.ofProject_leads`: all of this for every game that is made.
-/

namespace Cartridge

open PackedAssets (entries made refusals NamesApart DigitsApart)
open BankArray (IsPlain)

variable {read : String → Except FileError ByteArray} {project : Project}

/-! ### What the engine takes -/

/-- **What the engine takes from the generated files.** -/
structure Output where
  /-- The text of `banks.h`. -/
  banks : String
  /-- The text of `data_ptrs.h`, which includes the other header. -/
  header : String
  /-- The text of `data_ptrs.c`. -/
  tables : String
  /-- The bytes of `banks.bin`. -/
  image : Array UInt8

namespace Output

/-- The definitions in both headers. -/
def definitions (output : Output) : List (String × String) :=
  Header.readDefinitions output.banks ++ Header.readDefinitions output.header

/-- **A macro has one definition only**, and it has this value. -/
def DefinesOnce (output : Output) (name value : String) : Prop :=
  output.definitions.filter (fun pair => pair.1 = name) = [(name, value)]

end Output

/-- **The engine takes these from the files of a game**, no two of which have the same path. -/
structure Game.Emits (game : Game) (output : Output) : Prop where
  banks : ⟨"banks.h", .text output.banks⟩ ∈ game.sourceFiles
  header : ⟨"data_ptrs.h", .text output.header⟩ ∈ game.sourceFiles
  tables : ⟨"data_ptrs.c", .text output.tables⟩ ∈ game.sourceFiles
  image : ⟨"banks.bin", .bytes output.image⟩ ∈ game.sourceFiles
  nodup_paths : (game.sourceFiles.map SourceFile.path).Nodup

/-! ### What the symbols stand for -/

/-- Whether the payloads of a kind hold tiles. -/
def AssetKind.holdsTiles : AssetKind → Bool
  | image | tileset => true
  | song | sound => false

theorem AssetKind.align_of_holdsTiles {kind : AssetKind} (tiles : kind.holdsTiles = true) :
    (PackedKind.asset kind).align = 16 := by
  cases kind with
  | image | tileset => rfl
  | song | sound => cases tiles

namespace Project

/-- **The bytes that a symbol stands for**, and whether they hold tiles: the code of a script, or what
has been packed for an asset or a palette. -/
inductive Contents (read : String → Except FileError ByteArray) (project : Project)
    (tables : Tables) : String → List UInt8 → Bool → Prop where
  | script {source script} (declared : source ∈ project.scriptSources)
    (compiled : CompiledScript.ofSource tables source = .ok script) :
    Contents read project tables source.symbol script.code false
  | asset {earlier source later payload} (declared : project.assets = earlier ++ source :: later)
    (packed : made read earlier source = .ok payload) :
    Contents read project tables (assetSymbol source.name) payload source.kind.holdsTiles
  | palette {palette} (declared : palette ∈ project.palettes) :
    Contents read project tables (paletteSymbol palette.name) palette.payload false

/-- The symbols of the scripts come before those of the assets and the palettes. -/
theorem map_symbol_declarations (project : Project) :
    project.declarations.map Declaration.symbol
      = project.scriptSources.map ScriptSource.symbol
        ++ (project.assets.map (fun source => assetSymbol source.name)
          ++ project.palettes.map fun palette => paletteSymbol palette.name) := by
  simp only [declarations, scriptSources, List.map_append, List.map_map, List.append_assoc]
  rfl

theorem exists_script_of_mem_declarations {name : String}
    (listed : ⟨.script, name⟩ ∈ project.declarations) : ∃ own ∈ project.scripts, own.name = name := by
  simpa [declarations] using listed

theorem exists_scene_of_mem_declarations {name : String}
    (listed : ⟨.scene, name⟩ ∈ project.declarations) :
    ∃ scene ∈ project.scenes, scene.name = name := by
  simpa [declarations] using listed

end Project

/-- The project declares what is mentioned: a script or a scene with the same symbol, or a song or a
sound of that name. -/
def Mention.IsDeclared (project : Project) : Mention → Prop
  | script name => ∃ own ∈ project.scripts, scriptSymbol own.name = scriptSymbol name
  | scene name => ∃ scene ∈ project.scenes, sceneSymbol scene.name = sceneSymbol name
  | song name => ∃ source ∈ project.assets, source.name = name ∧ source.kind = .song
  | sound name => ∃ source ∈ project.assets, source.name = name ∧ source.kind = .sound

namespace Game

open Header (symbolMacro startMacro)

/-- **The bytes that the engine finds for an index.** The macro of the symbol is defined once, as
the index. The row of the index gives a bank of the game and an offset into it. There the bytes are,
within the bank; where they hold tiles, the offset is a multiple of 16. -/
structure Leads (game : Game) (output : Output) (symbol : String) (index : UInt16)
    (bytes : List UInt8) (tiles : Bool) : Prop where
  index_lt : index.toNat < game.tables.symbols.size
  defined : output.DefinesOnce ("SYM_" ++ Identifier.upper symbol) (toString index.toNat)
  row : ∃ bank offset : UInt16,
    DataSource.pointerAt? output.tables index.toNat = some (bank.toNat, offset.toNat)
      ∧ game.farPointer? symbol = some (bank, offset)
      ∧ game.allocation.firstBank.toNat ≤ bank.toNat
      ∧ bank.toNat < game.allocation.firstBank.toNat + game.allocation.banks.size
      ∧ (tiles = true → 16 ∣ offset.toNat)
      ∧ offset.toNat + bytes.length ≤ game.allocation.capacity
      ∧ output.image.extract
          ((bank.toNat - game.allocation.firstBank.toNat) * game.allocation.capacity
            + offset.toNat)
          ((bank.toNat - game.allocation.firstBank.toNat) * game.allocation.capacity
            + (offset.toNat + bytes.length)) = bytes.toArray

/-- **An operand leads to what is mentioned**: it stands in the operation that takes such a thing, and
for its index the engine finds what is declared. -/
structure LeadsTo (game : Game) (output : Output) (read : String → Except FileError ByteArray)
    (project : Project) (mention : Mention) (reference : Opcode × UInt16) : Prop where
  operation : reference.1 = mention.operation
  declared : mention.IsDeclared project
  leads : ∃ bytes tiles, project.Contents read game.tables mention.symbol bytes tiles
    ∧ game.Leads output mention.symbol reference.2 bytes tiles

/-- **Every pointer in the files of a game leads to the right bytes.** -/
structure Guides (game : Game) (output : Output) (read : String → Except FileError ByteArray)
    (geometry : Geometry) (project : Project) : Prop where
  firstBank_eq : game.allocation.firstBank = geometry.firstBank
  capacity_eq : game.allocation.capacity = geometry.capacity
  firstBank : output.DefinesOnce "FIRST_DATA_BANK" (toString geometry.firstBank.toNat)
  capacity : output.DefinesOnce "BANK_CAPACITY" (toString geometry.capacity)
  banks : output.DefinesOnce "NUM_BANKS" (toString game.allocation.banks.size)
  symbols : output.DefinesOnce "SYMBOL_COUNT" (toString game.tables.symbols.size)
  /-- The symbols are those of the declarations, in their order. -/
  keys : game.tables.symbols.keys.toList = project.declarations.map Declaration.symbol
  /-- Each of them stands for something. -/
  contents : ∀ symbol index, game.tables.symbols.get? symbol = some index →
    ∃ bytes tiles, project.Contents read game.tables symbol bytes tiles
  /-- For its index the engine finds what it stands for. -/
  leads : ∀ symbol index, game.tables.symbols.get? symbol = some index →
    ∀ bytes tiles, project.Contents read game.tables symbol bytes tiles →
      game.Leads output symbol index bytes tiles
  /-- The macro of the first scene stands for that of a symbol. -/
  startScene : project.scenes ≠ [] → ∃ symbol index, game.tables.symbols.get? symbol = some index
    ∧ output.DefinesOnce "START_SCENE_SYMBOL" ("SYM_" ++ Identifier.upper symbol)
  /-- The indices in the code of a script lead to what its events mention, one by one. -/
  scripts : ∀ script ∈ game.scripts, ∃ source ∈ project.scriptSources,
    CompiledScript.ofSource game.tables source = .ok script
      ∧ ∃ instructions, Instruction.readScript? script.code = some instructions
        ∧ List.Forall₂ (game.LeadsTo output read project) (Event.blockMentions source.body)
          (instructions.flatMap Instruction.references)

variable {geometry : Geometry} {game : Game}

namespace IsMade

variable {symbol : String} {index : UInt16} {bytes : List UInt8} {tiles : Bool}
  {output : Output}

/-! ### The files -/

/-- The files of a game are the texts of its headers and its tables, and the image of its banks. -/
theorem exists_output (isMade : IsMade read geometry project game) :
    ∃ output, game.Emits output ∧ output.definitions = game.definitions
      ∧ output.tables = joinLines (DataSource.lines game)
      ∧ output.image = bankImage game.allocation := by
  have start : ∀ symbol, game.tables.startScene = some symbol → IsWhole (symbolMacro symbol) := by
    intro symbol found
    rw [(Tables.ofProject_eq_ok isMade.tables).2.2] at found
    obtain ⟨name, _, rfl⟩ := Option.map_eq_some_iff.1 found
    exact IsPlain.isWhole (Header.isPart_of_mem_symbolMacro ⟨.scene, name⟩)
  refine ⟨⟨Header.render (Header.ofBanks game.allocation), Header.render (Header.ofData game),
    joinLines (DataSource.lines game), bankImage game.allocation⟩, ?_, ?_, rfl, rfl⟩
  · refine ⟨mem_sourceFiles (.inl ?_), mem_sourceFiles (.inl ?_), mem_sourceFiles (.inl ?_),
      mem_sourceFiles (.inr ?_), isMade.nodup_paths⟩
    · simp [headFiles, bankHeaderName]
    · simp [headFiles, dataHeaderName]
    · simp [headFiles, dataSourceName]
    · simp [bankImageName]
  · rw [Output.definitions, Header.readDefinitions_render (Header.isWhole_of_mem_ofBanks _),
      Header.readDefinitions_ofData isMade.numbers start, definitions]

/-- The names in the tables are plain. -/
theorem isPlain_of_mem_keys (isMade : IsMade read geometry project game) :
    ∀ symbol ∈ game.tables.symbols.keys.toList, IsPlain symbol := by
  intro symbol listed
  rw [isMade.numbers.keys] at listed
  exact Project.isPlain_of_declared listed

/-! ### What is placed -/

theorem map_symbol_scripts (isMade : IsMade read geometry project game) :
    game.scripts.map CompiledScript.symbol = project.scriptSources.map ScriptSource.symbol :=
  CompiledScript.map_symbol_of_forall₂ (CompiledScript.forall₂_of_compileScripts isMade.scripts)

theorem map_name_blobs (scripts : List CompiledScript) (assets : PackedAssets) :
    (blobs scripts assets).map Blob.name
      = scripts.map CompiledScript.symbol ++ assets.packed.toList.map PackedAsset.symbol := by
  rw [blobs, List.map_append, List.map_map, List.map_map]
  rfl

/-- The names of what is stored for assets are not among the symbols. -/
theorem not_mem_packed_of_declared (project : Project) {assets : PackedAssets}
    (declared : symbol ∈ project.declarations.map Declaration.symbol) :
    symbol ∉ assets.packed.toList.map PackedAsset.symbol := by
  obtain ⟨declaration, _, rfl⟩ := List.mem_map.1 declared
  intro stored
  obtain ⟨asset, _, same⟩ := List.mem_map.1 stored
  exact declaration.symbol_ne_blob asset same.symm

/-- **Nothing that is placed has the name of something else.** -/
theorem nodup_names (isMade : IsMade read geometry project game) (apart : NamesApart read project) :
    ((blobs game.scripts game.assets).map Blob.name).Nodup := by
  have symbols := isMade.numbers.nodup
  rw [Project.map_symbol_declarations, List.nodup_append] at symbols
  rw [map_name_blobs, isMade.map_symbol_scripts, List.nodup_append]
  refine ⟨symbols.1, PackedAssets.nodup_symbols isMade.assets apart, ?_⟩
  intro symbol script other stored same
  rw [← same] at stored
  refine not_mem_packed_of_declared project ?_ stored
  rw [Project.map_symbol_declarations]
  exact List.mem_append_left _ script

theorem map_fst_entries (isMade : IsMade read geometry project game) :
    (entries (made read) project).map Prod.fst
      = project.assets.map (fun source => assetSymbol source.name)
        ++ project.palettes.map fun palette => paletteSymbol palette.name :=
  PackedAssets.map_fst_entries (PackedAssets.ofProject_eq_ok isMade.assets).1

theorem get?_of_mem_entries (isMade : IsMade read geometry project game)
    (apart : NamesApart read project) {one : PackedAssets.Entry}
    (member : one ∈ entries (made read) project) : game.assets.get? one.1 = some one.2 := by
  refine PackedAssets.get?_of_mem_entries isMade.assets apart ?_ member
  have symbols := isMade.numbers.nodup
  rw [Project.map_symbol_declarations, List.nodup_append] at symbols
  rw [isMade.map_fst_entries]
  exact symbols.2.1

/-- **Every symbol stands for something.** -/
theorem exists_contents (isMade : IsMade read geometry project game)
    (declared : symbol ∈ project.declarations.map Declaration.symbol) :
    ∃ bytes tiles, project.Contents read game.tables symbol bytes tiles := by
  rw [Project.map_symbol_declarations] at declared
  rcases List.mem_append.1 declared with script | rest
  · obtain ⟨source, listed, rfl⟩ := List.mem_map.1 script
    obtain ⟨place, inside, rfl⟩ := List.getElem_of_mem listed
    have each := CompiledScript.forall₂_of_compileScripts isMade.scripts
    have compiled := each.get inside (each.length_eq ▸ inside)
    exact ⟨_, _, .script listed compiled⟩
  · rcases List.mem_append.1 rest with asset | palette
    · obtain ⟨source, listed, rfl⟩ := List.mem_map.1 asset
      obtain ⟨earlier, later, whole⟩ := List.append_of_mem listed
      obtain ⟨payload, packed⟩ := PackedAssets.accepts_of_refusals_eq_nil
        (PackedAssets.ofProject_eq_ok isMade.assets).1 whole
      exact ⟨_, _, .asset whole packed⟩
    · obtain ⟨palette, listed, rfl⟩ := List.mem_map.1 palette
      exact ⟨_, _, .palette listed⟩

/-- What is made for an asset or a palette is placed. -/
theorem mem_blobs_of_mem_entries (isMade : IsMade read geometry project game)
    (apart : NamesApart read project) {asset : PackedAsset}
    (member : (symbol, asset) ∈ entries (made read) project) :
    Blob.aligned asset.symbol asset.payload.toArray asset.kind.align
      ∈ blobs game.scripts game.assets := by
  have stored := PackedAssets.mem_packed_of_get? (isMade.get?_of_mem_entries apart member)
  exact List.mem_append_right _ (List.mem_map.2 ⟨asset, Array.mem_toList_iff.2 stored, rfl⟩)

/-- What is placed has its name in the banks. -/
theorem physicalSymbol?_of_mem_blobs (isMade : IsMade read geometry project game) {blob : Blob}
    (member : blob ∈ blobs game.scripts game.assets) :
    game.physicalSymbol? blob.name = some blob.name := by
  have present : game.allocation.addresses.contains blob.name = true :=
    (isMade.accepts.contains_addresses _).2 (List.mem_map_of_mem member)
  rw [physicalSymbol?, if_pos present]

/-- The symbol of an asset or a palette stands for what is made for it. -/
theorem physicalSymbol?_of_mem_entries (isMade : IsMade read geometry project game)
    (apart : NamesApart read project) {asset : PackedAsset}
    (member : (symbol, asset) ∈ entries (made read) project) :
    game.physicalSymbol? symbol = some asset.symbol := by
  have symbols := isMade.numbers.nodup
  rw [Project.map_symbol_declarations, List.nodup_append] at symbols
  have later : symbol ∈ project.assets.map (fun source => assetSymbol source.name)
      ++ project.palettes.map fun palette => paletteSymbol palette.name := by
    rw [← isMade.map_fst_entries]
    exact List.mem_map.2 ⟨(symbol, asset), member, rfl⟩
  have absent : ¬ game.allocation.addresses.contains symbol = true := by
    rw [isMade.accepts.contains_addresses, map_name_blobs, isMade.map_symbol_scripts,
      List.mem_append]
    rintro (script | blob)
    · exact symbols.2.2 symbol script symbol later rfl
    · refine not_mem_packed_of_declared project ?_ blob
      rw [Project.map_symbol_declarations]
      exact List.mem_append_right _ later
  have present : game.allocation.addresses.contains asset.symbol = true := by
    rw [isMade.accepts.contains_addresses]
    exact List.mem_map.2 ⟨_, isMade.mem_blobs_of_mem_entries apart member, rfl⟩
  rw [physicalSymbol?, if_neg absent, isMade.get?_of_mem_entries apart member]
  exact if_pos present

/-- What is made for an asset or a palette is placed, and its symbol stands for it. -/
theorem exists_blob_of_mem_entries (isMade : IsMade read geometry project game)
    (apart : NamesApart read project) {asset : PackedAsset}
    (member : (symbol, asset) ∈ entries (made read) project) :
    ∃ blob ∈ blobs game.scripts game.assets, game.physicalSymbol? symbol = some blob.name
      ∧ blob.bytes = asset.payload.toArray ∧ asset.kind.align ∣ blob.align := by
  refine ⟨_, isMade.mem_blobs_of_mem_entries apart member,
    isMade.physicalSymbol?_of_mem_entries apart member, rfl, ?_⟩
  show asset.kind.align ∣ max asset.kind.align 1
  cases asset.kind with
  | palette => exact Nat.dvd_refl 1
  | asset kind => cases kind <;> decide

/-- **What a symbol stands for is placed** under the name that the symbol has in the banks. -/
theorem exists_blob (isMade : IsMade read geometry project game) (apart : NamesApart read project)
    (contents : project.Contents read game.tables symbol bytes tiles) :
    ∃ blob ∈ blobs game.scripts game.assets, game.physicalSymbol? symbol = some blob.name
      ∧ blob.bytes = bytes.toArray ∧ (tiles = true → 16 ∣ blob.align) := by
  cases contents with
  | @script source script declared compiled =>
    have each := CompiledScript.forall₂_of_compileScripts isMade.scripts
    obtain ⟨place, inside, rfl⟩ := List.getElem_of_mem declared
    have there := each.get inside (each.length_eq ▸ inside)
    have same := Except.ok.inj (compiled.symm.trans there)
    have listed : Blob.aligned script.symbol script.code.toArray 1
        ∈ blobs game.scripts game.assets :=
      List.mem_append_left _ (List.mem_map.2 ⟨script, same ▸ List.get_mem _ _, rfl⟩)
    refine ⟨_, listed, ?_, rfl, nofun⟩
    rw [← CompiledScript.symbol_of_ofSource compiled]
    exact isMade.physicalSymbol?_of_mem_blobs listed
  | @asset earlier source later payload declared packed =>
    obtain ⟨blob, listed, physical, same, aligned⟩ := isMade.exists_blob_of_mem_entries apart
      (PackedAssets.mem_entries_of_eq_ok declared packed)
    refine ⟨blob, listed, physical, same, fun tiles => ?_⟩
    rwa [← AssetKind.align_of_holdsTiles tiles]
  | @palette palette declared =>
    obtain ⟨blob, listed, physical, same, _⟩ := isMade.exists_blob_of_mem_entries apart
      (PackedAssets.mem_entries_of_mem_palettes declared)
    exact ⟨blob, listed, physical, same, nofun⟩

/-- **For the index of a symbol, the engine finds the bytes that the symbol stands for.** -/
theorem leads (isMade : IsMade read geometry project game) (apart : NamesApart read project)
    (defines : output.definitions = game.definitions)
    (tables : output.tables = joinLines (DataSource.lines game))
    (image : output.image = bankImage game.allocation)
    (numbered : game.tables.symbols.get? symbol = some index)
    (contents : project.Contents read game.tables symbol bytes tiles) :
    game.Leads output symbol index bytes tiles := by
  obtain ⟨blob, listed, physical, same, aligned⟩ := isMade.exists_blob apart contents
  have accepts := isMade.accepts
  obtain ⟨place, bank, placed, found, there, stands, number, address⟩ :=
    accepts.exists_address (isMade.nodup_names apart) listed
  have sound := isMade.isSound_of_mem_banks
  have bankSound := sound bank (Array.mem_of_getElem? found)
  have pointer : game.farPointer? symbol = some (bank.index, placed.offset) := by
    rw [farPointer?, physical]
    exact address
  obtain ⟨few, _⟩ := Array.getElem?_eq_some_iff.1 found
  have size : placed.bytes.size = bytes.length := by
    rw [stands.bytes, same, List.size_toArray]
  have inside := Nat.le_trans (bankSound.past_le placed there) bankSound.used_le
  have extracted := extract_bankImage sound found there
  rw [Placed.past, size] at inside extracted
  refine ⟨isMade.numbers.index_lt numbered, ?_, bank.index, placed.offset, ?_, pointer, ?_⟩
  · rw [Output.DefinesOnce, defines]
    exact isMade.definesOnce_symbolMacro numbered
  · rw [tables]
    refine DataSource.pointerAt?_lines isMade.isPlain_of_mem_keys ?_ pointer
    rw [isMade.numbers.keys]
    exact isMade.numbers.get?_eq_some_iff.1 numbered
  · rw [image, accepts.firstBank, number, Nat.add_sub_cancel_left, extracted, stands.bytes, same]
    exact ⟨Nat.le_add_right _ _, Nat.add_lt_add_left few _,
      fun holds => Nat.dvd_trans (aligned holds) stands.aligned, inside, rfl⟩

/-! ### What scripts mention -/

theorem isDeclared (isMade : IsMade read geometry project game) {mention : Mention}
    {reference : Opcode × UInt16} (means : mention.Means game.tables reference) :
    mention.IsDeclared project := by
  have declares : ∀ category name, mention.symbol = Declaration.symbol ⟨category, name⟩ →
      ∃ other, Declaration.mk category other ∈ project.declarations
        ∧ Declaration.symbol ⟨category, other⟩ = Declaration.symbol ⟨category, name⟩ := by
    intro category name named
    have there := isMade.numbers.get?_eq_some_iff.1 means.index
    obtain ⟨⟨found, other⟩, listed, same⟩ := List.mem_map.1 (List.mem_of_getElem? there)
    rw [named] at same
    obtain ⟨rfl, _⟩ := (Declaration.symbol_eq_iff _ _).1 same
    exact ⟨other, listed, same⟩
  cases mention with
  | script name =>
    obtain ⟨other, listed, same⟩ := declares .script name rfl
    obtain ⟨own, member, rfl⟩ := Project.exists_script_of_mem_declarations listed
    exact ⟨own, member, same⟩
  | scene name =>
    obtain ⟨other, listed, same⟩ := declares .scene name rfl
    obtain ⟨scene, member, rfl⟩ := Project.exists_scene_of_mem_declarations listed
    exact ⟨scene, member, same⟩
  | song name => exact Tables.exists_asset_of_get? isMade.tables means.known
  | sound name => exact Tables.exists_asset_of_get? isMade.tables means.known

/-- **An index in the code leads to what is mentioned.** -/
theorem leadsTo (isMade : IsMade read geometry project game)
    (finds : ∀ symbol index, game.tables.symbols.get? symbol = some index →
      ∀ bytes tiles, project.Contents read game.tables symbol bytes tiles →
        game.Leads output symbol index bytes tiles)
    {mention : Mention} {reference : Opcode × UInt16}
    (means : mention.Means game.tables reference) :
    game.LeadsTo output read project mention reference := by
  have there := isMade.numbers.get?_eq_some_iff.1 means.index
  obtain ⟨bytes, tiles, contents⟩ := isMade.exists_contents (List.mem_of_getElem? there)
  exact ⟨means.operation, isMade.isDeclared means, bytes, tiles, contents,
    finds _ _ means.index _ _ contents⟩

/-- The macro of the first scene stands for the macro of a symbol, if there is a scene. -/
theorem exists_startSymbol (isMade : IsMade read geometry project game)
    (some : project.scenes ≠ []) :
    ∃ symbol index, game.tables.symbols.get? symbol = .some index
      ∧ startMacro game.tables = symbolMacro symbol := by
  obtain ⟨scene, member, start⟩ := Tables.exists_startScene isMade.valid isMade.tables some
  have declared : sceneSymbol scene.name ∈ project.declarations.map Declaration.symbol := by
    refine List.mem_map.2 ⟨⟨.scene, scene.name⟩, ?_, rfl⟩
    simp only [Project.declarations, List.append_assoc]
    exact List.mem_append_left _ (List.mem_map.2 ⟨scene, member, rfl⟩)
  obtain ⟨index, found⟩ := isMade.numbers.exists_index declared
  exact ⟨_, index, found, by rw [startMacro, start]⟩

end IsMade

/-! ### A project with a song and an image -/

/-- A scene that plays a song, and an image. -/
def chime : Project where
  title := "Chime"
  startScene := none
  gameVariables := []
  flags := []
  palettes := []
  assets := [⟨"bell", .song, "bell.txt"⟩, ⟨"sign", .image, "sign.bmp"⟩]
  scenes := [⟨"hall", none, [.playSong "bell"]⟩]
  actors := []
  triggers := []
  scripts := []

/-- The file of the song: 16 rows without a note. -/
def bellFile : List UInt8 := (List.replicate 16 [0x2D, 0x2D, 0x2D, 0x0A]).flatten

/-- The file of the image: a frame of eight by eight pixels in two colours. -/
def signFile : List UInt8 :=
  [0x42, 0x4D, 94, 0, 0, 0, 0, 0, 0, 0, 62, 0, 0, 0, 40, 0, 0, 0, 8, 0, 0, 0, 8, 0, 0, 0, 1, 0, 1, 0]
    ++ List.replicate 28 0 ++ [255, 255, 255, 0, 0xFF, 0, 0, 0]
    ++ (List.replicate 6 [0x81, 0, 0, 0]).flatten ++ [0, 0, 0, 0]

def chimeFile (path : String) : Except FileError ByteArray :=
  .ok ⟨(if path = "bell.txt" then bellFile else signFile).toArray⟩

/-- What is packed for the song: the number of its rows, and none of them has a note. -/
def bellPayload : List UInt8 := 16 :: 0 :: List.replicate 32 0

/-- What is packed for the image: its size in tiles, and one tile. -/
def signPayload : List UInt8 := [1, 1, 255, 255] ++ List.replicate 12 126 ++ [0, 0]

theorem made_bell : made chimeFile [] ⟨"bell", .song, "bell.txt"⟩ = .ok bellPayload := by
  have packed : (AssetKind.payload .song "bell.txt" ⟨bellFile.toArray⟩).toOption
      = some bellPayload := by decide +kernel
  rw [PackedAssets.made_nil]
  exact eq_ok_of_toOption packed

theorem made_sign : made chimeFile [⟨"bell", .song, "bell.txt"⟩] ⟨"sign", .image, "sign.bmp"⟩
    = .ok signPayload := by
  have packed : (AssetKind.payload .image "sign.bmp" ⟨signFile.toArray⟩).toOption
      = some signPayload := by decide +kernel
  rw [PackedAssets.made_of_new_kind (by simp), PackedAssets.made_nil]
  exact eq_ok_of_toOption packed

theorem entries_chime : entries (made chimeFile) chime
    = [(assetSymbol "bell", .ofPayload (.asset .song) bellPayload),
      (assetSymbol "sign", .ofPayload (.asset .image) signPayload)] := by
  show (PackedAssets.entry (made chimeFile) [] _
    ++ (PackedAssets.entry (made chimeFile) [⟨"bell", .song, "bell.txt"⟩] _ ++ [])) ++ [] = _
  rw [PackedAssets.entry, PackedAssets.entry, made_bell, made_sign]
  rfl

theorem digitsApart_chime : DigitsApart chimeFile chime := by
  refine @PackedAssets.digitsApart_of_nodup _ _ [.ofPayload (.asset .song) bellPayload,
    .ofPayload (.asset .image) signPayload] ?_ (by decide +kernel)
  rw [entries_chime]
  simp

theorem validate_chime : chime.validate = .ok () := by
  refine Project.validate_eq_ok_iff.2 ?_
  constructor <;> simp [chime, Project.validateScene]

theorem exists_packed_chime : ∃ assets, PackedAssets.ofProject chimeFile chime = .ok assets
    ∧ assets.packed.toList = [.ofPayload (.asset .song) bellPayload,
      .ofPayload (.asset .image) signPayload] := by
  obtain ⟨progress, _, result⟩ := PackedAssets.ofProject_eq chimeFile chime
  have accepted : refusals (made chimeFile) chime.assets = [] := by
    show PackedAssets.refusal _ [] _
      ++ (PackedAssets.refusal _ [⟨"bell", .song, "bell.txt"⟩] _ ++ []) = _
    rw [PackedAssets.refusal, PackedAssets.refusal, made_bell, made_sign]
    rfl
  have packed := result.trans (PackedAssets.verdict_eq_ok_iff.2 ⟨accepted, rfl⟩)
  refine ⟨_, packed, ?_⟩
  rw [PackedAssets.packed_eq packed digitsApart_chime.namesApart, entries_chime]
  have differ : (PackedAsset.ofPayload (.asset .image) signPayload)
      ≠ .ofPayload (.asset .song) bellPayload := fun same => by
    cases congrArg PackedAsset.kind same
  simp [List.eraseDups_cons, differ]

theorem exists_tables_chime : ∃ tables, Tables.ofProject chime = .ok tables
    ∧ tables.symbols.get? (assetSymbol "bell") = some 1
    ∧ tables.symbols.get? (assetSymbol "sign") = some 2
    ∧ tables.assets.get? "bell" = some .song := by
  have distinct : (chime.declarations.map Declaration.symbol).Nodup := by decide
  obtain ⟨tables, made⟩ := Tables.exists_ofProject distinct (by decide)
  obtain ⟨numbers, assets, _⟩ := Tables.ofProject_eq_ok made
  refine ⟨tables, made, numbers.get?_eq 1 _ rfl, numbers.get?_eq 2 _ rfl, ?_⟩
  rw [assets]
  exact OrderedTable.get?_insertAll_of_mem (by decide) List.mem_cons_self

theorem exists_scripts_chime {tables : Tables}
    (bell : tables.symbols.get? (assetSymbol "bell") = some 1)
    (kind : tables.assets.get? "bell" = some .song) :
    ∃ script, chime.compileScripts tables = .ok [script] ∧ script.code.length = 4 := by
  have resolved : (Event.playSong "bell").resolve tables
      = .ok (.plain ⟨.playSong, [.symbol 1]⟩) := by
    simp only [Event.resolve, Tables.asset, kind, bell, Tables.lookUp]
    rfl
  have compiled : ∀ origin, ∃ script : CompiledScript,
      CompiledScript.ofSource tables ⟨sceneSymbol "hall", origin, [.playSong "bell"]⟩ = .ok script
        ∧ script.code.length = 4 := by
    intro origin
    have parts := CompiledScript.ofSource_eq tables
      ⟨sceneSymbol "hall", origin, [.playSong "bell"]⟩
    simp only [Event.script, Event.block, Event.statement_of_resolve resolved] at parts
    exact ⟨_, parts, rfl⟩
  obtain ⟨script, made, length⟩ := compiled _
  refine ⟨script, ?_, length⟩
  show CompiledScript.ofSource _ _ >>= _ = _
  rw [made]
  rfl

/-- A game is made of it, with the song and the image behind the scene. -/
theorem exists_chime : ∃ game, ofProject chimeFile ⟨16384, 4, 2⟩ chime = .ok game
    ∧ game.tables.symbols.get? (assetSymbol "bell") = some 1
    ∧ game.tables.symbols.get? (assetSymbol "sign") = some 2 := by
  obtain ⟨tables, madeTables, bell, sign, kind⟩ := exists_tables_chime
  obtain ⟨assets, madeAssets, packed⟩ := exists_packed_chime
  obtain ⟨script, madeScripts, length⟩ := exists_scripts_chime bell kind
  obtain ⟨allocation, allocated⟩ : ∃ allocation,
      Allocation.ofBlobs ⟨16384, 4, 2⟩ (blobs [script] assets) = .ok allocation := by
    refine Allocation.exists_ofBlobs (by decide) (by decide) (by decide) ?_ ?_
    · simp only [blobs, packed, List.forall_mem_append, List.map_cons, List.map_nil,
        List.forall_mem_cons]
      refine ⟨⟨?_, List.forall_mem_nil _⟩, by decide, by decide, List.forall_mem_nil _⟩
      show script.code.toArray.size ≤ 16384
      rw [List.size_toArray, length]
      decide
    · rw [blobs, packed]
      exact (by decide : 3 ≤ 4)
  exact ⟨⟨chime.title, tables, [script], assets, World.ofProject chime tables, allocation⟩,
    ofProject_eq_ok_iff.2
      ⟨rfl, validate_chime, madeTables, madeScripts, madeAssets, allocated, rfl⟩, bell, sign⟩

/-! ### Every pointer -/

/-- A macro with a fixed name is defined once, but for the number of actors. -/
theorem IsMade.definesOnce_of_mem_fixed (isMade : IsMade read geometry project game)
    {output : Output} (defines : output.definitions = game.definitions) {name value : String}
    (member : (name, value) ∈ game.fixedDefinitions) (other : name ≠ "ACTOR_COUNT") :
    output.DefinesOnce name value := by
  rw [Output.DefinesOnce, defines]
  exact (isMade.definesOnce_fixed_iff member).2 fun count => absurd count other

/-- **Every pointer in the files of a game leads to the right bytes**, if the first digits of SHA-256
digests do not collide on what is packed. -/
theorem ofProject_leads (compiled : ofProject read geometry project = .ok game)
    (digitsApart : DigitsApart read project) :
    ∃ output, game.Emits output ∧ game.Guides output read geometry project := by
  have isMade := ofProject_eq_ok_iff.1 compiled
  have accepts := isMade.accepts
  obtain ⟨output, emits, defines, tables, image⟩ := isMade.exists_output
  have once : ∀ name value, (name, value) ∈ game.fixedDefinitions → name ≠ "ACTOR_COUNT" →
      output.DefinesOnce name value :=
    fun _ _ member other => isMade.definesOnce_of_mem_fixed defines member other
  have finds : ∀ symbol index, game.tables.symbols.get? symbol = some index →
      ∀ bytes tiles, project.Contents read game.tables symbol bytes tiles →
        game.Leads output symbol index bytes tiles :=
    fun _ _ numbered _ _ => isMade.leads digitsApart.namesApart defines tables image numbered
  refine ⟨output, emits, ?_⟩
  constructor
  case firstBank_eq => exact accepts.firstBank
  case capacity_eq => exact accepts.capacity
  case firstBank =>
    rw [← accepts.firstBank]
    exact once _ _ (by simp [fixedDefinitions, earlierMacros]) (by decide)
  case capacity =>
    rw [← accepts.capacity]
    exact once _ _ (by simp [fixedDefinitions, earlierMacros]) (by decide)
  case banks => exact once _ _ (by simp [fixedDefinitions, earlierMacros]) (by decide)
  case symbols => exact once _ _ (by simp [fixedDefinitions]) (by decide)
  case keys => exact isMade.numbers.keys
  case contents =>
    intro symbol index numbered
    exact isMade.exists_contents
      (List.mem_of_getElem? (isMade.numbers.get?_eq_some_iff.1 numbered))
  case leads => exact finds
  case startScene =>
    intro scenes
    obtain ⟨symbol, index, numbered, start⟩ := isMade.exists_startSymbol scenes
    refine ⟨symbol, index, numbered, once _ _ ?_ (by decide)⟩
    have same : startMacro game.tables = "SYM_" ++ Identifier.upper symbol := start
    simp [fixedDefinitions, same]
  case scripts =>
    intro script member
    have each := CompiledScript.forall₂_of_compileScripts isMade.scripts
    obtain ⟨place, inside, rfl⟩ := List.getElem_of_mem member
    have made := each.get (each.length_eq ▸ inside) inside
    obtain ⟨instructions, read, means⟩ := CompiledScript.means_of_ofSource made
    exact ⟨_, List.get_mem _ _, made, instructions, read,
      means.imp fun mention reference => isMade.leadsTo finds⟩

/-- The engine finds the song and the image of the project with both. -/
theorem ofProject_leads_chime :
    ∃ game, ofProject chimeFile ⟨16384, 4, 2⟩ chime = .ok game
      ∧ DigitsApart chimeFile chime
      ∧ ∃ output, game.Emits output
        ∧ game.Leads output (assetSymbol "bell") 1 bellPayload false
        ∧ game.Leads output (assetSymbol "sign") 2 signPayload true := by
  obtain ⟨game, compiled, bell, sign⟩ := exists_chime
  obtain ⟨output, emits, guides⟩ := ofProject_leads compiled digitsApart_chime
  have ofBell := @Project.Contents.asset chimeFile chime game.tables [] _ _ _ rfl made_bell
  have ofSign := @Project.Contents.asset chimeFile chime game.tables [_] _ [] _ rfl made_sign
  exact ⟨game, compiled, digitsApart_chime, output, emits, guides.leads _ _ bell _ _ ofBell,
    guides.leads _ _ sign _ _ ofSign⟩

end Game
end Cartridge
