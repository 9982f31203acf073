import Mathlib.Data.Finset.Card
import Cartridge.Proofs.Asset.Image
import Cartridge.Proofs.Asset.Storing
import Cartridge.Proofs.Bytecode.Reading

/-!
# Reading tilesets back

A tileset is an image with every tile stored once. Here is the screen's way of reading it, and the
proof that it shows the same image, with no tile more than it needs.

* `StoredTileset.read?`, `StoredTileset.image?`: a tileset as its bytes show it, and its image.
* `ShadeGrid.Numbered`: what the packer knows after it has numbered some tiles.
* `ShadeGrid.Numbered.numberTile`: one tile more keeps to it, or is one too many.
* `ShadeGrid.Numbered.foldlM`: and so do all of them.
* `ShadeGrid.tilesetPayload_isMinimal`: so a tileset has just the tiles of its image.
-/

namespace Cartridge

/-! ### Tilesets in bytes -/

/-- A tileset as its bytes show it. -/
structure StoredTileset where
  /-- The width in tiles. -/
  columns : UInt8
  /-- The height in tiles. -/
  rows : UInt8
  /-- The number of the tile at each place, row by row. -/
  map : List UInt8
  /-- The tiles that are numbered. -/
  tiles : List Tile

namespace StoredTileset

/-- The tileset that some bytes hold: two for the size, two for the number of the tiles, the lower
one first, one for each place, then the tiles. -/
def read? : List UInt8 → Option StoredTileset
  | columns :: rows :: low :: high :: bytes =>
    let places := columns.toNat * rows.toNat
    if places ≤ bytes.length then
      (readTiles? (wordOf low high).toNat (bytes.drop places)).map fun tiles =>
        ⟨columns, rows, bytes.take places, tiles⟩
    else none
  | _ => none

/-- The image that a tileset shows: at each place the tile that has the number there. -/
def image? (tileset : StoredTileset) : Option StoredImage :=
  (tileset.map.mapM fun number => tileset.tiles[number.toNat]?).map fun tiles =>
    ⟨tileset.columns, tileset.rows, tiles⟩

end StoredTileset

namespace ShadeGrid

/-! ### Numbering tiles -/

section Numbering

variable {numbers : OrderedTable Tile UInt8} {map : Array UInt8} {tiles : List Tile} {tile : Tile}

/-- **What the packer knows after it has numbered some tiles.** -/
structure Numbered (numbers : OrderedTable Tile UInt8) (map : Array UInt8) (tiles : List Tile) :
    Prop where
  /-- Each tile is listed when it is first seen, and not again. -/
  keys : numbers.keys.toList = tiles.eraseDups
  size_le : numbers.size ≤ 256
  /-- The number of a tile is its place in the list. -/
  getElem?_of_get? : ∀ tile number, numbers.get? tile = some number →
    numbers.keys.toList[number.toNat]? = some tile
  /-- At each place is the number of the tile there. -/
  map : List.Forall₂ (fun number tile => numbers.keys.toList[number.toNat]? = some tile)
    map.toList tiles

theorem numbered_nil : Numbered ∅ #[] [] where
  keys := rfl
  size_le := Nat.zero_le 256
  getElem?_of_get? := fun tile number found => by
    rw [OrderedTable.get?_empty] at found
    cases found
  map := .nil

theorem numberTile_of_known {number : UInt8} (known : numbers.get? tile = some number) :
    numberTile (numbers, map) tile = .ok (numbers, map.push number) := by
  simp only [numberTile, known]

theorem numberTile_of_new (new : numbers.get? tile = none) (room : numbers.size < 256) :
    numberTile (numbers, map) tile
      = .ok (numbers.insert tile (UInt8.ofNat numbers.size),
        map.push (UInt8.ofNat numbers.size)) := by
  simp only [numberTile, new]
  exact if_neg (Nat.not_le_of_lt room)

theorem numberTile_of_full (new : numbers.get? tile = none) (full : 256 ≤ numbers.size) :
    numberTile (numbers, map) tile = .error .tooManyTiles := by
  simp only [numberTile, new]
  exact if_pos full

theorem Numbered.mem_keys_iff (numbered : Numbered numbers map tiles) :
    tile ∈ numbers.keys ↔ tile ∈ tiles := by
  rw [← Array.mem_toList_iff, numbered.keys, List.mem_eraseDups]

theorem Numbered.not_mem (numbered : Numbered numbers map tiles) (new : numbers.get? tile = none) :
    tile ∉ tiles := by
  rw [← numbered.mem_keys_iff, ← numbers.isSome_get?_iff, new]
  exact Bool.false_ne_true

/-- There are as many numbers as different tiles. -/
theorem Numbered.size_eq (numbered : Numbered numbers map tiles) :
    numbers.size = tiles.toFinset.card := by
  have same : tiles.toFinset = numbers.keys.toList.toFinset := by
    ext tile
    rw [List.mem_toFinset, List.mem_toFinset, numbered.keys, List.mem_eraseDups]
  rw [same, List.toFinset_card_of_nodup numbers.nodup_keys, OrderedTable.size,
    Array.length_toList]

/-- **A tile that has been seen has its number again.** -/
theorem Numbered.again (numbered : Numbered numbers map tiles) {number : UInt8}
    (known : numbers.get? tile = some number) :
    Numbered numbers (map.push number) (tiles ++ [tile]) where
  keys := by
    have held := (numbers.isSome_get?_iff tile).1 (Option.isSome_of_eq_some known)
    rw [eraseDups_append_of_mem (numbered.mem_keys_iff.1 held)]
    exact numbered.keys
  size_le := numbered.size_le
  getElem?_of_get? := numbered.getElem?_of_get?
  map := by
    rw [Array.toList_push]
    exact List.rel_append numbered.map (.cons (numbered.getElem?_of_get? tile number known) .nil)

/-- **A new tile has the next number**, as long as a byte holds it. -/
theorem Numbered.first (numbered : Numbered numbers map tiles) (new : numbers.get? tile = none)
    (room : numbers.size < 256) :
    Numbered (numbers.insert tile (UInt8.ofNat numbers.size))
      (map.push (UInt8.ofNat numbers.size)) (tiles ++ [tile]) := by
  have unlisted : tile ∉ numbers.keys := fun listed =>
    numbered.not_mem new (numbered.mem_keys_iff.1 listed)
  have keys : (numbers.insert tile (UInt8.ofNat numbers.size)).keys.toList
      = numbers.keys.toList ++ [tile] := by
    rw [OrderedTable.keys_insert, if_neg unlisted, Array.toList_push]
  have last : (numbers.keys.toList ++ [tile])[(UInt8.ofNat numbers.size).toNat]? = some tile := by
    rw [UInt8.toNat_ofNat_of_lt' room, OrderedTable.size, ← Array.length_toList]
    exact List.getElem?_concat_length
  -- The new tile is listed behind the others, so that their numbers stay right.
  have kept : ∀ (number : UInt8) (other : Tile), numbers.keys.toList[number.toNat]? = some other →
      (numbers.keys.toList ++ [tile])[number.toNat]? = some other := by
    intro number other found
    obtain ⟨inside, _⟩ := List.getElem?_eq_some_iff.1 found
    rwa [List.getElem?_append_left inside]
  refine ⟨?_, ?_, ?_, ?_⟩
  · rw [keys, numbered.keys, eraseDups_append_of_not_mem (numbered.not_mem new)]
  · rw [OrderedTable.size, ← Array.length_toList, keys, List.length_append, List.length_singleton,
      Array.length_toList]
    exact room
  · intro other number found
    rw [keys]
    rw [OrderedTable.get?_insert] at found
    split at found
    · rename_i same
      cases found
      cases same
      exact last
    · exact kept number other (numbered.getElem?_of_get? other number found)
  · rw [keys, Array.toList_push]
    exact List.rel_append (numbered.map.imp kept) (.cons last .nil)

/-- **One tile more is numbered, or is one too many.** -/
theorem Numbered.numberTile (numbered : Numbered numbers map tiles) (tile : Tile) :
    (∃ next nextMap, ShadeGrid.numberTile (numbers, map) tile = .ok (next, nextMap)
        ∧ Numbered next nextMap (tiles ++ [tile]))
      ∨ ShadeGrid.numberTile (numbers, map) tile = .error .tooManyTiles
        ∧ 256 < (tiles ++ [tile]).toFinset.card := by
  cases known : numbers.get? tile with
  | some number =>
    exact .inl ⟨_, _, numberTile_of_known known, numbered.again known⟩
  | none =>
    rcases Nat.lt_or_ge numbers.size 256 with room | full
    · exact .inl ⟨_, _, numberTile_of_new known room, numbered.first known room⟩
    · right
      refine ⟨numberTile_of_full known full, ?_⟩
      have new : tile ∉ tiles.toFinset := by
        rw [List.mem_toFinset]
        exact numbered.not_mem known
      have card : (tiles ++ [tile]).toFinset.card = tiles.toFinset.card + 1 := by
        rw [List.toFinset_append, Finset.union_comm]
        exact Finset.card_insert_of_notMem new
      rw [card, ← numbered.size_eq]
      exact Nat.lt_succ_of_le full

/-- **All tiles are numbered, or there are too many.** -/
theorem Numbered.foldlM (later : List Tile) {numbers : OrderedTable Tile UInt8}
    {map : Array UInt8} {tiles : List Tile} (numbered : Numbered numbers map tiles) :
    (∃ last lastMap, later.foldlM ShadeGrid.numberTile (numbers, map) = .ok (last, lastMap)
        ∧ Numbered last lastMap (tiles ++ later))
      ∨ later.foldlM ShadeGrid.numberTile (numbers, map) = .error .tooManyTiles
        ∧ 256 < (tiles ++ later).toFinset.card := by
  induction later generalizing numbers map tiles with
  | nil =>
    left
    exact ⟨numbers, map, rfl, by rwa [List.append_nil]⟩
  | cons tile later ih =>
    rw [List.foldlM_cons, List.append_cons]
    rcases numbered.numberTile tile with ⟨next, nextMap, added, more⟩ | ⟨failed, many⟩
    · rw [added]
      exact ih more
    · right
      rw [failed, List.toFinset_append]
      exact ⟨rfl, Nat.lt_of_lt_of_le many (Finset.card_le_card Finset.subset_union_left)⟩

end Numbering

/-! ### Tilesets -/

section Tilesets

variable {grid : ShadeGrid} {numbers : OrderedTable Tile UInt8} {map : Array UInt8}

/-- **A tileset is that of a grid**: it shows the same image and has each tile of it once, in the
order in which the tiles first come. -/
structure HasTileset (grid : ShadeGrid) (tileset : StoredTileset) : Prop where
  columns : tileset.columns = grid.columns
  rows : tileset.rows = grid.rows
  tiles : tileset.tiles = grid.tiles.eraseDups
  nodup : tileset.tiles.Nodup
  length : tileset.tiles.length = grid.tiles.toFinset.card
  /-- Each place has the number of a tile. -/
  lt_length : ∀ number ∈ tileset.map, number.toNat < tileset.tiles.length
  image : ∃ image, tileset.image? = some image ∧ StoredImage.read? grid.imagePayload = some image

/-- What is looked up one by one is found together. -/
theorem mapM_eq_some_of_forall₂ {α β : Type} {find : α → Option β} {items : List α}
    {results : List β}
    (each : List.Forall₂ (fun item result => find item = some result) items results) :
    items.mapM find = some results := by
  induction each with
  | nil => rfl
  | cons head _ ih =>
    rw [List.mapM_cons, head, ih]
    rfl

/-- What is stored once all tiles are numbered. -/
def storedTileset (grid : ShadeGrid) (numbers : OrderedTable Tile UInt8) (map : Array UInt8) :
    StoredTileset :=
  ⟨grid.columns, grid.rows, map.toList, numbers.keys.toList⟩

theorem Numbered.length_of_mem_keys (numbered : Numbered numbers map grid.tiles) {tile : Tile}
    (member : tile ∈ numbers.keys.toList) : tile.length = tileSize :=
  length_of_mem_tiles (numbered.mem_keys_iff.1 (Array.mem_toList_iff.1 member))

/-- **A tileset is read back.** -/
theorem Numbered.read?_payload (numbered : Numbered numbers map grid.tiles) :
    StoredTileset.read? (grid.columns :: grid.rows :: littleEndian (UInt16.ofNat numbers.size)
      ++ map.toList ++ numbers.keys.toList.flatten) = some (grid.storedTileset numbers map) := by
  have places : map.toList.length = grid.columns.toNat * grid.rows.toNat := by
    rw [numbered.map.length_eq, length_tiles]
  have count : (UInt16.ofNat numbers.size).toNat = numbers.keys.toList.length := by
    rw [UInt16.toNat_ofNat_of_lt' (Nat.lt_of_le_of_lt numbered.size_le (by decide))]
    exact Array.length_toList.symm
  have enough : grid.columns.toNat * grid.rows.toNat
      ≤ (map.toList ++ numbers.keys.toList.flatten).length := by
    rw [List.length_append, places]
    exact Nat.le_add_right _ _
  have tiles : readTiles? numbers.keys.toList.length numbers.keys.toList.flatten
      = some numbers.keys.toList :=
    readTiles?_flatten fun _ member => numbered.length_of_mem_keys member
  show StoredTileset.read? (grid.columns :: grid.rows :: (UInt16.ofNat numbers.size).toUInt8
    :: (UInt16.ofNat numbers.size >>> 8).toUInt8
    :: (map.toList ++ numbers.keys.toList.flatten)) = _
  rw [StoredTileset.read?, wordOf_low_high, count]
  rw [if_pos enough, List.drop_left' places, List.take_left' places, tiles]
  rfl

theorem Numbered.hasTileset (numbered : Numbered numbers map grid.tiles) :
    grid.HasTileset (grid.storedTileset numbers map) where
  columns := rfl
  rows := rfl
  tiles := numbered.keys
  nodup := numbers.nodup_keys
  length := by
    rw [← numbered.size_eq]
    exact Array.length_toList
  lt_length := by
    intro number member
    obtain ⟨place, inside, rfl⟩ := List.mem_iff_getElem.1 member
    have found := numbered.map.get inside (numbered.map.length_eq ▸ inside)
    exact (List.getElem?_eq_some_iff.1 found).1
  image := by
    refine ⟨grid.stored, ?_, read?_imagePayload grid⟩
    show (map.toList.mapM fun number => numbers.keys.toList[number.toNat]?).map _ = _
    rw [mapM_eq_some_of_forall₂ numbered.map]
    rfl

/-- **A tileset loses nothing and repeats nothing**, and there is one unless there are more than 256
different tiles. -/
theorem tilesetPayload_isMinimal (grid : ShadeGrid) :
    ((∃ fault, grid.tilesetPayload = .error fault) ↔ 256 < grid.tiles.toFinset.card)
      ∧ (∀ fault, grid.tilesetPayload = .error fault → fault = .tooManyTiles)
      ∧ ∀ payload, grid.tilesetPayload = .ok payload →
        ∃ tileset, StoredTileset.read? payload = some tileset ∧ grid.HasTileset tileset := by
  unfold tilesetPayload
  rcases numbered_nil.foldlM grid.tiles with ⟨numbers, map, done, numbered⟩ | ⟨failed, many⟩
  · rw [List.nil_append] at numbered
    have few := numbered.size_le
    rw [numbered.size_eq] at few
    rw [done]
    refine ⟨⟨?_, fun many => absurd few (Nat.not_le_of_lt many)⟩, ?_, ?_⟩
    · rintro ⟨fault, failed⟩
      cases failed
    · intro fault failed
      cases failed
    · intro payload made
      cases made
      exact ⟨_, numbered.read?_payload, numbered.hasTileset⟩
  · rw [failed]
    refine ⟨⟨fun _ => many, fun _ => ⟨_, rfl⟩⟩, ?_, ?_⟩
    · intro fault failed
      cases failed
      rfl
    · intro payload made
      cases made

end Tilesets
end ShadeGrid
end Cartridge
