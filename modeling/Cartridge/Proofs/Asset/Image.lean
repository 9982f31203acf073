import Cartridge.Asset.Shade

/-!
# Reading images back

The screen finds the shade of a pixel in two bytes of the tile that the pixel is in. Here is its way
of reading an image, and the proof that it sees the picture that the image was made from.

* `readTiles?`: bytes as tiles, with nothing left over.
* `StoredImage.read?`, `StoredImage.shade?`: an image as its bytes show it, and the shade of a pixel.
* `ShadeGrid.testBit_plane`: the bits of a byte of a tile are bits of the shades of eight pixels.
* `ShadeGrid.read?_imagePayload`: an image is read back as its tiles.
* `ShadeGrid.shade?_stored`: and every pixel has its shade.
* `Picture.IsTiled`: a picture that consists of whole tiles, no more than a byte counts.
* `ShadeGrid.ofPicture_isLossless`: so an image shows the shades of its picture, and nothing else.
-/

namespace Cartridge

/-! ### Parts of one size -/

section Parts

variable {α β : Type} {items : List α} {part : α → List β} {size within : Nat}

theorem length_flatMap_of_uniform (uniform : ∀ item ∈ items, (part item).length = size) :
    (items.flatMap part).length = items.length * size := by
  induction items with
  | nil => exact (Nat.zero_mul size).symm
  | cons item items ih =>
    have rest := ih fun other member => uniform other (List.mem_cons_of_mem _ member)
    rw [List.flatMap_cons, List.length_append, uniform item List.mem_cons_self, rest,
      List.length_cons, Nat.succ_mul, Nat.add_comm]

/-- **What is put together from parts of one size is found by the part and the place in it.** -/
theorem getElem?_flatMap_of_uniform (uniform : ∀ item ∈ items, (part item).length = size)
    (place : Nat) (inside : within < size) :
    (items.flatMap part)[place * size + within]?
      = items[place]?.bind fun item => (part item)[within]? := by
  induction items generalizing place with
  | nil => rfl
  | cons item items ih =>
    have length := uniform item List.mem_cons_self
    rw [List.flatMap_cons]
    cases place with
    | zero =>
      rw [Nat.zero_mul, Nat.zero_add, List.getElem?_append_left (by rw [length]; exact inside)]
      rfl
    | succ place =>
      have behind : (part item).length ≤ (place + 1) * size + within := by
        rw [length, Nat.succ_mul]
        omega
      have rest : (place + 1) * size + within - (part item).length = place * size + within := by
        rw [length, Nat.succ_mul]
        omega
      rw [List.getElem?_append_right behind, rest, List.getElem?_cons_succ]
      exact ih (fun other member => uniform other (List.mem_cons_of_mem _ member)) place

end Parts

/-! ### Tiles in bytes -/

/-- The number of the bytes of a tile. -/
def tileSize : Nat := 2 * tileSide

/-- So many tiles as all of some bytes. -/
def readTiles? : Nat → List UInt8 → Option (List Tile)
  | 0, [] => some []
  | 0, _ :: _ => none
  | count + 1, bytes =>
    if tileSize ≤ bytes.length then
      (readTiles? count (bytes.drop tileSize)).map (bytes.take tileSize :: ·)
    else none

/-- **Tiles are read back.** -/
theorem readTiles?_flatten {tiles : List Tile} (sized : ∀ tile ∈ tiles, tile.length = tileSize) :
    readTiles? tiles.length tiles.flatten = some tiles := by
  induction tiles with
  | nil => rfl
  | cons tile tiles ih =>
    have length := sized tile List.mem_cons_self
    have enough : tileSize ≤ (tile ++ tiles.flatten).length := by
      rw [List.length_append, length]
      exact Nat.le_add_right _ _
    rw [List.flatten_cons, List.length_cons, readTiles?, if_pos enough, List.drop_left' length,
      List.take_left' length, ih fun other member => sized other (List.mem_cons_of_mem _ member)]
    rfl

/-- An image as its bytes show it. -/
structure StoredImage where
  /-- The width in tiles. -/
  columns : UInt8
  /-- The height in tiles. -/
  rows : UInt8
  /-- The tiles, row by row. -/
  tiles : List Tile

namespace StoredImage

/-- The image that some bytes hold: two for the size, then the tiles. -/
def read? : List UInt8 → Option StoredImage
  | columns :: rows :: bytes =>
    (readTiles? (columns.toNat * rows.toNat) bytes).map fun tiles => ⟨columns, rows, tiles⟩
  | _ => none

/-- The shade of a pixel. In the tile there are two bytes for the pixel's line, the lower bits of the
shades first; the leftmost pixel has the highest bit. -/
def shade? (image : StoredImage) (x y : Nat) : Option Nat := do
  let tile ← image.tiles[y / tileSide * image.columns.toNat + x / tileSide]?
  let low ← tile[y % tileSide * 2]?
  let high ← tile[y % tileSide * 2 + 1]?
  let bit := tileSide - 1 - x % tileSide
  return (low.toNat.testBit bit).toNat + 2 * (high.toNat.testBit bit).toNat

end StoredImage

namespace ShadeGrid

variable {grid : ShadeGrid} {x y : Nat}

/-! ### The bytes of a tile -/

/-- **The bits of a packed byte are bits of the shades**, from the last pixel on. -/
theorem testBit_plane (bit : UInt8) (shades : List UInt8) {place : Nat} (inside : place < 8) :
    (plane bit shades).toNat.testBit place
      = (shades.reverse.getD place 0).toNat.testBit (bit.toNat % 8) := by
  rw [plane, List.foldl_eq_foldr_reverse]
  generalize shades.reverse = reversed
  induction reversed generalizing place with
  | nil => simp
  | cons shade reversed ih =>
    rw [List.foldr_cons, UInt8.toNat_or, Nat.testBit_or, UInt8.toNat_and, Nat.testBit_and,
      UInt8.toNat_shiftLeft, UInt8.toNat_shiftRight, Nat.testBit_mod_two_pow, Nat.testBit_shiftLeft,
      Nat.testBit_shiftRight]
    cases place with
    | zero => simp
    | succ place =>
      have before := ih (show place < 8 by omega)
      have above : (1 : UInt8).toNat.testBit (place + 1) = false := by
        rw [show (1 : UInt8).toNat = 1 from rfl, Nat.testBit_succ]
        exact Nat.zero_testBit place
      rw [above, Bool.and_false, Bool.or_false]
      simpa [inside] using before

/-- The shades of a line of a tile. -/
def lineShades (grid : ShadeGrid) (column row line : Nat) : List UInt8 :=
  (List.range tileSide).map fun pixel =>
    grid.shade (column * tileSide + pixel) (row * tileSide + line)

theorem tile_eq (grid : ShadeGrid) (column row : Nat) :
    grid.tile column row = (List.range tileSide).flatMap fun line =>
      [plane 0 (grid.lineShades column row line), plane 1 (grid.lineShades column row line)] :=
  rfl

theorem length_tile (grid : ShadeGrid) (column row : Nat) :
    (grid.tile column row).length = tileSize := rfl

/-- **A line of a tile has two bytes**, one for each bit of its shades. -/
theorem getElem?_tile (grid : ShadeGrid) (column row : Nat) {line : Nat}
    (inside : line < tileSide) :
    (grid.tile column row)[line * 2]? = some (plane 0 (grid.lineShades column row line))
      ∧ (grid.tile column row)[line * 2 + 1]? = some (plane 1 (grid.lineShades column row line)) := by
  have two : ∀ line ∈ List.range tileSide,
      [plane 0 (grid.lineShades column row line), plane 1 (grid.lineShades column row line)].length
        = 2 := fun _ _ => rfl
  rw [tile_eq]
  constructor
  · have first := getElem?_flatMap_of_uniform two line (show 0 < 2 by decide)
    rwa [Nat.add_zero, List.getElem?_range inside] at first
  · have second := getElem?_flatMap_of_uniform two line (show 1 < 2 by decide)
    rwa [List.getElem?_range inside] at second

/-- The bits of the two bytes of a line are those of the shades in it. -/
theorem testBit_plane_lineShades (grid : ShadeGrid) (bit : UInt8) (column row line : Nat)
    {pixel : Nat} (inside : pixel < tileSide) :
    (plane bit (grid.lineShades column row line)).toNat.testBit (tileSide - 1 - pixel)
      = (grid.shade (column * tileSide + pixel) (row * tileSide + line)).toNat.testBit
        (bit.toNat % 8) := by
  have small : tileSide - 1 - pixel < 8 := by
    unfold tileSide
    omega
  have length : (grid.lineShades column row line).length = tileSide := by simp [lineShades]
  rw [testBit_plane bit _ small, List.getD_eq_getElem?_getD,
    List.getElem?_reverse (by rw [length]; omega), length,
    show tileSide - 1 - (tileSide - 1 - pixel) = pixel by omega, lineShades, List.getElem?_map,
    List.getElem?_range inside]
  rfl

/-! ### Images -/

theorem length_row (grid : ShadeGrid) (row : Nat) :
    ((List.range grid.columns.toNat).map fun column => grid.tile column row).length
      = grid.columns.toNat := by
  rw [List.length_map, List.length_range]

theorem length_tiles (grid : ShadeGrid) :
    grid.tiles.length = grid.columns.toNat * grid.rows.toNat := by
  rw [tiles, length_flatMap_of_uniform fun row _ => length_row grid row, List.length_range,
    Nat.mul_comm]

theorem length_of_mem_tiles {tile : Tile} (member : tile ∈ grid.tiles) : tile.length = tileSize := by
  obtain ⟨row, _, listed⟩ := List.mem_flatMap.1 member
  obtain ⟨column, _, rfl⟩ := List.mem_map.1 listed
  exact length_tile grid column row

theorem getElem?_tiles {column row : Nat} (left : column < grid.columns.toNat)
    (above : row < grid.rows.toNat) :
    grid.tiles[row * grid.columns.toNat + column]? = some (grid.tile column row) := by
  have uniform : ∀ row ∈ List.range grid.rows.toNat,
      ((List.range grid.columns.toNat).map fun column => grid.tile column row).length
        = grid.columns.toNat := fun row _ => length_row grid row
  have found := getElem?_flatMap_of_uniform uniform row left
  rw [List.getElem?_range above, Option.bind_some, List.getElem?_map,
    List.getElem?_range left] at found
  exact found

/-- What is stored for a picture. -/
def stored (grid : ShadeGrid) : StoredImage := ⟨grid.columns, grid.rows, grid.tiles⟩

/-- **An image is read back as its tiles.** -/
theorem read?_imagePayload (grid : ShadeGrid) :
    StoredImage.read? grid.imagePayload = some grid.stored := by
  have whole : readTiles? grid.tiles.length grid.tiles.flatten = some grid.tiles :=
    readTiles?_flatten fun _ member => length_of_mem_tiles member
  rw [length_tiles] at whole
  rw [imagePayload, StoredImage.read?, whole]
  rfl

/-- A number below four is given by its two bits. -/
theorem eq_of_testBits {number : Nat} (small : number < 4) :
    (number.testBit 0).toNat + 2 * (number.testBit 1).toNat = number := by
  revert number
  decide

/-- **Every pixel of a stored image has its shade**, if that is one of four. -/
theorem shade?_stored (left : x < grid.width) (above : y < grid.rows.toNat * tileSide)
    (small : (grid.shade x y).toNat < 4) : grid.stored.shade? x y = some (grid.shade x y).toNat := by
  have column : x / tileSide < grid.columns.toNat := Nat.div_lt_of_lt_mul (by rwa [Nat.mul_comm])
  have row : y / tileSide < grid.rows.toNat := Nat.div_lt_of_lt_mul (by rwa [Nat.mul_comm])
  have line : y % tileSide < tileSide := Nat.mod_lt y (by decide)
  have pixel : x % tileSide < tileSide := Nat.mod_lt x (by decide)
  obtain ⟨low, high⟩ := getElem?_tile grid (x / tileSide) (y / tileSide) line
  have lower := testBit_plane_lineShades grid 0 (x / tileSide) (y / tileSide) (y % tileSide) pixel
  have upper := testBit_plane_lineShades grid 1 (x / tileSide) (y / tileSide) (y % tileSide) pixel
  rw [Nat.div_add_mod', Nat.div_add_mod'] at lower upper
  have found : grid.stored.tiles[y / tileSide * grid.stored.columns.toNat + x / tileSide]?
      = some (grid.tile (x / tileSide) (y / tileSide)) := getElem?_tiles column row
  simp only [StoredImage.shade?, found, low, high, lower, upper, Option.bind_eq_bind,
    Option.bind_some]
  exact congrArg some (eq_of_testBits small)

end ShadeGrid

/-! ### Pictures -/

/-- **A pixel has one of four shades.** -/
theorem Pixel.toNat_shade_lt (pixel : Pixel) : pixel.shade.toNat < 4 := by
  unfold Pixel.shade
  split
  · decide
  · have bound := pixel.luma.toNat_lt
    have least : pixel.luma ≤ 255 := by
      rw [UInt8.le_iff_toNat_le]
      exact Nat.le_of_lt_succ bound
    rw [UInt8.toNat_div, UInt8.toNat_sub_of_le _ _ least]
    show (255 - pixel.luma.toNat) / 64 < 4
    omega

/-- **A picture that consists of whole tiles**, no more on a side than a byte counts. -/
structure Picture.IsTiled (picture : Picture) : Prop where
  dvd_width : tileSide ∣ picture.width
  dvd_height : tileSide ∣ picture.height
  le_width : 8 ≤ picture.width
  le_height : 8 ≤ picture.height
  width_le : picture.width ≤ 2040
  height_le : picture.height ≤ 2040
  /-- There is a pixel at each place. -/
  size : picture.pixels.size = picture.width * picture.height

namespace ShadeGrid

variable {picture other : Picture} {grid otherGrid : ShadeGrid}

/-- The grid of a picture of whole tiles. -/
structure IsOf (grid : ShadeGrid) (picture : Picture) : Prop where
  width : grid.columns.toNat * tileSide = picture.width
  height : grid.rows.toNat * tileSide = picture.height
  shades : grid.shades = picture.pixels.map Pixel.shade

theorem exists_ofPicture (tiled : picture.IsTiled) :
    ∃ grid, ofPicture picture = .ok grid ∧ grid.IsOf picture := by
  obtain ⟨width, height, pixels⟩ := picture
  obtain ⟨dvd_width, dvd_height, le_width, le_height, width_le, height_le, _⟩ := tiled
  unfold tileSide at dvd_width dvd_height
  dsimp only at dvd_width dvd_height le_width le_height width_le height_le
  refine ⟨⟨UInt8.ofNat (width / 8), UInt8.ofNat (height / 8), pixels.map Pixel.shade⟩, ?_, ?_⟩
  · unfold ofPicture tileSide
    dsimp only
    rw [if_neg (by omega), if_neg (by omega)]
  · refine ⟨?_, ?_, rfl⟩
    · show (UInt8.ofNat (width / 8)).toNat * 8 = width
      rw [UInt8.toNat_ofNat_of_lt' (show width / 8 < 256 by omega)]
      omega
    · show (UInt8.ofNat (height / 8)).toNat * 8 = height
      rw [UInt8.toNat_ofNat_of_lt' (show height / 8 < 256 by omega)]
      omega

/-- A place in a grid of pixels, row by row, is before the end. -/
theorem place_lt {width height x y : Nat} (left : x < width) (above : y < height) :
    y * width + x < width * height := by
  have rows : (y + 1) * width ≤ height * width := Nat.mul_le_mul_right width above
  rw [Nat.succ_mul, Nat.mul_comm height] at rows
  omega

/-- **Each place of the grid has the shade of the pixel there.** -/
theorem IsOf.exists_pixel (isOf : grid.IsOf picture)
    (size : picture.pixels.size = picture.width * picture.height) {x y : Nat}
    (left : x < picture.width) (above : y < picture.height) :
    ∃ pixel, picture.pixels[y * picture.width + x]? = some pixel
      ∧ grid.shades[y * grid.width + x]? = some pixel.shade ∧ grid.shade x y = pixel.shade := by
  have inside : y * picture.width + x < picture.pixels.size := by
    rw [size]
    exact place_lt left above
  have there := Array.getElem?_eq_getElem inside
  have shades : grid.shades[y * grid.width + x]?
      = some picture.pixels[y * picture.width + x].shade := by
    rw [ShadeGrid.width, isOf.width, isOf.shades, Array.getElem?_map, there]
    rfl
  refine ⟨_, there, shades, ?_⟩
  rw [shade, Array.getD_eq_getD_getElem?, shades]
  rfl

/-- **An image shows a picture**: it is made from the shades of the picture's pixels, and every pixel
is read back with its shade. -/
structure Shows (grid : ShadeGrid) (picture : Picture) : Prop extends grid.IsOf picture where
  /-- No shade that a tile is made from is looked for outside the grid. -/
  inside : ∀ column row line pixel, column < grid.columns.toNat → row < grid.rows.toNat →
    line < tileSide → pixel < tileSide →
      grid.shades[(row * tileSide + line) * grid.width + (column * tileSide + pixel)]?
        = some (grid.shade (column * tileSide + pixel) (row * tileSide + line))
  length : grid.imagePayload.length = 2 + 16 * grid.columns.toNat * grid.rows.toNat
  /-- Every pixel is read back. -/
  reads : ∃ image, StoredImage.read? grid.imagePayload = some image
    ∧ ∀ x y, x < picture.width → y < picture.height →
      ∃ pixel, picture.pixels[y * picture.width + x]? = some pixel ∧ pixel.shade.toNat ≤ 3
        ∧ image.shade? x y = some pixel.shade.toNat

theorem length_imagePayload (grid : ShadeGrid) :
    grid.imagePayload.length = 2 + 16 * grid.columns.toNat * grid.rows.toNat := by
  have uniform : ∀ tile ∈ grid.tiles, (id tile).length = tileSize :=
    fun _ member => length_of_mem_tiles member
  have length := length_flatMap_of_uniform uniform
  rw [List.flatMap_id, length_tiles] at length
  rw [imagePayload, List.length_cons, List.length_cons, length, Nat.mul_assoc 16, Nat.mul_comm 16,
    Nat.add_comm 2]
  rfl

theorem IsOf.shows (isOf : grid.IsOf picture)
    (size : picture.pixels.size = picture.width * picture.height) : grid.Shows picture where
  toIsOf := isOf
  inside := by
    intro column row line pixel left above inLine inPixel
    have across : column * tileSide + pixel < picture.width := by
      rw [← isOf.width, Nat.mul_comm grid.columns.toNat]
      exact place_lt inPixel left
    have down : row * tileSide + line < picture.height := by
      rw [← isOf.height, Nat.mul_comm grid.rows.toNat]
      exact place_lt inLine above
    obtain ⟨_, _, shades, shade⟩ := isOf.exists_pixel size across down
    rw [shades, shade]
  length := length_imagePayload grid
  reads := by
    refine ⟨grid.stored, read?_imagePayload grid, fun x y left above => ?_⟩
    obtain ⟨pixel, there, _, shade⟩ := isOf.exists_pixel size left above
    have small := pixel.toNat_shade_lt
    refine ⟨pixel, there, Nat.le_of_lt_succ small, ?_⟩
    rw [← shade] at small ⊢
    exact shade?_stored (by rwa [ShadeGrid.width, isOf.width]) (by rwa [isOf.height]) small

/-- **Pictures that look the same have the same shades.** -/
theorem Shows.shades_eq (shows : grid.Shows picture) (also : otherGrid.Shows other)
    (size : picture.pixels.size = picture.width * picture.height)
    (otherSize : other.pixels.size = other.width * other.height)
    (same : grid.imagePayload = otherGrid.imagePayload) :
    picture.width = other.width ∧ picture.height = other.height
      ∧ picture.pixels.map Pixel.shade = other.pixels.map Pixel.shade := by
  obtain ⟨columns, rest⟩ := List.cons.inj same
  obtain ⟨rows, _⟩ := List.cons.inj rest
  have width : picture.width = other.width := by rw [← shows.width, ← also.width, columns]
  have height : picture.height = other.height := by rw [← shows.height, ← also.height, rows]
  refine ⟨width, height, Array.ext_getElem? fun place => ?_⟩
  rw [Array.getElem?_map, Array.getElem?_map]
  by_cases inside : place < picture.width * picture.height
  · have positive : 0 < picture.width := by
      apply Nat.pos_of_ne_zero
      intro none
      rw [none, Nat.zero_mul] at inside
      exact Nat.not_lt_zero _ inside
    have left := Nat.mod_lt place positive
    have above := Nat.div_lt_of_lt_mul inside
    obtain ⟨image, read, shades⟩ := shows.reads
    obtain ⟨otherImage, otherRead, otherShades⟩ := also.reads
    rw [same, otherRead] at read
    cases read
    obtain ⟨pixel, there, _, shown⟩ := shades _ _ left above
    obtain ⟨otherPixel, otherThere, _, otherShown⟩ :=
      otherShades _ _ (width ▸ left) (height ▸ above)
    rw [← width] at otherThere otherShown
    rw [Nat.div_add_mod'] at there otherThere
    have numbers := Option.some.inj (shown.symm.trans otherShown)
    rw [there, otherThere, Option.map_some, Option.map_some, UInt8.toNat_inj.1 numbers]
  · rw [Array.getElem?_eq_none (by rw [size]; exact Nat.le_of_not_lt inside),
      Array.getElem?_eq_none (by rw [otherSize, ← width, ← height]; exact Nat.le_of_not_lt inside)]

/-- **Grids of pictures with the same shades are the same.** -/
theorem IsOf.eq (isOf : grid.IsOf picture) (also : otherGrid.IsOf other)
    (width : picture.width = other.width) (height : picture.height = other.height)
    (shades : picture.pixels.map Pixel.shade = other.pixels.map Pixel.shade) :
    grid = otherGrid := by
  have columns : grid.columns = otherGrid.columns := by
    have same := isOf.width.trans (width.trans also.width.symm)
    exact UInt8.toNat_inj.1 (Nat.eq_of_mul_eq_mul_right (by decide) same)
  have rows : grid.rows = otherGrid.rows := by
    have same := isOf.height.trans (height.trans also.height.symm)
    exact UInt8.toNat_inj.1 (Nat.eq_of_mul_eq_mul_right (by decide) same)
  have pixels := isOf.shades.trans (shades.trans also.shades.symm)
  cases grid
  cases otherGrid
  simp_all

/-- **Images lose no shade.** A picture of whole tiles is cut into a grid whose image shows it, and
two such pictures have the same image just if they are as large and have the same shades. -/
theorem ofPicture_isLossless (tiled : picture.IsTiled) :
    ∃ grid, ofPicture picture = .ok grid ∧ grid.Shows picture
      ∧ ∀ other otherGrid, other.IsTiled → ofPicture other = .ok otherGrid →
        (grid.imagePayload = otherGrid.imagePayload
          ↔ picture.width = other.width ∧ picture.height = other.height
            ∧ picture.pixels.map Pixel.shade = other.pixels.map Pixel.shade) := by
  obtain ⟨grid, made, isOf⟩ := exists_ofPicture tiled
  have shows := isOf.shows tiled.size
  refine ⟨grid, made, shows, fun other otherGrid alsoTiled alsoMade => ?_⟩
  obtain ⟨found, foundMade, alsoOf⟩ := exists_ofPicture alsoTiled
  cases alsoMade.symm.trans foundMade
  constructor
  · exact shows.shades_eq (alsoOf.shows alsoTiled.size) tiled.size alsoTiled.size
  · rintro ⟨width, height, shades⟩
    rw [isOf.eq alsoOf width height shades]

/-- A picture that grows lighter from pixel to pixel. -/
def ramp (width height : Nat) : Picture :=
  ⟨width, height, (Array.range (width * height)).map fun place => .gray (UInt8.ofNat place) 255⟩

/-- Two tiles side by side and two tiles one above the other, with the same shades in the same order,
have different images. -/
theorem ofPicture_isLossless_ramp :
    (ramp 16 8).IsTiled ∧ (ramp 8 16).IsTiled
      ∧ ∃ grid otherGrid, ofPicture (ramp 16 8) = .ok grid ∧ grid.Shows (ramp 16 8)
        ∧ ofPicture (ramp 8 16) = .ok otherGrid ∧ otherGrid.Shows (ramp 8 16)
        ∧ grid.shades = otherGrid.shades ∧ grid.imagePayload ≠ otherGrid.imagePayload := by
  have size : ∀ width height, (ramp width height).pixels.size = width * height :=
    fun width height => by simp [ramp]
  have wide : (ramp 16 8).IsTiled :=
    ⟨by decide, by decide, by decide, by decide, by decide, by decide, size 16 8⟩
  have high : (ramp 8 16).IsTiled :=
    ⟨by decide, by decide, by decide, by decide, by decide, by decide, size 8 16⟩
  obtain ⟨grid, made, shows, apart⟩ := ofPicture_isLossless wide
  obtain ⟨otherGrid, otherMade, otherShows, _⟩ := ofPicture_isLossless high
  refine ⟨wide, high, grid, otherGrid, made, shows, otherMade, otherShows, ?_, fun same => ?_⟩
  · rw [shows.shades, otherShows.shades]
    rfl
  · obtain ⟨width, _⟩ := (apart (ramp 8 16) otherGrid high otherMade).1 same
    exact absurd width (by decide)

end ShadeGrid
end Cartridge
