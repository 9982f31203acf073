/-!
# Pictures

A decoded picture: how bright and how opaque its pixels are.

* `Pixel.ofColor` — a pixel of a colour, as bright as the colour.
* `scaledSample` — a sample of any depth as a byte.
-/

namespace Cartridge

/-- A pixel: its brightness and its opacity. -/
structure Pixel where
  luma : UInt8
  alpha : UInt8
  deriving DecidableEq, Repr, Inhabited

/-- A decoded picture. -/
structure Picture where
  width : Nat
  height : Nat
  /-- The pixels, row by row. -/
  pixels : Array Pixel

namespace Pixel

/-- A grey pixel. -/
def gray (luma alpha : UInt8) : Pixel := ⟨luma, alpha⟩

/-- A pixel of a colour. Its brightness is a weighted mean of the channels, rounded to nearest. -/
def ofColor (red green blue alpha : UInt8) : Pixel :=
  let weighted := 2126 * red.toNat + 7152 * green.toNat + 722 * blue.toNat
  ⟨UInt8.ofNat ((weighted + 5000) / 10000), alpha⟩

end Pixel

/-- A sample of `depth` bits as a byte. The greatest sample becomes the greatest byte, and the
others keep their share of it, rounded to nearest. -/
def scaledSample (depth value : Nat) : UInt8 :=
  let greatest := 1 <<< depth - 1
  UInt8.ofNat ((value * 255 + greatest / 2) / greatest)

end Cartridge
