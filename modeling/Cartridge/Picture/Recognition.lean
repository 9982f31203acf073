import Cartridge.Picture.Bmp
import Cartridge.Picture.Png

/-!
# Recognizing pictures

The first bytes of a file tell its format. The name of the file does not count.

* `Picture.ofBytes?` — the picture of a file, unless it is of no known format or malformed.
-/

namespace Cartridge.Picture

/-- Whether a file starts with some bytes. -/
def starts (bytes : ByteArray) (signature : List UInt8) : Bool :=
  (bytes.extract 0 signature.length).toList == signature

/-- The picture of a file. -/
def ofBytes? (bytes : ByteArray) : Option Picture :=
  if starts bytes Png.signature then Png.picture? bytes
  else if starts bytes Bmp.signature then Bmp.picture? bytes
  else none

end Cartridge.Picture
