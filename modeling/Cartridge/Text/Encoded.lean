/-!
# The bytes of a text

A text is stored and shown as the bytes of its UTF-8 form.
-/

namespace Cartridge

/-- The bytes of a text. -/
def encoded (text : String) : List UInt8 :=
  text.toUTF8.data.toList

/-- There are as many bytes as the text takes. -/
theorem length_encoded (text : String) : (encoded text).length = text.utf8ByteSize := by
  show text.toUTF8.data.toList.length = _
  rw [Array.length_toList]
  exact String.size_toByteArray

/-- Different texts have different bytes. -/
theorem encoded_injective {first second : String} (same : encoded first = encoded second) :
    first = second := by
  unfold encoded at same
  exact String.toByteArray_inj.1 (ByteArray.ext (Array.toList_inj.1 same))

end Cartridge
