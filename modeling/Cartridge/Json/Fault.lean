/-!
# Faults of JSON text

What can be wrong with a text that should hold a JSON value of a given shape. The first fault met
from left to right is the one that is reported.

* `Mismatch` — a well-formed value that has the wrong shape.
* `Fault` — a mismatch, a text that ends too early, or a text that is not JSON at all.
-/

namespace Cartridge.Json

/-- How a well-formed value can miss the shape that is wanted. -/
inductive Mismatch where
  /-- The value is of another kind: a number where a string is wanted. -/
  | invalidType
  /-- The value is of the right kind and out of range. -/
  | invalidValue
  /-- An array has too few or too many elements. -/
  | invalidLength
  /-- A record lacks a field that has no default. -/
  | missingField (name : String)
  /-- A record names one field twice. -/
  | duplicateField (name : String)
  /-- A choice between names is made with a name that is not offered. -/
  | unknownVariant (name : String)
  deriving DecidableEq, Repr

/-- The short description of a mismatch. -/
def Mismatch.message : Mismatch → String
  | invalidType => "invalid type"
  | invalidValue => "invalid value"
  | invalidLength => "invalid length"
  | missingField name => s!"missing field `{name}`"
  | duplicateField name => s!"duplicate field `{name}`"
  | unknownVariant name => s!"unknown variant `{name}`"

/-- Why a text is refused. -/
inductive Fault where
  /-- The text ends before its value does. -/
  | ended
  /-- The text is not JSON, is nested too deeply or holds a number no double can hold. -/
  | malformed
  /-- The text is JSON of the wrong shape. -/
  | mismatch (cause : Mismatch)
  deriving DecidableEq, Repr

/-- The message for a refused text. -/
def Fault.message : Fault → String
  | ended => "unexpected end of text"
  | malformed => "malformed text"
  | mismatch cause => cause.message

end Cartridge.Json
