/-!
# Identifiers

The names that an author gives hold any characters. In the generated sources they stand as
identifiers of lower-case ASCII letters, digits and underscores.

* `Identifier.ofName` — the identifier of a name; different names can have the same one.
* `Identifier.upper` — the spelling of an identifier in the name of a constant.
-/

namespace Cartridge.Identifier

/-- The character that stands for another one in an identifier. -/
def character (c : Char) : Char :=
  if c.isAlphanum then c.toLower else '_'

/-- An identifier neither is empty nor starts with a digit: an underscore is put before. -/
def guard : List Char → List Char
  | [] => ['_']
  | first :: rest => if first.isDigit then '_' :: first :: rest else first :: rest

/-- The identifier of a name. -/
def ofName (name : String) : String :=
  String.ofList (guard (name.toList.map character))

/-- The spelling of an identifier in the name of a constant. -/
def upper (identifier : String) : String :=
  identifier.map Char.toUpper

end Cartridge.Identifier
