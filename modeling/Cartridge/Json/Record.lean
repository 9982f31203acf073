import Cartridge.Json.Value

/-!
# Records

A record is written as an object of its fields in any order, or as an array of them in the order of
their declaration. A field that is left out takes its default; as an object the record names the
first one that has none, as an array it is too short. Members of other names are passed over.

* `Record.reader` — reads a record off a text.
* `Record.ofMembers`, `Record.ofElements` — takes a record out of values that have been read.
-/

namespace Cartridge.Json

/-- A field whose values come from a `source` of that type. -/
structure Field (source : Type → Type) (α : Type) where
  /-- The name that stands for it in an object. -/
  name : String
  /-- How its value is read. -/
  read : source α
  /-- The value it takes when it is left out. -/
  absent : Option α

/-- The fields of a record, in the order of their declaration. -/
inductive Record (source : Type → Type) : Type → Type 1 where
  | done : Record source Unit
  | field {α β : Type} (first : Field source α) (others : Record source β) :
      Record source (α × β)

namespace Record

variable {source : Type → Type} {ρ : Type}

/-- A field that must be given, before other fields. -/
def needs {α β : Type} (name : String) (read : source α) (others : Record source β) :
    Record source (α × β) :=
  .field ⟨name, read, none⟩ others

/-- A field that may be left out, before other fields. -/
def admits {α β : Type} (name : String) (read : source α) (absent : α)
    (others : Record source β) : Record source (α × β) :=
  .field ⟨name, read, some absent⟩ others

/-- The values of the fields that have been met so far. -/
def Slots {ρ : Type} : Record source ρ → Type
  | .done => Unit
  | @field _ α _ _ others => Option α × others.Slots

/-- No field has been met. -/
def start {ρ : Type} : (record : Record source ρ) → record.Slots
  | .done => ()
  | .field _ others => (none, others.start)

/-- The whole record, once no more fields follow. -/
def finish {ρ : Type} : (record : Record source ρ) → record.Slots → Except Mismatch ρ
  | .done, _ => .ok ()
  | .field first others, slots => do
    let value ← match slots.1 <|> first.absent with
      | some value => .ok value
      | none => .error (.missingField first.name)
    return (value, ← others.finish slots.2)

/-! ### Off a text -/

/-- Takes in one member of an object, given the text from its colon on. -/
def takeMember {ρ : Type} (levels : Nat) : (record : Record Reader ρ) → record.Slots →
    (name : String) → (text : List Char) → Except Fault (record.Slots × Rest text)
  | .done, slots, _, text => do
    return (slots, (← Reader.ignored.afterColon levels text).2)
  | .field first others, slots, name, text =>
    if name = first.name then
      if slots.1.isSome then mismatch (.duplicateField name)
      else do
        let (value, left) ← first.read.afterColon levels text
        return ((some value, slots.2), left)
    else do
      let (changed, left) ← others.takeMember levels slots.2 name text
      return ((slots.1, changed), left)

/-- Reads the elements of an array as the fields of a record. -/
def takeElements {ρ : Type} {origin : List Char} (levels : Nat) : (record : Record Reader ρ) →
    (isFirst : Bool) → Rest origin → Except Fault (ρ × Rest origin)
  | .done, _, rest => .ok ((), rest)
  | .field first others, isFirst, rest => do
    match ← Reader.nextElement isFirst rest with
    | none =>
      match first.absent with
      | none => mismatch .invalidLength
      | some value =>
        let (values, left) ← others.takeElements levels isFirst rest
        return ((value, values), left)
    | some next =>
      let (value, left) ← first.read levels next.chars
      let (values, left) ← others.takeElements levels false (next.within left)
      return ((value, values), left)

/-- Reads a record. -/
def reader (record : Record Reader ρ) : Reader ρ := fun levels text =>
  if (dropBlanks text).head? = some '[' then
    Reader.enclosed '[' ']' (fun levels _ rest => record.takeElements levels true rest) levels text
  else
    Reader.enclosed '\x7b' '\x7d' (fun levels _ rest => do
      let (slots, left) ←
        Reader.members (record.takeMember levels) true record.start rest
      match record.finish slots with
      | .ok values => return (values, left)
      | .error cause => mismatch cause) levels text

/-! ### Out of values -/

/-- Takes in one member of an object that has been read. -/
def putMember {ρ : Type} : (record : Record Decoder ρ) → record.Slots → (String × Value) →
    Except Mismatch record.Slots
  | .done, slots, _ => .ok slots
  | .field first others, slots, (name, value) =>
    if name = first.name then
      if slots.1.isSome then .error (.duplicateField name)
      else do return (some (← first.read value), slots.2)
    else do return (slots.1, ← others.putMember slots.2 (name, value))

/-- The record that the members of an object make. -/
def ofMembers (record : Record Decoder ρ) (members : List (String × Value)) :
    Except Mismatch ρ := do
  record.finish (← members.foldlM record.putMember record.start)

/-- The record that the elements of an array make. -/
def ofElements {ρ : Type} : Record Decoder ρ → List Value → Except Mismatch ρ
  | .done, [] => .ok ()
  | .done, _ :: _ => .error .invalidLength
  | .field first others, value :: values => do
    return (← first.read value, ← others.ofElements values)
  | .field first others, [] =>
    match first.absent with
    | none => .error .invalidLength
    | some value => do return (value, ← others.ofElements [])

end Record
end Cartridge.Json
