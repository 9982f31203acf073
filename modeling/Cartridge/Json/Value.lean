import Cartridge.Json.Reader

/-!
# JSON values

Some values can be interpreted only after all of them has been read. They are read into a `Value`
first, whole and without a shape in mind, and taken apart by a `Decoder` afterwards.

* `Value.read` — reads any value.
* `Decoder` — what a value means, or how it misses the wanted shape.
-/

namespace Cartridge.Json

/-- A JSON value; the members of an object stand in the order of the text, with repeated names. -/
inductive Value where
  | null
  | bool (value : Bool)
  | numeral (value : Scan.Numeral)
  | text (value : String)
  | array (elements : List Value)
  | object (members : List (String × Value))

/-- Looks for the next member of an object and reads its name: `none` stands for the closing brace,
which is left in place. The rest starts at the colon. -/
def nextMember {origin : List Char} (isFirst : Bool) (before : Rest origin) :
    Except Fault (Option (String × { after : Rest origin //
      after.chars.length < before.chars.length })) :=
  match held : dropBlanks before.chars with
  | [] => .error .ended
  | '\x7d' :: _ => .ok none
  | first :: rest =>
    have within : (first :: rest).length ≤ before.chars.length :=
      held ▸ length_dropBlanks_le before.chars
    let past : Rest before.chars := (Rest.tail first rest).widen within
    let quoted (quote : Rest before.chars) : Except Fault (Option (String × { after : Rest origin //
        after.chars.length < before.chars.length })) := do
      let (name, left) ← Scan.text quote.chars
      return some (name, ⟨before.within (quote.within left), (quote.within left).shorter⟩)
    if isFirst then
      if first = '"' then quoted past else .error .malformed
    else if first = ',' then
      match again : dropBlanks rest with
      | [] => .error .ended
      | '"' :: more => quoted ⟨more, by
          have inner := length_dropBlanks_le rest
          have outer := within
          rw [again, List.length_cons] at inner
          rw [List.length_cons] at outer
          omega⟩
      | _ => .error .malformed
    else .error .malformed

/-- Reads the members of an object up to its closing brace. What a member does to the state is up to
`take`, which gets the name and the text from the colon on. -/
def Reader.members {origin : List Char} {σ : Type}
    (take : σ → String → (text : List Char) → Except Fault (σ × Rest text)) (isFirst : Bool)
    (state : σ) (rest : Rest origin) : Except Fault (σ × Rest origin) :=
  match nextMember isFirst rest with
  | .error fault => .error fault
  | .ok none => .ok (state, rest)
  | .ok (some (name, next)) =>
    match take state name next.val.chars with
    | .error fault => .error fault
    | .ok (changed, left) => members take false changed (next.val.within left)
termination_by rest.chars.length
decreasing_by exact Nat.lt_trans left.shorter next.property

/-- Reads the value of a member, given the text from its colon on. -/
def Reader.afterColon {α : Type} (reader : Reader α) (levels : Nat) (text : List Char) :
    Except Fault (α × Rest text) := do
  let colon ← Reader.mark ':' text
  let (value, left) ← reader levels colon.chars
  return (value, colon.within left)

namespace Value

/-- Reads any value. -/
def read : Reader Value
  | levels, chars =>
    match held : dropBlanks chars with
    | [] => .error .ended
    | first :: rest =>
      have within : (first :: rest).length ≤ chars.length := held ▸ length_dropBlanks_le chars
      let past : Rest chars := (Rest.tail first rest).widen within
      if first = '[' then
        match levels with
        | 0 => .error .malformed
        | deeper + 1 => do
          let (elements, left) ←
            Reader.elements deeper (fun _ inner => read deeper inner) true [] past
          return (.array elements, left.within (← Reader.mark ']' left.chars))
      else if first = '\x7b' then
        match levels with
        | 0 => .error .malformed
        | deeper + 1 => do
          let take (members : List (String × Value)) (name : String) (inner : List Char) :
              Except Fault (List (String × Value) × Rest inner) := do
            let colon ← Reader.mark ':' inner
            let (value, left) ← read deeper colon.chars
            return ((name, value) :: members, colon.within left)
          let (members, left) ← Reader.members take true [] past
          return (.object members.reverse, left.within (← Reader.mark '\x7d' left.chars))
      else if first = '"' then do
        let (value, left) ← Reader.ofText levels chars
        return (.text value, left)
      else if first = '-' ∨ first.isDigit then do
        let (value, left) ← Reader.ofNumeral levels chars
        return (.numeral value, left)
      else if first = 't' then do
        let left ← Scan.word ['r', 'u', 'e'] rest
        return (.bool true, (Rest.beyond first left).widen within)
      else if first = 'f' then do
        let left ← Scan.word ['a', 'l', 's', 'e'] rest
        return (.bool false, (Rest.beyond first left).widen within)
      else do return (.null, ← Reader.nothing chars)

end Value

/-- What a value means, or how it misses the wanted shape. -/
abbrev Decoder (α : Type) : Type := Value → Except Mismatch α

namespace Decoder

variable {α : Type}

/-- A string. -/
def ofText : Decoder String
  | .text value => .ok value
  | _ => .error .invalidType

/-- A natural number of at most `greatest`. -/
def ofNatural (greatest : Nat) : Decoder Nat
  | .numeral value => Reader.boundedNatural greatest value
  | _ => .error .invalidType

/-- A byte. -/
def ofByte : Decoder UInt8 := fun value => do return UInt8.ofNat (← ofNatural 0xFF value)

/-- A word of two bytes. -/
def ofWord : Decoder UInt16 := fun value => do return UInt16.ofNat (← ofNatural 0xFFFF value)

/-- An array. -/
def list (element : Decoder α) : Decoder (List α)
  | .array values => values.mapM element
  | _ => .error .invalidType

/-- A name with or without something under it: a string, or an object with one member. -/
def tagged : Decoder (String × Option Value)
  | .text name => .ok (name, none)
  | .object [(name, value)] => .ok (name, some value)
  | .object _ => .error .invalidValue
  | _ => .error .invalidType

/-- A name out of those that `values` offers, with nothing under it. -/
def choice (values : List (String × α)) : Decoder α := fun value => do
  let (name, under) ← tagged value
  let chosen ← Reader.named values name
  match under with
  | none | some .null | some (.object []) => return chosen
  | some _ => throw .invalidType

end Decoder
end Cartridge.Json
