import Cartridge.Json.Scan

/-!
# Readers of JSON values

A `Reader α` reads one value of type `α` off the head of a text, blanks before it included. Readers
go from left to right and stop at the first fault, be it one of the text or one of its shape.

* `Reader.ofText`, `Reader.ofNatural` — strings and bounded natural numbers.
* `Reader.optional`, `Reader.list`, `Reader.vector` — an absent value, arrays of any length and
  arrays of a fixed length.
* `Reader.choice` — one of several names.
* `Reader.ignored` — any value at all.
* `Reader.whole` — a value with nothing but blanks around it.
-/

namespace Cartridge.Json

/-- How many arrays and objects may be nested in each other. -/
def nestingLimit : Nat := 127

/-- Reads a value off the head of a text, given how many more arrays and objects may be opened. -/
abbrev Reader (α : Type) : Type :=
  (levels : Nat) → (text : List Char) → Except Fault (α × Rest text)

/-- The mismatches, as faults of a reader. -/
def mismatch {α : Type} (cause : Mismatch) : Except Fault α :=
  .error (.mismatch cause)

/-- The fault of a text that holds another kind of value than is wanted. The value is read as far as
is needed to know that it is one. -/
def wrongKind (text : List Char) : Fault :=
  match text with
  | [] => .ended
  | 'n' :: rest => after (Scan.word ['u', 'l', 'l'] rest)
  | 't' :: rest => after (Scan.word ['r', 'u', 'e'] rest)
  | 'f' :: rest => after (Scan.word ['a', 'l', 's', 'e'] rest)
  | '"' :: rest => after (Scan.text rest)
  | first :: rest =>
    if first = '-' ∨ first.isDigit then after (Scan.numeral (first :: rest))
    else if first = '[' ∨ first = '\x7b' then .mismatch .invalidType
    else .malformed
where
  /-- A value that could be read is of the wrong kind. -/
  after {β : Type} : Except Fault β → Fault
    | .ok _ => .mismatch .invalidType
    | .error fault => fault

namespace Reader

variable {α β : Type}

/-- The value read, changed by a function that can refuse it. -/
def refine (reader : Reader α) (convert : α → Except Mismatch β) : Reader β := fun levels text => do
  let (value, rest) ← reader levels text
  match convert value with
  | .ok converted => return (converted, rest)
  | .error cause => mismatch cause

/-- The value read, changed by a function. -/
def map (convert : α → β) (reader : Reader α) : Reader β := fun levels text => do
  let (value, rest) ← reader levels text
  return (convert value, rest)

/-- Reads one of the characters that JSON is put together from, after blanks. -/
def mark (wanted : Char) (text : List Char) : Except Fault (Rest text) :=
  match held : dropBlanks text with
  | [] => .error .ended
  | first :: rest =>
    if first = wanted then
      .ok ⟨rest, by
        have := length_dropBlanks_le text
        rw [held, List.length_cons] at this
        omega⟩
    else .error .malformed

/-- Reads a string. -/
def ofText : Reader String := fun _ text =>
  match held : dropBlanks text with
  | '"' :: rest => do
    let (value, left) ← Scan.text rest
    return (value, left.widen (by
      have := length_dropBlanks_le text
      rw [held, List.length_cons] at this
      omega))
  | other => .error (wrongKind other)

/-- Reads a number of any size and form. -/
def ofNumeral : Reader Scan.Numeral := fun _ text =>
  let found := dropBlanks text
  if found.head? = some '-' ∨ Scan.startsWithDigit found then do
    let (value, left) ← Scan.numeral found
    return (value, left.widen (length_dropBlanks_le text))
  else .error (wrongKind found)

/-- The natural number that a numeral must be, at most `greatest`. -/
def boundedNatural (greatest : Nat) : Scan.Numeral → Except Mismatch Nat
  | .natural value => if value ≤ greatest then .ok value else .error .invalidValue
  | .negative _ => .error .invalidValue
  | .floating => .error .invalidType

/-- Reads a natural number of at most `greatest`. -/
def ofNatural (greatest : Nat) : Reader Nat :=
  ofNumeral.refine (boundedNatural greatest)

/-- Reads a byte. -/
def ofByte : Reader UInt8 := (ofNatural 0xFF).map UInt8.ofNat

/-- Reads `null`, given that it starts with an `n`. -/
def nothing (text : List Char) : Except Fault (Rest text) :=
  match held : dropBlanks text with
  | 'n' :: rest => do
    let left ← Scan.word ['u', 'l', 'l'] rest
    return ⟨left.val, by
      have blanks := length_dropBlanks_le text
      have letters := left.property
      rw [held, List.length_cons] at blanks
      omega⟩
  | other => .error (wrongKind other)

/-- Reads a value or `null`. -/
def optional (reader : Reader α) : Reader (Option α) := fun levels text =>
  if (dropBlanks text).head? = some 'n' then do
    return (none, ← nothing text)
  else reader.map some levels text

/-! ### Arrays -/

/-- Looks for the next element of an array: `none` stands for its closing bracket, which is left in
place. The rest starts at the element. -/
def nextElement {origin : List Char} (isFirst : Bool) (before : Rest origin) :
    Except Fault (Option (Rest origin)) :=
  match held : dropBlanks before.chars with
  | [] => .error .ended
  | ']' :: _ => .ok none
  | ',' :: rest =>
    if isFirst then .ok (some before)
    else
      match dropBlanks rest with
      | [] => .error .ended
      | ']' :: _ => .error .malformed
      | _ => .ok (some ⟨rest, by
          have outer := before.shorter
          have := length_dropBlanks_le before.chars
          rw [held, List.length_cons] at this
          omega⟩)
  | _ => if isFirst then .ok (some before) else .error .malformed

theorem nextElement_shorter {origin : List Char} {isFirst : Bool} {before after : Rest origin}
    (found : nextElement isFirst before = .ok (some after)) :
    after.chars.length ≤ before.chars.length := by
  unfold nextElement at found
  split at found
  · cases found
  · cases found
  · rename_i rest held
    split at found
    · cases found; exact Nat.le_refl _
    · split at found
      · cases found
      · cases found
      · cases found
        have := length_dropBlanks_le before.chars
        rw [held, List.length_cons] at this
        show rest.length ≤ _
        omega
  · split at found
    · cases found; exact Nat.le_refl _
    · cases found

/-- Reads the elements of an array up to its closing bracket, onto those `before`, the last one
first. -/
def elements {origin : List Char} (levels : Nat) (element : Reader α) (isFirst : Bool)
    (before : List α) (rest : Rest origin) : Except Fault (List α × Rest origin) :=
  match held : nextElement isFirst rest with
  | .error fault => .error fault
  | .ok none => .ok (before.reverse, rest)
  | .ok (some next) =>
    have _closer := nextElement_shorter held
    match element levels next.chars with
    | .error fault => .error fault
    | .ok (value, left) => elements levels element false (value :: before) (next.within left)
termination_by rest.chars.length
decreasing_by exact Nat.lt_of_lt_of_le left.shorter _closer

/-- Opens an array or an object, reads what is in it and closes it. -/
def enclosed (opening closing : Char)
    (content : (levels : Nat) → {origin : List Char} → Rest origin →
      Except Fault (α × Rest origin)) : Reader α := fun levels text =>
  match held : dropBlanks text with
  | [] => .error .ended
  | first :: rest =>
    if first = opening then
      match levels with
      | 0 => .error .malformed
      | deeper + 1 => do
        let (value, left) ← @content deeper text ⟨rest, by
          have := length_dropBlanks_le text
          rw [held, List.length_cons] at this
          omega⟩
        return (value, left.within (← mark closing left.chars))
    else .error (wrongKind (first :: rest))

/-- Reads an array of any length. -/
def list (element : Reader α) : Reader (List α) :=
  enclosed '[' ']' fun levels _ rest => elements levels element true [] rest

/-- Reads an array of exactly `size` elements. -/
def vector (size : Nat) (element : Reader α) : Reader (Vector α size) :=
  enclosed '[' ']' fun levels _ rest => go levels size true rest
where
  /-- Reads the last `missing` elements. -/
  go (levels : Nat) : (missing : Nat) → (isFirst : Bool) → {origin : List Char} → Rest origin →
      Except Fault (Vector α missing × Rest origin)
    | 0, _, _, rest => .ok (#v[], rest)
    | missing + 1, isFirst, _, rest => do
      match ← nextElement isFirst rest with
      | none => mismatch .invalidLength
      | some next =>
        let (value, left) ← element levels next.chars
        let (others, left) ← go levels missing false (next.within left)
        return ((#v[value] ++ others).cast (Nat.add_comm 1 missing), left)

/-! ### Values that nobody asks for -/

/-- What a value that is passed over may be inside of. -/
inductive Enclosure where
  | array
  | object
  deriving DecidableEq, Repr

/-- What must come next while a value is passed over. -/
inductive Expectation where
  /-- A value. -/
  | value
  /-- A value, or the end of the array that has just been opened. -/
  | firstElement
  /-- The name of a member. -/
  | name
  /-- The name of a member, or the end of the object that has just been opened. -/
  | firstName
  /-- What follows a value: a comma or the end of the enclosure. -/
  | continuation

/-- Passes over the string, the number or the word that `first` starts. -/
def skipScalar (first : Char) (rest : List Char) : Except Fault (Rest (first :: rest)) :=
  match first with
  | '"' => do
    let left : Rest rest ← Scan.skipText rest (length_le_self rest)
    return left.widen (length_le_cons first rest)
  | 'n' => do return Rest.beyond 'n' (← Scan.word ['u', 'l', 'l'] rest)
  | 't' => do return Rest.beyond 't' (← Scan.word ['r', 'u', 'e'] rest)
  | 'f' => do return Rest.beyond 'f' (← Scan.word ['a', 'l', 's', 'e'] rest)
  | '-' => do return (← Scan.skipUnsigned rest).widen (length_le_cons first rest)
  | other =>
    if other.isDigit then Scan.skipUnsigned (other :: rest) else .error .malformed

/-- One step of passing over a value inside of `enclosures`, the innermost first: what must come
next, inside of what, and where. -/
def skipStep (expected : Expectation) (enclosures : List Enclosure) (text : List Char) :
    Except Fault (Expectation × List Enclosure × Rest text) :=
  match held : dropBlanks text with
  | [] => .error .ended
  | first :: rest =>
    have within : (first :: rest).length ≤ text.length := held ▸ length_dropBlanks_le text
    let past : Rest text := (Rest.tail first rest).widen within
    let closes (closing : Char) : Bool := first = closing
    match expected, enclosures with
    | .firstElement, _ :: outer =>
      if closes ']' then .ok (.continuation, outer, past) else value first rest within enclosures
    | .firstName, _ :: outer =>
      if closes '\x7d' then .ok (.continuation, outer, past) else name first past enclosures
    | .name, _ => name first past enclosures
    | .continuation, .array :: outer =>
      if first = ',' then .ok (.value, enclosures, past)
      else if closes ']' then .ok (.continuation, outer, past)
      else .error .malformed
    | .continuation, .object :: outer =>
      if first = ',' then .ok (.name, enclosures, past)
      else if closes '\x7d' then .ok (.continuation, outer, past)
      else .error .malformed
    | _, _ => value first rest within enclosures
where
  /-- Passes over a scalar or opens an array or an object. -/
  value {text : List Char} (first : Char) (rest : List Char)
      (within : (first :: rest).length ≤ text.length) (enclosures : List Enclosure) :
      Except Fault (Expectation × List Enclosure × Rest text) :=
    let past : Rest text := (Rest.tail first rest).widen within
    if first = '[' then .ok (.firstElement, .array :: enclosures, past)
    else if first = '\x7b' then .ok (.firstName, .object :: enclosures, past)
    else do return (.continuation, enclosures, (← skipScalar first rest).widen within)
  /-- Passes over the name of a member and its colon. -/
  name {text : List Char} (first : Char) (past : Rest text) (enclosures : List Enclosure) :
      Except Fault (Expectation × List Enclosure × Rest text) :=
    if first = '"' then do
      let left := past.within (← Scan.skipText past.chars (Nat.le_refl _))
      return (.value, enclosures, left.within (← mark ':' left.chars))
    else .error .malformed

/-- Passes over what is left of a value inside of `enclosures`. Nothing limits their number. -/
def skip {origin : List Char} (expected : Expectation) (enclosures : List Enclosure)
    (text : List Char) (within : text.length ≤ origin.length) : Except Fault (Rest origin) :=
  match skipStep expected enclosures text with
  | .error fault => .error fault
  | .ok (.continuation, [], left) => .ok (left.widen within)
  | .ok (next, inside, left) =>
    skip next inside left.chars (Nat.le_of_lt (Nat.lt_of_lt_of_le left.shorter within))
termination_by text.length
decreasing_by exact left.shorter

/-- Passes over a value. -/
def ignored : Reader Unit := fun _ text => do
  return ((), ← skip .value [] text (length_le_self text))

/-! ### Names -/

/-- The value that a name stands for. -/
def named (values : List (String × α)) (name : String) : Except Mismatch α :=
  match values.lookup name with
  | some value => .ok value
  | none => .error (.unknownVariant name)

/-- Reads a name out of those that `values` offers: a string, or an object with that one member and
the value `null`. -/
def choice (values : List (String × α)) : Reader α := fun levels text =>
  match (dropBlanks text).head? with
  | none => .error .ended
  | some '"' => ofText.refine (named values) levels text
  | some '\x7b' =>
    enclosed '\x7b' '\x7d' (fun levels _ rest => do
      let (value, left) ← ofText.refine (named values) levels rest.chars
      let left := rest.within left
      let left := left.within (← mark ':' left.chars)
      return (value, left.within (← nothing left.chars))) levels text
  | _ => .error .malformed

/-- Reads a text that holds one value and blanks. -/
def whole (reader : Reader α) (text : String) : Except Fault α := do
  let (value, rest) ← reader nestingLimit text.toList
  if (dropBlanks rest.chars).isEmpty then return value else throw .malformed

end Reader
end Cartridge.Json
