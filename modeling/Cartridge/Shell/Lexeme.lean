import Cartridge.Shell.Syntax

/-!
# Words of scripts

* `Shell.word` — cuts a word off a script.
-/

namespace Cartridge.Shell

/-- The characters that end a word. -/
def isMeta (c : Char) : Bool :=
  [' ', '\t', '\n', ';', '&', '|', '<', '>', '(', ')'].contains c

/-- The characters that do not stand for themselves in a word. -/
def isSpecial (c : Char) : Bool :=
  isMeta c || ['\'', '"', '\\', '$', '`'].contains c

/-- The characters that names consist of. -/
def isNameChar (c : Char) : Bool := c.isAlphanum || c == '_'

/-- Whether characters are a name. -/
def isName (chars : List Char) : Bool :=
  match chars with
  | first :: _ => !first.isDigit && chars.all isNameChar
  | [] => false

/-- Passes over blanks and a remark. -/
def skipBlanks : List Char → List Char
  | ' ' :: rest | '\t' :: rest => skipBlanks rest
  | '\\' :: '\n' :: rest => skipBlanks rest
  | '#' :: rest => rest.dropWhile (· != '\n')
  | rest => rest

/-- Cuts at the character that closes what an opening one has begun. Quotes inside are passed over;
`quote` is the one that is open, and `before` holds what has been passed over, last one first. -/
def cutClosing (opening closing : Char) : (depth : Nat) → (quote : Option Char) →
    (before : List Char) → List Char → Option (List Char × List Char)
  | _, _, _, [] => none
  | depth, some '\'', before, c :: rest =>
    cutClosing opening closing depth (if c = '\'' then none else some '\'') (c :: before) rest
  | depth, quote, before, '\\' :: c :: rest =>
    cutClosing opening closing depth quote (c :: '\\' :: before) rest
  | depth, some '"', before, c :: rest =>
    cutClosing opening closing depth (if c = '"' then none else some '"') (c :: before) rest
  | depth, quote, before, c :: rest =>
    if c = '\'' ∨ c = '"' then cutClosing opening closing depth (some c) (c :: before) rest
    else if c = closing then
      match depth with
      | 0 => some (before.reverse, rest)
      | depth + 1 => cutClosing opening closing depth quote (c :: before) rest
    else if c = opening then cutClosing opening closing (depth + 1) quote (c :: before) rest
    else cutClosing opening closing depth quote (c :: before) rest

/-- Cuts at the back quote that ends a script in back quotes, from which a backslash before a back
quote, a backslash or a dollar sign is taken away. -/
def cutBackquote : (before : List Char) → List Char → Option (List Char × List Char)
  | _, [] => none
  | before, '`' :: rest => some (before.reverse, rest)
  | before, '\\' :: c :: rest =>
    if c = '`' ∨ c = '\\' ∨ c = '$' then cutBackquote (c :: before) rest
    else cutBackquote (c :: '\\' :: before) rest
  | before, c :: rest => cutBackquote (c :: before) rest

/-- The parameter between braces. -/
def braced (quoted : Bool) (inside : List Char) : Option Part :=
  let named (chars : List Char) : List Char × List Char :=
    match chars with
    | c :: rest =>
      if isNameChar c then (chars.takeWhile isNameChar, chars.dropWhile isNameChar)
      else if ['#', '?', '$', '!', '@', '*', '-'].contains c then ([c], rest)
      else ([], chars)
    | [] => ([], [])
  let part (name : List Char) (use : Use) : Option Part :=
    some (.parameter quoted (String.ofList name) use)
  match inside with
  | '#' :: c :: rest => if (named (c :: rest)).2.isEmpty then part (c :: rest) .length else none
  | _ =>
    let (name, rest) := named inside
    if name.isEmpty then none
    else
      match rest with
      | [] => part name .value
      | ':' :: '-' :: word => part name (.otherwise true (String.ofList word))
      | '-' :: word => part name (.otherwise false (String.ofList word))
      | ':' :: '=' :: word => part name (.assign true (String.ofList word))
      | '=' :: word => part name (.assign false (String.ofList word))
      | ':' :: '+' :: word => part name (.instead true (String.ofList word))
      | '+' :: word => part name (.instead false (String.ofList word))
      | '%' :: '%' :: pattern => part name (.strip true true (String.ofList pattern))
      | '%' :: pattern => part name (.strip true false (String.ofList pattern))
      | '#' :: '#' :: pattern => part name (.strip false true (String.ofList pattern))
      | '#' :: pattern => part name (.strip false false (String.ofList pattern))
      | _ => none

/-- The part that a dollar sign begins, and what follows it. A dollar sign that begins nothing
stands for itself. -/
def dollar (quoted : Bool) (chars : List Char) : Option (Part × List Char) :=
  match chars with
  | '\x7b' :: rest => do
    let (inside, rest) ← cutClosing '\x7b' '\x7d' 0 none [] rest
    return (← braced quoted inside, rest)
  | '(' :: rest => do
    let (inside, rest) ← cutClosing '(' ')' 0 none [] rest
    match inside with
    | '(' :: inner =>
      if inner.getLast? = some ')' then
        return (.arithmetic quoted (String.ofList inner.dropLast), rest)
      else return (.printed quoted (String.ofList inside), rest)
    | _ => return (.printed quoted (String.ofList inside), rest)
  | c :: rest =>
    if c.isDigit || ['#', '?', '$', '!', '@', '*', '-'].contains c then
      some (.parameter quoted (String.singleton c) .value, rest)
    else if isNameChar c then
      some (.parameter quoted (String.ofList (chars.takeWhile isNameChar)) .value,
        chars.dropWhile isNameChar)
    else some (.text true "$", chars)
  | [] => some (.text true "$", [])

/-- The parts up to a double quote, or up to the end of a document, in which double quotes stand for
themselves. The parts before come last first. -/
def quotedParts (isDocument : Bool) : (fuel : Nat) → (before : Word) → List Char →
    Option (Word × List Char)
  | 0, _, _ => none
  | fuel + 1, before, chars =>
    match chars with
    | [] => if isDocument then some (before.reverse, []) else none
    | '\\' :: c :: rest =>
      if c = '\n' then quotedParts isDocument fuel before rest
      else if c = '$' ∨ c = '`' ∨ c = '\\' ∨ (c = '"' ∧ !isDocument) then
        quotedParts isDocument fuel (.text true (String.singleton c) :: before) rest
      else quotedParts isDocument fuel (.text true (String.ofList ['\\', c]) :: before) rest
    | '$' :: rest => do
      let (part, rest) ← dollar true rest
      quotedParts isDocument fuel (part :: before) rest
    | '`' :: rest => do
      let (inside, rest) ← cutBackquote [] rest
      quotedParts isDocument fuel (.printed true (String.ofList inside) :: before) rest
    | '"' :: rest =>
      if isDocument then quotedParts isDocument fuel (.text true "\"" :: before) rest
      else some (before.reverse, rest)
    | c :: _ =>
      let isPlain (c : Char) : Bool := !(['\\', '$', '`', '"'].contains c)
      if isPlain c then
        quotedParts isDocument fuel (.text true (String.ofList (chars.takeWhile isPlain)) :: before)
          (chars.dropWhile isPlain)
      else quotedParts isDocument fuel (.text true (String.singleton c) :: before) chars.tail

/-- The parts between double quotes, which make a field even if they are empty. All arguments of a
script make as many fields as there are. -/
def presentUnlessArguments (parts : Word) : Word :=
  if parts = [.parameter true "@" .value] then parts else .text true "" :: parts

/-- The parts of a word up to a character that ends it. The parts before come last first. -/
def wordParts : (fuel : Nat) → (before : Word) → List Char → Option (Word × List Char)
  | 0, _, _ => none
  | fuel + 1, before, chars =>
    match chars with
    | [] => some (before.reverse, [])
    | '\'' :: rest => do
      if rest.all (· != '\'') then none
      let value := rest.takeWhile (· != '\'')
      wordParts fuel (.text true (String.ofList value) :: before) (rest.dropWhile (· != '\'')).tail
    | '"' :: rest => do
      let (parts, rest) ← quotedParts false fuel [] rest
      wordParts fuel ((presentUnlessArguments parts).reverse ++ before) rest
    | '\\' :: '\n' :: rest => wordParts fuel before rest
    | '\\' :: c :: rest => wordParts fuel (.text true (String.singleton c) :: before) rest
    | '$' :: rest => do
      let (part, rest) ← dollar false rest
      wordParts fuel (part :: before) rest
    | '`' :: rest => do
      let (inside, rest) ← cutBackquote [] rest
      wordParts fuel (.printed false (String.ofList inside) :: before) rest
    | c :: rest =>
      if isMeta c then some (before.reverse, chars)
      else if isSpecial c then wordParts fuel (.text true (String.singleton c) :: before) rest
      else
        let isPlain (c : Char) : Bool := !isSpecial c
        wordParts fuel (.text false (String.ofList (chars.takeWhile isPlain)) :: before)
          (chars.dropWhile isPlain)

/-- Cuts a word off a script. Each part takes at least one character, so that one unit of fuel for
each is enough. -/
def word (chars : List Char) : Option (Word × List Char) :=
  wordParts (chars.length + 1) [] chars

/-- The word that a document stands for. -/
def documentWord (body : List Char) : Option Word :=
  (quotedParts true (body.length + 1) [] body).map Prod.fst

/-- The word that a text with parameters in it stands for. -/
def embeddedWord (text : String) : Word :=
  ((quotedParts true (text.length + 1) [] text.toList).map Prod.fst).getD [.text true text]

end Cartridge.Shell
