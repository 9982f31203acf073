import Cartridge.FileSystem.Access
import Cartridge.Shell.Pattern
import Cartridge.Shell.Session

/-!
# Filling in words

Parameters and expressions are replaced by their values, unquoted values are cut into fields at
blanks, and fields with unquoted pattern characters become the paths that they stand for.

* `Shell.fields` — the fields that words make.
* `Shell.oneField` — the text of a word that stays one field.
-/

namespace Cartridge.Shell

/-- Characters, each with whether it is quoted. -/
abbrev Marked : Type := List (Char × Bool)

/-- What comes of a part: marked characters, with breaks between fields. -/
inductive Piece where
  | char (value : Char) (quoted : Bool)
  | fieldBreak
  /-- A field begins here, even if nothing follows. -/
  | present
  deriving DecidableEq, Repr

/-- A text that is not cut. -/
def whole (quoted : Bool) (text : String) : List Piece :=
  (if quoted then [.present] else []) ++ text.toList.map (Piece.char · quoted)

/-- A text that is cut into fields at blanks. -/
def cut (text : String) : List Piece :=
  text.toList.map fun c =>
    if c = ' ' ∨ c = '\t' ∨ c = '\n' then .fieldBreak else .char c false

/-- A text that is cut unless it is quoted. -/
def valuePieces (quoted : Bool) (text : String) : List Piece :=
  if quoted then whole true text else cut text

/-- The arguments of a script, each one a field of its own. They are cut further unless they are
quoted. -/
def argumentPieces (quoted : Bool) (arguments : List String) : List Piece :=
  ((arguments.map (valuePieces quoted)).intersperse [Piece.fieldBreak]).flatten

/-- The marked characters of pieces, without breaks. -/
def marked (pieces : List Piece) : Marked :=
  pieces.filterMap fun piece =>
    match piece with
    | .char value quoted => some (value, quoted)
    | .fieldBreak | .present => none

/-- The text of pieces, a break being a blank. -/
def textOf (pieces : List Piece) : String :=
  String.ofList (pieces.filterMap fun piece =>
    match piece with
    | .char value _ => some value
    | .fieldBreak => some ' '
    | .present => none)

/-- What comes of a part. A part that cannot be filled in leaves nothing. Parts in words inside of
parts are filled in to a depth of `fuel`. -/
def partPieces : (fuel : Nat) → Session → Part → List Piece × Session
  | 0, session, _ => ([], session)
  | fuel + 1, session, part =>
    let inner (session : Session) (text : String) : List Piece × Session :=
      (embeddedWord text).foldl (fun (pieces, session) part =>
        let (more, session) := partPieces fuel session part
        (pieces ++ more, session)) ([], session)
    match part with
    | .text quoted value => (whole quoted value, session)
    | .printed _ _ => ([], session)
    | .filled quoted value => (valuePieces quoted value, session)
    | .arithmetic quoted expression =>
      let (pieces, session) := inner session expression
      match Arithmetic.evaluate session.bindings (textOf pieces) with
      | some (value, bindings) => (valuePieces quoted (toString value), { session with bindings })
      | none => ([], session)
    | .parameter quoted name use =>
      let value := session.parameter? name
      let isMissing (orEmpty : Bool) : Bool :=
        match value with
        | some text => orEmpty && text.isEmpty
        | none => true
      let pieces : List Piece :=
        if name = "@" ∨ (name = "*" ∧ !quoted) then argumentPieces quoted session.arguments
        else valuePieces quoted (value.getD "")
      match use with
      | .value => (pieces, session)
      | .length => (valuePieces quoted (toString (value.getD "").length), session)
      | .otherwise orEmpty word =>
        if isMissing orEmpty then
          let (found, session) := inner session word
          (valuePieces quoted (textOf found), session)
        else (pieces, session)
      | .assign orEmpty word =>
        if isMissing orEmpty then
          let (found, session) := inner session word
          let text := textOf found
          (valuePieces quoted text,
            { session with bindings := session.bindings.insert name text })
        else (pieces, session)
      | .instead orEmpty word =>
        if isMissing orEmpty then ([], session)
        else
          let (found, session) := inner session word
          (valuePieces quoted (textOf found), session)
      | .strip fromEnd longest pattern =>
        let (found, session) := ((wordParts (pattern.length + 1) [] pattern.toList).map
            Prod.fst).getD [.text true pattern]
          |>.foldl (fun (pieces, session) part =>
            let (more, session) := partPieces fuel session part
            (pieces ++ more, session)) ([], session)
        let left := (Pattern.ofMarked (marked found)).strip fromEnd longest
          (value.getD "").toList
        (valuePieces quoted (String.ofList left), session)

/-- How deep words may be inside of parts. -/
def depthLimit : Nat := 16

/-- What comes of a word. -/
def wordPieces (session : Session) (word : Word) : List Piece × Session :=
  word.foldl (fun (pieces, session) part =>
    let (more, session) := partPieces depthLimit session part
    (pieces ++ more, session)) ([], session)

/-- The text of a word that stays one field. -/
def oneField (session : Session) (word : Word) : String × Session :=
  let (pieces, session) := wordPieces session word
  (textOf pieces, session)

/-- The fields of pieces. `current` is the field that has begun, its last character first, and
`before` are those that have ended, the last one first. -/
def cutFields (before : List Marked) (current : Option Marked) : List Piece → List Marked
  | [] => ((current.map List.reverse).toList ++ before).reverse
  | .char value quoted :: rest => cutFields before (some ((value, quoted) :: current.getD [])) rest
  | .present :: rest => cutFields before (some (current.getD [])) rest
  | .fieldBreak :: rest => cutFields ((current.map List.reverse).toList ++ before) none rest

/-- The marked characters between separators. -/
def cutSlashes (chars : Marked) : List Marked :=
  (chars.splitBy fun first second => first.1 != '/' && second.1 != '/').filter fun part =>
    part.any fun (c, _) => c != '/'

/-- The paths that patterns of names stand for, seen from a directory. Names that begin with a point
must be asked for. -/
def findPaths (files : FileSystem) (here : Location) (base : String) : List Marked → List String
  | [] => [base]
  | part :: rest =>
    let pattern := Pattern.ofMarked part
    let text := String.ofList (part.map Prod.fst)
    let names : List String :=
      if pattern.isOpen then
        match files.list here (if base.isEmpty then "." else base) with
        | .ok names => names.filter fun name =>
          pattern.matchesAll name.toList && (text.startsWith "." || !name.startsWith ".")
        | .error _ => []
      else if (files.find false here (base ++ text)).isOk then [text] else []
    names.flatMap fun name =>
      findPaths files here (if rest.isEmpty then base ++ name else base ++ name ++ "/") rest

/-- What a field becomes: the paths that it stands for, or else itself. -/
def openField (files : FileSystem) (here : Location) (field : Marked) : List String :=
  let text := String.ofList (field.map Prod.fst)
  if (Pattern.ofMarked field).isOpen then
    match findPaths files here (if text.startsWith "/" then "/" else "") (cutSlashes field) with
    | [] => [text]
    | found => found
  else [text]

/-- The fields that words make. -/
def fields (files : FileSystem) (session : Session) (words : List Word) :
    List String × Session :=
  words.foldl (fun (found, session) word =>
    let (pieces, session) := wordPieces session word
    (found ++ (cutFields [] none pieces).flatMap (openField files session.directory), session))
    ([], session)

end Cartridge.Shell
