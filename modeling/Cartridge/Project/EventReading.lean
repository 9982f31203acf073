import Cartridge.Json.Record
import Cartridge.Project.Command

/-!
# Reading events

An event is a record whose fields depend on its command, and the command may stand anywhere among
them. So an event is read as a whole first and interpreted afterwards; only the command is checked
as soon as it is met. As an array, an event starts with its command.

* `Event.reader` — reads an event off a text.
* `Event.decoder` — takes an event out of a value that has been read, as the branches and bodies of
  other events are.
-/

namespace Cartridge

open Json

namespace Argument

/-- The argument that a value writes: an object whose one member is a `literal` or a `variable`. -/
def decoder : Decoder Argument := fun value => do
  let (name, under) ← Decoder.tagged value
  let isLiteral ← Reader.named [("literal", true), ("variable", false)] name
  match under with
  | none => throw .invalidType
  | some inner =>
    if isLiteral then return .literal (← Decoder.ofWord inner)
    else return .ofVariable (← Decoder.ofText inner)

end Argument

/-- The operators under their spellings. -/
def MathOperator.decoder : Decoder MathOperator :=
  Decoder.choice ([.add, .subtract, .multiply, .divide, .remainder].map fun operator =>
    (operator.spelling, operator))

/-- The comparisons under their spellings. -/
def Comparison.decoder : Decoder Comparison :=
  Decoder.choice ([.equal, .unequal, .less, .atMost, .greater, .atLeast].map fun comparison =>
    (comparison.spelling, comparison))

/-- The directions under their spellings. -/
def Direction.decoder : Decoder Direction :=
  Decoder.choice ([.down, .up, .left, .right].map fun direction => (direction.spelling, direction))

/-- The overlay colours under their spellings. -/
def OverlayColor.decoder : Decoder OverlayColor :=
  Decoder.choice ([.black, .white].map fun color => (color.spelling, color))

/-- How the event of one command is made from what is written besides the command. -/
structure EventForm where
  /-- From the members of an object. -/
  ofMembers : List (String × Json.Value) → Except Mismatch Event
  /-- From the elements of an array. -/
  ofElements : List Json.Value → Except Mismatch Event

namespace EventForm

/-- The form of an event with fields. -/
def fields {ρ : Type} (record : Record Decoder ρ) (event : ρ → Event) : EventForm where
  ofMembers members := do return event (← record.ofMembers members)
  ofElements elements := do return event (← record.ofElements elements)

/-- The form of an event without fields. Members of any name are passed over. -/
def bare (event : Event) : EventForm where
  ofMembers _ := .ok event
  ofElements
    | [] => .ok event
    | _ :: _ => .error .invalidLength

end EventForm


/-- The form of each command, given how a list of events is decoded. -/
def Command.form (events : Decoder (List Event)) : Command → EventForm
  | stop => .bare .stop
  | text => .fields (.needs "text" Decoder.ofText .done) fun (words, _) => .text words
  | setVariable =>
    .fields (.needs "variable" Decoder.ofText (.needs "value" Argument.decoder .done))
      fun (name, value, _) => .setVariable name value
  | changeVariable =>
    .fields (.needs "variable" Decoder.ofText (.needs "operator" MathOperator.decoder
      (.needs "value" Argument.decoder .done)))
      fun (name, operator, value, _) => .changeVariable name operator value
  | setFlag => .fields (.needs "flag" Decoder.ofText .done) fun (flag, _) => .setFlag flag
  | clearFlag => .fields (.needs "flag" Decoder.ofText .done) fun (flag, _) => .clearFlag flag
  | ifFlag =>
    .fields (.needs "flag" Decoder.ofText (.admits "true_branch" events []
      (.admits "false_branch" events [] .done)))
      fun (flag, whenTrue, whenFalse, _) => .ifFlag flag whenTrue whenFalse
  | ifVariable =>
    .fields (.needs "variable" Decoder.ofText (.needs "comparison" Comparison.decoder
      (.needs "value" Argument.decoder (.admits "true_branch" events []
        (.admits "false_branch" events [] .done)))))
      fun (name, comparison, value, whenTrue, whenFalse, _) =>
        .ifVariable name comparison value whenTrue whenFalse
  | loopWhile =>
    .fields (.needs "variable" Decoder.ofText (.needs "comparison" Comparison.decoder
      (.needs "value" Argument.decoder (.admits "body" events [] .done))))
      fun (name, comparison, value, body, _) => .loopWhile name comparison value body
  | loopForever => .fields (.admits "body" events [] .done) fun (body, _) => .loopForever body
  | leaveLoop => .bare .leaveLoop
  | callScript => .fields (.needs "script" Decoder.ofText .done) fun (script, _) =>
      .callScript script
  | switchScene =>
    .fields (.needs "scene" Decoder.ofText (.admits "x" Decoder.ofByte 0
      (.admits "y" Decoder.ofByte 0 .done)))
      fun (scene, x, y, _) => .switchScene scene x y
  | moveActor =>
    .fields (.needs "actor" Decoder.ofText (.needs "x" Argument.decoder
      (.needs "y" Argument.decoder .done)))
      fun (actor, x, y, _) => .moveActor actor x y
  | turnActor =>
    .fields (.needs "actor" Decoder.ofText (.needs "direction" Direction.decoder .done))
      fun (actor, direction, _) => .turnActor actor direction
  | showActor => .fields (.needs "actor" Decoder.ofText .done) fun (actor, _) => .showActor actor
  | hideActor => .fields (.needs "actor" Decoder.ofText .done) fun (actor, _) => .hideActor actor
  | moveCamera =>
    .fields (.needs "x" Decoder.ofByte (.needs "y" Decoder.ofByte
      (.admits "speed" Decoder.ofByte 0 .done)))
      fun (x, y, speed, _) => .moveCamera x y speed
  | showOverlay =>
    .fields (.needs "color" OverlayColor.decoder (.admits "x" Decoder.ofByte 0
      (.admits "y" Decoder.ofByte 0 .done)))
      fun (color, x, y, _) => .showOverlay color x y
  | hideOverlay => .bare .hideOverlay
  | wait => .fields (.needs "frames" Decoder.ofWord .done) fun (frames, _) => .wait frames
  | playSong => .fields (.needs "song" Decoder.ofText .done) fun (song, _) => .playSong song
  | stopMusic => .bare .stopMusic
  | playSound => .fields (.needs "sound" Decoder.ofText .done) fun (sound, _) => .playSound sound

namespace Command

/-- The name under which an event holds its command. -/
def key : String := "command"

/-- The command that a value writes: its name, or its number among `all`. -/
def decoder : Decoder Command
  | .text name => Reader.named byName name
  | .numeral (.natural number) =>
    match all[number]? with
    | some command => .ok command
    | none => .error .invalidValue
  | _ => .error .invalidType

/-- Splits the members of an event into its command and the others. -/
def split (members : List (String × Json.Value)) :
    Except Mismatch (Command × List (String × Json.Value)) := do
  let (command, others) ← members.foldlM (fun (command, others) (name, value) => do
    if name = key then
      if Option.isSome command then throw (.duplicateField key)
      return (some (← decoder value), others)
    else return (command, (name, value) :: others)) ((none : Option Command), [])
  match command with
  | some command => return (command, others.reverse)
  | none => throw (.missingField key)

end Command

namespace Event

/-- Takes an event out of a value that nests its events at most `levels` deep. -/
def decoderWithin : (levels : Nat) → Decoder Event
  | 0, _ => .error .invalidType
  | levels + 1, value =>
    let events := Decoder.list (decoderWithin levels)
    match value with
    | .object members => do
      let (command, others) ← Command.split members
      (command.form events).ofMembers others
    | .array [] => .error (.missingField Command.key)
    | .array (first :: others) => do
      ((← Command.decoder first).form events).ofElements others
    | _ => .error .invalidType

/-- Takes an event out of a value. No value that has been read is nested deeper than the limit. -/
def decoder : Decoder Event := decoderWithin nestingLimit

/-- The mismatches of an event that has been read, as faults of its reader. -/
private def settle {α : Type} : Except Mismatch α → Except Fault α
  | .ok value => .ok value
  | .error cause => mismatch cause

/-- Reads an event. -/
def reader : Reader Event := fun levels text =>
  let events := Decoder.list decoder
  let command : Reader Command := Reader.ofText.refine (Reader.named Command.byName)
  match (dropBlanks text).head? with
  | some '\x7b' => do
    let take (state : Option Command × List (String × Json.Value)) (levels : Nat) (name : String)
        (inner : List Char) :
        Except Fault ((Option Command × List (String × Json.Value)) × Rest inner) :=
      if name = Command.key then
        if state.1.isSome then mismatch (.duplicateField Command.key)
        else do
          let (found, left) ← command.afterColon levels inner
          return ((some found, state.2), left)
      else do
        let (value, left) ← Reader.afterColon Json.Value.read levels inner
        return ((state.1, (name, value) :: state.2), left)
    let ((found, others), left) ← Reader.enclosed '\x7b' '\x7d' (fun levels _ rest => do
      let (state, left) ←
        Reader.members (fun state => take state levels) true (none, []) rest
      match state.1 with
      | none => mismatch (.missingField Command.key)
      | some found => return ((found, state.2.reverse), left)) levels text
    return (← settle ((found.form events).ofMembers others), left)
  | some '[' => do
    let ((found, others), left) ← Reader.enclosed '[' ']' (fun levels _ rest => do
      match ← Reader.nextElement true rest with
      | none => mismatch (.missingField Command.key)
      | some next =>
        let (found, left) ← command levels next.chars
        let (others, left) ← Reader.elements levels Json.Value.read false [] (next.within left)
        return ((found, others), left)) levels text
    return (← settle ((found.form events).ofElements others), left)
  | _ => .error (wrongKind (dropBlanks text))

end Event
end Cartridge
