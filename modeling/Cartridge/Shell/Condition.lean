import Cartridge.FileSystem.Access

/-!
# Conditions in scripts

* `Condition.holds?` — whether a condition holds, unless it is malformed.
-/

namespace Cartridge.Shell.Condition

/-- The whole number that a text writes. -/
def number? (text : String) : Option Int :=
  match text.toList.dropWhile (· == ' ') with
  | '-' :: digits => (String.ofList digits).toNat?.map fun value => -(value : Int)
  | '+' :: digits => (String.ofList digits).toNat?.map Int.ofNat
  | digits => (String.ofList digits).toNat?.map Int.ofNat

/-- A condition on one text. -/
def single? (files : FileSystem) (here : Location) (operator text : String) : Option Bool :=
  let found := files.find true here text
  let isFile : Bool := match found with
    | .ok (_, .file _) => true
    | _ => false
  match operator with
  | "-n" => some !text.isEmpty
  | "-z" => some text.isEmpty
  | "-e" | "-r" | "-w" => some found.isOk
  | "-f" => some isFile
  | "-d" | "-x" => some (files.isDirectory here text)
  | "-s" => some (match found with
    | .ok (_, .file contents) => contents.size != 0
    | .ok (_, node) => node.isDirectory
    | .error _ => false)
  | "-h" | "-L" => some (match files.find false here text with
    | .ok (_, .link _) => true
    | _ => false)
  | _ => none

/-- A condition on two texts. -/
def double? (operator first second : String) : Option Bool :=
  let compared (holds : Int → Int → Bool) : Option Bool := do
    return holds (← number? first) (← number? second)
  match operator with
  | "=" | "==" => some (first == second)
  | "!=" => some (first != second)
  | "-eq" => compared (· == ·)
  | "-ne" => compared (· != ·)
  | "-lt" => compared fun a b => a < b
  | "-le" => compared fun a b => a ≤ b
  | "-gt" => compared fun a b => b < a
  | "-ge" => compared fun a b => b ≤ a
  | _ => none

/-- A condition that is not put together from others, or the opposite of one. -/
def simple? (files : FileSystem) (here : Location) (words : List String) : Option Bool :=
  match words with
  | [] => some false
  | [text] => some !text.isEmpty
  | [first, second] =>
    if first = "!" then some second.isEmpty else single? files here first second
  | "!" :: rest => (simple? files here rest).map not
  | [first, operator, second] => double? operator first second
  | _ => none

/-- The parts of a list around the places of an element. -/
def parts (separator : String) (words : List String) : List (List String) :=
  words.splitOn separator

/-- Whether a condition holds. -/
def holds? (files : FileSystem) (here : Location) (words : List String) : Option Bool :=
  match simple? files here words with
  | some holds => some holds
  | none => do
    let alternatives ← (parts "-o" words).mapM fun alternative => do
      return ((← (parts "-a" alternative).mapM (simple? files here)).all id)
    return alternatives.any id

end Cartridge.Shell.Condition
