import Cartridge.Shell.Lexeme
import Std.Data.HashMap

/-!
# Arithmetic in scripts

* `Arithmetic.evaluate` — the value of an expression, and the variables after it.
-/

namespace Cartridge.Shell

/-- The values of the variables of a script. -/
abbrev Variables : Type := Std.HashMap String String

namespace Arithmetic

/-- A token of an expression. -/
inductive Token where
  | number (value : Int)
  | name (value : String)
  | symbol (value : String)
  deriving DecidableEq, Repr

/-- The value of a digit. -/
def digitValue (c : Char) : Nat :=
  if c.isDigit then c.toNat - '0'.toNat
  else if c.isLower then c.toNat - 'a'.toNat + 10
  else c.toNat - 'A'.toNat + 10

/-- The number that letters and digits write: hexadecimal, octal or decimal. -/
def number? (chars : List Char) : Option Int :=
  let value (base : Nat) (digits : List Char) : Option Int :=
    if digits.all fun c => c.isAlphanum && digitValue c < base then
      some (digits.foldl (fun (value : Int) c => value * base + digitValue c) 0)
    else none
  match chars with
  | '0' :: 'x' :: digits | '0' :: 'X' :: digits => value 16 digits
  | '0' :: digits => value 8 digits
  | digits => if digits.isEmpty then none else value 10 digits

/-- The symbols, longer ones before their beginnings. -/
def symbols : List String :=
  ["<<=", ">>=", "&&", "||", "==", "!=", "<=", ">=", "<<", ">>", "+=", "-=", "*=", "/=", "%=",
    "+", "-", "*", "/", "%", "<", ">", "=", "!", "~", "&", "|", "^", "?", ":", "(", ")"]

/-- The tokens of an expression. Each takes a character at least, so that one unit of fuel for each
is enough. -/
def tokens : (fuel : Nat) → (before : List Token) → List Char → Option (List Token)
  | 0, before, chars => if chars.isEmpty then some before.reverse else none
  | fuel + 1, before, chars =>
    match chars with
    | [] => some before.reverse
    | c :: rest =>
      if c.isWhitespace then tokens fuel before rest
      else if isNameChar c then do
        let found := chars.takeWhile isNameChar
        let token ← if c.isDigit then (number? found).map Token.number
          else some (.name (String.ofList found))
        tokens fuel (token :: before) (chars.dropWhile isNameChar)
      else
        match symbols.find? fun symbol => symbol.toList.isPrefixOf chars with
        | some symbol => tokens fuel (.symbol symbol :: before) (chars.drop symbol.length)
        | none => none

/-- How strongly a symbol binds what is beside it, if it stands between two operands. -/
def strength? : String → Option Nat
  | "||" => some 1
  | "&&" => some 2
  | "|" => some 3
  | "^" => some 4
  | "&" => some 5
  | "==" | "!=" => some 6
  | "<" | "<=" | ">" | ">=" => some 7
  | "<<" | ">>" => some 8
  | "+" | "-" => some 9
  | "*" | "/" | "%" => some 10
  | _ => none

/-- A truth value as a number. -/
def ofBool (value : Bool) : Int := if value then 1 else 0

/-- A number in 64 bits. -/
def wrapped (value : Int) : Int64 := Int64.ofInt value

/-- What a symbol makes of two operands. -/
def apply (symbol : String) (first second : Int) : Option Int :=
  match symbol with
  | "||" => some (ofBool (first != 0 || second != 0))
  | "&&" => some (ofBool (first != 0 && second != 0))
  | "|" => some (wrapped first ||| wrapped second).toInt
  | "^" => some (wrapped first ^^^ wrapped second).toInt
  | "&" => some (wrapped first &&& wrapped second).toInt
  | "==" => some (ofBool (first == second))
  | "!=" => some (ofBool (first != second))
  | "<" => some (ofBool (first < second))
  | "<=" => some (ofBool (first ≤ second))
  | ">" => some (ofBool (second < first))
  | ">=" => some (ofBool (second ≤ first))
  | "<<" => some (wrapped first <<< wrapped second).toInt
  | ">>" => some (wrapped first >>> wrapped second).toInt
  | "+" => some (wrapped (first + second)).toInt
  | "-" => some (wrapped (first - second)).toInt
  | "*" => some (wrapped (first * second)).toInt
  | "/" => if second = 0 then none else some (first.tdiv second)
  | "%" => if second = 0 then none else some (first.tmod second)
  | _ => none

/-- The value of a variable as a number. -/
def variableValue (bindings : Variables) (name : String) : Option Int :=
  let text := (bindings.getD name "").toList.filter fun c => !c.isWhitespace
  match text with
  | [] => some 0
  | '-' :: digits => (number? digits).map Neg.neg
  | '+' :: digits => number? digits
  | digits => number? digits

/-- What is left of an expression, and the variables so far. -/
abbrev Rest : Type := List Token × Variables

mutual

/-- The value of an expression whose symbols bind at least as strongly as given. -/
def binary : (fuel : Nat) → (least : Nat) → Rest → Option (Int × Rest)
  | 0, _, _ => none
  | fuel + 1, least, rest => do
    let (first, rest) ← unary fuel rest
    continued fuel least first rest

/-- The value of an expression whose first operand is known. -/
def continued : (fuel : Nat) → (least : Nat) → (first : Int) → Rest → Option (Int × Rest)
  | 0, _, _, _ => none
  | fuel + 1, least, first, (tokens, bindings) =>
    match tokens with
    | .symbol "?" :: behind =>
      if 0 < least then some (first, (tokens, bindings))
      else do
        let (yes, rest) ← binary fuel 0 (behind, bindings)
        match rest with
        | (.symbol ":" :: behind, bindings) =>
          let (no, rest) ← binary fuel 0 (behind, bindings)
          return (if first = 0 then no else yes, rest)
        | _ => none
    | .symbol symbol :: behind =>
      match strength? symbol with
      | some strength =>
        if strength < least then some (first, (tokens, bindings))
        else do
          let (second, rest) ← binary fuel (strength + 1) (behind, bindings)
          continued fuel least (← apply symbol first second) rest
      | none => some (first, (tokens, bindings))
    | _ => some (first, (tokens, bindings))

/-- The value of an operand. -/
def unary : (fuel : Nat) → Rest → Option (Int × Rest)
  | 0, _ => none
  | fuel + 1, (tokens, bindings) =>
    match tokens with
    | .number value :: rest => some (value, (rest, bindings))
    | .name name :: .symbol symbol :: rest => do
      if symbol = "=" then
        let (value, (rest, bindings)) ← binary fuel 0 (rest, bindings)
        return (value, (rest, bindings.insert name (toString value)))
      else if symbol.endsWith "=" && (strength? symbol).isNone then
        let (second, (rest, bindings)) ← binary fuel 0 (rest, bindings)
        let value ← apply (String.ofList symbol.toList.dropLast)
          (← variableValue bindings name) second
        return (value, (rest, bindings.insert name (toString value)))
      else return (← variableValue bindings name, (.symbol symbol :: rest, bindings))
    | .name name :: rest => do return (← variableValue bindings name, (rest, bindings))
    | .symbol "(" :: rest => do
      let (value, rest) ← binary fuel 0 (rest, bindings)
      match rest with
      | (.symbol ")" :: behind, bindings) => return (value, (behind, bindings))
      | _ => none
    | .symbol "-" :: rest => do
      let (value, rest) ← unary fuel (rest, bindings)
      return (-value, rest)
    | .symbol "+" :: rest => unary fuel (rest, bindings)
    | .symbol "!" :: rest => do
      let (value, rest) ← unary fuel (rest, bindings)
      return (ofBool (value == 0), rest)
    | .symbol "~" :: rest => do
      let (value, rest) ← unary fuel (rest, bindings)
      return (-value - 1, rest)
    | _ => none

end

/-- The value of an expression, and the variables after it. -/
def evaluate (bindings : Variables) (expression : String) : Option (Int × Variables) := do
  let tokens ← tokens (expression.length + 1) [] expression.toList
  if tokens.isEmpty then return (0, bindings)
  let (value, (rest, bindings)) ← binary (4 * tokens.length + 8) 0 (tokens, bindings)
  if rest.isEmpty then return (value, bindings) else none

end Arithmetic
end Cartridge.Shell
