import Cartridge.Shell.Lexeme

/-!
# Reading scripts

* `Shell.script` — the command that a script stands for, unless it is malformed.
-/

namespace Cartridge.Shell

/-- Passes over blanks, remarks and line ends. -/
def skipLines : (fuel : Nat) → List Char → List Char
  | 0, chars => chars
  | fuel + 1, chars =>
    match skipBlanks chars with
    | '\n' :: rest => skipLines fuel rest
    | rest => rest

/-- The words that end a list of commands. -/
def closers : List String := ["then", "else", "elif", "fi", "do", "done", "esac", "\x7d"]

/-- The plain word at the head of a script, and what follows it. -/
def plainWord (chars : List Char) : String × List Char :=
  (String.ofList (chars.takeWhile fun c => !isMeta c), chars.dropWhile fun c => !isMeta c)

/-- Passes over a word of the language. -/
def keyword (name : String) (chars : List Char) : Option (List Char) :=
  let (found, rest) := plainWord (skipLines (chars.length + 1) chars)
  if found = name then some rest else none

/-- Whether a list of commands ends here. -/
def isClosed (chars : List Char) : Bool :=
  match chars with
  | [] => true
  | ')' :: _ => true
  | ';' :: ';' :: _ => true
  | _ => closers.contains (plainWord chars).1

/-- Cuts a document off a script: the lines up to the one that is its mark. -/
def cutDocument (mark : List Char) (dropTabs : Bool) : (fuel : Nat) → (before : List Char) →
    List Char → List Char × List Char
  | 0, before, chars => (before, chars)
  | fuel + 1, before, chars =>
    if chars.isEmpty then (before, [])
    else
      let whole := chars.takeWhile (· != '\n')
      let rest := (chars.dropWhile (· != '\n')).tail
      let line := if dropTabs then whole.dropWhile (· == '\t') else whole
      if line = mark then (before, rest)
      else cutDocument mark dropTabs fuel (before ++ line ++ ['\n']) rest

/-- The characters of a word without its quotes, and whether it had any. -/
def unquoted (word : Word) : List Char × Bool :=
  (word.flatMap fun part =>
      match part with
      | .text _ value => value.toList
      | _ => [],
    word.any fun part =>
      match part with
      | .text quoted _ => quoted
      | _ => false)

/-- The redirection at the head of a script. -/
def redirect (chars : List Char) : Option (Option (Redirect × List Char)) :=
  let digits := chars.takeWhile Char.isDigit
  let number (default : Nat) : Nat :=
    if digits.isEmpty then default
    else digits.foldl (fun value digit => value * 10 + (digit.toNat - '0'.toNat)) 0
  let toWord (default : Nat) (redirection : Redirection) (rest : List Char) :
      Option (Option (Redirect × List Char)) := do
    let (word, rest) ← word (skipBlanks rest)
    if word.isEmpty then none
    return some (⟨number default, redirection, word⟩, rest)
  let document (dropTabs : Bool) (rest : List Char) : Option (Option (Redirect × List Char)) := do
    let (mark, rest) ← word (skipBlanks rest)
    let (name, isLiteral) := unquoted mark
    let line := rest.takeWhile (· != '\n')
    let (body, behind) := cutDocument name dropTabs (rest.length + 1) []
      (rest.dropWhile (· != '\n')).tail
    let word ← if isLiteral then some [.text true (String.ofList body)] else documentWord body
    return some (⟨number 0, .document, word⟩, line ++ '\n' :: behind)
  match chars.dropWhile Char.isDigit with
  | '>' :: '>' :: rest => toWord 1 .append rest
  | '>' :: '&' :: rest => toWord 1 .duplicate rest
  | '>' :: '|' :: rest => toWord 1 .write rest
  | '>' :: rest => toWord 1 .write rest
  | '<' :: '<' :: '-' :: rest => document true rest
  | '<' :: '<' :: rest => document false rest
  | '<' :: '&' :: rest => toWord 0 .duplicate rest
  | '<' :: rest => toWord 0 .read rest
  | _ => some none

/-- The redirections at the head of a script. -/
def redirects : (fuel : Nat) → (before : List Redirect) → List Char →
    Option (List Redirect × List Char)
  | 0, _, _ => none
  | fuel + 1, before, chars => do
    match ← redirect (skipBlanks chars) with
    | some (found, rest) => redirects fuel (found :: before) rest
    | none => return (before.reverse, chars)

/-- The name that is assigned to at the head of a script. -/
def assignment (chars : List Char) : Option (String × List Char) :=
  let name := chars.takeWhile isNameChar
  match chars.dropWhile isNameChar with
  | '=' :: rest => if isName name then some (String.ofList name, rest) else none
  | _ => none

/-- The simple command at the head of a script. -/
def simple : (fuel : Nat) → (command : Simple) → List Char → Option (Simple × List Char)
  | 0, _, _ => none
  | fuel + 1, command, chars => do
    let chars := skipBlanks chars
    match ← redirect chars with
    | some (found, rest) =>
      simple fuel { command with redirects := command.redirects ++ [found] } rest
    | none =>
      if (chars.head?.map isMeta).getD true then return (command, chars)
      else
        match if command.words.isEmpty then assignment chars else none with
        | some (name, rest) =>
          let (value, rest) ← word rest
          simple fuel { command with assignments := command.assignments ++ [(name, value)] } rest
        | none =>
          let (found, rest) ← word chars
          simple fuel { command with words := command.words ++ [found] } rest

/-- The words up to the end of a line or of a list. -/
def wordList : (fuel : Nat) → (before : List Word) → List Char → Option (List Word × List Char)
  | 0, _, _ => none
  | fuel + 1, before, chars => do
    let chars := skipBlanks chars
    if (chars.head?.map isMeta).getD true then return (before.reverse, chars)
    let (found, rest) ← word chars
    wordList fuel (found :: before) rest

/-- The patterns of an arm, up to the parenthesis behind them. -/
def patterns : (fuel : Nat) → (before : List Word) → List Char → Option (List Word × List Char)
  | 0, _, _ => none
  | fuel + 1, before, chars => do
    let (found, rest) ← word (skipBlanks chars)
    match skipBlanks rest with
    | '|' :: rest => patterns fuel (found :: before) rest
    | ')' :: rest => return ((found :: before).reverse, rest)
    | _ => none

/-- Puts a command behind another one. -/
def Command.before (first second : Command) : Command :=
  match second with
  | .nothing => first
  | _ => .sequence first second

/-- The line of a place in a script of so many lines. -/
def lineOf (lines : Nat) (rest : List Char) : Nat := lines - rest.count '\n'

mutual

/-- The commands up to the end of a list. -/
def list (lines : Nat) : (fuel : Nat) → List Char → Option (Command × List Char)
  | 0, _ => none
  | fuel + 1, chars =>
    let chars := skipLines (chars.length + 1) chars
    if isClosed chars then some (.nothing, chars)
    else do
      let (first, rest) ← combination lines fuel chars
      match skipBlanks rest with
      | ';' :: ';' :: _ => return (first, skipBlanks rest)
      | ';' :: rest | '\n' :: rest =>
        let (second, rest) ← list lines fuel rest
        return (first.before second, rest)
      | '&' :: rest =>
        let (second, rest) ← list lines fuel rest
        return ((Command.background first).before second, rest)
      | rest => if isClosed rest then return (first, rest) else none

/-- Commands that depend on whether others succeed. -/
def combination (lines : Nat) : (fuel : Nat) → List Char → Option (Command × List Char)
  | 0, _ => none
  | fuel + 1, chars => do
    let (first, rest) ← pipeline lines fuel chars
    combined lines fuel first rest

/-- The commands that depend on whether the one before succeeds. -/
def combined (lines : Nat) : (fuel : Nat) → Command → List Char → Option (Command × List Char)
  | 0, _, _ => none
  | fuel + 1, first, chars =>
    match skipBlanks chars with
    | '&' :: '&' :: rest => do
      let (second, rest) ← pipeline lines fuel (skipLines (rest.length + 1) rest)
      combined lines fuel (.both first second) rest
    | '|' :: '|' :: rest => do
      let (second, rest) ← pipeline lines fuel (skipLines (rest.length + 1) rest)
      combined lines fuel (.either first second) rest
    | rest => some (first, rest)

/-- Commands each of which reads what the one before prints. -/
def pipeline (lines : Nat) : (fuel : Nat) → List Char → Option (Command × List Char)
  | 0, _ => none
  | fuel + 1, chars => do
    match keyword "!" chars with
    | some rest =>
      let (inner, rest) ← pipeline lines fuel rest
      return (.negated inner, rest)
    | none =>
      let (first, rest) ← command lines fuel (skipLines (chars.length + 1) chars)
      match skipBlanks rest with
      | '|' :: '|' :: _ => return (first, rest)
      | '|' :: behind =>
        let (second, rest) ← pipeline lines fuel (skipLines (behind.length + 1) behind)
        return (.piped first second, rest)
      | _ => return (first, rest)

/-- A single command. -/
def command (lines : Nat) : (fuel : Nat) → List Char → Option (Command × List Char)
  | 0, _ => none
  | fuel + 1, chars => do
    let line := lineOf lines chars
    let (name, rest) := plainWord chars
    let compound : Option (Option (Command × List Char)) := match chars with
      | '(' :: inside => some do
        let (body, rest) ← list lines fuel inside
        match rest with
        | ')' :: rest => return (.subshell body, rest)
        | _ => none
      | _ =>
        match name with
        | "\x7b" => some do
          let (body, rest) ← list lines fuel rest
          return (body, ← keyword "\x7d" rest)
        | "if" => some (choice lines fuel rest)
        | "while" => some (looping lines fuel false rest)
        | "until" => some (looping lines fuel true rest)
        | "for" => some do
          let (name, rest) := plainWord (skipBlanks rest)
          let (words, rest) ← match keyword "in" rest with
            | some rest => do
              let (words, rest) ← wordList (rest.length + 1) [] rest
              some (some words, rest)
            | none => some (none, rest)
          let rest := match skipBlanks rest with
            | ';' :: rest => rest
            | rest => rest
          let (body, rest) ← list lines fuel (← keyword "do" rest)
          return (.each name words body, ← keyword "done" rest)
        | "case" => some do
          let (subject, rest) ← word (skipBlanks rest)
          let (arms, rest) ← arms lines fuel [] (← keyword "in" rest)
          return (.cases subject arms, rest)
        | _ => none
    match compound with
    | some found =>
      let (body, rest) ← found
      let (redirects, rest) ← redirects (rest.length + 1) [] rest
      return (if redirects.isEmpty then body else .redirected line body redirects, rest)
    | none =>
      match isName name.toList, skipBlanks rest with
      | true, '(' :: behind =>
        match skipBlanks behind with
        | ')' :: behind => do
          let (body, rest) ← command lines fuel (skipLines (behind.length + 1) behind)
          return (.definition name body, rest)
        | _ => none
      | _, _ =>
        let (found, rest) ← simple (chars.length + 1) ⟨line, [], [], []⟩ chars
        if found.assignments.isEmpty && found.words.isEmpty && found.redirects.isEmpty then none
        else return (.simple found, rest)

/-- A choice behind its condition's beginning. -/
def choice (lines : Nat) : (fuel : Nat) → List Char → Option (Command × List Char)
  | 0, _ => none
  | fuel + 1, chars => do
    let (condition, rest) ← list lines fuel chars
    let (yes, rest) ← list lines fuel (← keyword "then" rest)
    match keyword "elif" rest, keyword "else" rest with
    | some rest, _ =>
      let (no, rest) ← choice lines fuel rest
      return (.choice condition yes no, rest)
    | none, some rest =>
      let (no, rest) ← list lines fuel rest
      return (.choice condition yes no, ← keyword "fi" rest)
    | none, none => return (.choice condition yes .nothing, ← keyword "fi" rest)

/-- A loop behind its beginning. -/
def looping (lines : Nat) : (fuel : Nat) → (isUntil : Bool) → List Char →
    Option (Command × List Char)
  | 0, _, _ => none
  | fuel + 1, isUntil, chars => do
    let (condition, rest) ← list lines fuel chars
    let (body, rest) ← list lines fuel (← keyword "do" rest)
    return (.loop isUntil condition body, ← keyword "done" rest)

/-- The arms of a distinction of cases. -/
def arms (lines : Nat) : (fuel : Nat) → (before : List (List Word × Command)) → List Char →
    Option (List (List Word × Command) × List Char)
  | 0, _, _ => none
  | fuel + 1, before, chars => do
    let chars := skipLines (chars.length + 1) chars
    match keyword "esac" chars with
    | some rest => return (before.reverse, rest)
    | none =>
      let chars := match chars with
        | '(' :: rest => rest
        | chars => chars
      let (found, rest) ← patterns (chars.length + 1) [] chars
      let (body, rest) ← list lines fuel rest
      let rest := match skipBlanks rest with
        | ';' :: ';' :: rest => rest
        | rest => rest
      arms lines fuel ((found, body) :: before) rest

end

/-- The command that a script stands for. A level of the grammar that takes no character leads to
one of few that do, so that eight units of fuel for each character are enough. -/
def script (text : String) : Option Command := do
  let chars := text.toList
  let (found, rest) ← list (chars.count '\n' + 1) (8 * chars.length + 64) chars
  if rest.isEmpty then return found else none

end Cartridge.Shell
