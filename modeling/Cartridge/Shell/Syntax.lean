/-!
# Shell scripts

The programs that builds run are often shell scripts. A script is a command that is put together
from simple commands; a simple command consists of words, whose parts are filled in when it is run.
-/

namespace Cartridge.Shell

/-- What is made of the value of a parameter. -/
inductive Use where
  | value
  /-- Its number of characters. -/
  | length
  /-- A word in its place when it has none, or none that is not empty. -/
  | otherwise (orEmpty : Bool) (word : String)
  /-- The same, and the word becomes its value. -/
  | assign (orEmpty : Bool) (word : String)
  /-- A word in its place when it has one. -/
  | instead (orEmpty : Bool) (word : String)
  /-- The value without what matches a pattern at one of its ends. -/
  | strip (fromEnd longest : Bool) (pattern : String)
  deriving DecidableEq, Repr, Inhabited

/-- A part of a word. What comes of a quoted part is not cut into fields. -/
inductive Part where
  | text (quoted : Bool) (value : String)
  | parameter (quoted : Bool) (name : String) (use : Use)
  | arithmetic (quoted : Bool) (expression : String)
  /-- What a script prints. -/
  | printed (quoted : Bool) (script : String)
  /-- What a script has printed. -/
  | filled (quoted : Bool) (value : String)
  deriving DecidableEq, Repr, Inhabited

/-- A word: its parts stand next to each other. -/
abbrev Word : Type := List Part

/-- What becomes of a descriptor. -/
inductive Redirection where
  | read
  | write
  | append
  /-- It becomes the same as another one. -/
  | duplicate
  /-- The word itself is read. -/
  | document
  deriving DecidableEq, Repr, Inhabited

/-- A redirection of a descriptor to what a word says. -/
structure Redirect where
  descriptor : Nat
  redirection : Redirection
  word : Word
  deriving DecidableEq, Repr, Inhabited

/-- A simple command. Its line is the one that messages name. -/
structure Simple where
  line : Nat
  assignments : List (String × Word)
  words : List Word
  redirects : List Redirect
  deriving DecidableEq, Repr, Inhabited

/-- A command. -/
inductive Command where
  | nothing
  | simple (command : Simple)
  | sequence (first second : Command)
  | both (first second : Command)
  | either (first second : Command)
  | negated (command : Command)
  | piped (source sink : Command)
  | background (command : Command)
  | subshell (body : Command)
  | redirected (line : Nat) (body : Command) (redirects : List Redirect)
  | choice (condition yes no : Command)
  | loop (isUntil : Bool) (condition body : Command)
  /-- Without words, the arguments of the script are gone through. -/
  | each (name : String) (words : Option (List Word)) (body : Command)
  | cases (word : Word) (arms : List (List Word × Command))
  | definition (name : String) (body : Command)
  deriving Inhabited

end Cartridge.Shell
