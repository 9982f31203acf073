import Cartridge.FileSystem.Action
import Cartridge.Shell.Printing
import Cartridge.Text.Utf8

/-!
# Programs that scripts call

The programs on files and lines that scripts rely on, as far as build scripts use them. A program
reads its input and the files, prints, and ends with a status.

* `Program.ofName?` — the program of a name.
-/

namespace Cartridge.Shell

/-- The files, and what a program has printed to which descriptor. -/
structure Desk where
  files : FileSystem
  printed : Array (Nat × List UInt8)

/-- What a program works on. -/
structure Call where
  directory : Location
  arguments : List String
  input : List UInt8

/-- A program: what it does, and the status with which it ends. -/
abbrev Program : Type := Call → StateM Desk Nat

namespace Program

/-! ### Common steps -/

/-- Prints bytes. -/
def put (bytes : List UInt8) : StateM Desk Unit :=
  modify fun desk => { desk with printed := desk.printed.push (1, bytes) }

/-- Prints a line. -/
def putLine (line : String) : StateM Desk Unit := put (encoded (line ++ "\n"))

/-- Complains. -/
def complain (line : String) : StateM Desk Unit :=
  modify fun desk => { desk with printed := desk.printed.push (2, encoded (line ++ "\n")) }

/-- Does something with the files, or gives the reason why not. -/
def attempt {α : Type} (action : FileAction α) : StateM Desk (Except FileError α) := do
  let desk ← get
  let (result, files) := action.run.run desk.files
  set { desk with files }
  return result

/-- Carries out steps, and ends with the greatest of their statuses. -/
def all {α : Type} (items : List α) (step : α → StateM Desk Nat) : StateM Desk Nat :=
  items.foldlM (fun worst item => do return max worst (← step item)) 0

/-- The letters of the options in front of the arguments, and the arguments. -/
def options (arguments : List String) : List Char × List String :=
  let given := arguments.takeWhile fun argument =>
    argument.startsWith "-" && argument.length > 1 && argument != "--"
  let rest := arguments.drop given.length
  (given.flatMap fun argument => argument.toList.tail,
    if rest.head? = some "--" then rest.tail else rest)

/-- Changes files for each argument, or complains about it. -/
def changeEach (arguments : List String) (complaint : String → FileError → String)
    (change : String → FileAction Unit) : StateM Desk Nat :=
  all arguments fun argument => do
    match ← attempt (change argument) with
    | .ok () => return 0
    | .error fault =>
      complain (complaint argument fault)
      return 1

/-- How many of the zeros that there is no end of are ever asked for. -/
def zeroCount : Nat := 1048576

/-- The bytes of a file. -/
def contents (call : Call) (path : String) : StateM Desk (Except FileError (List UInt8)) := do
  if path = "-" then return .ok call.input
  if path = "/dev/null" then return .ok []
  if path = "/dev/zero" then return .ok (List.replicate zeroCount 0)
  return ((← get).files.read call.directory path).map ByteArray.toList

/-- Goes through the bytes of files, or of the input if none are named. -/
def eachFile (call : Call) (name : String) (paths : List String) (complaint : String → String)
    (step : List UInt8 → StateM Desk Nat) : StateM Desk Nat :=
  if paths.isEmpty then step call.input
  else
    all paths fun path => do
      match ← contents call path with
      | .ok bytes => step bytes
      | .error fault =>
        complain s!"{name}: {complaint path}: {fault.description}"
        return 1

/-- The lines of bytes, each with its end if it has one. -/
def linesOf (bytes : List UInt8) : List (List UInt8) :=
  let (lines, last) := bytes.foldl (fun (lines, line) byte =>
    if byte = 0x0A then ((byte :: line).reverse :: lines, []) else (lines, byte :: line))
    (([] : List (List UInt8)), ([] : List UInt8))
  (if last.isEmpty then lines else last.reverse :: lines).reverse

/-- A line without its end. -/
def withoutEnd (line : List UInt8) : List UInt8 :=
  if line.getLast? = some 0x0A then line.dropLast else line

/-- The bytes of files one after the other, or of the input if none are named. -/
def gathered (call : Call) (name : String) (paths : List String) :
    StateM Desk (List UInt8 × Nat) := do
  if paths.isEmpty then return (call.input, 0)
  paths.foldlM (fun (bytes, status) path => do
    match ← contents call path with
    | .ok more => return (bytes ++ more, status)
    | .error fault =>
      complain s!"{name}: {path}: {fault.description}"
      return (bytes, 1)) ([], 0)

/-! ### Files -/

/-- Prints files. -/
def cat : Program := fun call =>
  eachFile call "cat" (options call.arguments).2 id fun bytes => do
    put bytes
    return 0

/-- Prints the names in a directory. -/
def listNames (all : Bool) (names : List String) : StateM Desk Unit :=
  names.forM fun name => if all || !name.startsWith "." then putLine name else pure ()

/-- Prints the names in directories, after those of files. -/
def ls : Program := fun call => do
  let (letters, named) := options call.arguments
  let paths := if named.isEmpty then ["."] else named
  let showsHidden := letters.contains 'a' || letters.contains 'A'
  let files := (← get).files
  let find (path : String) : Except FileError (Location × Node) :=
    match files.find true call.directory path with
    | .ok found => .ok found
    | .error _ => files.find false call.directory path
  let status ← all paths fun path =>
    match find path with
    | .ok _ => return 0
    | .error fault => do
      complain s!"ls: cannot access '{path}': {fault.description}"
      return 2
  let isListed (path : String) : Bool :=
    !letters.contains 'd' &&
      match find path with
      | .ok (_, node) => node.isDirectory
      | .error _ => false
  let others := paths.filter fun path => (find path).isOk && !isListed path
  (others.mergeSort).forM putLine
  let directories := (paths.filter isListed).mergeSort
  let _ ← directories.foldlM (fun isFirst path => do
    if paths.length > 1 then
      if !isFirst || !others.isEmpty then putLine ""
      putLine (path ++ ":")
    let names := (files.list call.directory path).toOption.getD []
    listNames showsHidden ((if letters.contains 'a' then [".", ".."] else []) ++ names)
    return false) true
  return status

/-- Creates files that are missing. -/
def touch : Program := fun call =>
  changeEach (options call.arguments).2
    (fun path fault => s!"touch: cannot touch '{path}': {fault.description}") fun path => do
      if !(← get).isPresent call.directory path then
        FileAction.change (·.write call.directory path ByteArray.empty)

/-- Creates directories. -/
def mkdir : Program := fun call =>
  let (letters, paths) := options call.arguments
  changeEach paths
    (fun path fault => s!"mkdir: cannot create directory '{path}': {fault.description}")
    fun path =>
      if letters.contains 'p' then FileAction.createDirectories call.directory path
      else FileAction.change (·.createDirectory call.directory path)

/-- Removes files, and directories if that is asked for. -/
def rm : Program := fun call =>
  let (letters, paths) := options call.arguments
  let isDeep := letters.contains 'r' || letters.contains 'R'
  changeEach paths (fun path fault => s!"rm: cannot remove '{path}': {fault.description}")
    fun path => do
      match (← get).find false call.directory path with
      | .error .notFound => if letters.contains 'f' then return else throw .notFound
      | .error fault => throw fault
      | .ok (_, node) =>
        if node.isDirectory && isDeep then FileAction.removeTree call.directory path
        else FileAction.change (·.removeFile call.directory path)

/-- Removes directories. -/
def rmdir : Program := fun call =>
  changeEach (options call.arguments).2
    (fun path fault => s!"rmdir: failed to remove '{path}': {fault.description}") fun path =>
      FileAction.change (·.removeDirectory call.directory path)

/-- Where something goes that is put at a path: into the directory there, under its own name. -/
def destination (files : FileSystem) (call : Call) (source target : String) : String :=
  if files.isDirectory call.directory target then
    FilePath.join target ((FilePath.fileName? source).getD source)
  else target

/-- Puts everything at or below a location at or below another one. -/
def graft (files : FileSystem) (source target : Location) (node : Node) : FileSystem :=
  (files.below source).foldl (fun files (path, node) =>
    files.put ((path.splitOn "/").reverse ++ target) node) (files.put target node)

/-- Copies something. -/
def copy (call : Call) (isDeep : Bool) (target source : String) : FileAction Unit := do
  let files ← get
  let (place, node) ← FileAction.query (·.find (!isDeep) call.directory source)
  if node.isDirectory && !isDeep then throw .isDirectory
  let goal := destination files call source target
  let landing ← FileAction.query (·.locate true call.directory goal)
  set (graft files place landing node)

/-- Copies files. -/
def cp : Program := fun call =>
  let (letters, paths) := options call.arguments
  let isDeep := letters.contains 'r' || letters.contains 'R' || letters.contains 'a'
  changeEach paths.dropLast (fun path fault => s!"cp: cannot stat '{path}': {fault.description}")
    (copy call isDeep (paths.getLast?.getD ""))

/-- Moves files. -/
def mv : Program := fun call =>
  let paths := (options call.arguments).2
  changeEach paths.dropLast (fun path fault => s!"mv: cannot stat '{path}': {fault.description}")
    fun path => do
      let files ← get
      let (place, node) ← FileAction.query (·.find false call.directory path)
      let goal := destination files call path (paths.getLast?.getD "")
      let landing ← FileAction.query (·.locate false call.directory goal)
      set (((graft files place landing node).clear place).erase place)

/-- Creates links. -/
def ln : Program := fun call =>
  let (letters, paths) := options call.arguments
  match paths with
  | [target, path] =>
    changeEach [path]
      (fun path fault => s!"ln: failed to create symbolic link '{path}': {fault.description}")
      fun path => do
        let files ← get
        let goal := if letters.contains 'n' then path else destination files call target path
        if letters.contains 'f' && (files.find false call.directory goal).isOk then
          FileAction.change (·.removeFile call.directory goal)
        FileAction.change (·.createLink call.directory target goal)
  | _ => return 1

/-- Prints what links stand for. -/
def readlink : Program := fun call =>
  all (options call.arguments).2 fun path => do
    match (← get).files.find false call.directory path with
    | .ok (_, .link target) =>
      putLine target
      return 0
    | _ => return 1

/-- Prints the last part of a path, without an ending. -/
def basename : Program := fun call => do
  match call.arguments with
  | path :: rest =>
    let name := (FilePath.fileName? path).getD path
    let ending := rest.headD ""
    putLine (if name.endsWith ending && name != ending then
      String.ofList (name.toList.take (name.length - ending.length)) else name)
    return 0
  | [] => return 1

/-- Prints a path without its last part. -/
def dirname : Program := fun call => do
  match call.arguments with
  | path :: _ =>
    let parent := (FilePath.parent? path).getD path
    putLine (if parent.isEmpty then "." else parent)
    return 0
  | [] => return 1

/-! ### Lines -/

/-- The number behind an option of one letter, as one argument or two, and the arguments left. -/
def countOption (letter : Char) (default : Nat) (arguments : List String) : Nat × List String :=
  match arguments with
  | option :: rest =>
    if option = String.ofList ['-', letter] then
      match rest with
      | value :: rest => ((value.toNat?).getD default, rest)
      | [] => (default, [])
    else if option.startsWith (String.ofList ['-', letter]) then
      (((String.ofList (option.toList.drop 2)).toNat?).getD default, rest)
    else
      match (String.ofList (option.toList.drop 1)).toNat? with
      | some value => if option.startsWith "-" then (value, rest) else (default, arguments)
      | none => (default, arguments)
  | [] => (default, [])

/-- Prints the first lines, or bytes, of files. -/
def head : Program := fun call =>
  let isBytes := (call.arguments.headD "").startsWith "-c"
  let (count, paths) := countOption (if isBytes then 'c' else 'n') 10 call.arguments
  eachFile call "head" paths (fun path => s!"cannot open '{path}' for reading") fun bytes => do
    put (if isBytes then bytes.take count else ((linesOf bytes).take count).flatten)
    return 0

/-- Prints the last lines, or bytes, of files. -/
def tail : Program := fun call =>
  let isBytes := (call.arguments.headD "").startsWith "-c"
  let (count, paths) := countOption (if isBytes then 'c' else 'n') 10 call.arguments
  eachFile call "tail" paths (fun path => s!"cannot open '{path}' for reading") fun bytes => do
    let lines := linesOf bytes
    put (if isBytes then bytes.drop (bytes.length - count)
      else (lines.drop (lines.length - count)).flatten)
    return 0

/-- Counts lines, words or bytes. -/
def wc : Program := fun call => do
  let (letters, paths) := options call.arguments
  let (bytes, status) ← gathered call "wc" paths
  let count := if letters.contains 'l' then bytes.count 0x0A
    else if letters.contains 'w' then
      ((bytes.splitBy fun first second => (first ≤ 0x20) == (second ≤ 0x20)).filter fun run =>
        run.any (0x20 < ·)).length
    else bytes.length
  putLine (" ".intercalate (toString count :: paths))
  return status

/-- Prints lines in their order. -/
def sort : Program := fun call => do
  let (letters, paths) := options call.arguments
  let (bytes, status) ← gathered call "sort" paths
  let lines := (linesOf bytes).map withoutEnd
  let sorted := lines.mergeSort fun first second => decide (first ≤ second)
  let ordered := if letters.contains 'r' then sorted.reverse else sorted
  let kept := if letters.contains 'u' then ordered.eraseDups else ordered
  put (kept.flatMap (· ++ [0x0A]))
  return status

/-- Prints lines of which the one before is another one. -/
def uniq : Program := fun call => do
  let (bytes, status) ← gathered call "uniq" (options call.arguments).2
  let lines := (linesOf bytes).map withoutEnd
  put ((lines.splitBy (· == ·)).flatMap fun run => run.headD [] ++ [0x0A])
  return status

/-- The numbers from one to another one. -/
def seq : Program := fun call => do
  let numbers := call.arguments.map fun argument => argument.toInt?.getD 0
  let (first, step, last) := match numbers with
    | [last] => ((1 : Int), (1 : Int), last)
    | [first, last] => (first, 1, last)
    | first :: step :: last :: _ => (first, step, last)
    | [] => (1, 1, 0)
  if step = 0 then return 1
  let count := ((last - first).tdiv step + 1).toNat
  let isEmpty := if 0 < step then last < first else first < last
  if !isEmpty then
    (List.range count).forM fun index => putLine (toString (first + step * index))
  return 0

/-- Prints some fields, or bytes, of lines. -/
def cut : Program := fun call => do
  let (letters, rest) := (call.arguments.takeWhile (·.startsWith "-"),
    call.arguments.dropWhile (·.startsWith "-"))
  let value (letter : Char) : Option String :=
    (letters.find? fun option => option.startsWith (String.ofList ['-', letter])).map fun option =>
      String.ofList (option.toList.drop 2)
  let separator := (encoded ((value 'd').getD "\t")).headD 0x09
  let wanted (position : Nat) : Bool :=
    (((value 'f' <|> value 'c' <|> value 'b').getD "").splitOn ",").any fun range =>
      match range.splitOn "-" with
      | [one] => one.toNat? == some position
      | [low, high] => low.toNat?.getD 1 ≤ position && position ≤ high.toNat?.getD position
      | _ => false
  let (bytes, status) ← gathered call "cut" rest
  (linesOf bytes).forM fun whole =>
    let line := withoutEnd whole
    if (value 'f').isSome then
      let fields := line.splitOn separator
      if fields.length < 2 then put (line ++ [0x0A])
      else
        let kept := (fields.zipIdx 1).filterMap fun (field, position) =>
          if wanted position then some field else none
        put ([separator].intercalate kept ++ [0x0A])
    else
      let kept := (line.zipIdx 1).filterMap fun (byte, position) =>
        if wanted position then some byte else none
      put (kept ++ [0x0A])
  return status

/-- The characters of a set: escapes and ranges are written out. -/
def characters : (fuel : Nat) → List UInt8 → List UInt8
  | 0, _ | _, [] => []
  | fuel + 1, low :: 0x2D :: high :: rest =>
    ((List.range (high.toNat + 1 - low.toNat)).map fun step => low + UInt8.ofNat step)
      ++ characters fuel rest
  | fuel + 1, byte :: rest => byte :: characters fuel rest

/-- Replaces characters, or takes them away. -/
def tr : Program := fun call => do
  let (letters, sets) := options call.arguments
  let set (text : String) : List UInt8 :=
    let bytes := (Printing.escaped false (text.length + 1) [] text.toList).1
    characters bytes.length bytes
  let first := set (sets.headD "")
  let second := set (sets.tail.headD "")
  if letters.contains 'd' then put (call.input.filter fun byte => !first.contains byte)
  else
    put (call.input.map fun byte =>
      match first.idxOf? byte with
      | some place => (second[place]? <|> second.getLast?).getD byte
      | none => byte)
  return 0

/-- Whether a plain text, perhaps tied to an end, is in a line. -/
def isFound (pattern line : List UInt8) : Bool :=
  match pattern with
  | 0x5E :: rest =>
    if rest.getLast? = some 0x24 then rest.dropLast == line else rest.isPrefixOf line
  | _ =>
    if pattern.getLast? = some 0x24 then pattern.dropLast.isSuffixOf line
    else (List.range (line.length + 1)).any fun place => pattern.isPrefixOf (line.drop place)

/-- Prints the lines that hold a text. -/
def grep : Program := fun call => do
  let (letters, rest) := options call.arguments
  match rest with
  | [] => return 2
  | text :: paths =>
    let (bytes, status) ← gathered call "grep" paths
    let lines := (linesOf bytes).map withoutEnd
    let found := lines.filter fun line => isFound (encoded text) line != letters.contains 'v'
    if letters.contains 'c' then putLine (toString found.length)
    else if !letters.contains 'q' then put (found.flatMap (· ++ [0x0A]))
    return if status != 0 then 2 else if found.isEmpty then 1 else 0

/-- Prints its input, and writes it to files. -/
def tee : Program := fun call => do
  put call.input
  changeEach (options call.arguments).2 (fun path fault => s!"tee: {path}: {fault.description}")
    fun path => FileAction.change (·.write call.directory path ⟨call.input.toArray⟩)

/-! ### All programs -/

/-- The program of a name. -/
def ofName? : String → Option Program
  | "cat" => some cat
  | "ls" => some ls
  | "touch" => some touch
  | "mkdir" => some mkdir
  | "rm" => some rm
  | "rmdir" => some rmdir
  | "cp" => some cp
  | "mv" => some mv
  | "ln" => some ln
  | "readlink" => some readlink
  | "basename" => some basename
  | "dirname" => some dirname
  | "head" => some head
  | "tail" => some tail
  | "wc" => some wc
  | "sort" => some sort
  | "uniq" => some uniq
  | "seq" => some seq
  | "cut" => some cut
  | "tr" => some tr
  | "grep" => some grep
  | "tee" => some tee
  | "true" => some fun _ => return 0
  | "false" => some fun _ => return 1
  | "echo" => some fun call => do
    put (Printing.echo call.arguments)
    return 0
  | "printf" => some fun call => do
    put (Printing.printf call.arguments)
    return 0
  | _ => none

end Program
end Cartridge.Shell
