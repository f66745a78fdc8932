import Stageflow.Shell.Pattern
import Stageflow.Shell.Reader
import Stageflow.Shell.Tool

namespace Stageflow.Shell

open Host (Machine Place FileError)

/-- Where a file descriptor leads: to a stream of the session, to the end of a file, or nowhere. -/
inductive Target where
  | stream (number : Nat)
  | file (place : Place)
  | void
  deriving DecidableEq, Repr

/-- A variable, and whether programs see it in their environment. -/
structure Variable where
  value : String
  exported : Bool
  deriving DecidableEq, Repr

/-- What a running shell consists of. -/
structure Session where
  machine : Machine
  dialect : Dialect
  /-- The name under which the shell was started. -/
  name : String
  arguments : List String
  vars : Table Variable
  functions : List (String × Command)
  status : Nat
  /-- The line of the command that runs. -/
  line : Nat
  /-- The letters of the options that are on. -/
  options : List Char
  /-- How many functions and files of commands are running. -/
  calls : Nat
  /-- A script that runs when the shell ends. -/
  atExit : String
  /-- What the local variables of the running function were before. -/
  shadowed : List (String × Option Variable)
  /-- Bytes to be read, in order, or bytes written, the last one first. -/
  streams : Array (List UInt8)
  descriptors : List (Nat × Target)

/-- What comes after a command. -/
inductive Flow where
  | next
  | leaveLoop (levels : Nat)
  | repeatLoop (levels : Nat)
  | leaveFunction
  | exit
  deriving DecidableEq, Repr

namespace Session

/-- The variables that a shell starts with: those of its environment, and one by which scripts tell
    the dialects apart. -/
def initialVariables (dialect : Dialect) (environment : List (String × String)) : Table Variable :=
  let inherited : Table Variable := .ofList (environment.map fun (name, value) => (name, ⟨value, true⟩))
  match dialect with
  | .posix => inherited
  | .bash => inherited.insert "BASH_VERSION" ⟨"5.2", false⟩

/-- A shell before it reads its script. -/
def start (machine : Machine) (dialect : Dialect) (name : String)
    (environment : List (String × String)) (streams : Array (List UInt8))
    (descriptors : List (Nat × Target)) : Session :=
  { machine
    dialect
    name
    arguments := []
    vars :=
      (initialVariables dialect environment).insert "PWD" ⟨machine.directory.path, true⟩
    functions := []
    status := 0
    line := 1
    options := []
    calls := 0
    atExit := ""
    shadowed := []
    streams
    descriptors }

def succeed (s : Session) : Session :=
  { s with status := 0 }

def fail (s : Session) (status : Nat) : Session :=
  { s with status }

def target? (s : Session) (descriptor : Nat) : Option Target :=
  (s.descriptors.find? (·.1 == descriptor)).map (·.2)

def write (s : Session) (descriptor : Nat) (bytes : List UInt8) : Session :=
  match s.target? descriptor with
  | some (.stream n) => { s with streams := s.streams.modify n fun written => bytes.reverseAux written }
  | some (.file place) =>
    { s with machine := { s.machine with files := s.machine.files.append place bytes } }
  | some .void | none => s

/-- A message of the shell itself. -/
def report (s : Session) (message : String) : Session :=
  let start :=
    match s.dialect with
    | .posix => s!"{s.name}: {s.line}: "
    | .bash => s!"{s.name}: line {s.line}: "
  s.write 2 (bytesOf (start ++ message ++ "\n"))

/-- The bytes that can still be read from a file descriptor. -/
def unread (s : Session) (descriptor : Nat) : List UInt8 :=
  match s.target? descriptor with
  | some (.stream n) => s.streams.getD n []
  | some (.file place) =>
    match s.machine.files.node? place with
    | some (.file content) => content
    | _ => []
  | some .void | none => []

/-- Takes the next bytes off a file descriptor. -/
def consume (s : Session) (descriptor count : Nat) : Session :=
  match s.target? descriptor with
  | some (.stream n) => { s with streams := s.streams.modify n (·.drop count) }
  | _ => s

/-- Adds a stream and lets a file descriptor lead to it. -/
def openStream (s : Session) (descriptor : Nat) (bytes : List UInt8) : Session :=
  { s with
    streams := s.streams.push bytes
    descriptors := (descriptor, .stream s.streams.size) :: s.descriptors }

def setVariable (s : Session) (name value : String) : Session :=
  let exported := ((s.vars.get? name).map (·.exported)).getD false
  { s with vars := s.vars.insert name ⟨value, exported⟩ }

def exportVariable (s : Session) (name : String) : Session :=
  let value := ((s.vars.get? name).map (·.value)).getD ""
  { s with vars := s.vars.insert name ⟨value, true⟩ }

def environment (s : Session) : List (String × String) :=
  s.vars.entries.filterMap fun entry =>
    if entry.2.exported then some (entry.1, entry.2.value) else none

/-- The value of a parameter, if it has one. -/
def parameter? (s : Session) (name : String) : Option String :=
  match name with
  | "?" => some (toString s.status)
  | "#" => some (toString s.arguments.length)
  | "@" | "*" => if s.arguments.isEmpty then none else some (" ".intercalate s.arguments)
  | "$" => some "2"
  | "!" => some ""
  | "-" => some ""
  | "0" => some s.name
  | name =>
    match name.toNat? with
    | some n => s.arguments[n - 1]?
    | none => (s.vars.get? name).map (·.value)

/-- The characters between which an unquoted value is split. -/
def separators (s : Session) : List Char :=
  match s.vars.get? "IFS" with
  | some entry => entry.value.toList
  | none => [' ', '\t', '\n']

/-- The session after a part of it that ran on its own: files, streams, the clock and the exit code
    remain, all else is as it was before. -/
def afterSubshell (before after : Session) : Session :=
  { before with
    machine := { after.machine with directory := before.machine.directory }
    streams := after.streams
    status := after.status }

/-- The program that a name leads to: its path and what it does. -/
def findProgram (s : Session) (name : String) : Except FileError String :=
  let check (path : String) : Except FileError String :=
    match s.machine.files.locate s.machine.directory path with
    | .error error => .error error
    | .ok (_, none) => .error .notFound
    | .ok (_, some (.program tool)) => .ok tool
    | .ok (_, some .directory) => .error .isDirectory
    | .ok (_, some _) => .error .permissionDenied
  if name.toList.contains '/' then check name
  else
    let path := ((s.vars.get? "PATH").map (·.value)).getD ""
    let found :=
      (path.splitOn ":").filterMap fun directory => (check (directory ++ "/" ++ name)).toOption
    match found with
    | tool :: _ => if name.isEmpty then .error .notFound else .ok tool
    | [] => .error .notFound

/-- A message about a command that was not started, with its exit code. -/
def reportMissing (s : Session) (name : String) (error : FileError) : Session :=
  let isPath := name.toList.contains '/'
  match error, s.dialect with
  | .notFound, .posix | .notDirectory, .posix => (s.report s!"{name}: not found").fail 127
  | .notFound, .bash =>
    (s.report (if isPath then s!"{name}: {error.text}" else s!"{name}: command not found")).fail 127
  | .isDirectory, .posix => (s.report s!"{name}: {FileError.permissionDenied.text}").fail 126
  | error, _ => (s.report s!"{name}: {error.text}").fail 126

/-- The names of the files that a pattern matches, in order; hidden ones only if the pattern says
    so. A pattern with slashes is matched name by name. -/
def matching (s : Session) (marks : List Mark) : List String :=
  let isSlash (mark : Mark) : Bool := mark.1 == '/'
  let absolute := marks.head?.any isSlash
  let parts := (marks.splitOnP isSlash).filter fun part => !part.isEmpty
  let step (places : List (Place × String)) (part : List Mark) : List (Place × String) :=
    places.flatMap fun (place, path) =>
      let entries :=
        if isPattern part then
          (s.machine.files.names place).filter fun name =>
            patternMatches (pattern part) name.toList &&
              (name.toList.head? != some '.' || (part.head?.map (·.1)) == some '.')
        else
          let name := String.ofList (part.map (·.1))
          if (s.machine.files.node? (name :: place)).isSome then [name] else []
      entries.map fun name => (name :: place, if path.isEmpty then name else path ++ "/" ++ name)
  if absolute then (parts.foldl step [([], "")]).map fun found => "/" ++ found.2
  else (parts.foldl step [(s.machine.directory, "")]).map (·.2)

/-- Ends the shell because a word cannot be expanded. -/
def abandon (s : Session) (message : String) (posix bash : Nat) : Session :=
  (s.report message).fail (match s.dialect with | .posix => posix | .bash => bash)

/-- The value of an arithmetic expression, whose assignments are made. -/
def arithmeticValue (s : Session) (text : String) : Option String × Session :=
  let found (name : String) : String := (s.parameter? name).getD ""
  match evaluate found text with
  | .ok (n, assigned) =>
    (some (toString n), assigned.foldr (fun (name, n) s => s.setVariable name (toString n)) s)
  | .error fault =>
    let message :=
      match s.dialect, fault with
      | .posix, .divisionByZero => s!"arithmetic expression: division by zero: \"{text}\""
      | .posix, .malformed => s!"arithmetic expression: expecting primary: \"{text}\""
      | .bash, .divisionByZero =>
        let isDivision (c : Char) : Bool := c == '/' || c == '%'
        let divisor := (text.toList.reverse.takeWhile fun c => !isDivision c).reverse
        let token := String.ofList (divisor.dropWhile isSpace)
        s!"{text}: division by 0 (error token is \"{token}\")"
      | .bash, .malformed => s!"{text}: syntax error: operand expected"
    (none, s.abandon message 2 1)

end Session

/-- A character of an expanded word, or what lies between words. -/
inductive Piece where
  | mark (mark : Mark)
  /-- Words are divided here, if there is one before and behind. -/
  | gap
  /-- A word ends here, even an empty one. -/
  | delimiter
  /-- There is a word here, even if it stays empty. -/
  | present
  deriving DecidableEq, Repr

/-- The words that pieces make. -/
def wordsOf (current : Option (List Mark)) : List Piece → List (List Mark)
  | [] => current.toList.map List.reverse
  | .mark mark :: pieces => wordsOf (some (mark :: current.getD [])) pieces
  | .present :: pieces => wordsOf (some (current.getD [])) pieces
  | .gap :: pieces => current.toList.map List.reverse ++ wordsOf none pieces
  | .delimiter :: pieces => (current.getD []).reverse :: wordsOf none pieces

/-- The characters of pieces that are not split. -/
def marksOf (pieces : List Piece) : List Mark :=
  pieces.filterMap fun
    | .mark mark => some mark
    | .gap | .delimiter => some (' ', true)
    | .present => none

def markText (marks : List Mark) : String :=
  String.ofList (marks.map (·.1))

/-- A value as pieces: as it is between quotes or where nothing is split, otherwise split. -/
def valuePieces (separators : List Char) (quoted split : Bool) (value : String) : List Piece :=
  if quoted then .present :: value.toList.map fun c => .mark (c, true)
  else
    value.toList.map fun c =>
      if split && separators.contains c then
        if isSpace c then .gap else .delimiter
      else .mark (c, false)

end Stageflow.Shell
