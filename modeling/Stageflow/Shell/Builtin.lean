import Stageflow.Shell.Session

namespace Stageflow.Shell

namespace Session

/-- Moves to another directory and keeps the old one in mind. -/
def changeDirectory (s : Session) (path : String) : Session :=
  match s.machine.enter path with
  | .ok machine =>
    let s := (s.setVariable "OLDPWD" s.machine.directory.path).setVariable "PWD" machine.directory.path
    { s with machine, status := 0 }
  | .error error =>
    match s.dialect with
    | .posix => (s.report s!"cd: can't cd to {path}").fail 2
    | .bash => (s.report s!"cd: {path}: {error.text}").fail 1

/-- Gives the fields of a line to vars. Each but the last gets one field, the last gets the
    rest. -/
def assignFields (separators : List Char) (s : Session) : List String → List Char → Session
  | [], _ => s
  | name :: names, cs =>
    let isGap (c : Char) : Bool := separators.contains c && isSpace c
    let cs := cs.dropWhile isGap
    if names.isEmpty then
      s.setVariable name (String.ofList (cs.reverse.dropWhile isGap).reverse)
    else
      let field := cs.takeWhile fun c => !separators.contains c
      let rest := (cs.drop field.length).dropWhile isGap
      let rest :=
        match rest with
        | c :: behind => if separators.contains c then behind else rest
        | [] => []
      assignFields separators (s.setVariable name (String.ofList field)) names rest

/-- Reads a line from the input into variables, and fails if the input ends first. -/
def readVariables (s : Session) (arguments : List String) : Session :=
  let names := arguments.filter fun argument => argument.toList.head? != some '-'
  let names := if names.isEmpty then ["REPLY"] else names
  let input := s.unread 0
  let line := input.takeWhile (· != 0x0A)
  let cs := (textOf line).toList
  let cs := if arguments.contains "-r" then cs else cs.filter (· != '\\')
  let after := (s.consume 0 (line.length + 1)).assignFields s.separators names cs
  if line.length < input.length then after.succeed else after.fail 1

/-- Splits an assignment that stands in an argument. -/
def splitAssignment (argument : String) : String × Option String :=
  let cs := argument.toList
  let name := cs.takeWhile (· != '=')
  (String.ofList name,
    if name.length < cs.length then some (String.ofList (cs.drop (name.length + 1))) else none)

def declare (s : Session) (change : Session → String → Session) (arguments : List String) : Session :=
  arguments.foldl
    (fun s argument =>
      if argument.toList.head? = some '-' then s
      else
        let (name, value) := splitAssignment argument
        change (value.elim s (s.setVariable name)) name)
    s.succeed

/-- Makes variables local to the running function. -/
def makeLocal (s : Session) (arguments : List String) : Session :=
  let names := (arguments.filter fun argument => argument.toList.head? != some '-').map
    fun argument => (splitAssignment argument).1
  let shadowed := names.map fun name => (name, s.vars.get? name)
  { s with shadowed := s.shadowed ++ shadowed }.declare (fun s _ => s) arguments

/-- Puts variables back to what they were. -/
def restore (s : Session) (shadowed : List (String × Option Variable)) : Session :=
  shadowed.foldr
    (fun (name, old) s =>
      match old with
      | some old => { s with vars := s.vars.insert name old }
      | none => { s with vars := s.vars.erase name })
    s

def unset (s : Session) (arguments : List String) : Session :=
  let names := arguments.filter fun argument => argument.toList.head? != some '-'
  names.foldl
    (fun s name =>
      if arguments.contains "-f" then
        { s with functions := s.functions.filter fun entry => entry.1 != name }
      else { s with vars := s.vars.erase name })
    s.succeed

/-- The letter of an option that has a name. -/
def optionLetter? : String → Option Char
  | "errexit" => some 'e'
  | "nounset" => some 'u'
  | "pipefail" => some 'p'
  | _ => none

def switchOption (s : Session) (on : Bool) (letter : Char) : Session :=
  let others := s.options.filter (· != letter)
  { s with options := if on then letter :: others else others }

/-- Turns options on and off; what follows them replaces the arguments. -/
def setOptions (s : Session) : List String → Session
  | [] => s
  | argument :: arguments =>
    let switchAll (on : Bool) (letters : List Char) : Session :=
      (letters.filter "eu".toList.contains).foldl (fun s letter => s.switchOption on letter) s
    match argument.toList with
    | ['-', '-'] => { s with arguments }
    | sign :: letter :: letters =>
      if sign = '-' ∨ sign = '+' then
        let s := switchAll (sign == '-') (letter :: letters)
        if (letter :: letters).contains 'o' then
          match arguments with
          | name :: arguments =>
            let s := (optionLetter? name).elim s fun letter => s.switchOption (sign == '-') letter
            setOptions s arguments
          | [] => s
        else setOptions s arguments
      else { s with arguments := argument :: arguments }
    | _ => { s with arguments := argument :: arguments }

/-- Evaluates a condition and reports one that is none. -/
def test (s : Session) (name : String) (words : List String) : Session :=
  match condition s.machine words with
  | .ok b => if b then s.succeed else s.fail 1
  | .error (.illegalNumber text) =>
    match s.dialect with
    | .posix => (s.report s!"{name}: Illegal number: {text}").fail 2
    | .bash => (s.report s!"{name}: {text}: integer expression expected").fail 2
  | .error (.malformed word) =>
    match s.dialect, words.length with
    | .posix, 2 =>
      let first := words.headD ""
      (s.report s!"{name}: {first}: unexpected operator").fail 2
    | .posix, _ => (s.report s!"{name}: {word}: unexpected operator").fail 2
    | .bash, 2 =>
      let first := words.headD ""
      (s.report s!"{name}: {first}: unary operator expected").fail 2
    | .bash, 3 => (s.report s!"{name}: {word}: binary operator expected").fail 2
    | .bash, _ => (s.report s!"{name}: too many arguments").fail 2

/-- Evaluates expressions. The last one decides about success. -/
def evaluateAll (s : Session) : List String → Session
  | [] => s
  | text :: texts =>
    match s.arithmeticValue text with
    | (none, s) => s
    | (some value, s) => evaluateAll (if value = "0" then s.fail 1 else s.succeed) texts

/-- Prints by a format and reports what is no number. -/
def printFormatted (s : Session) : List String → Session
  | [] =>
    match s.dialect with
    | .posix => (s.report "printf: usage: printf format [arg ...]").fail 2
    | .bash => (s.write 2 (bytesOf "printf: usage: printf [-v var] format [arguments]\n")).fail 2
  | "--" :: arguments => s.printFormatted arguments
  | format :: arguments =>
    let printed := printf s.dialect format arguments
    let s := s.write 1 printed.bytes
    let wanted :=
      match s.dialect with
      | .posix => "expected numeric value"
      | .bash => "invalid number"
    let s := printed.invalid.foldl (fun s text => s.report s!"printf: {text}: {wanted}") s
    if printed.invalid.isEmpty then s.succeed else s.fail 1

/-- Leaves the shell or a function with an exit code: that of the operand or of the last command. -/
def leave (s : Session) (name : String) (flow : Flow) : List String → Session × Flow
  | [] => (s, flow)
  | operand :: _ =>
    match decimalOf? operand with
    | some n =>
      if n < 0 ∧ s.dialect = .posix then
        ((s.report s!"{name}: Illegal number: {operand}").fail 2, .exit)
      else (s.fail (n % 256).toNat, flow)
    | none =>
      match s.dialect with
      | .posix => ((s.report s!"{name}: Illegal number: {operand}").fail 2, .exit)
      | .bash => ((s.report s!"{name}: {operand}: numeric argument required").fail 2, .exit)

/-- Says where a command would be found. -/
def locateCommand (s : Session) (known : List String) (name : String) : Session :=
  let found? : Option String :=
    if known.contains name ∨ (s.functions.find? (·.1 == name)).isSome then some name
    else if name.toList.contains '/' then
      if (s.findProgram name).toOption.isSome then some name else none
    else
      let path := ((s.vars.get? "PATH").map (·.value)).getD ""
      ((path.splitOn ":").map fun directory => directory ++ "/" ++ name).find? fun path =>
        (s.findProgram path).toOption.isSome
  match found? with
  | some path => (s.write 1 (bytesOf (path ++ "\n"))).succeed
  | none => s.fail (if s.dialect = .posix then 127 else 1)

/-- The commands that are part of a shell. -/
def builtinNames (dialect : Dialect) : List String :=
  [".", ":", "[", "break", "cd", "command", "continue", "echo", "eval", "exec", "exit", "export",
    "false", "local", "printf", "pwd", "read", "readonly", "return", "set", "shift", "test", "trap",
    "true", "umask", "unset", "wait"] ++
    if dialect = .bash then ["[[", "declare", "let", "source"] else []

/-- The commands in front of which an assignment outlives the command. -/
def specialNames : List String :=
  [".", ":", "break", "continue", "eval", "exec", "exit", "export", "readonly", "return", "set",
    "shift", "trap", "unset"]

/-- Runs a command that is part of the shell and runs no other commands. -/
def builtin? (s : Session) (name : String) (arguments : List String) : Option (Session × Flow) :=
  let goOn (s : Session) : Option (Session × Flow) := some (s, .next)
  let levels : Nat := ((arguments.head?.bind String.toNat?).getD 1)
  match name with
  | ":" | "true" | "umask" | "wait" => goOn s.succeed
  | "false" => goOn (s.fail 1)
  | "echo" => goOn (s.write 1 (echo s.dialect arguments)).succeed
  | "printf" => goOn (s.printFormatted arguments)
  | "test" => goOn (s.test name arguments)
  | "[" =>
    if arguments.getLast? = some "]" then goOn (s.test name arguments.dropLast)
    else
      match s.dialect with
      | .posix => goOn ((s.report "[: missing ]").fail 2)
      | .bash => goOn ((s.report "[: missing \x60]'").fail 2)
  | "[[" => if s.dialect = .bash then goOn (s.test name arguments.dropLast) else none
  | "exit" => some (s.leave name .exit arguments)
  | "return" =>
    if s.calls = 0 ∧ s.dialect = .bash then
      goOn ((s.report "return: can only \x60return' from a function or sourced script").fail 2)
    else some (s.leave name .leaveFunction arguments)
  | "break" => some (s.succeed, .leaveLoop (max levels 1))
  | "continue" => some (s.succeed, .repeatLoop (max levels 1))
  | "shift" =>
    if s.arguments.length < levels then
      match s.dialect with
      | .posix => some ((s.report "shift: can't shift that many").fail 2, .exit)
      | .bash => goOn (s.fail 1)
    else goOn { s with arguments := s.arguments.drop levels, status := 0 }
  | "set" =>
    if s.dialect = .posix ∧ arguments.contains "pipefail" then
      some ((s.report "set: Illegal option -o pipefail").fail 2, .exit)
    else goOn (s.setOptions arguments).succeed
  | "export" => goOn (s.declare exportVariable arguments)
  | "readonly" => goOn (s.declare (fun s _ => s) arguments)
  | "local" => goOn (s.makeLocal arguments)
  | "let" => if s.dialect = .bash then goOn (s.evaluateAll arguments) else none
  | "declare" => if s.dialect = .bash then goOn (s.makeLocal arguments) else none
  | "unset" => goOn (s.unset arguments)
  | "pwd" => goOn (s.write 1 (bytesOf (s.machine.directory.path ++ "\n"))).succeed
  | "cd" =>
    match arguments.filter fun argument => !(["--", "-L", "-P"].contains argument) with
    | [] =>
      match s.parameter? "HOME" with
      | some home => goOn (s.changeDirectory home)
      | none => goOn s.succeed
    | ["-"] =>
      let s := s.changeDirectory ((s.parameter? "OLDPWD").getD ".")
      goOn (s.write 1 (bytesOf (s.machine.directory.path ++ "\n")))
    | path :: _ => goOn (s.changeDirectory path)
  | "read" => goOn (s.readVariables arguments)
  | "trap" =>
    match arguments with
    | [action, "EXIT"] | [action, "0"] =>
      goOn { s with atExit := if action = "-" then "" else action, status := 0 }
    | _ => goOn s.succeed
  | _ => none

end Session

end Stageflow.Shell
