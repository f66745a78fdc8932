import Stageflow.Shell.Brace
import Stageflow.Shell.Builtin

namespace Stageflow.Shell

open Host (FileError)

namespace Session

/-- What starting a program costs, in microseconds, and what a command of the shell costs. -/
def programCost : Nat := 1000

def commandCost : Nat := 1

/-- Whether a parameter is refused because it has no value and missing values are errors. -/
def isMissing (s : Session) (name : String) : Bool :=
  s.options.contains 'u' && !(["@", "*"].contains name) && (s.parameter? name).isNone

def reportUnset (s : Session) (name : String) : Session :=
  match s.dialect with
  | .posix => s.abandon s!"{name}: parameter not set" 2 127
  | .bash => s.abandon s!"{name}: unbound variable" 2 127

/-- The pieces of a parameter. All arguments between quotes are a word each. -/
def parameterPieces (s : Session) (quoted split : Bool) (name : String) : List Piece :=
  let each (separator : Piece) (pieces : String → List Piece) : List Piece :=
    ([separator].intercalate (s.arguments.map pieces))
  if name = "@" ∧ quoted ∧ split then each .delimiter (valuePieces s.separators true split)
  else if (name = "@" ∨ name = "*") ∧ !quoted ∧ split then
    each .gap (valuePieces s.separators false split)
  else valuePieces s.separators quoted split ((s.parameter? name).getD "")

/-- Lets a file descriptor lead to what a redirection names. -/
def redirect (s : Session) (descriptor : Nat) (kind : RedirectKind) (target : String) :
    Except Session Session :=
  let status : Nat := if s.dialect = .posix then 2 else 1
  let isPathFault (error : FileError) : Bool := error == .notFound || error == .notDirectory
  let refused (verb reason : String) (error : FileError) : Except Session Session :=
    match s.dialect with
    | .posix =>
      let reason := if isPathFault error then reason else error.text
      .error ((s.report s!"cannot {verb} {target}: {reason}").fail status)
    | .bash => .error ((s.report s!"{target}: {error.text}").fail status)
  let openFile (truncate : Bool) : Except Session Session :=
    match s.machine.files.openForWriting s.machine.directory target truncate with
    | .error error => refused "create" "Directory nonexistent" error
    | .ok (place, files) =>
      .ok { s with
        machine := { s.machine with files }
        descriptors := (descriptor, .file place) :: s.descriptors }
  match kind with
  | .output => openFile true
  | .append => openFile false
  | .here => .ok (s.openStream descriptor (bytesOf (target ++ "\n")))
  | .input =>
    match s.machine.files.read s.machine.directory target with
    | .error .isDirectory => .ok (s.openStream descriptor [])
    | .error error => refused "open" "No such file" error
    | .ok bytes => .ok (s.openStream descriptor bytes)
  | .duplicate =>
    if target = "-" then .ok { s with descriptors := (descriptor, .void) :: s.descriptors }
    else
      match target.toNat?.bind s.target? with
      | some destination =>
        .ok { s with descriptors := (descriptor, destination) :: s.descriptors }
      | none =>
        match s.dialect with
        | .posix => .error ((s.report "Bad fd number").fail 2)
        | .bash => .error ((s.report s!"{target}: Bad file descriptor").fail 1)

/-- Reports that a script is not understood. -/
def reportSyntax (s : Session) (origin script : String) (error : SyntaxError) : Session :=
  let s := { s with line := error.line }
  let start := s!"{s.name}: {origin}line {error.line}: "
  let hint (expected : Option String) : String :=
    expected.elim "" fun word => s!" (expecting \"{word}\")"
  let complain (lines : List String) : Session :=
    s.write 2 (bytesOf (String.join (lines.map fun line => start ++ line ++ "\n")))
  match s.dialect, error.fault with
  | .posix, .openQuote '\x60' => (s.report "Syntax error: EOF in backquote substitution").fail 2
  | .posix, .openQuote _ => (s.report "Syntax error: Unterminated quoted string").fail 2
  | .posix, .unexpected token expected =>
    let token :=
      if token = "newline" then token
      else if token = "<" then "redirection"
      else s!"\"{token}\""
    (s.report (s!"Syntax error: {token} unexpected" ++ hint expected)).fail 2
  | .posix, .unexpectedEnd expected =>
    (s.report ("Syntax error: end of file unexpected" ++ hint expected)).fail 2
  | .posix, .badSubstitution => (s.report "Bad substitution").fail 2
  | .bash, .openQuote quote =>
    (complain [s!"unexpected EOF while looking for matching \x60{quote}'"]).fail 2
  | .bash, .unexpected token _ =>
    let line := (script.splitOn "\n").getD (error.line - 1) ""
    (complain [s!"syntax error near unexpected token \x60{token}'", s!"\x60{line}'"]).fail 2
  | .bash, .unexpectedEnd _ =>
    let s := { s with line := error.line + 1 }
    (s.write 2
      (bytesOf s!"{s.name}: {origin}line {s.line}: syntax error: unexpected end of file\n")).fail 2
  | .bash, .badSubstitution => (s.report "bad substitution").fail 1

/-- Whether the shell ends because a command failed, outside of conditions. -/
def settle (tested : Bool) (s : Session) : Session × Flow :=
  (s, if !tested && s.status != 0 && s.options.contains 'e' then .exit else .next)

/-- Runs an installed program that is no shell. -/
def runTool (s : Session) (tool : String) (arguments : List String) : Session :=
  let call : ToolCall :=
    { name := tool, arguments, input := s.unread 0, environment := s.environment }
  let s := if call.consumesInput then s.consume 0 call.input.length else s
  let result := call.run (s.machine.wait programCost)
  (({ s with machine := result.machine }.write 1 result.output).write 2 result.errors).fail
    result.status

end Session

/-- The dialect of an installed program that is a shell. -/
def dialectOf? : String → Option Dialect
  | "sh" | "dash" => some .posix
  | "bash" => some .bash
  | _ => none

/-- Whether a word runs commands when it is expanded. -/
def runsCommands (word : Word) : Bool :=
  word.any fun part => match part with | .command .. => true | _ => false

mutual

/-- Expands a word into pieces; `none` if the shell has to end. -/
def expand (split : Bool) : Nat → Word → Session → Option (List Piece) × Session
  | 0, _, s => (none, s)
  | _, [], s => (some [], s)
  | fuel + 1, .text true "" :: .parameter true "@" :: parts, s =>
    if s.arguments.isEmpty && split then expand split fuel parts s
    else
      match expand split fuel parts s with
      | (none, s) => (none, s)
      | (some rest, after) => (some (s.parameterPieces true split "@" ++ rest), after)
  | fuel + 1, part :: parts, s =>
    match expandPart split fuel part s with
    | (none, s) => (none, s)
    | (some pieces, s) =>
      match expand split fuel parts s with
      | (none, s) => (none, s)
      | (some rest, s) => (some (pieces ++ rest), s)

def expandPart (split : Bool) : Nat → Part → Session → Option (List Piece) × Session
  | 0, _, s => (none, s)
  | fuel + 1, part, s =>
    let parameter (quoted : Bool) (name : String) : Option (List Piece) × Session :=
      (some (s.parameterPieces quoted split name), s)
    match part with
    | .text quoted text =>
      let marks := text.toList.map fun c => Piece.mark (c, quoted)
      (some (if quoted then .present :: marks else marks), s)
    | .parameter quoted name =>
      if s.isMissing name then (none, s.reportUnset name) else parameter quoted name
    | .length quoted name =>
      let size :=
        if name = "@" ∨ name = "*" then s.arguments.length
        else ((s.parameter? name).getD "").utf8ByteSize
      (some (valuePieces s.separators quoted split (toString size)), s)
    | .adjusted quoted name adjustment word =>
      let value? := s.parameter? name
      let counts (colon : Bool) : Bool := value?.any fun value => !colon || !value.isEmpty
      let text (word : Word) : Option String × Session :=
        match expand false fuel word s with
        | (some pieces, s) => (some (markText (marksOf pieces)), s)
        | (none, s) => (none, s)
      let dropping (drop : List PatternItem → List Char → List Char) :
          Option (List Piece) × Session :=
        match expand false fuel word s with
        | (none, s) => (none, s)
        | (some pieces, s) =>
          let rest := drop (pattern (marksOf pieces)) (value?.getD "").toList
          (some (valuePieces s.separators quoted split (String.ofList rest)), s)
      match adjustment with
      | .orDefault colon => if counts colon then parameter quoted name else expand split fuel word s
      | .ifSet colon => if counts colon then expand split fuel word s else (some [], s)
      | .orAssign colon =>
        if counts colon then parameter quoted name
        else
          match text word with
          | (none, s) => (none, s)
          | (some value, s) =>
            (some (valuePieces s.separators quoted split value), s.setVariable name value)
      | .orFail colon =>
        if counts colon then parameter quoted name
        else
          match text word with
          | (none, s) => (none, s)
          | (some message, s) =>
            let message :=
              if !message.isEmpty then message
              else
                match s.dialect, colon with
                | .posix, true => "parameter not set or null"
                | .posix, false => "parameter not set"
                | .bash, _ => "parameter null or not set"
            (none, s.abandon s!"{name}: {message}" 2 127)
      | .dropStart longest => dropping (dropStart longest)
      | .dropEnd longest => dropping (dropEnd longest)
    | .command quoted body =>
      let inner := s.openStream 1 []
      let (after, _) := run false fuel body inner
      let output := (after.streams.getD s.streams.size []).dropWhile (· == 0x0A)
      let value := textOf (output.reverse.filter (· != 0))
      let s := s.afterSubshell after
      (some (valuePieces s.separators quoted split value), s)
    | .arithmetic quoted expression =>
      match expand false fuel expression s with
      | (none, s) => (none, s)
      | (some pieces, s) =>
        match s.arithmeticValue (markText (marksOf pieces)) with
        | (none, s) => (none, s)
        | (some value, s) => (some (valuePieces s.separators quoted split value), s)

/-- Expands a word that is not split. -/
def expandText : Nat → Word → Session → Option String × Session
  | 0, _, s => (none, s)
  | fuel + 1, word, s =>
    match expand false fuel word s with
    | (none, s) => (none, s)
    | (some pieces, s) => (some (markText (marksOf pieces)), s)

/-- Expands words, splits them and matches them against file names. -/
def expandWords : Nat → List Word → Session → Option (List String) × Session
  | 0, _, s => (none, s)
  | _, [], s => (some [], s)
  | fuel + 1, word :: words, s =>
    match expand true fuel word s with
    | (none, s) => (none, s)
    | (some pieces, s) =>
      let found :=
        (wordsOf none pieces).flatMap fun marks =>
          let paths := if isPattern marks then s.matching marks else []
          if paths.isEmpty then [markText marks] else paths
      match expandWords fuel words s with
      | (none, s) => (none, s)
      | (some rest, s) => (some (found ++ rest), s)

/-- Expands and makes assignments. Returns what the variables were before. -/
def assign : Nat → List (String × Word) → Session →
    Option (List (String × Option Variable)) × Session
  | 0, _, s => (none, s)
  | _, [], s => (some [], s)
  | fuel + 1, (name, word) :: assignments, s =>
    match expandText fuel word s with
    | (none, s) => (none, s)
    | (some value, s) =>
      match assign fuel assignments (s.setVariable name value) with
      | (none, s) => (none, s)
      | (some shadowed, after) => (some ((name, s.vars.get? name) :: shadowed), after)

/-- Follows redirections; `none` if one of them fails. -/
def redirectAll : Nat → List Redirect → Session → Option Unit × Session
  | 0, _, s => (none, s)
  | _, [], s => (some (), s)
  | fuel + 1, .mk descriptor kind word :: redirects, s =>
    match expandText fuel word s with
    | (none, s) => (none, s)
    | (some target, s) =>
      match s.redirect descriptor kind target with
      | .error s => (none, s)
      | .ok s => redirectAll fuel redirects s

/-- Runs a command. While `tested`, its failure is part of a condition. -/
def run (tested : Bool) : Nat → Command → Session → Session × Flow
  | 0, _, s => (s, .exit)
  | fuel + 1, command, s =>
    match command with
    | .simple line assignments words redirects =>
      let s := { s with line, machine := s.machine.wait Session.commandCost }
      if s.machine.isOverdue then (s, .exit)
      else runSimple tested fuel assignments words redirects s
    | .sequence commands => runAll tested fuel commands s
    | .pipeline negated stages =>
      match stages with
      | [command] =>
        match run true fuel command s with
        | (s, .next) => (if s.status = 0 then s.fail 1 else s.succeed, .next)
        | (s, flow) => (s, flow)
      | stages =>
        let after := runStages fuel s.machine.clock stages { s with status := 0 }
        let after := s.afterSubshell after
        if negated then (if after.status = 0 then after.fail 1 else after.succeed, .next)
        else after.settle tested
    | .andThen first second =>
      match run true fuel first s with
      | (s, .next) => if s.status = 0 then run tested fuel second s else (s, .next)
      | (s, flow) => (s, flow)
    | .orElse first second =>
      match run true fuel first s with
      | (s, .next) => if s.status = 0 then (s, .next) else run tested fuel second s
      | (s, flow) => (s, flow)
    | .background body => ((s.afterSubshell (run true fuel body s).1).succeed, .next)
    | .subshell body redirects =>
      match redirectAll fuel redirects s with
      | (none, after) => { after with descriptors := s.descriptors }.settle tested
      | (some (), inner) => (s.afterSubshell (run tested fuel body inner).1).settle tested
    | .group body redirects =>
      match redirectAll fuel redirects s with
      | (none, after) => { after with descriptors := s.descriptors }.settle tested
      | (some (), inner) =>
        let (after, flow) := run tested fuel body inner
        ({ after with descriptors := s.descriptors }, flow)
    | .branch branches otherwise redirects =>
      match redirectAll fuel redirects s with
      | (none, after) => { after with descriptors := s.descriptors }.settle tested
      | (some (), inner) =>
        let (after, flow) := runBranches tested fuel branches otherwise inner
        ({ after with descriptors := s.descriptors }, flow)
    | .loop expected condition body redirects =>
      match redirectAll fuel redirects s with
      | (none, after) => { after with descriptors := s.descriptors }.settle tested
      | (some (), inner) =>
        let (after, flow) := runLoop tested expected condition body fuel 0 inner
        ({ after with descriptors := s.descriptors }, flow)
    | .forEach name words body redirects =>
      match redirectAll fuel redirects s with
      | (none, after) => { after with descriptors := s.descriptors }.settle tested
      | (some (), inner) =>
        let (values, inner) :=
          match words with
          | none => (some inner.arguments, inner)
          | some words => expandWords fuel (words.flatMap s.dialect.braceWords) inner
        match values with
        | none => (inner, .exit)
        | some values =>
          let (after, flow) := runEach tested name body fuel values inner.succeed
          ({ after with descriptors := s.descriptors }, flow)
    | .switch subject clauses redirects =>
      match redirectAll fuel redirects s with
      | (none, after) => { after with descriptors := s.descriptors }.settle tested
      | (some (), inner) =>
        match expandText fuel subject inner with
        | (none, s) => (s, .exit)
        | (some value, inner) =>
          let (after, flow) := runClauses tested value fuel clauses inner
          ({ after with descriptors := s.descriptors }, flow)
    | .define name body => ({ s with functions := (name, body) :: s.functions, status := 0 }, .next)

def runAll (tested : Bool) : Nat → List Command → Session → Session × Flow
  | 0, _, s => (s, .exit)
  | _, [], s => (s, .next)
  | fuel + 1, command :: commands, s =>
    match run tested fuel command s with
    | (s, .next) => runAll tested fuel commands s
    | (s, flow) => (s, flow)

/-- Runs commands side by side, each on the output of the one before. They start together, and the
    last to end ends them all. -/
def runStages : Nat → Nat → List Command → Session → Session
  | 0, _, _, s => s
  | _, _, [], s => s
  | fuel + 1, _, [command], s => s.afterSubshell (run false fuel command s).1
  | fuel + 1, start, command :: commands, s =>
    let (after, _) := run false fuel command (s.openStream 1 [])
    let output := (after.streams.getD s.streams.size []).reverse
    let finish := after.machine.clock
    let s := s.afterSubshell after
    let failed := s.status
    let next := { s with machine := { s.machine with clock := start } }.openStream 0 output
    let after := runStages fuel start commands next
    let after := { after with
      machine := { after.machine with clock := max finish after.machine.clock } }
    if s.options.contains 'p' && after.status = 0 then after.fail failed else after

/-- Runs the body behind the first condition that holds. -/
def runBranches (tested : Bool) : Nat → List (Command × Command) → Command → Session →
    Session × Flow
  | 0, _, _, s => (s, .exit)
  | fuel + 1, [], otherwise, s => run tested fuel otherwise s.succeed
  | fuel + 1, (condition, body) :: branches, otherwise, s =>
    match run true fuel condition s with
    | (s, .next) =>
      if s.status = 0 then run tested fuel body s else runBranches tested fuel branches otherwise s
    | (s, flow) => (s, flow)

/-- Runs a body as long as a condition has the expected outcome. -/
def runLoop (tested expected : Bool) (condition body : Command) : Nat → Nat → Session →
    Session × Flow
  | 0, _, s => (s, .exit)
  | fuel + 1, last, s =>
    match run true fuel condition s with
    | (s, .next) =>
      if (s.status = 0) != expected then (s.fail last, .next)
      else
        match run tested fuel body s with
        | (s, .next) => runLoop tested expected condition body fuel s.status s
        | (s, .leaveLoop levels) =>
          (s, if levels ≤ 1 then .next else .leaveLoop (levels - 1))
        | (s, .repeatLoop levels) =>
          if levels ≤ 1 then runLoop tested expected condition body fuel s.status s
          else (s, .repeatLoop (levels - 1))
        | (s, flow) => (s, flow)
    | (s, .leaveLoop levels) => (s, if levels ≤ 1 then .next else .leaveLoop (levels - 1))
    | (s, flow) => (s, flow)

/-- Runs a body for each value of a variable. -/
def runEach (tested : Bool) (name : String) (body : Command) : Nat → List String → Session →
    Session × Flow
  | 0, _, s => (s, .exit)
  | _, [], s => (s, .next)
  | fuel + 1, value :: values, s =>
    match run tested fuel body (s.setVariable name value) with
    | (s, .next) => runEach tested name body fuel values s
    | (s, .leaveLoop levels) => (s, if levels ≤ 1 then .next else .leaveLoop (levels - 1))
    | (s, .repeatLoop levels) =>
      if levels ≤ 1 then runEach tested name body fuel values s
      else (s, .repeatLoop (levels - 1))
    | (s, flow) => (s, flow)

/-- Whether a value has the form of one of the patterns. -/
def matchesAny (value : String) : Nat → List Word → Session → Bool × Session
  | 0, _, s => (false, s)
  | _, [], s => (false, s)
  | fuel + 1, word :: words, s =>
    match expand false fuel word s with
    | (none, s) => (false, s)
    | (some pieces, s) =>
      if patternMatches (pattern (marksOf pieces)) value.toList then (true, s)
      else matchesAny value fuel words s

/-- Runs the first clause with a pattern for the value. -/
def runClauses (tested : Bool) (value : String) : Nat → List (List Word × Command) → Session →
    Session × Flow
  | 0, _, s => (s, .exit)
  | _, [], s => (s.succeed, .next)
  | fuel + 1, (patterns, body) :: clauses, s =>
    match matchesAny value fuel patterns s with
    | (true, s) => run tested fuel body s.succeed
    | (false, s) => runClauses tested value fuel clauses s

/-- Runs a simple command: expands its words, follows its redirections, makes its assignments and
    starts what the first word names. -/
def runSimple (tested : Bool) : Nat → List (String × Word) → List Word → List Redirect → Session →
    Session × Flow
  | 0, _, _, _, s => (s, .exit)
  | fuel + 1, assignments, words, redirects, s =>
    match expandWords fuel (words.flatMap s.dialect.braceWords) s with
    | (none, s) => (s, .exit)
    | (some [], expanded) =>
      let substitutes := (assignments.map (·.2) ++ words).any runsCommands
      match redirectAll fuel redirects expanded with
      | (none, after) => { after with descriptors := s.descriptors }.settle tested
      | (some (), inner) =>
        match assign fuel assignments inner with
        | (none, s) => (s, .exit)
        | (some _, after) =>
          let after := { after with descriptors := s.descriptors }
          (if substitutes then after else after.succeed).settle tested
    | (some (name :: arguments), expanded) =>
      match redirectAll fuel redirects expanded with
      | (none, after) =>
        let after := { after with descriptors := s.descriptors }
        if s.dialect = .posix ∧ Session.specialNames.contains name then (after, .exit)
        else after.settle tested
      | (some (), inner) =>
        match assign fuel assignments inner with
        | (none, s) => (s, .exit)
        | (some shadowed, inner) =>
          let (after, flow) := invoke tested fuel (assignments.map (·.1)) name arguments inner
          let keeps := s.dialect = .posix ∧ Session.specialNames.contains name
          let after := if keeps then after else after.restore shadowed
          let after :=
            if name = "exec" ∧ arguments.isEmpty then after
            else { after with descriptors := s.descriptors }
          match flow with
          | .next => after.settle tested
          | flow => (after, flow)

/-- Runs what a name stands for: a function, a command of the shell, or a program, which sees the
    variables that were assigned for it. -/
def invoke (tested : Bool) : Nat → List String → String → List String → Session → Session × Flow
  | 0, _, _, _, s => (s, .exit)
  | fuel + 1, assigned, name, arguments, s =>
    match s.functions.find? (·.1 == name) with
    | some (_, body) =>
      let (after, flow) :=
        run tested fuel body { s with arguments, shadowed := [], calls := s.calls + 1 }
      let after := after.restore after.shadowed
      let after := { after with
        arguments := s.arguments
        shadowed := s.shadowed
        calls := s.calls }
      (after, if flow = .exit then .exit else .next)
    | none =>
      match s.builtin? name arguments with
      | some result => result
      | none => invokeOther tested fuel assigned name arguments s

/-- Runs a command that runs others, or a program. -/
def invokeOther (tested : Bool) : Nat → List String → String → List String → Session →
    Session × Flow
  | 0, _, _, _, s => (s, .exit)
  | fuel + 1, assigned, name, arguments, s =>
    let program : Session × Flow :=
      match s.findProgram name with
      | .error error => (s.reportMissing name error, .next)
      | .ok tool =>
        let exporting := assigned.foldl Session.exportVariable s
        match dialectOf? tool with
        | none => (exporting.runTool tool arguments, .next)
        | some dialect =>
          let shell :=
            Session.start (s.machine.wait Session.programCost) dialect name exporting.environment
              s.streams s.descriptors
          (s.afterSubshell (runShell fuel arguments shell).1, .next)
    match name with
    | "eval" =>
      let script := " ".intercalate arguments
      runScript tested "eval: " script fuel ⟨script.toList, s.line⟩ s.succeed
    | "." | "source" =>
      if name = "source" ∧ s.dialect = .posix then program
      else
        let path := arguments.headD ""
        match s.machine.files.readText s.machine.directory path with
        | .error error =>
          match s.dialect with
          | .posix => ((s.report s!".: cannot open {path}: No such file").fail 2, .exit)
          | .bash => ((s.report s!"{path}: {error.text}").fail 1, .next)
        | .ok script =>
          let (after, flow) :=
            runScript tested "" script fuel ⟨script.toList, 1⟩
              { s with status := 0, calls := s.calls + 1 }
          ({ after with calls := s.calls }, if flow = .exit then .exit else .next)
    | "command" =>
      match arguments with
      | [] => (s.succeed, .next)
      | "-v" :: names =>
        (names.foldl (fun s name => s.locateCommand (Session.builtinNames s.dialect) name) s, .next)
      | name :: arguments =>
        invoke tested fuel assigned name arguments { s with functions := [] } |>.map
          (fun after => { after with functions := s.functions }) id
    | "exec" =>
      match arguments with
      | [] => (s.succeed, .next)
      | name :: arguments => ((invokeOther tested fuel assigned name arguments s).1, .exit)
    | _ => program

/-- Starts a shell with the given arguments: a script, the name of one, or nothing, in which case
    the script is the input. -/
def runShell : Nat → List String → Session → Session × Flow
  | 0, _, s => (s, .exit)
  | fuel + 1, arguments, s =>
    let isSwitch (argument : String) : Bool :=
      match argument.toList with
      | '-' :: letter :: _ => letter != '-'
      | _ => false
    let switches := arguments.takeWhile isSwitch
    let letters := switches.flatMap (·.toList)
    let s := ("eu".toList.filter letters.contains).foldl (fun s c => s.switchOption true c) s
    let operands := arguments.drop switches.length
    let operands := if operands.head? = some "--" then operands.tail else operands
    let execute (origin script : String) (s : Session) : Session × Flow :=
      let (after, _) := runScript false origin script fuel ⟨script.toList, 1⟩ s
      let (final, _) :=
        runScript false origin after.atExit fuel ⟨after.atExit.toList, 1⟩ { after with atExit := "" }
      (final.fail (if after.atExit.isEmpty then after.status else final.status), .exit)
    if letters.contains 'c' then
      match operands with
      | [] =>
        match s.dialect with
        | .posix =>
          (({ s with line := 0 }.report "-c requires an argument").fail 2, .exit)
        | .bash =>
          ((s.write 2 (bytesOf s!"{s.name}: -c: option requires an argument\n")).fail 2, .exit)
      | script :: operands =>
        execute "-c: " script
          { s with name := operands.headD s.name, arguments := operands.tail }
    else
      match operands with
      | [] =>
        let script := textOf (s.unread 0)
        execute "" script (s.consume 0 (s.unread 0).length)
      | path :: arguments =>
        match s.machine.files.readText s.machine.directory path with
        | .ok script => execute "" script { s with name := path, arguments }
        | .error error =>
          match s.dialect with
          | .posix =>
            (({ s with line := 0 }.report s!"cannot open {path}: No such file").fail 2, .exit)
          | .bash =>
            ((s.write 2 (bytesOf s!"{s.name}: {path}: {error.text}\n")).fail
              (if error = .notFound then 127 else 126), .exit)

/-- Runs a script line by line. -/
def runScript (tested : Bool) (origin script : String) : Nat → Source → Session → Session × Flow
  | 0, _, s => (s, .exit)
  | fuel + 1, source, s =>
    match readNext s.dialect source with
    | .error error => (s.reportSyntax origin script error, .exit)
    | .ok none => (s, .next)
    | .ok (some (command, source)) =>
      match run tested fuel command s with
      | (s, .next) => runScript tested origin script fuel source s
      | (s, flow) => (s, flow)

end

end Stageflow.Shell
