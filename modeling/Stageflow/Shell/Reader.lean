import Stageflow.Shell.Syntax

namespace Stageflow.Shell

/-- A place in a script. -/
structure Source where
  rest : List Char
  line : Nat
  deriving Repr

namespace Source

/-- Passes over `n` characters and counts the lines that end among them. -/
def skip (source : Source) (n : Nat) : Source :=
  ⟨source.rest.drop n, source.line + (source.rest.take n).count '\n'⟩

def fail {α : Type} (source : Source) (fault : SyntaxFault) : Except SyntaxError α :=
  .error ⟨fault, source.line⟩

end Source

/-- What was read, and the place behind it. -/
abbrev Reading (α : Type) :=
  Except SyntaxError (α × Source)

def isBlank (c : Char) : Bool :=
  c == ' ' || c == '\t'

/-- The characters that end a word. -/
def endsWord (c : Char) : Bool :=
  isBlank c || c == '\n' || c == ';' || c == '&' || c == '|' || c == '<' || c == '>' || c == '(' ||
    c == ')'

def isNameStart (c : Char) : Bool :=
  c.isAlpha || c == '_'

def isNameChar (c : Char) : Bool :=
  c.isAlphanum || c == '_'

def leadingName (cs : List Char) : List Char :=
  if cs.head?.any isNameStart then cs.takeWhile isNameChar else []

/-- Passes over blanks, continued lines and a comment. -/
def skipBlanks : Nat → Source → Source
  | 0, source => source
  | fuel + 1, source =>
    match source.rest with
    | '\\' :: '\n' :: _ => skipBlanks fuel (source.skip 2)
    | '#' :: cs => source.skip (1 + (cs.takeWhile (· != '\n')).length)
    | c :: _ => if isBlank c then skipBlanks fuel (source.skip 1) else source
    | [] => source

def Source.trimmed (source : Source) : Source :=
  skipBlanks (source.rest.length + 1) source

/-- Passes over blanks, comments and line breaks. -/
def skipLines : Nat → Source → Source
  | 0, source => source
  | fuel + 1, source =>
    let source := source.trimmed
    match source.rest with
    | '\n' :: _ => skipLines fuel (source.skip 1)
    | _ => source

def Source.nextLine (source : Source) : Source :=
  skipLines (source.rest.length + 1) source

/-- The words that are part of the language where a command can start. -/
def reservedWords : List String :=
  ["!", "\x7b", "\x7d", "case", "do", "done", "elif", "else", "esac", "fi", "for", "if", "in",
    "then", "until", "while"]

/-- The reserved word that comes next, if one does. -/
def Source.reserved? (source : Source) : Option String :=
  let cs := source.rest.takeWhile fun c => !endsWord c
  let word := String.ofList cs
  if reservedWords.contains word then some word else none

/-- What stands where a command ends, for messages. -/
def Source.token (source : Source) : String :=
  match source.rest with
  | [] => ""
  | '\n' :: _ => "newline"
  | ';' :: ';' :: _ => ";;"
  | '&' :: '&' :: _ => "&&"
  | '|' :: '|' :: _ => "||"
  | c :: _ =>
    if endsWord c then String.singleton c
    else String.ofList (source.rest.takeWhile fun c => !endsWord c)

/-- Fails because of what comes next where something else is expected. -/
def Source.unexpectedFor {α : Type} (source : Source) (expected : Option String) :
    Except SyntaxError α :=
  if source.rest.isEmpty then source.fail (.unexpectedEnd expected)
  else source.fail (.unexpected source.token expected)

/-- Fails because of what comes next. -/
def Source.unexpected {α : Type} (source : Source) : Except SyntaxError α :=
  source.unexpectedFor none

/-- Passes over a reserved word that has to come next. -/
def Source.expect (source : Source) (word : String) : Except SyntaxError Source :=
  let source := source.nextLine
  if source.reserved? = some word then .ok (source.skip word.length)
  else source.unexpectedFor (some word)

/-- The sign behind the name of a parameter between braces. -/
def adjustment? : List Char → Option (Adjustment × Nat)
  | ':' :: '-' :: _ => some (.orDefault true, 2)
  | ':' :: '=' :: _ => some (.orAssign true, 2)
  | ':' :: '?' :: _ => some (.orFail true, 2)
  | ':' :: '+' :: _ => some (.ifSet true, 2)
  | '-' :: _ => some (.orDefault false, 1)
  | '=' :: _ => some (.orAssign false, 1)
  | '?' :: _ => some (.orFail false, 1)
  | '+' :: _ => some (.ifSet false, 1)
  | '#' :: '#' :: _ => some (.dropStart true, 2)
  | '#' :: _ => some (.dropStart false, 1)
  | '%' :: '%' :: _ => some (.dropEnd true, 2)
  | '%' :: _ => some (.dropEnd false, 1)
  | _ => none

/-- The parameter that a text starts with: a name, digits, or one of the special signs. -/
def leadingParameter (cs : List Char) : List Char :=
  match cs with
  | [] => []
  | c :: _ =>
    if isNameStart c then cs.takeWhile isNameChar
    else if c.isDigit then cs.takeWhile Char.isDigit
    else if "@*#?$!-".toList.contains c then [c]
    else []

/-- Undoes the backslashes of a command between backquotes. -/
def unescapeBackquoted : List Char → List Char
  | '\\' :: c :: cs =>
    if c = '\x60' ∨ c = '\\' ∨ c = '$' then c :: unescapeBackquoted cs
    else '\\' :: c :: unescapeBackquoted cs
  | c :: cs => c :: unescapeBackquoted cs
  | [] => []

/-- The text up to the next backquote that no backslash precedes. -/
def backquoted : List Char → List Char
  | '\\' :: c :: cs => '\\' :: c :: backquoted cs
  | c :: cs => if c = '\x60' then [] else c :: backquoted cs
  | [] => []

inductive Ending where
  | wordEnd
  | doubleQuote
  | brace
  | parentheses (depth : Nat)
  deriving DecidableEq, Repr

mutual

/-- Reads the parts of a word. Quotes and braces are read past what ends them; a word itself ends in
    front of a blank or operator. -/
def readParts (dialect : Dialect) (ending : Ending) (quoted : Bool) :
    Nat → Source → Reading (List Part)
  | 0, source => source.fail (.unexpectedEnd none)
  | fuel + 1, source =>
    let go (part : Part) (source : Source) : Reading (List Part) :=
      (readParts dialect ending quoted fuel source).map fun (parts, source) => (part :: parts, source)
    let plain (c : Char) (n : Nat) : Reading (List Part) :=
      go (.text quoted (String.singleton c)) (source.skip n)
    match source.rest with
    | [] =>
      match ending with
      | .wordEnd => .ok ([], source)
      | .doubleQuote => source.fail (.openQuote '"')
      | .brace | .parentheses _ => source.fail (.unexpectedEnd none)
    | c :: cs =>
      if ending = .wordEnd ∧ endsWord c then .ok ([], source)
      else if ending = .doubleQuote ∧ c = '"' then .ok ([], source.skip 1)
      else if ending = .brace ∧ c = '\x7d' then .ok ([], source.skip 1)
      else if c = '$' then
        match readDollar dialect quoted fuel (source.skip 1) with
        | .error error => .error error
        | .ok (part, source) => go part source
      else if c = '\x60' then
        let body := backquoted cs
        if cs.length ≤ body.length then source.fail (.openQuote '\x60')
        else
          match readScript dialect fuel ⟨unescapeBackquoted body, source.line⟩ with
          | .error error => .error error
          | .ok (command, _) => go (.command quoted command) (source.skip (body.length + 2))
      else if c = '\\' then
        match cs with
        | [] => plain '\\' 1
        | '\n' :: _ => readParts dialect ending quoted fuel (source.skip 2)
        | d :: _ =>
          if !quoted || d == '$' || d == '\x60' || d == '"' || d == '\\' then
            go (.text true (String.singleton d)) (source.skip 2)
          else plain '\\' 1
      else if c = '\'' ∧ !quoted then
        let body := cs.takeWhile (· != '\'')
        if cs.length = body.length then source.fail (.openQuote '\'')
        else go (.text true (String.ofList body)) (source.skip (body.length + 2))
      else if c = '"' then
        match readParts dialect .doubleQuote true fuel (source.skip 1) with
        | .error error => .error error
        | .ok (inner, source) =>
          (readParts dialect ending quoted fuel source).map fun (parts, source) =>
            (.text true "" :: inner ++ parts, source)
      else
        match ending with
        | .parentheses depth =>
          if c = '(' then
            (readParts dialect (.parentheses (depth + 1)) quoted fuel (source.skip 1)).map
              fun (parts, source) => (.text quoted "(" :: parts, source)
          else if c = ')' then
            match depth with
            | 0 =>
              if cs.head? = some ')' then .ok ([], source.skip 2) else source.unexpected
            | depth + 1 =>
              (readParts dialect (.parentheses depth) quoted fuel (source.skip 1)).map
                fun (parts, source) => (.text quoted ")" :: parts, source)
          else plain c 1
        | _ => plain c 1

/-- Reads what a dollar sign introduces. -/
def readDollar (dialect : Dialect) (quoted : Bool) : Nat → Source → Reading Part
  | 0, source => source.fail (.unexpectedEnd none)
  | fuel + 1, source =>
    match source.rest with
    | '(' :: '(' :: _ =>
      (readParts dialect (.parentheses 0) true fuel (source.skip 2)).map
        fun (parts, source) => (.arithmetic quoted parts, source)
    | '(' :: _ =>
      match readCommands dialect fuel (source.skip 1) with
      | .error error => .error error
      | .ok (command, source) =>
        match source.rest with
        | ')' :: _ => .ok (.command quoted command, source.skip 1)
        | _ => source.unexpectedFor (some ")")
    | '\x7b' :: '#' :: cs =>
      let name := leadingParameter cs
      match cs.drop name.length with
      | '\x7d' :: _ =>
        if name.isEmpty then .ok (.parameter quoted "#", source.skip 3)
        else .ok (.length quoted (String.ofList name), source.skip (name.length + 3))
      | _ => source.fail .badSubstitution
    | '\x7b' :: cs =>
      let name := leadingParameter cs
      let behind := source.skip (name.length + 1)
      if name.isEmpty then source.fail .badSubstitution
      else
        match behind.rest, adjustment? behind.rest with
        | '\x7d' :: _, _ => .ok (.parameter quoted (String.ofList name), behind.skip 1)
        | _, some (adjustment, n) =>
          (readParts dialect .brace quoted fuel (behind.skip n)).map
            fun (parts, source) => (.adjusted quoted (String.ofList name) adjustment parts, source)
        | _, none => source.fail .badSubstitution
    | cs =>
      let name := leadingParameter cs
      let name := if name.head?.any Char.isDigit then name.take 1 else name
      if name.isEmpty then .ok (.text quoted "$", source)
      else .ok (.parameter quoted (String.ofList name), source.skip name.length)

/-- Reads a redirection, if one comes next. -/
def readRedirect? (dialect : Dialect) : Nat → Source → Option (Reading Redirect)
  | 0, _ => none
  | fuel + 1, source =>
    let digits := source.rest.takeWhile Char.isDigit
    let behind := source.skip digits.length
    let kind? : Option (Nat × RedirectKind × Nat) :=
      match behind.rest with
      | '>' :: '>' :: _ => some (1, .append, 2)
      | '>' :: '&' :: _ => some (1, .duplicate, 2)
      | '>' :: '|' :: _ => some (1, .output, 2)
      | '>' :: _ => some (1, .output, 1)
      | '<' :: '<' :: '<' :: _ => if dialect = .bash then some (0, .here, 3) else none
      | '<' :: '<' :: _ => none
      | '<' :: '&' :: _ => some (0, .duplicate, 2)
      | '<' :: _ => some (0, .input, 1)
      | _ => none
    kind?.map fun (descriptor, kind, n) =>
      let descriptor := if digits.isEmpty then descriptor else (String.ofList digits).toNat?.getD 0
      let target := (behind.skip n).trimmed
      match readParts dialect .wordEnd false fuel target with
      | .error error => .error error
      | .ok ([], source) => source.unexpected
      | .ok (word, source) => .ok (.mk descriptor kind word, source)

/-- Reads redirections behind a compound command. -/
def readRedirects (dialect : Dialect) : Nat → Source → Reading (List Redirect)
  | 0, source => source.fail (.unexpectedEnd none)
  | fuel + 1, source =>
    match readRedirect? dialect fuel source.trimmed with
    | none => .ok ([], source)
    | some (.error error) => .error error
    | some (.ok (redirect, source)) =>
      (readRedirects dialect fuel source).map fun (redirects, source) =>
        (redirect :: redirects, source)

/-- Reads the words, assignments and redirections of a simple command. Assignments stand in front of
    all words. -/
def readSimple (dialect : Dialect) (started : Bool) : Nat → Source →
    Reading (List (String × Word) × List Word × List Redirect)
  | 0, source => source.fail (.unexpectedEnd none)
  | fuel + 1, source =>
    let source := source.trimmed
    match readRedirect? dialect fuel source with
    | some (.error error) => .error error
    | some (.ok (redirect, source)) =>
      (readSimple dialect started fuel source).map fun ((assignments, words, redirects), source) =>
        ((assignments, words, redirect :: redirects), source)
    | none =>
      if source.rest.head?.all endsWord then .ok (([], [], []), source)
      else
        let name := leadingName source.rest
        match started, name, source.rest.drop name.length with
        | false, _ :: _, '=' :: _ =>
          match readParts dialect .wordEnd false fuel (source.skip (name.length + 1)) with
          | .error error => .error error
          | .ok (value, source) =>
            (readSimple dialect false fuel source).map
              fun ((assignments, words, redirects), source) =>
                (((String.ofList name, value) :: assignments, words, redirects), source)
        | _, _, _ =>
          match readParts dialect .wordEnd false fuel source with
          | .error error => .error error
          | .ok (word, source) =>
            (readSimple dialect true fuel source).map fun ((assignments, words, redirects), source) =>
              ((assignments, word :: words, redirects), source)

/-- Reads the words of a loop up to the end of the line. -/
def readWords (dialect : Dialect) : Nat → Source → Reading (List Word)
  | 0, source => source.fail (.unexpectedEnd none)
  | fuel + 1, source =>
    let source := source.trimmed
    match source.rest with
    | [] => source.fail (.unexpectedEnd none)
    | '\n' :: _ | ';' :: _ => .ok ([], source.skip 1)
    | c :: _ =>
      if endsWord c then source.unexpected
      else
        match readParts dialect .wordEnd false fuel source with
        | .error error => .error error
        | .ok (word, source) =>
          (readWords dialect fuel source).map fun (words, source) => (word :: words, source)

/-- Reads the patterns of a clause up to its parenthesis. -/
def readPatterns (dialect : Dialect) : Nat → Source → Reading (List Word)
  | 0, source => source.fail (.unexpectedEnd none)
  | fuel + 1, source =>
    match readParts dialect .wordEnd false fuel source.trimmed with
    | .error error => .error error
    | .ok (pattern, source) =>
      let source := source.trimmed
      match source.rest with
      | ')' :: _ => .ok ([pattern], source.skip 1)
      | '|' :: _ =>
        (readPatterns dialect fuel (source.skip 1)).map fun (patterns, source) =>
          (pattern :: patterns, source)
      | _ => source.unexpected

/-- Reads the clauses of a `case` and the word that ends it. -/
def readClauses (dialect : Dialect) : Nat → Source → Reading (List (List Word × Command))
  | 0, source => source.fail (.unexpectedEnd none)
  | fuel + 1, source =>
    let source := source.nextLine
    if source.reserved? = some "esac" then .ok ([], source.skip 4)
    else
      let source := if source.rest.head? = some '(' then source.skip 1 else source
      match readPatterns dialect fuel source with
      | .error error => .error error
      | .ok (patterns, source) =>
        match readCommands dialect fuel source with
        | .error error => .error error
        | .ok (body, source) =>
          let source := source.nextLine
          match source.rest with
          | ';' :: ';' :: _ =>
            (readClauses dialect fuel (source.skip 2)).map fun (clauses, source) =>
              ((patterns, body) :: clauses, source)
          | _ =>
            if source.reserved? = some "esac" then .ok ([(patterns, body)], source.skip 4)
            else source.unexpected

/-- Reads what follows the word `if` or `elif`. -/
def readBranches (dialect : Dialect) :
    Nat → Source → Except SyntaxError ((List (Command × Command) × Command) × Source)
  | 0, source => source.fail (.unexpectedEnd none)
  | fuel + 1, source => do
    let (condition, source) ← readCommands dialect fuel source
    let (body, source) ← readCommands dialect fuel (← source.expect "then")
    let source := source.nextLine
    match source.reserved? with
    | some "elif" =>
      (readBranches dialect fuel (source.skip 4)).map fun ((branches, otherwise), source) =>
        (((condition, body) :: branches, otherwise), source)
    | some "else" =>
      let (otherwise, source) ← readCommands dialect fuel (source.skip 4)
      pure (([(condition, body)], otherwise), ← source.expect "fi")
    | _ => pure (([(condition, body)], .sequence []), ← source.expect "fi")

def readBody (dialect : Dialect) : Nat → Source → Except SyntaxError (Command × Source)
  | 0, source => source.fail (.unexpectedEnd none)
  | fuel + 1, source => do
    let (body, source) ← readCommands dialect fuel (← source.expect "do")
    pure (body, ← source.expect "done")

/-- Reads a command that is no pipeline. -/
def readCommand (dialect : Dialect) : Nat → Source → Except SyntaxError (Command × Source)
  | 0, source => source.fail (.unexpectedEnd none)
  | fuel + 1, source => do
    let source := source.trimmed
    match source.rest, source.reserved? with
    | '(' :: '(' :: _, _ =>
      if dialect = .bash then
        let (expression, behind) ← readParts dialect (.parentheses 0) true fuel (source.skip 2)
        let name : Word := [.text true "let"]
        (readRedirects dialect fuel behind).map fun (redirects, after) =>
          (.simple source.line [] [name, .text true "" :: expression] redirects, after)
      else
        let (body, behind) ← readCommands dialect fuel (source.skip 1)
        let behind := behind.nextLine
        if behind.rest.head? = some ')' then
          (readRedirects dialect fuel (behind.skip 1)).map fun (redirects, source) =>
            (.subshell body redirects, source)
        else behind.unexpectedFor (some ")")
    | '(' :: _, _ =>
      let (body, behind) ← readCommands dialect fuel (source.skip 1)
      let behind := behind.nextLine
      if behind.rest.head? = some ')' then
        (readRedirects dialect fuel (behind.skip 1)).map fun (redirects, source) =>
          (.subshell body redirects, source)
      else behind.unexpectedFor (some ")")
    | _, some "\x7b" =>
      let (body, behind) ← readCommands dialect fuel (source.skip 1)
      (readRedirects dialect fuel (← behind.expect "\x7d")).map fun (redirects, source) =>
        (.group body redirects, source)
    | _, some "if" =>
      let ((branches, otherwise), behind) ← readBranches dialect fuel (source.skip 2)
      (readRedirects dialect fuel behind).map fun (redirects, source) =>
        (.branch branches otherwise redirects, source)
    | _, some "while" =>
      let (condition, behind) ← readCommands dialect fuel (source.skip 5)
      let (body, behind) ← readBody dialect fuel behind
      (readRedirects dialect fuel behind).map fun (redirects, source) =>
        (.loop true condition body redirects, source)
    | _, some "until" =>
      let (condition, behind) ← readCommands dialect fuel (source.skip 5)
      let (body, behind) ← readBody dialect fuel behind
      (readRedirects dialect fuel behind).map fun (redirects, source) =>
        (.loop false condition body redirects, source)
    | _, some "for" =>
      let start := (source.skip 3).trimmed
      let name := leadingName start.rest
      let behind := (start.skip name.length).nextLine
      if name.isEmpty then start.unexpected
      else
        let (words, behind) ←
          if behind.reserved? = some "in" then
            (readWords dialect fuel (behind.skip 2)).map fun (words, source) => (some words, source)
          else pure (none, if behind.rest.head? = some ';' then behind.skip 1 else behind)
        let (body, behind) ← readBody dialect fuel behind
        (readRedirects dialect fuel behind).map fun (redirects, source) =>
          (.forEach (String.ofList name) words body redirects, source)
    | _, some "case" =>
      let (subject, behind) ← readParts dialect .wordEnd false fuel (source.skip 4).trimmed
      let (clauses, behind) ← readClauses dialect fuel (← behind.expect "in")
      (readRedirects dialect fuel behind).map fun (redirects, source) =>
        (.switch subject clauses redirects, source)
    | _, some _ => source.unexpected
    | _, none =>
      let name := leadingName source.rest
      let behind := (source.skip name.length).trimmed
      match name, behind.rest with
      | _ :: _, '(' :: cs =>
        let closing := (behind.skip 1).trimmed
        if closing.rest.head? = some ')' ∧ !cs.isEmpty then
          (readCommand dialect fuel (closing.skip 1).nextLine).map fun (body, source) =>
            (.define (String.ofList name) body, source)
        else closing.unexpected
      | _, _ =>
        let ((assignments, words, redirects), behind) ← readSimple dialect false fuel source
        if assignments.isEmpty && words.isEmpty && redirects.isEmpty then source.unexpected
        else pure (.simple source.line assignments words redirects, behind)

/-- Reads commands with bars between them. -/
def readStages (dialect : Dialect) : Nat → Source → Reading (List Command)
  | 0, source => source.fail (.unexpectedEnd none)
  | fuel + 1, source =>
    match readCommand dialect fuel source with
    | .error error => .error error
    | .ok (command, source) =>
      let source := source.trimmed
      match source.rest with
      | '|' :: '|' :: _ => .ok ([command], source)
      | '|' :: _ =>
        (readStages dialect fuel (source.skip 1).nextLine).map fun (commands, source) =>
          (command :: commands, source)
      | _ => .ok ([command], source)

/-- Reads a pipeline; a lone command that is not negated is not wrapped. -/
def readPipeline (dialect : Dialect) : Nat → Source → Reading Command
  | 0, source => source.fail (.unexpectedEnd none)
  | fuel + 1, source =>
    let source := source.trimmed
    let negated := source.reserved? == some "!"
    (readStages dialect fuel (if negated then source.skip 1 else source)).map
      fun (stages, source) =>
        match negated, stages with
        | false, [command] => (command, source)
        | negated, stages => (.pipeline negated stages, source)

/-- Reads what follows a pipeline that is part of a chain of conditions. -/
def readChain (dialect : Dialect) (first : Command) : Nat → Source → Reading Command
  | 0, source => source.fail (.unexpectedEnd none)
  | fuel + 1, source =>
    let source := source.trimmed
    match source.rest with
    | '&' :: '&' :: _ =>
      match readPipeline dialect fuel (source.skip 2).nextLine with
      | .error error => .error error
      | .ok (second, source) => readChain dialect (.andThen first second) fuel source
    | '|' :: '|' :: _ =>
      match readPipeline dialect fuel (source.skip 2).nextLine with
      | .error error => .error error
      | .ok (second, source) => readChain dialect (.orElse first second) fuel source
    | _ => .ok (first, source)

/-- Reads the commands of one line, or none if the line holds none. -/
def readLine (dialect : Dialect) : Nat → Source → Reading (List Command)
  | 0, source => source.fail (.unexpectedEnd none)
  | fuel + 1, source =>
    let source := source.trimmed
    let closes (word : String) : Bool :=
      ["then", "elif", "else", "fi", "do", "done", "esac", "\x7d"].contains word
    match source.rest with
    | [] | '\n' :: _ | ')' :: _ | ';' :: ';' :: _ => .ok ([], source)
    | _ =>
      if source.reserved?.any closes then .ok ([], source)
      else
        match readPipeline dialect fuel source with
        | .error error => .error error
        | .ok (first, source) =>
          match readChain dialect first fuel source with
          | .error error => .error error
          | .ok (command, source) =>
            let more (command : Command) (source : Source) : Reading (List Command) :=
              (readLine dialect fuel source).map fun (commands, source) =>
                (command :: commands, source)
            match source.rest with
            | ';' :: ';' :: _ => .ok ([command], source)
            | ';' :: _ => more command (source.skip 1)
            | '&' :: _ => more (.background command) (source.skip 1)
            | _ => .ok ([command], source)

/-- Reads the commands of all lines up to what ends them. -/
def readCommands (dialect : Dialect) : Nat → Source → Reading Command
  | 0, source => source.fail (.unexpectedEnd none)
  | fuel + 1, source =>
    match readLine dialect fuel source.nextLine with
    | .error error => .error error
    | .ok (first, source) =>
      match source.rest with
      | '\n' :: _ =>
        match readCommands dialect fuel (source.skip 1) with
        | .error error => .error error
        | .ok (.sequence commands, source) => .ok (.sequence (first ++ commands), source)
        | .ok (command, source) => .ok (.sequence (first ++ [command]), source)
      | _ => .ok (.sequence first, source)

/-- Reads commands up to the end of the text. -/
def readScript (dialect : Dialect) : Nat → Source → Reading Command
  | 0, source => source.fail (.unexpectedEnd none)
  | fuel + 1, source =>
    match readCommands dialect fuel source with
    | .error error => .error error
    | .ok (command, source) =>
      if source.nextLine.rest.isEmpty then .ok (command, source) else source.nextLine.unexpected

end

/-- Reads the next line of a script with everything that belongs to its commands; `none` at the end
    of the script. -/
def readNext (dialect : Dialect) (source : Source) :
    Except SyntaxError (Option (Command × Source)) :=
  let source := source.nextLine
  if source.rest.isEmpty then .ok none
  else
    match readLine dialect (20 * source.rest.length + 20) source with
    | .error error => .error error
    | .ok (commands, behind) =>
      match behind.rest with
      | [] => .ok (some (.sequence commands, behind))
      | '\n' :: _ => .ok (some (.sequence commands, behind.skip 1))
      | _ => behind.unexpected

end Stageflow.Shell
