import Stageflow.Shell.Condition
import Stageflow.Shell.Printf

namespace Stageflow.Shell

open Host (Machine FileError FileNode)

/-- What an installed program gets: its name and arguments, everything it can read, and the
    variables of its environment. -/
structure ToolCall where
  name : String
  arguments : List String
  input : List UInt8
  environment : List (String × String)

/-- What an installed program leaves: its exit code, what it wrote, and the machine. -/
structure ToolResult where
  status : Nat
  output : List UInt8
  errors : List UInt8
  machine : Machine

namespace ToolCall

/-- Leaves the machine as it is. -/
def reply (_ : ToolCall) (machine : Machine) (status : Nat) (output : List UInt8)
    (errors : List String) : ToolResult :=
  ⟨status, output, errors.flatMap fun line => bytesOf (line ++ "\n"), machine⟩

def complain (call : ToolCall) (what : String) (error : FileError) : String :=
  s!"{call.name}: {what}: {error.text}"

/-- The bytes of several files, where a dash stands for the input, with the complaints about those
    that cannot be read; without names the input. -/
def readAll (call : ToolCall) (machine : Machine) (names : List String) :
    List (String × List UInt8) × List String :=
  if names.isEmpty then ([("", call.input)], [])
  else
    names.foldl
      (fun (contents, errors) name =>
        if name = "-" then (contents ++ [(name, call.input)], errors)
        else
          match machine.files.read machine.directory name with
          | .ok bytes => (contents ++ [(name, bytes)], errors)
          | .error error => (contents, errors ++ [call.complain name error]))
      ([], [])

/-- Options and operands. -/
def isOption (argument : String) : Bool :=
  match argument.toList with
  | '-' :: _ :: _ => true
  | _ => false

/-- The letters of the options in front of the operands, and the operands. -/
def letters (call : ToolCall) : List Char × List String :=
  let options := call.arguments.takeWhile fun argument => isOption argument && argument != "--"
  let rest := call.arguments.drop options.length
  (options.flatMap fun option => option.toList.tail,
    if rest.head? = some "--" then rest.tail else rest)

end ToolCall

/-- The lines of a byte string without their ends; what follows the last end is a line too unless
    it is empty. -/
def byteLines (bytes : List UInt8) : List (List UInt8) :=
  match bytes with
  | [] => []
  | b :: bs =>
    if b = 0x0A then [] :: byteLines bs
    else
      match byteLines bs with
      | [] => [[b]]
      | line :: lines => (b :: line) :: lines

def unlines (lines : List (List UInt8)) : List UInt8 :=
  lines.flatMap fun line => line ++ [0x0A]

/-- The bytes of a named class of characters. -/
def classBytes? (name : String) : Option (List UInt8) :=
  let all (p : Char → Bool) : List UInt8 :=
    ((List.range 128).map Char.ofNat).filterMap fun c => if p c then some (UInt8.ofNat c.toNat) else none
  match name with
  | "upper" => some (all Char.isUpper)
  | "lower" => some (all Char.isLower)
  | "digit" => some (all Char.isDigit)
  | "alpha" => some (all Char.isAlpha)
  | "alnum" => some (all Char.isAlphanum)
  | "space" => some ((all fun c => c.toNat == 0x20 || (9 ≤ c.toNat && c.toNat ≤ 13)))
  | "blank" => some [0x09, 0x20]
  | "punct" => some (all fun c => 33 ≤ c.toNat && c.toNat ≤ 126 && !c.isAlphanum)
  | _ => none

/-- The bytes that an operand of `tr` lists. -/
def setBytes : Nat → List Char → List UInt8
  | 0, _ => []
  | _, [] => []
  | fuel + 1, c :: cs =>
    let byte (c : Char) : UInt8 := (Text.encode [c]).headD 0
    if c = '[' ∧ cs.head? = some ':' then
      let name := (cs.drop 1).takeWhile (· != ':')
      match classBytes? (String.ofList name) with
      | some bytes => bytes ++ setBytes fuel (cs.drop (name.length + 3))
      | none => byte c :: setBytes fuel cs
    else
      let (low, cs) : List UInt8 × List Char :=
        if c ≠ '\\' then (Text.encode [c], cs)
        else
          let digits := (cs.take 3).takeWhile isOctal
          if !digits.isEmpty then ([octal digits], cs.drop digits.length)
          else
            match cs with
            | d :: rest => ([(controlEscape? d).getD (byte d)], rest)
            | [] => ([0x5C], [])
      match low, cs with
      | [low], '-' :: d :: rest =>
        let high := byte d
        (List.range (high.toNat + 1 - low.toNat)).map (fun i => UInt8.ofNat (low.toNat + i)) ++
          setBytes fuel rest
      | low, cs => low ++ setBytes fuel cs

def operandBytes (operand : String) : List UInt8 :=
  setBytes (operand.toList.length + 1) operand.toList

/-- Drops repetitions of bytes that satisfy a condition. -/
def squeeze (p : UInt8 → Bool) : List UInt8 → List UInt8
  | a :: b :: bs => if a = b ∧ p a then squeeze p (b :: bs) else a :: squeeze p (b :: bs)
  | bs => bs

/-- Replaces, deletes or squeezes bytes. -/
def transliterate (letters : List Char) (operands : List String) (input : List UInt8) : List UInt8 :=
  let sets := operands.map operandBytes
  let first := sets.headD []
  let complement := letters.contains 'c' || letters.contains 'C'
  let first :=
    if complement then (List.range 256).map UInt8.ofNat |>.filter fun b => !first.contains b else first
  match letters.contains 'd', letters.contains 's', sets with
  | true, squeezes, _ =>
    let kept := input.filter fun b => !first.contains b
    if squeezes then squeeze ((sets.getD 1 []).contains ·) kept else kept
  | false, true, [_] => squeeze (first.contains ·) input
  | false, squeezes, _ =>
    let second := sets.getD 1 []
    let change (b : UInt8) : UInt8 :=
      match first.idxOf? b with
      | some i => second.getD i (second.getLast?.getD b)
      | none => b
    let changed := input.map change
    if squeezes then squeeze (second.contains ·) changed else changed

/-- The number of words between blanks and line ends. -/
def countWords (bytes : List UInt8) : Nat :=
  let isGap (b : UInt8) : Bool := b == 0x20 || (0x09 ≤ b && b ≤ 0x0D)
  ((bytes.zip (0x20 :: bytes)).filter fun (b, before) => !isGap b && isGap before).length

def padded (width : Nat) (n : Nat) : String :=
  let digits := toString n
  String.ofList (List.replicate (width - digits.length) ' ') ++ digits

/-- The counts of `wc` for named contents, in columns as wide as the largest of them. -/
def countAll (letters : List Char) (contents : List (String × List UInt8)) : List String :=
  let shown (c : Char) : Bool := letters.isEmpty || letters.contains c
  let counts (bytes : List UInt8) : List Nat :=
    (if shown 'l' then [bytes.count 0x0A] else []) ++ (if shown 'w' then [countWords bytes] else []) ++
      (if shown 'c' || letters.contains 'm' then [bytes.length] else [])
  let rows := contents.map fun entry => (entry.1, counts entry.2)
  let all := (contents.map (·.2)).flatten
  let rows := if 1 < contents.length then rows ++ [("total", counts all)] else rows
  let columns := (counts []).length
  let width :=
    if contents.length = 1 ∧ columns = 1 then 1
    else if contents.any fun entry => entry.1 == "" || entry.1 == "-" then 7
    else (toString all.length).length
  rows.map fun (name, counts) =>
    " ".intercalate (counts.map (padded width)) ++ if name.isEmpty then "" else " " ++ name

/-- The lines of `head` and `tail`, with the number of lines or bytes that was asked for. -/
def readExtent : List String → (Nat × Bool) × List String
  | "-n" :: n :: rest => ((n.toNat?.getD 10, true), rest)
  | "-c" :: n :: rest => ((n.toNat?.getD 10, false), rest)
  | argument :: rest =>
    match argument.toList with
    | '-' :: 'n' :: ds => ((((String.ofList ds).toNat?).getD 10, true), rest)
    | '-' :: 'c' :: ds => ((((String.ofList ds).toNat?).getD 10, false), rest)
    | '-' :: ds =>
      if !ds.isEmpty && ds.all Char.isDigit then ((numberIn ds, true), rest)
      else ((10, true), argument :: rest)
    | _ => ((10, true), argument :: rest)
  | [] => ((10, true), [])

/-- The bytes of a text up to the end of the given number of lines. -/
def firstLines : Nat → List UInt8 → List UInt8
  | 0, _ => []
  | _, [] => []
  | n + 1, bytes =>
    let line := bytes.takeWhile (· != 0x0A)
    bytes.take (line.length + 1) ++ firstLines n (bytes.drop (line.length + 1))

/-- How long `sleep` waits for an operand, in microseconds. -/
def duration? (operand : String) : Option Nat :=
  let cs := operand.toList
  let whole := cs.takeWhile Char.isDigit
  let (fraction, rest) :=
    match cs.drop whole.length with
    | '.' :: rest => (rest.takeWhile Char.isDigit, rest.dropWhile Char.isDigit)
    | rest => ([], rest)
  let unit? : Option Nat :=
    match rest with
    | [] | ['s'] => some 1
    | ['m'] => some 60
    | ['h'] => some 3600
    | ['d'] => some 86400
    | _ => none
  if whole.isEmpty ∧ fraction.isEmpty then none
  else
    unit?.map fun unit =>
      unit * (numberIn whole * 1000000 + numberIn ((fraction ++ List.replicate 6 '0').take 6))

/-- Whether a byte string does not come behind another. -/
def bytesInOrder : List UInt8 → List UInt8 → Bool
  | [], _ => true
  | _ :: _, [] => false
  | a :: as, b :: bs => a < b || (a == b && bytesInOrder as bs)

/-- The lines of a byte string in the order that `sort` gives them. -/
def sortedLines (letters : List Char) (bytes : List UInt8) : List (List UInt8) :=
  let number (line : List UInt8) : Int :=
    match (textOf line).toList.dropWhile isSpace with
    | '-' :: ds => -numberIn (ds.takeWhile Char.isDigit)
    | ds => numberIn (ds.takeWhile Char.isDigit)
  let le (a b : List UInt8) : Bool :=
    if letters.contains 'n' ∧ number a ≠ number b then number a < number b
    else bytesInOrder a b
  let sorted := (byteLines bytes).mergeSort le
  let sorted := if letters.contains 'r' then sorted.reverse else sorted
  if letters.contains 'u' then sorted.eraseDups else sorted

/-- Equal neighbours among lines as one line each, with their number if that is asked for. -/
def uniqueLines (counted : Bool) (bytes : List UInt8) : List (List UInt8) :=
  ((byteLines bytes).splitBy (· == ·)).map fun group =>
    (if counted then bytesOf (padded 7 group.length ++ " ") else []) ++ group.headD []

/-- The numbers of `seq`, from its operands. -/
def sequenceOf (numbers : List Int) : List Int :=
  let (first, step, last) :=
    match numbers with
    | [last] => (1, 1, last)
    | [first, last] => (first, 1, last)
    | first :: step :: last :: _ => (first, step, last)
    | [] => (1, 1, 0)
  let count := if step = 0 then 0 else ((last - first) / step + 1).toNat
  (List.range count).map fun i : Nat => first + i * step

def errorLines (lines : List String) : List UInt8 :=
  lines.flatMap fun line => bytesOf (line ++ "\n")

namespace ToolCall

def status (errors : List String) : Nat :=
  if errors.isEmpty then 0 else 1

/-- Whether a program reads its whole input. -/
def consumesInput (call : ToolCall) : Bool :=
  let operands := call.letters.2
  match call.name with
  | "tr" | "tee" => true
  | "cat" | "rev" | "sort" | "uniq" | "wc" => operands.isEmpty || operands.contains "-"
  | "head" | "tail" => (readExtent call.arguments).2.isEmpty
  | _ => false

/-- Programs that turn the text of their operands or of the input into another text. -/
def filter? (call : ToolCall) (machine : Machine) : Option ToolResult :=
  let (letters, operands) := call.letters
  let onAll (names : List String) (f : List UInt8 → List UInt8) : Option ToolResult :=
    let (contents, errors) := call.readAll machine names
    some (call.reply machine (status errors) (f (contents.flatMap (·.2))) errors)
  let ((extent, byLine), extentNames) := readExtent call.arguments
  match call.name with
  | "cat" => onAll operands id
  | "head" =>
    onAll extentNames fun bytes => if byLine then firstLines extent bytes else bytes.take extent
  | "tail" =>
    onAll extentNames fun bytes =>
      if byLine then bytes.drop (firstLines ((byteLines bytes).length - extent) bytes).length
      else bytes.drop (bytes.length - extent)
  | "rev" =>
    onAll operands fun bytes =>
      unlines ((byteLines bytes).map fun line =>
        bytesOf (String.ofList (textOf line).toList.reverse))
  | "sort" => onAll operands fun bytes => unlines (sortedLines letters bytes)
  | "tr" => some (call.reply machine 0 (transliterate letters operands call.input) [])
  | "uniq" => onAll operands fun bytes => unlines (uniqueLines (letters.contains 'c') bytes)
  | "wc" =>
    let (contents, errors) := call.readAll machine operands
    some (call.reply machine (status errors) (errorLines (countAll letters contents)) errors)
  | _ => none

/-- The names that `ls` shows for an operand. -/
def listing (machine : Machine) (hidden : Bool) (name : String) : Except FileError (List String) :=
  match machine.files.locate machine.directory name with
  | .error error => .error error
  | .ok (_, none) => .error .notFound
  | .ok (place, some .directory) =>
    .ok ((machine.files.names place).filter fun entry => hidden || entry.toList.head? != some '.')
  | .ok (_, some _) => .ok [name]

def removed (machine : Machine) (recursive force : Bool) (name : String) :
    Except FileError Machine :=
  match machine.files.locate machine.directory name with
  | .error error => if force ∧ error = .notFound then .ok machine else .error error
  | .ok (_, none) => if force then .ok machine else .error .notFound
  | .ok (place, some .directory) =>
    if recursive then .ok { machine with files := machine.files.removeAll place }
    else .error .isDirectory
  | .ok (place, some _) => .ok { machine with files := machine.files.remove place }

/-- Programs that look at files or change them. -/
def onFiles? (call : ToolCall) (machine : Machine) : Option ToolResult :=
  let (letters, operands) := call.letters
  /- Applies a change for each operand. -/
  let changing (complaint : String) (f : String → Machine → Except FileError Machine) :
      Option ToolResult :=
    let (machine, errors) :=
      operands.foldl
        (fun (machine, errors) operand =>
          match f operand machine with
          | .ok machine => (machine, errors)
          | .error error => (machine, errors ++ [s!"{call.name}: {complaint} '{operand}': {error.text}"]))
        (machine, [])
    some (call.reply machine (status errors) [] errors)
  match call.name with
  | "ls" =>
    let hidden := letters.contains 'a' || letters.contains 'A'
    let (lines, errors) :=
      (if operands.isEmpty then ["."] else operands).foldl
        (fun (lines, errors) name =>
          match listing machine hidden name with
          | .ok names => (lines ++ names, errors)
          | .error error => (lines, errors ++ [s!"ls: cannot access '{name}': {error.text}"]))
        ([], [])
    some (call.reply machine (if errors.isEmpty then 0 else 2) (errorLines lines) errors)
  | "mkdir" =>
    changing "cannot create directory" fun name machine =>
      match machine.files.locate machine.directory name with
      | .error error => .error error
      | .ok (place, none) => .ok { machine with files := machine.files.put place .directory }
      | .ok (_, some node) =>
        if letters.contains 'p' ∧ node = .directory then .ok machine else .error .alreadyExists
  | "pwd" => some (call.reply machine 0 (bytesOf (machine.directory.path ++ "\n")) [])
  | "rm" =>
    changing "cannot remove" fun name machine =>
      removed machine (letters.contains 'r') (letters.contains 'f') name
  | "tee" =>
    let (machine, errors) :=
      operands.foldl
        (fun (machine, errors) name =>
          match machine.files.openForWriting machine.directory name !(letters.contains 'a') with
          | .ok (place, files) =>
            ({ machine with files := files.append place call.input }, errors)
          | .error error => (machine, errors ++ [call.complain name error]))
        (machine, [])
    some (call.reply machine (status errors) call.input errors)
  | "touch" =>
    changing "cannot touch" fun name machine =>
      match machine.files.locate machine.directory name with
      | .error error => .error error
      | .ok (place, none) => .ok { machine with files := machine.files.put place (.file []) }
      | .ok (_, some _) => .ok machine
  | _ => none

/-- Programs that depend on their operands, their environment and the clock alone. -/
def simple? (call : ToolCall) (machine : Machine) : Option ToolResult :=
  let (_, operands) := call.letters
  let done (status : Nat) (output : List UInt8) (errors : List String) : Option ToolResult :=
    some (call.reply machine status output errors)
  let line (text : String) : List UInt8 := bytesOf (text ++ "\n")
  let listed := call.environment.flatMap fun entry => line s!"{entry.1}={entry.2}"
  match call.name with
  | "true" => done 0 [] []
  | "false" => done 1 [] []
  | "basename" =>
    let name := (((operands.headD "").splitOn "/").filter (· != "")).getLast?.getD "/"
    let ending := operands.getD 1 ""
    done 0
      (line
        (if ending.length < name.length ∧ ending.toList.isSuffixOf name.toList then
          String.ofList (name.toList.take (name.length - ending.length))
        else name))
      []
  | "dirname" =>
    let path := operands.headD ""
    let names := (path.splitOn "/").filter (· != "")
    let start := if path.toList.head? = some '/' then "/" else if names.length ≤ 1 then "." else ""
    done 0 (line (start ++ "/".intercalate names.dropLast)) []
  | "echo" => done 0 (echo .bash call.arguments) []
  | "env" => done 0 listed []
  | "printenv" =>
    let found := operands.filterMap fun name => call.environment.find? (·.1 == name)
    if operands.isEmpty then done 0 listed []
    else
      done (if found.length = operands.length then 0 else 1)
        (found.flatMap fun entry => line entry.2) []
  | "printf" =>
    match call.arguments with
    | [] => done 1 [] ["printf: missing operand"]
    | format :: arguments =>
      let printed := printf .bash format arguments
      let errors := printed.invalid.map fun text => s!"printf: '{text}': expected a numeric value"
      done (status errors) printed.bytes errors
  | "seq" =>
    let numbers := operands.map fun operand => (numberOf? operand).getD 0
    done 0 ((sequenceOf numbers).flatMap fun n => line (toString n)) []
  | "sleep" =>
    match call.arguments.find? fun operand => (duration? operand).isNone with
    | some operand => done 1 [] [s!"sleep: invalid time interval '{operand}'"]
    | none =>
      if call.arguments.isEmpty then done 1 [] ["sleep: missing operand"]
      else
        some (call.reply (machine.wait ((call.arguments.filterMap duration?).foldl Nat.add 0)) 0 [] [])
  | "test" | "[" =>
    match condition machine (if call.name = "[" then call.arguments.dropLast else call.arguments) with
    | .ok b => done (if b then 0 else 1) [] []
    | .error (.illegalNumber text) => done 2 [] [s!"{call.name}: invalid integer '{text}'"]
    | .error (.malformed word) => done 2 [] [s!"{call.name}: extra argument '{word}'"]
  | _ => none

/-- Runs a program that is no shell. -/
def run (call : ToolCall) (machine : Machine) : ToolResult :=
  (call.filter? machine <|> call.onFiles? machine <|> call.simple? machine).getD
    (call.reply machine 127 [] [])

end ToolCall

end Stageflow.Shell
