import Stageflow.Shell.Arithmetic
import Stageflow.Shell.Syntax
import Stageflow.Text.Utf8

namespace Stageflow.Shell

def bytesOf (text : String) : List UInt8 :=
  Text.encode text.toList

/-- A text from bytes; what is no UTF-8 is replaced. -/
def textOf (bytes : List UInt8) : String :=
  String.ofList (Text.decodeLossy bytes)

/-- What a backslash in front of a character stands for, where no digits are involved. -/
def controlEscape? : Char → Option UInt8
  | 'a' => some 0x07
  | 'b' => some 0x08
  | 'e' => some 0x1B
  | 'f' => some 0x0C
  | 'n' => some 0x0A
  | 'r' => some 0x0D
  | 't' => some 0x09
  | 'v' => some 0x0B
  | '\\' => some 0x5C
  | _ => none

def isOctal (c : Char) : Bool :=
  '0' ≤ c && c ≤ '7'

def octal (digits : List Char) : UInt8 :=
  UInt8.ofNat (digits.foldl (fun n c => n * 8 + (c.toNat - 48)) 0)

/-- The byte that hexadecimal digits behind a backslash and an `x` name, and what follows them. Only
    one dialect knows them. -/
def hexadecimal? (dialect : Dialect) (cs : List Char) : Option (UInt8 × List Char) :=
  match dialect, cs with
  | .bash, 'x' :: cs =>
    let digits := (cs.take 2).takeWhile fun c => (readLiteral? ['0', 'x', c]).isSome
    if digits.isEmpty then none
    else
      (readLiteral? ('0' :: 'x' :: digits)).map fun n =>
        (UInt8.ofNat n.toNat, cs.drop digits.length)
  | _, _ => none

/-- Replaces the escapes of `echo` and of arguments that are printed with escapes. Returns the bytes,
    and whether the output goes on behind them. Octal numbers begin with a zero. -/
def unescape (dialect : Dialect) : Nat → List Char → List UInt8 × Bool
  | 0, _ => ([], true)
  | _, [] => ([], true)
  | fuel + 1, c :: cs =>
    let next (bytes : List UInt8) (cs : List Char) : List UInt8 × Bool :=
      let (rest, goesOn) := unescape dialect fuel cs
      (bytes ++ rest, goesOn)
    if c ≠ '\\' then next (Text.encode [c]) cs
    else
      match cs with
      | 'c' :: _ => ([], false)
      | '0' :: ds =>
        let digits := (ds.take 3).takeWhile isOctal
        next [octal digits] (ds.drop digits.length)
      | d :: rest =>
        match controlEscape? d, hexadecimal? dialect cs with
        | some byte, _ => next [byte] rest
        | none, some (byte, rest) => next [byte] rest
        | none, none => next (Text.encode [c]) cs
      | [] => next (Text.encode [c]) cs

/-- A directive of a format: its flags, width, precision and letter. -/
structure Directive where
  flags : List Char
  width : Nat
  precision : Option Nat
  letter : Char
  deriving Repr

inductive FormatItem where
  | bytes (bytes : List UInt8)
  | directive (directive : Directive)
  | stop
  deriving Repr

def numberIn (digits : List Char) : Nat :=
  digits.foldl (fun n c => n * 10 + (c.toNat - 48)) 0

def readFormat (dialect : Dialect) : Nat → List Char → List FormatItem
  | 0, _ => []
  | _, [] => []
  | fuel + 1, c :: cs =>
    if c = '\\' then
      match cs with
      | 'c' :: _ => [.stop]
      | d :: rest =>
        if isOctal d then
          let digits := (cs.take 3).takeWhile isOctal
          .bytes [octal digits] :: readFormat dialect fuel (cs.drop digits.length)
        else if d = '"' then .bytes [0x22] :: readFormat dialect fuel rest
        else
          match controlEscape? d, hexadecimal? dialect cs with
          | some byte, _ => .bytes [byte] :: readFormat dialect fuel rest
          | none, some (byte, rest) => .bytes [byte] :: readFormat dialect fuel rest
          | none, none => .bytes [0x5C] :: readFormat dialect fuel cs
      | [] => [.bytes [0x5C]]
    else if c = '%' then
      match cs with
      | '%' :: rest => .bytes [0x25] :: readFormat dialect fuel rest
      | _ =>
        let flags := cs.takeWhile ("-+ #0".toList.contains ·)
        let cs := cs.drop flags.length
        let width := cs.takeWhile Char.isDigit
        let cs := cs.drop width.length
        let (precision, cs) :=
          match cs with
          | '.' :: cs => (some (numberIn (cs.takeWhile Char.isDigit)), cs.dropWhile Char.isDigit)
          | cs => (none, cs)
        match cs with
        | letter :: rest =>
          .directive ⟨flags, numberIn width, precision, letter⟩ :: readFormat dialect fuel rest
        | [] => [.bytes [0x25]]
    else .bytes (Text.encode [c]) :: readFormat dialect fuel cs

structure Printed where
  bytes : List UInt8 := []
  /-- Arguments that should be numbers and are none. -/
  invalid : List String := []
  stopped : Bool := false

namespace Directive

/-- Fills a field with blanks, or with zeros behind its sign. -/
def fill (d : Directive) (zeros : Bool) (sign body : List UInt8) : List UInt8 :=
  let missing := d.width - (sign.length + body.length)
  if d.flags.contains '-' then sign ++ body ++ List.replicate missing 0x20
  else if zeros ∧ d.flags.contains '0' then sign ++ List.replicate missing 0x30 ++ body
  else List.replicate missing 0x20 ++ sign ++ body

/-- The number that an argument writes, where a quote stands for the code of what follows it. -/
def argument? (text : String) : Option Int :=
  match text.toList with
  | '\'' :: c :: _ | '"' :: c :: _ => some c.toNat
  | _ => numberOf? text

def print (dialect : Dialect) (d : Directive) (argument : String) : Printed :=
  let cut (bytes : List UInt8) : List UInt8 :=
    match d.precision with
    | some n => bytes.take n
    | none => bytes
  let number := argument? argument
  let invalid := if number.isNone then [argument] else []
  let n := number.getD 0
  let digits (base : Nat) (n : Nat) : List UInt8 :=
    let ds := Nat.toDigits base n
    bytesOf (String.ofList (List.replicate (d.precision.getD 1 - ds.length) '0' ++ ds))
  let unsigned := (n % (Nat.pow 2 64 : Int)).toNat
  let zeros := d.precision.isNone
  match d.letter with
  | 's' => { bytes := d.fill false [] (cut (bytesOf argument)) }
  | 'b' =>
    let (bytes, goesOn) := unescape dialect (argument.toList.length + 1) argument.toList
    { bytes := d.fill false [] (cut bytes), stopped := !goesOn }
  | 'c' => { bytes := d.fill false [] ((bytesOf argument).take 1) }
  | 'd' | 'i' =>
    let sign : List UInt8 :=
      if n < 0 then [0x2D]
      else if d.flags.contains '+' then [0x2B]
      else if d.flags.contains ' ' then [0x20]
      else []
    { bytes := d.fill zeros sign (digits 10 n.natAbs), invalid }
  | 'u' => { bytes := d.fill zeros [] (digits 10 unsigned), invalid }
  | 'o' => { bytes := d.fill zeros [] (digits 8 unsigned), invalid }
  | 'x' => { bytes := d.fill zeros [] (digits 16 unsigned), invalid }
  | 'X' =>
    { bytes := d.fill zeros [] ((digits 16 unsigned).map fun b => if 0x61 ≤ b then b - 0x20 else b)
      invalid }
  | letter => { bytes := Text.encode ['%', letter] }

end Directive

/-- Prints the items of a format once. Returns the arguments that are left. -/
def printOnce (dialect : Dialect) (printed : Printed) : List FormatItem → List String → Printed × List String
  | [], arguments => (printed, arguments)
  | .stop :: _, arguments => ({ printed with stopped := true }, arguments)
  | .bytes bytes :: items, arguments =>
    printOnce dialect { printed with bytes := printed.bytes ++ bytes } items arguments
  | .directive d :: items, arguments =>
    let numeric := "diuoxX".toList.contains d.letter
    let piece := d.print dialect (arguments.head?.getD (if numeric then "0" else ""))
    let printed : Printed :=
      { bytes := printed.bytes ++ piece.bytes
        invalid := printed.invalid ++ piece.invalid
        stopped := piece.stopped }
    if printed.stopped then (printed, []) else printOnce dialect printed items arguments.tail

/-- Prints a format again and again until no arguments are left. -/
def printAll (dialect : Dialect) (items : List FormatItem) : Nat → Printed → List String → Printed
  | 0, printed, _ => printed
  | fuel + 1, printed, arguments =>
    let (printed, rest) := printOnce dialect printed items arguments
    if printed.stopped ∨ rest.isEmpty ∨ arguments.length ≤ rest.length then printed
    else printAll dialect items fuel printed rest

def printf (dialect : Dialect) (format : String) (arguments : List String) : Printed :=
  let items := readFormat dialect (format.toList.length + 1) format.toList
  printAll dialect items (arguments.length + 1) {} arguments

/-- The bytes that `echo` prints for its arguments. -/
def echo (dialect : Dialect) (arguments : List String) : List UInt8 :=
  let isOptions (word : String) : Bool :=
    match dialect with
    | .posix => word == "-n"
    | .bash =>
      match word.toList with
      | '-' :: c :: cs => (c :: cs).all ("neE".toList.contains ·)
      | _ => false
  let leading := arguments.takeWhile isOptions
  let leading := if dialect = .posix then leading.take 1 else leading
  let options := leading.flatMap (·.toList)
  let escapes := dialect = .posix || (options.filter (· != 'n')).getLast? == some 'e'
  let text := " ".intercalate (arguments.drop leading.length)
  let (bytes, goesOn) :=
    if escapes then unescape dialect (text.toList.length + 1) text.toList else (bytesOf text, true)
  if !goesOn || options.contains 'n' then bytes else bytes ++ [0x0A]

end Stageflow.Shell
