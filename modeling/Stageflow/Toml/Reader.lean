import Stageflow.Yaml.Scalar
import Stageflow.Toml.Value

namespace Stageflow.Toml

/-- What was read, and the text behind it. -/
abbrev Read (α : Type) :=
  Option (α × List Char)

def isBlank (c : Char) : Bool :=
  c == ' ' || c == '\t'

def skipBlanks (cs : List Char) : List Char :=
  cs.dropWhile isBlank

/-- Whether a character may occur in a comment or a string. -/
def isPrintable (c : Char) : Bool :=
  c == '\t' || (0x20 ≤ c.toNat && c.toNat ≠ 0x7F)

def newline? : List Char → Option (List Char)
  | '\n' :: cs => some cs
  | '\r' :: '\n' :: cs => some cs
  | _ => none

def skipComment (cs : List Char) : List Char :=
  match cs with
  | '#' :: cs => cs.dropWhile isPrintable
  | cs => cs

/-- Passes over blanks and a comment up to the next line or the end of the text. -/
def finishLine? (cs : List Char) : Option (List Char) :=
  match skipComment (skipBlanks cs) with
  | [] => some []
  | cs => newline? cs

/-- Passes over blanks, comments and line breaks. -/
def skipLines : Nat → List Char → List Char
  | 0, cs => cs
  | fuel + 1, cs =>
    let cs := skipComment (skipBlanks cs)
    match newline? cs with
    | some cs => skipLines fuel cs
    | none => cs

/-- Reads the code point of an escape with the given number of digits. -/
def readCodePoint? (width : Nat) (cs : List Char) : Read Char :=
  if cs.length < width then none
  else
    ((Yaml.hexNumber? (cs.take width)).bind Yaml.codePoint?).map fun c => (c, cs.drop width)

/-- Reads an escape behind its backslash. -/
def readEscape? : List Char → Read Char
  | 'b' :: cs => some ('\x08', cs)
  | 't' :: cs => some ('\t', cs)
  | 'n' :: cs => some ('\n', cs)
  | 'f' :: cs => some ('\x0c', cs)
  | 'r' :: cs => some ('\r', cs)
  | '"' :: cs => some ('"', cs)
  | '\\' :: cs => some ('\\', cs)
  | 'u' :: cs => readCodePoint? 4 cs
  | 'U' :: cs => readCodePoint? 8 cs
  | _ => none

/-- Reads on in a string of one line up to its quote. Only double quotes allow escapes. -/
def readLineString? (quote : Char) : Nat → List Char → List Char → Read String
  | 0, _, _ => none
  | fuel + 1, text, cs =>
    match cs with
    | [] => none
    | c :: cs =>
      if c = quote then some (String.ofList text.reverse, cs)
      else if c = '\\' ∧ quote = '"' then
        match readEscape? cs with
        | some (c, cs) => readLineString? quote fuel (c :: text) cs
        | none => none
      else if isPrintable c then readLineString? quote fuel (c :: text) cs
      else none

def skipBlankLines (cs : List Char) : List Char :=
  match cs with
  | '\r' :: '\n' :: cs => skipBlankLines cs
  | c :: rest => if isBlank c ∨ c = '\n' then skipBlankLines rest else c :: rest
  | [] => []

/-- Passes over a backslash at the end of a line with all blanks and breaks behind it. -/
def skipLineEnd? : List Char → Option (List Char)
  | '\\' :: cs => (newline? (skipBlanks cs)).map skipBlankLines
  | _ => none

/-- Reads on in a string of several lines up to its three quotes, in front of which up to two more
    may belong to the text. -/
def readLongString? (quote : Char) : Nat → List Char → List Char → Read String
  | 0, _, _ => none
  | fuel + 1, text, cs =>
    let quotes := (cs.takeWhile (· == quote)).length
    if 5 < quotes then none
    else if 3 ≤ quotes then
      some (String.ofList (List.replicate (quotes - 3) quote ++ text).reverse, cs.drop quotes)
    else
      match cs, newline? cs with
      | [], _ => none
      | _, some cs => readLongString? quote fuel ('\n' :: text) cs
      | c :: rest, none =>
        if c = '\\' ∧ quote = '"' then
          match skipLineEnd? cs, readEscape? rest with
          | some cs, _ => readLongString? quote fuel text cs
          | none, some (c, cs) => readLongString? quote fuel (c :: text) cs
          | none, none => none
        else if isPrintable c then readLongString? quote fuel (c :: text) rest
        else none

def readString? (long : Bool) (cs : List Char) : Read String :=
  match cs with
  | [] => none
  | quote :: rest =>
    if quote ≠ '"' ∧ quote ≠ '\'' then none
    else if long ∧ rest.take 2 = [quote, quote] then
      let body := rest.drop 2
      readLongString? quote (cs.length + 1) [] ((newline? body).getD body)
    else readLineString? quote (cs.length + 1) [] rest

def isKeyChar (c : Char) : Bool :=
  c.isAlphanum || c == '-' || c == '_'

/-- Reads a key without points. -/
def readSimpleKey? (cs : List Char) : Read String :=
  match cs with
  | '"' :: _ | '\'' :: _ => readString? false cs
  | cs =>
    let key := cs.takeWhile isKeyChar
    if key.isEmpty then none else some (String.ofList key, cs.dropWhile isKeyChar)

/-- The greatest number of points and brackets that a key or value may have inside one another. -/
def depthLimit : Nat := 80

/-- Reads a key as its parts between points, the first of which has been read. -/
def readKeyParts? : Nat → List String → List Char → Read (List String × String)
  | 0, _, _ => none
  | fuel + 1, path, cs =>
    match readSimpleKey? (skipBlanks cs) with
    | none => none
    | some (key, cs) =>
      match skipBlanks cs with
      | '.' :: cs => readKeyParts? fuel (path ++ [key]) cs
      | cs => some ((path, key), cs)

def readKey? (cs : List Char) : Read (List String × String) :=
  readKeyParts? (depthLimit - 1) [] cs

/-- Reads digits with single underscores between them. -/
def readDigits? (isDigit : Char → Bool) : List Char → Read (List Char)
  | [] => none
  | c :: '_' :: cs =>
    if isDigit c then (readDigits? isDigit cs).map fun (digits, cs) => (c :: digits, cs) else none
  | c :: cs =>
    if !isDigit c then none
    else if cs.head?.any isDigit then
      (readDigits? isDigit cs).map fun (digits, cs) => (c :: digits, cs)
    else some ([c], cs)

/-- Reads the digits of a decimal number, of which only a lone one may be zero in front. -/
def readDecimal? (cs : List Char) : Read (List Char) :=
  match cs with
  | '0' :: cs => some (['0'], cs)
  | cs => readDigits? Char.isDigit cs

def decimal (digits : List Char) : Nat :=
  digits.foldl (fun n c => n * 10 + (c.toNat - 48)) 0

def readSign (cs : List Char) : Bool × List Char :=
  match cs with
  | '+' :: cs => (false, cs)
  | '-' :: cs => (true, cs)
  | cs => (false, cs)

/-- The digits of a number's exponent, with its sign. -/
def readExponent? (cs : List Char) : Read Int :=
  match cs with
  | 'e' :: cs | 'E' :: cs =>
    let (negative, cs) := readSign cs
    (readDigits? Char.isDigit cs).map fun (digits, cs) =>
      (if negative then -decimal digits else decimal digits, cs)
  | _ => none

/-- Whether a number lies so far out that it would be rounded to infinity. -/
def overflows (significand : Nat) (exponent : Int) : Bool :=
  let limit := Nat.pow 2 1024 - Nat.pow 2 970
  if significand = 0 then false
  else if 400 < exponent then true
  else if 0 ≤ exponent then limit ≤ significand * Nat.pow 10 exponent.toNat
  else
    let digits := (Nat.toDigits 10 significand).length
    digits + exponent ≥ 309 && limit * Nat.pow 10 (-exponent).toNat ≤ significand

/-- Reads a number, with what makes it a floating-point number if that is there. -/
def readNumber? (cs : List Char) : Option (Value × List Char) := do
  let (negative, unsigned) := readSign cs
  match unsigned with
  | 'i' :: 'n' :: 'f' :: rest => pure (.float, rest)
  | 'n' :: 'a' :: 'n' :: rest => pure (.float, rest)
  | _ =>
    let (whole, rest) ← readDecimal? unsigned
    let finish (fraction : List Char) (exponent : Int) (rest : List Char) : Read Value :=
      let significand := decimal (whole ++ fraction)
      if !negative && overflows significand (exponent - fraction.length) then none
      else some (.float, rest)
    match rest with
    | '.' :: rest =>
      let (fraction, rest) ← readDigits? Char.isDigit rest
      match rest with
      | 'e' :: _ | 'E' :: _ =>
        let (exponent, rest) ← readExponent? rest
        finish fraction exponent rest
      | rest => finish fraction 0 rest
    | 'e' :: _ | 'E' :: _ =>
      let (exponent, rest) ← readExponent? rest
      finish [] exponent rest
    | rest =>
      let n : Int := if negative then -decimal whole else decimal whole
      if -(Nat.pow 2 63 : Int) ≤ n ∧ n < (Nat.pow 2 63 : Int) then pure (.integer n, rest) else none

/-- Reads an integer of another base behind its two first characters. -/
def readBased? (base : Nat) (cs : List Char) : Option (Value × List Char) := do
  let isDigit (c : Char) : Bool := (Json.hexValue? c).any (· < base)
  let (digits, rest) ← readDigits? isDigit cs
  let n := digits.foldl (fun n c => n * base + (Json.hexValue? c).getD 0) 0
  if n < Nat.pow 2 63 then pure (.integer n, rest) else none

/-- Reads a number of exactly `width` digits within bounds. -/
def readField? (width low high : Nat) (cs : List Char) : Read Nat :=
  let digits := cs.take width
  if digits.length = width ∧ digits.all Char.isDigit ∧ low ≤ decimal digits ∧ decimal digits ≤ high
  then some (decimal digits, cs.drop width)
  else none

/-- Passes over a character that has to be there. -/
def expect? (c : Char) : List Char → Option (List Char)
  | d :: cs => if d = c then some cs else none
  | [] => none

def daysIn (year month : Nat) : Nat :=
  if month = 2 then
    if (year % 4 = 0 ∧ year % 100 ≠ 0) ∨ year % 400 = 0 then 29 else 28
  else if month = 4 ∨ month = 6 ∨ month = 9 ∨ month = 11 then 30
  else 31

def readDate? (cs : List Char) : Option (List Char) := do
  let (year, cs) ← readField? 4 0 9999 cs
  let (month, cs) ← readField? 2 1 12 (← expect? '-' cs)
  let (_, cs) ← readField? 2 1 (daysIn year month) (← expect? '-' cs)
  pure cs

/-- Reads a time of day behind its hour and colon. -/
def readMinutes? (cs : List Char) : Option (List Char) := do
  let (_, cs) ← readField? 2 0 59 cs
  let (_, cs) ← readField? 2 0 60 (← expect? ':' cs)
  match cs with
  | '.' :: d :: rest => pure (if d.isDigit then rest.dropWhile Char.isDigit else cs)
  | cs => pure cs

/-- Reads the offset of a time, if there is one. -/
def readOffset? (cs : List Char) : Option (List Char) :=
  match cs with
  | 'Z' :: cs | 'z' :: cs => some cs
  | '+' :: cs | '-' :: cs => do
    let (_, cs) ← readField? 2 0 23 cs
    let (_, cs) ← readField? 2 0 59 (← expect? ':' cs)
    pure cs
  | cs => some cs

def startsHour (cs : List Char) : Bool :=
  ((readField? 2 0 23 cs).bind fun read => expect? ':' read.2).isSome

def readTime? (cs : List Char) : Option (Value × List Char) :=
  if startsHour cs then (readMinutes? (cs.drop 3)).map fun cs => (.time, cs)
  else do
    let cs ← readDate? cs
    match cs with
    | c :: rest =>
      if (c == 'T' || c == 't' || c == ' ') && startsHour rest then
        pure (.time, ← readOffset? (← readMinutes? (rest.drop 3)))
      else pure (.time, cs)
    | [] => pure (.time, [])

/-- Whether a text begins like a date or a time and not like another number. -/
def startsTime (cs : List Char) : Bool :=
  startsHour cs || ((readField? 4 0 9999 cs).bind fun read => expect? '-' read.2).isSome

/-- Reads a word that is a value. -/
def readWord? (word : String) (value : Value) (cs : List Char) : Read Value :=
  if cs.take word.length = word.toList then some (value, cs.drop word.length) else none

mutual

/-- Reads a value that may hold others `depth` levels deep. -/
def readValue? (depth : Nat) : Nat → List Char → Option (Value × List Char)
  | 0, _ => none
  | fuel + 1, cs =>
    match cs with
    | [] => none
    | c :: rest =>
      if c = '"' ∨ c = '\'' then (readString? true cs).map fun (s, cs) => (.string s, cs)
      else if c = '[' then
        match depth with
        | 0 => none
        | depth + 1 => (readItems? depth fuel rest).map fun (items, cs) => (.array items, cs)
      else if c = '\x7b' then
        match depth with
        | 0 => none
        | depth + 1 => do
          let (pairs, cs) ← readPairs? depth fuel true rest
          let entries ← Entries.addAll? [] pairs
          pure (.table (Item.entriesToValues entries), cs)
      else if c = 't' then readWord? "true" (.bool true) cs
      else if c = 'f' then readWord? "false" (.bool false) cs
      else
        match cs with
        | '0' :: 'x' :: cs => readBased? 16 cs
        | '0' :: 'o' :: cs => readBased? 8 cs
        | '0' :: 'b' :: cs => readBased? 2 cs
        | cs => if startsTime cs then readTime? cs else readNumber? cs

/-- Reads the items of an array behind its opening bracket or a comma. -/
def readItems? (depth : Nat) : Nat → List Char → Read (List Value)
  | 0, _ => none
  | fuel + 1, cs =>
    match skipLines (cs.length + 1) cs with
    | ']' :: cs => some ([], cs)
    | cs =>
      match readValue? depth fuel cs with
      | none => none
      | some (item, cs) =>
        match skipLines (cs.length + 1) cs with
        | ']' :: cs => some ([item], cs)
        | ',' :: cs => (readItems? depth fuel cs).map fun (items, cs) => (item :: items, cs)
        | _ => none

/-- Reads the pairs of a table on one line behind its opening brace or a comma. -/
def readPairs? (depth : Nat) : Nat → (first : Bool) → List Char →
    Read (List (List String × String × Value))
  | 0, _, _ => none
  | fuel + 1, first, cs =>
    match first, skipBlanks cs with
    | true, '\x7d' :: cs => some ([], cs)
    | _, cs =>
      match readKey? cs with
      | none => none
      | some ((path, key), cs) =>
        match cs with
        | '=' :: cs =>
          match readValue? depth fuel (skipBlanks cs) with
          | none => none
          | some (value, cs) =>
            match skipBlanks cs with
            | '\x7d' :: cs => some ([(path, key, value)], cs)
            | ',' :: cs =>
              (readPairs? depth fuel false cs).map fun (pairs, cs) =>
                ((path, key, value) :: pairs, cs)
            | _ => none
        | _ => none

end

inductive Statement where
  | header (path : List String) (key : String)
  | nextHeader (path : List String) (key : String)
  | pair (path : List String) (key : String) (value : Value)

/-- Reads a statement and the end of its line. -/
def readStatement? (cs : List Char) : Option (Statement × List Char) := do
  match cs with
  | '[' :: '[' :: cs =>
    let ((path, key), cs) ← readKey? cs
    match cs with
    | ']' :: ']' :: cs => pure (.nextHeader path key, ← finishLine? cs)
    | _ => none
  | '[' :: cs =>
    let ((path, key), cs) ← readKey? cs
    match cs with
    | ']' :: cs => pure (.header path key, ← finishLine? cs)
    | _ => none
  | cs =>
    let ((path, key), cs) ← readKey? cs
    match cs with
    | '=' :: cs =>
      let (value, cs) ← readValue? (depthLimit - 1) (2 * cs.length + 2) (skipBlanks cs)
      pure (.pair path key value, ← finishLine? cs)
    | _ => none

def readStatements? : Nat → List Char → Option (List Statement)
  | 0, _ => none
  | fuel + 1, cs =>
    match skipLines (cs.length + 1) cs with
    | [] => some []
    | cs =>
      match readStatement? cs with
      | none => none
      | some (statement, cs) => (readStatements? fuel cs).map (statement :: ·)

/-- Changes the table that the last header opened. -/
def changeCurrent? (entries : Entries) (current : List String)
    (change : Entries → Option Entries) : Option Entries :=
  Entries.change? false (fun _ entries => change entries) .header entries current

/-- Builds a document from its statements, the current table being the one at the given path. -/
def build? (entries : Entries) (current : List String) : List Statement → Option Entries
  | [] => some entries
  | .header path key :: statements =>
    (entries.openTable? path key).bind fun entries => build? entries (path ++ [key]) statements
  | .nextHeader path key :: statements =>
    (entries.openNextTable? path key).bind fun entries => build? entries (path ++ [key]) statements
  | .pair path key value :: statements =>
    (changeCurrent? entries current fun entries => entries.add? path key value).bind
      fun entries => build? entries current statements

/-- The top-level table of a document; a byte order mark may stand in front of it. -/
def parse? (text : String) : Option Value :=
  let cs := text.toList
  let cs := if cs.head? = some '\uFEFF' then cs.tail else cs
  do
    let statements ← readStatements? (cs.length + 1) cs
    let entries ← build? [] [] statements
    pure (.table (Item.entriesToValues entries))

end Stageflow.Toml
