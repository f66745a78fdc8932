import Stageflow.Json.Reader
import Stageflow.Yaml.Cursor

namespace Stageflow.Yaml

/-- The ways to write a scalar. -/
inductive Style where
  | plain
  | singleQuoted
  | doubleQuoted
  | literal
  | folded
  deriving DecidableEq, Repr, Inhabited

/-- Blanks and line breaks between two parts of a scalar. -/
structure Gap where
  /-- The blanks before the first break. -/
  blanks : List Char := []
  firstBreak : List Char := []
  laterBreaks : List Char := []
  broken : Bool := false

namespace Gap

/-- What a gap contributes to the scalar: a single break becomes a space, of several the first is
    dropped, and blanks count only where no line ends. -/
def fold (gap : Gap) : List Char :=
  if gap.broken then
    if gap.firstBreak.head? = some '\n' then
      if gap.laterBreaks.isEmpty then [' '] else gap.laterBreaks
    else gap.firstBreak ++ gap.laterBreaks
  else gap.blanks

/-- Reads blanks and breaks. Left of the column `indent` no tab may stand behind a break. -/
def read? (indent : Nat) : Nat → Cursor → Gap → Option (Gap × Cursor)
  | 0, cursor, gap => some (gap, cursor)
  | fuel + 1, cursor, gap =>
    match cursor.rest with
    | [] => some (gap, cursor)
    | c :: _ =>
      if isBlank c then
        if gap.broken then
          if c = '\t' ∧ cursor.column < indent then none
          else read? indent fuel (cursor.skip 1) gap
        else read? indent fuel (cursor.skip 1) { gap with blanks := gap.blanks ++ [c] }
      else if isBreak c then
        let (text, next) := cursor.readBreak
        if gap.broken then
          read? indent fuel next { gap with laterBreaks := gap.laterBreaks ++ text }
        else read? indent fuel next { gap with firstBreak := text, broken := true }
      else some (gap, cursor)

end Gap

/-- The characters that end a plain scalar inside brackets or braces. -/
def isFlowIndicator (c : Char) : Bool :=
  c == ',' || c == '[' || c == ']' || c == '\x7b' || c == '\x7d'

/-- The part of a plain scalar up to the next blank, break or indicator. Inside brackets or braces
    a colon may not stand right in front of one of them. -/
def plainRun? (flow : Bool) : List Char → Option (List Char)
  | [] => some []
  | c :: cs =>
    let next := cs.head?
    if isBlank c || isBreak c then some []
    else if flow && c == ':' && next.any fun d => isFlowIndicator d || d == '?' then none
    else if c == ':' && next.all fun d => isBlank d || isBreak d then some []
    else if flow && isFlowIndicator c then some []
    else (plainRun? flow cs).map (c :: ·)

/-- Reads on in a plain scalar behind a gap. Returns the scalar, whether a line ends behind it, and
    the place behind what was read. -/
def readPlainFrom? (flow : Bool) (indent : Nat) :
    Nat → Cursor → Gap → List Char → Option (List Char × Bool × Cursor)
  | 0, _, _, _ => none
  | fuel + 1, cursor, gap, text =>
    if cursor.atDocumentMark || cursor.startsWith (· == '#') then some (text, gap.broken, cursor)
    else
      match plainRun? flow cursor.rest with
      | none => none
      | some [] => some (text, gap.broken, cursor)
      | some run =>
        let text := text ++ gap.fold ++ run
        let cursor := cursor.skip run.length
        if cursor.startsWith fun c => isBlank c || isBreak c then
          match Gap.read? indent (cursor.rest.length + 1) cursor {} with
          | none => none
          | some (gap, cursor) =>
            if !flow && cursor.column < indent then some (text, gap.broken, cursor)
            else readPlainFrom? flow indent fuel cursor gap text
        else some (text, false, cursor)

/-- Reads a plain scalar whose lines start at the column `indent` or right of it. -/
def readPlain? (flow : Bool) (indent : Nat) (cursor : Cursor) :
    Option (List Char × Bool × Cursor) :=
  readPlainFrom? flow indent (cursor.rest.length + 1) cursor {} []

/-- What a backslash in front of a character stands for. -/
def escape? : Char → Option Char
  | '0' => some '\x00'
  | 'a' => some '\x07'
  | 'b' => some '\x08'
  | 't' | '\t' => some '\t'
  | 'n' => some '\n'
  | 'v' => some '\x0b'
  | 'f' => some '\x0c'
  | 'r' => some '\r'
  | 'e' => some '\x1b'
  | ' ' => some ' '
  | '"' => some '"'
  | '/' => some '/'
  | '\\' => some '\\'
  | 'N' => some '\u0085'
  | '_' => some '\u00a0'
  | 'L' => some '\u2028'
  | 'P' => some '\u2029'
  | _ => none

/-- How many hexadecimal digits follow an escape that names a code point. -/
def escapeDigits? : Char → Option Nat
  | 'x' => some 2
  | 'u' => some 4
  | 'U' => some 8
  | _ => none

/-- The number that hexadecimal digits write. -/
def hexNumber? (digits : List Char) : Option Nat :=
  digits.foldlM (fun n c => (Json.hexValue? c).map (n * 16 + ·)) 0

/-- The character with a code point, if there is one. -/
def codePoint? (n : Nat) : Option Char :=
  if n.isValidChar then some (Char.ofNat n) else none

/-- Reads on in a scalar between single or double quotes. -/
def readQuotedFrom? (single : Bool) : Nat → Cursor → List Char → Option (List Char × Cursor)
  | 0, _, _ => none
  | fuel + 1, cursor, text =>
    let behindGap (cursor : Cursor) (gap : Gap) : Option (List Char × Cursor) :=
      match Gap.read? 0 (cursor.rest.length + 1) cursor gap with
      | none => none
      | some (gap, cursor) => readQuotedFrom? single fuel cursor (text ++ gap.fold)
    if cursor.atDocumentMark then none
    else
      match cursor.rest with
      | [] => none
      | c :: rest =>
        if isBlank c || isBreak c then behindGap cursor {}
        else if single then
          if c ≠ '\'' then readQuotedFrom? single fuel (cursor.skip 1) (text ++ [c])
          else if rest.head? = some '\'' then
            readQuotedFrom? single fuel (cursor.skip 2) (text ++ [c])
          else some (text, cursor.skip 1)
        else if c = '"' then some (text, cursor.skip 1)
        else if c ≠ '\\' then readQuotedFrom? single fuel (cursor.skip 1) (text ++ [c])
        else
          match rest with
          | [] => none
          | e :: rest =>
            if isBreak e then behindGap (cursor.skip 1).skipBreak { broken := true }
            else
              match escape? e, escapeDigits? e with
              | some x, _ => readQuotedFrom? single fuel (cursor.skip 2) (text ++ [x])
              | none, none => none
              | none, some width =>
                if rest.length < width then none
                else
                  match (hexNumber? (rest.take width)).bind codePoint? with
                  | some x => readQuotedFrom? single fuel (cursor.skip (2 + width)) (text ++ [x])
                  | none => none

def readQuoted? (single : Bool) (cursor : Cursor) : Option (List Char × Cursor) :=
  readQuotedFrom? single (cursor.rest.length + 1) (cursor.skip 1) []

/-- What happens to the breaks at the end of a block scalar. -/
inductive Chomping where
  | strip
  | clip
  | keep
  deriving DecidableEq, Repr

/-- Reads the indicators behind the first character of a block scalar: how the end is treated, and
    by how much the lines are indented if that is said. -/
def readBlockHeader? (cursor : Cursor) : Option (Chomping × Option Nat × Cursor) :=
  let chomping? (cursor : Cursor) : Option Chomping :=
    match cursor.peek? 0 with
    | some '+' => some .keep
    | some '-' => some .strip
    | _ => none
  let increment? (cursor : Cursor) : Option Nat :=
    (cursor.peek? 0).bind fun c => if c.isDigit then some (c.toNat - 48) else none
  let (chomping, increment, cursor) :=
    match chomping? cursor, increment? cursor with
    | some chomping, _ =>
      match increment? (cursor.skip 1) with
      | some n => (chomping, some n, cursor.skip 2)
      | none => (chomping, none, cursor.skip 1)
    | none, some n =>
      match chomping? (cursor.skip 1) with
      | some chomping => (chomping, some n, cursor.skip 2)
      | none => (.clip, some n, cursor.skip 1)
    | none, none => (.clip, none, cursor)
  if increment = some 0 then none
  else cursor.finishLine?.map fun cursor => (chomping, increment, cursor)

/-- Reads empty lines and the indentation of the line behind them. With an indentation of zero,
    which means that it is not known yet, all spaces count. Returns the breaks, and the largest
    column that was reached. -/
def readIndent? (indent : Nat) :
    Nat → Cursor → List Char → Nat → Option (List Char × Nat × Cursor)
  | 0, _, _, _ => none
  | fuel + 1, cursor, breaks, widest =>
    let spaces := (cursor.run (· == ' ')).length
    let cursor := cursor.skip (if indent = 0 then spaces else min spaces (indent - cursor.column))
    let widest := max widest cursor.column
    if (indent = 0 || cursor.column < indent) && cursor.startsWith (· == '\t') then none
    else if cursor.startsWith isBreak then
      let (text, next) := cursor.readBreak
      readIndent? indent fuel next (breaks ++ text) widest
    else some (breaks, widest, cursor)

/-- Reads on in a block scalar at the start of a line. -/
def readBlockLines? (literal : Bool) (indent : Nat) :
    Nat → Cursor → (text lastBreak laterBreaks : List Char) → (blankBefore : Bool) →
      Option (List Char × List Char × List Char × Cursor)
  | 0, _, _, _, _, _ => none
  | fuel + 1, cursor, text, lastBreak, laterBreaks, blankBefore =>
    if cursor.column ≠ indent ∨ cursor.rest.isEmpty then
      some (text, lastBreak, laterBreaks, cursor)
    else
      let blank := cursor.startsWith isBlank
      let joint :=
        if !literal && lastBreak.head? == some '\n' && !blankBefore && !blank then
          if laterBreaks.isEmpty then [' '] else laterBreaks
        else lastBreak ++ laterBreaks
      let line := cursor.run fun c => !isBreak c
      let (lastBreak, cursor) := (cursor.skip line.length).readBreak
      match readIndent? indent (cursor.rest.length + 1) cursor [] 0 with
      | none => none
      | some (laterBreaks, _, cursor) =>
        readBlockLines? literal indent fuel cursor (text ++ joint ++ line) lastBreak laterBreaks blank

/-- Reads a block scalar from its first character on, inside a block that is indented by `parent`
    columns, or none. -/
def readBlock? (literal : Bool) (parent : Option Nat) (cursor : Cursor) :
    Option (List Char × Cursor) := do
  let (chomping, increment, cursor) ← readBlockHeader? (cursor.skip 1)
  let known := (increment.map (parent.getD 0 + ·)).getD 0
  let (breaks, widest, cursor) ← readIndent? known (cursor.rest.length + 1) cursor [] 0
  let indent := if known = 0 then max widest (max 1 ((parent.map (· + 1)).getD 0)) else known
  let (text, lastBreak, laterBreaks, cursor) ←
    readBlockLines? literal indent (cursor.rest.length + 1) cursor [] [] breaks false
  let ending :=
    match chomping with
    | .strip => []
    | .clip => lastBreak
    | .keep => lastBreak ++ laterBreaks
  pure (text ++ ending, cursor)

end Stageflow.Yaml
