namespace Stageflow.Yaml

def isBreak (c : Char) : Bool :=
  c == '\n' || c == '\r' || c == '\u0085' || c == '\u2028' || c == '\u2029'

def isBlank (c : Char) : Bool :=
  c == ' ' || c == '\t'

/-- The characters of names: anchors, directives and handles of tags. -/
def isNameChar (c : Char) : Bool :=
  c.isAlphanum || c == '_' || c == '-'

/-- The characters that may occur in a stream at all. -/
def isAllowed (c : Char) : Bool :=
  let n := c.toNat
  n == 0x09 || n == 0x0A || n == 0x0D || (0x20 ≤ n && n ≤ 0x7E) || n == 0x85 ||
    (0xA0 ≤ n && n ≤ 0xFFFD) || 0x10000 ≤ n

/-- A place in a stream: what follows it, how many characters lie before it, and its line and
    column. -/
structure Cursor where
  rest : List Char
  index : Nat
  line : Nat
  column : Nat
  deriving Repr

namespace Cursor

def ofText (cs : List Char) : Cursor :=
  ⟨cs, 0, 0, 0⟩

def peek? (cursor : Cursor) (n : Nat) : Option Char :=
  (cursor.rest.drop n).head?

def startsWith (cursor : Cursor) (p : Char → Bool) : Bool :=
  match cursor.rest with
  | [] => false
  | c :: _ => p c

/-- Whether the stream or the line ends here. -/
def endsLine (cursor : Cursor) : Bool :=
  match cursor.rest with
  | [] => true
  | c :: _ => isBreak c

/-- Whether the stream, the line or a word ends `n` places ahead. -/
def endsWordAt (cursor : Cursor) (n : Nat) : Bool :=
  match cursor.peek? n with
  | none => true
  | some c => isBlank c || isBreak c

def skip (cursor : Cursor) (n : Nat) : Cursor :=
  { cursor with
    rest := cursor.rest.drop n
    index := cursor.index + n
    column := cursor.column + n }

/-- The characters of the line that satisfy a condition, up to the first that does not. -/
def run (cursor : Cursor) (p : Char → Bool) : List Char :=
  cursor.rest.takeWhile p

def skipRun (cursor : Cursor) (p : Char → Bool) : Cursor :=
  cursor.skip (cursor.run p).length

def skipBlanks (cursor : Cursor) : Cursor :=
  cursor.skipRun isBlank

/-- Passes over everything up to the end of the line. -/
def skipLine (cursor : Cursor) : Cursor :=
  cursor.skipRun fun c => !isBreak c

/-- Reads a line break, if there is one. All breaks count as `\n`, except for the two that
    separate lines and paragraphs, which count as they are. -/
def readBreak (cursor : Cursor) : List Char × Cursor :=
  let next (rest : List Char) (length : Nat) : Cursor :=
    ⟨rest, cursor.index + length, cursor.line + 1, 0⟩
  match cursor.rest with
  | '\r' :: '\n' :: rest => (['\n'], next rest 2)
  | c :: rest =>
    if c == '\u2028' || c == '\u2029' then ([c], next rest 1)
    else if isBreak c then (['\n'], next rest 1)
    else ([], cursor)
  | [] => ([], cursor)

def skipBreak (cursor : Cursor) : Cursor :=
  cursor.readBreak.2

/-- Whether three equal characters at the start of a line are a word of their own. -/
def atMark (cursor : Cursor) (c : Char) : Bool :=
  cursor.column == 0 && cursor.rest.take 3 == [c, c, c] && cursor.endsWordAt 3

/-- Whether a document starts or ends here. -/
def atDocumentMark (cursor : Cursor) : Bool :=
  cursor.atMark '-' || cursor.atMark '.'

/-- Passes over blanks and a comment, behind which the line has to end, and over its break. -/
def finishLine? (cursor : Cursor) : Option Cursor :=
  let cursor := cursor.skipBlanks
  let cursor := if cursor.startsWith (· == '#') then cursor.skipLine else cursor
  if cursor.endsLine then some cursor.skipBreak else none

end Cursor

end Stageflow.Yaml
