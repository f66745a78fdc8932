import Stageflow.Yaml.Scalar

namespace Stageflow.Yaml

/-- The parts of a stream. Where blocks start and end is told by the indentation. -/
inductive Token where
  | versionDirective (major minor : Nat)
  | tagDirective (handle expansion : String)
  | documentStart
  | documentEnd
  | blockSequenceStart
  | blockMappingStart
  | blockEnd
  | flowSequenceStart
  | flowSequenceEnd
  | flowMappingStart
  | flowMappingEnd
  | blockEntry
  | flowEntry
  | key
  | value
  | alias (name : String)
  | anchor (name : String)
  | tag (handle rest : String)
  | scalar (style : Style) (text : String)
  deriving DecidableEq, Repr, Inhabited

/-- Where a key without an indicator of its own may have started: the number of its first token and
    its place. A required one stands where nothing but a key can. -/
structure KeyStart where
  required : Bool
  token : Nat
  index : Nat
  line : Nat
  column : Nat
  deriving Repr

/-- How far a stream has been read. -/
structure Scanner where
  cursor : Cursor
  tokens : Array Token
  /-- The columns of the open blocks, the innermost first. -/
  indents : List Nat
  /-- Whether a key may start at the next token. -/
  keyAllowed : Bool
  /-- A start of a key for every open bracket or brace, the innermost first, and one for the
      block around them. -/
  keys : List (Option KeyStart)

namespace Scanner

def ofText (cs : List Char) : Scanner :=
  { cursor := .ofText cs, tokens := #[], indents := [], keyAllowed := true, keys := [none] }

def inFlow (s : Scanner) : Bool :=
  1 < s.keys.length

def push (s : Scanner) (token : Token) : Scanner :=
  { s with tokens := s.tokens.push token }

/-- Adds a token that takes `n` characters. -/
def pushSkip (s : Scanner) (token : Token) (n : Nat) : Scanner :=
  { s with tokens := s.tokens.push token, cursor := s.cursor.skip n }

def insertToken (s : Scanner) (place : Nat) (token : Token) : Scanner :=
  { s with tokens := s.tokens.insertIdxIfInBounds place token }

/-- Forgets the innermost start of a key, which must not be required. -/
def dropKey? (s : Scanner) : Option Scanner :=
  match s.keys with
  | some start :: keys => if start.required then none else some { s with keys := none :: keys }
  | _ => some s

/-- Notes that a key may start here. -/
def noteKey? (s : Scanner) : Option Scanner :=
  if !s.keyAllowed then some s
  else do
    let s ← s.dropKey?
    let start : KeyStart :=
      { required := !s.inFlow && s.indents.head? == some s.cursor.column
        token := s.tokens.size
        index := s.cursor.index
        line := s.cursor.line
        column := s.cursor.column }
    pure { s with keys := some start :: s.keys.tail }

/-- Ends the blocks that are indented further than a column. -/
def closeBlocks (s : Scanner) (column : Nat) : Scanner :=
  if s.inFlow then s
  else
    let closed := s.indents.takeWhile (column < ·)
    { s with
      tokens := s.tokens ++ Array.replicate closed.length Token.blockEnd
      indents := s.indents.drop closed.length }

def closeAllBlocks (s : Scanner) : Scanner :=
  if s.inFlow then s
  else
    { s with
      tokens := s.tokens ++ Array.replicate s.indents.length Token.blockEnd
      indents := [] }

/-- Begins a block if a column lies right of the open ones; its token goes to the given place. -/
def openBlock (s : Scanner) (column : Nat) (token : Token) (place : Nat) : Scanner :=
  if s.inFlow || s.indents.head?.any (column ≤ ·) then s
  else { s.insertToken place token with indents := column :: s.indents }

/-- Passes over blanks, comments and line breaks. Tabs may not stand where a block or key can
    start. A byte order mark may start a line. -/
def skipToToken : Nat → Scanner → Scanner
  | 0, s => s
  | fuel + 1, s =>
    let cursor := s.cursor
    let cursor :=
      if cursor.column == 0 && cursor.startsWith (· == '\uFEFF') then cursor.skip 1 else cursor
    let tabs := s.inFlow || !s.keyAllowed
    let cursor := cursor.skipRun fun c => c == ' ' || (tabs && c == '\t')
    let cursor := if cursor.startsWith (· == '#') then cursor.skipLine else cursor
    if cursor.startsWith isBreak then
      skipToToken fuel
        { s with cursor := cursor.skipBreak, keyAllowed := s.keyAllowed || !s.inFlow }
    else { s with cursor }

/-- Reads a decimal number of at most nine digits. -/
def readNumber? (cursor : Cursor) : Option (Nat × Cursor) :=
  let digits := cursor.run Char.isDigit
  if digits.isEmpty ∨ 9 < digits.length then none
  else some (digits.foldl (fun n c => n * 10 + (c.toNat - 48)) 0, cursor.skip digits.length)

/-- Reads the handle of a tag: an exclamation mark, alone or with a name behind it and then, in a
    directive always, another exclamation mark. -/
def readHandle? (directive : Bool) (cursor : Cursor) : Option (List Char × Cursor) :=
  if !cursor.startsWith (· == '!') then none
  else
    let name := (cursor.skip 1).run isNameChar
    let behind := cursor.skip (1 + name.length)
    if behind.startsWith (· == '!') then some ('!' :: name ++ ['!'], behind.skip 1)
    else if directive ∧ !name.isEmpty then none
    else some ('!' :: name, behind)

/-- The characters of the part of a tag behind its handle. -/
def isUriChar (bracketed : Bool) (c : Char) : Bool :=
  isNameChar c || ";/?:@&=+$.%!~*'()".toList.contains c || (bracketed && ",[]".toList.contains c)

/-- Replaces bytes that are written as a percent sign and two digits; only UTF-8 can be written. -/
def unescapeUri? : List Char → Option (List UInt8)
  | [] => some []
  | '%' :: a :: b :: cs => do
    let a ← Json.hexValue? a
    let b ← Json.hexValue? b
    pure (UInt8.ofNat (a * 16 + b) :: (← unescapeUri? cs))
  | c :: cs =>
    if c = '%' then none else (unescapeUri? cs).map (Text.encode [c] ++ ·)

/-- Reads what follows a handle, where something is already known of it. -/
def readUri? (bracketed : Bool) (known : List Char) (cursor : Cursor) :
    Option (List Char × Cursor) := do
  let run := cursor.run (isUriChar bracketed)
  let text ← Text.decode? (← unescapeUri? run)
  if known.isEmpty ∧ run.isEmpty then none else pure (known ++ text, cursor.skip run.length)

def readDirective? (cursor : Cursor) : Option (Token × Cursor) := do
  let name := (cursor.skip 1).run isNameChar
  let behind := cursor.skip (1 + name.length)
  if !behind.endsWordAt 0 then none
  else if name = "YAML".toList then
    let (major, cursor) ← readNumber? behind.skipBlanks
    if cursor.startsWith (· == '.') then
      let (minor, cursor) ← readNumber? (cursor.skip 1)
      pure (.versionDirective major minor, ← cursor.finishLine?)
    else none
  else if name = "TAG".toList then
    let (handle, cursor) ← readHandle? true behind.skipBlanks
    if !cursor.startsWith isBlank then none
    else
      let (expansion, cursor) ← readUri? true [] cursor.skipBlanks
      if !cursor.endsWordAt 0 then none
      else
        pure (.tagDirective (String.ofList handle) (String.ofList expansion), ← cursor.finishLine?)
  else none

/-- Reads the name of an anchor or alias behind its indicator. -/
def readAnchor? (cursor : Cursor) : Option (String × Cursor) :=
  let name := (cursor.skip 1).run isNameChar
  let behind := cursor.skip (1 + name.length)
  let ends := behind.endsWordAt 0 || behind.startsWith ("?:,]\x7d%@`".toList.contains ·)
  if name.isEmpty ∨ !ends then none else some (String.ofList name, behind)

/-- Reads a tag: an address between angle brackets, or a handle and the rest. -/
def readTag? (flow : Bool) (cursor : Cursor) : Option (Token × Cursor) := do
  let (handle, rest, cursor) ←
    if cursor.peek? 1 = some '<' then do
      let (rest, cursor) ← readUri? true [] (cursor.skip 2)
      if cursor.startsWith (· == '>') then pure ([], rest, cursor.skip 1) else none
    else do
      let (handle, cursor) ← readHandle? false cursor
      if 1 < handle.length ∧ handle.getLast? = some '!' then
        let (rest, cursor) ← readUri? false [] cursor
        pure (handle, rest, cursor)
      else if handle.length = 1 ∧ !cursor.startsWith (isUriChar false) then
        pure ([], ['!'], cursor)
      else
        let (rest, cursor) ← readUri? false handle.tail cursor
        pure (['!'], rest, cursor)
  if cursor.endsWordAt 0 || (flow && cursor.startsWith (· == ',')) then
    pure (.tag (String.ofList handle) (String.ofList rest), cursor)
  else none

/-- The token behind a key. If a key can have started on the same line within 1024 characters, it
    gets its own token in front of it. -/
def readValue? (s : Scanner) : Option Scanner :=
  let start? :=
    (s.keys.head?.bind id).filter fun start =>
      start.line == s.cursor.line && s.cursor.index ≤ start.index + 1024
  match start? with
  | some start =>
    let s := s.insertToken start.token .key
    let s := s.openBlock start.column .blockMappingStart start.token
    some ({ s with keys := none :: s.keys.tail, keyAllowed := false }.pushSkip .value 1)
  | none => do
    let s ← s.dropKey?
    if s.inFlow then pure ({ s with keyAllowed := false }.pushSkip .value 1)
    else if !s.keyAllowed then none
    else
      let s := s.openBlock s.cursor.column .blockMappingStart s.tokens.size
      pure ({ s with keyAllowed := true }.pushSkip .value 1)

def readQuotedToken? (s : Scanner) (single : Bool) : Option Scanner := do
  let s ← s.noteKey?
  let (text, cursor) ← readQuoted? single s.cursor
  let style := if single then Style.singleQuoted else .doubleQuoted
  pure { s with
    cursor
    keyAllowed := false
    tokens := s.tokens.push (.scalar style (String.ofList text)) }

def readBlockToken? (s : Scanner) (literal : Bool) : Option Scanner := do
  let s ← s.dropKey?
  let (text, cursor) ← readBlock? literal s.indents.head? s.cursor
  let style := if literal then Style.literal else .folded
  pure { s with
    cursor
    keyAllowed := true
    tokens := s.tokens.push (.scalar style (String.ofList text)) }

def readPlainToken? (s : Scanner) : Option Scanner := do
  let s ← s.noteKey?
  let indent := (s.indents.head?.map (· + 1)).getD 0
  let (text, lineEnded, cursor) ← readPlain? s.inFlow indent s.cursor
  pure { s with
    cursor
    keyAllowed := lineEnded
    tokens := s.tokens.push (.scalar .plain (String.ofList text)) }

def openFlow? (s : Scanner) (token : Token) : Option Scanner := do
  let s ← s.noteKey?
  pure ({ s with keys := none :: s.keys, keyAllowed := true }.pushSkip token 1)

def closeFlow? (s : Scanner) (token : Token) : Option Scanner := do
  let s ← s.dropKey?
  let keys := if s.inFlow then s.keys.tail else s.keys
  pure ({ s with keys, keyAllowed := false }.pushSkip token 1)

def startsPlain (s : Scanner) (c : Char) : Bool :=
  !(isBlank c || "-?:,[]\x7b\x7d#&*!|>'\"%@`".toList.contains c) ||
    (c == '-' && !(s.cursor.peek? 1).any isBlank) ||
    (!s.inFlow && (c == '?' || c == ':') && !s.cursor.endsWordAt 1)

/-- Reads one token that starts with the given character. -/
def readToken? (s : Scanner) (c : Char) : Option Scanner :=
  if s.cursor.column == 0 && c == '%' then do
    let s ← s.closeAllBlocks.dropKey?
    let (token, cursor) ← readDirective? s.cursor
    pure { s with cursor, keyAllowed := false, tokens := s.tokens.push token }
  else if s.cursor.atDocumentMark then do
    let s ← s.closeAllBlocks.dropKey?
    pure ({ s with keyAllowed := false }.pushSkip
      (if c == '-' then .documentStart else .documentEnd) 3)
  else if c == '[' then s.openFlow? .flowSequenceStart
  else if c == '\x7b' then s.openFlow? .flowMappingStart
  else if c == ']' then s.closeFlow? .flowSequenceEnd
  else if c == '\x7d' then s.closeFlow? .flowMappingEnd
  else if c == ',' then do
    let s ← s.dropKey?
    pure ({ s with keyAllowed := true }.pushSkip .flowEntry 1)
  else if c == '-' && s.cursor.endsWordAt 1 then
    if !s.inFlow && !s.keyAllowed then none
    else do
      let s ← (s.openBlock s.cursor.column .blockSequenceStart s.tokens.size).dropKey?
      pure ({ s with keyAllowed := true }.pushSkip .blockEntry 1)
  else if c == '?' && (s.inFlow || s.cursor.endsWordAt 1) then
    if !s.inFlow && !s.keyAllowed then none
    else do
      let s ← (s.openBlock s.cursor.column .blockMappingStart s.tokens.size).dropKey?
      pure ({ s with keyAllowed := !s.inFlow }.pushSkip .key 1)
  else if c == ':' && (s.inFlow || s.cursor.endsWordAt 1) then s.readValue?
  else if c == '*' || c == '&' then do
    let s ← s.noteKey?
    let (name, cursor) ← readAnchor? s.cursor
    let token := if c == '*' then Token.alias name else .anchor name
    pure { s with cursor, keyAllowed := false, tokens := s.tokens.push token }
  else if c == '!' then do
    let s ← s.noteKey?
    let (token, cursor) ← readTag? s.inFlow s.cursor
    pure { s with cursor, keyAllowed := false, tokens := s.tokens.push token }
  else if (c == '|' || c == '>') && !s.inFlow then s.readBlockToken? (c == '|')
  else if c == '\'' || c == '"' then s.readQuotedToken? (c == '\'')
  else if s.startsPlain c then s.readPlainToken?
  else none

def readTokens? : Nat → Scanner → Option (Array Token)
  | 0, _ => none
  | fuel + 1, s =>
    let s := skipToToken (s.cursor.rest.length + 1) s
    match s.cursor.rest with
    | [] => s.closeAllBlocks.dropKey?.map (·.tokens)
    | c :: _ =>
      match (s.closeBlocks s.cursor.column).readToken? c with
      | none => none
      | some s => readTokens? fuel s

end Scanner

def tokens? (text : String) : Option (List Token) :=
  let cs := text.toList
  if cs.all isAllowed then
    (Scanner.readTokens? (cs.length + 1) (.ofText cs)).map Array.toList
  else none

end Stageflow.Yaml
