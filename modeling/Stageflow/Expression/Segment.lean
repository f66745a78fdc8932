import Stageflow.Text.Utf8

namespace Stageflow.Expression

/-- Why an expression is no pipeline. Positions count bytes from its start. -/
inductive Fault where
  | blank
  /-- A quote is never closed. -/
  | unterminated (opened : Nat)
  /-- A segment is blank, or its first word is quoted or an option. -/
  | noStageType (segment position : Nat)
  /-- The first word of a segment has characters that a stage type cannot have. -/
  | invalidStageType (text : String) (segment position : Nat)
  /-- A word is neither an option nor the value of one. -/
  | unexpectedArgument (text type : String) (position : Nat)
  | emptyOptionName (type : String) (position : Nat)
  deriving DecidableEq, Repr

namespace Fault

def message : Fault → String
  | .blank => "expression is empty"
  | .unterminated opened => s!"unterminated quote starting at position {opened}"
  | .noStageType segment _ => s!"segment {segment} has no stage type"
  | .invalidStageType text segment _ => s!"invalid stage type '{text}' in segment {segment}"
  | .unexpectedArgument text type _ =>
    s!"unexpected argument '{text}' for stage '{type}' (options are written --name value)"
  | .emptyOptionName type _ => s!"empty option name in stage '{type}'"

def position? : Fault → Option Nat
  | .blank => none
  | .unterminated position
  | .noStageType _ position
  | .invalidStageType _ _ position
  | .unexpectedArgument _ _ position
  | .emptyOptionName _ position => some position

end Fault

/-- Whether a place in an expression lies inside quotes, and where these were opened. -/
inductive Quoting where
  | bare
  | single (opened : Nat)
  | double (opened : Nat)
  /-- Right behind a backslash inside double quotes. -/
  | escaped (opened : Nat)
  deriving DecidableEq, Repr

namespace Quoting

/-- The position of the quote that is open. -/
def opened? : Quoting → Option Nat
  | .bare => none
  | .single opened | .double opened | .escaped opened => some opened

/-- The quoting behind the character `c` at byte `position`. -/
def next (quoting : Quoting) (position : Nat) (c : Char) : Quoting :=
  match quoting with
  | .bare => if c = '"' then .double position else if c = '\'' then .single position else .bare
  | .single opened => if c = '\'' then .bare else .single opened
  | .double opened =>
    if c = '\\' then .escaped opened else if c = '"' then .bare else .double opened
  | .escaped opened => .double opened

end Quoting

/-- A part of an expression between pipes, and the byte at which it starts. -/
structure Segment where
  offset : Nat
  text : List Char
  deriving DecidableEq, Repr

/-- Splits the rest of an expression at the pipes outside quotes. Returns the text up to the first
    of them and the segments behind it. -/
def splitFrom (quoting : Quoting) (position : Nat) :
    List Char → Except Fault (List Char × List Segment)
  | [] =>
    match quoting.opened? with
    | some opened => .error (.unterminated opened)
    | none => .ok ([], [])
  | c :: cs =>
    if quoting = .bare ∧ c = '|' then
      match splitFrom .bare (position + 1) cs with
      | .error fault => .error fault
      | .ok (text, segments) => .ok ([], ⟨position + 1, text⟩ :: segments)
    else
      match splitFrom (quoting.next position c) (position + c.utf8Size) cs with
      | .error fault => .error fault
      | .ok (text, segments) => .ok (c :: text, segments)

/-- The segments of an expression, at least one. -/
def split (cs : List Char) : Except Fault (List Segment) :=
  match splitFrom .bare 0 cs with
  | .error fault => .error fault
  | .ok (text, segments) => .ok (⟨0, text⟩ :: segments)

end Stageflow.Expression
