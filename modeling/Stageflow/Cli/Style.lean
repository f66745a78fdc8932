import Stageflow.Table

namespace Stageflow.Cli

inductive Colour where
  | red
  | green
  | yellow
  | blue
  deriving DecidableEq, Repr

def Colour.code : Colour → Nat
  | .red => 31
  | .green => 32
  | .yellow => 33
  | .blue => 34

/-- How a text is emphasised on a terminal. -/
structure Style where
  bold : Bool := false
  dimmed : Bool := false
  colour : Option Colour := none
  deriving DecidableEq, Repr

/-- Whether texts are emphasised at all. -/
structure Palette where
  styled : Bool
  deriving DecidableEq, Repr

/-- What ends every emphasis. -/
def resetSequence : String := "\x1b[0m"

/-- What starts the emphasis of a style. -/
def Style.sequence (style : Style) : String :=
  let codes :=
    (if style.bold then [1] else []) ++ (if style.dimmed then [2] else []) ++
      (style.colour.map Colour.code).toList
  "\x1b[" ++ ";".intercalate (codes.map toString) ++ "m"

/-- Starts the emphasis again behind whatever ends it within a text. -/
def resume (start : List Char) : List Char → List Char
  | '\x1b' :: '[' :: '0' :: 'm' :: cs => resetSequence.toList ++ start ++ resume start cs
  | c :: cs => c :: resume start cs
  | [] => []

def Palette.paint (palette : Palette) (style : Style) (text : String) : String :=
  if palette.styled then
    style.sequence ++ String.ofList (resume style.sequence.toList text.toList) ++ resetSequence
  else text

/-- Whether an environment wants emphasised output where there is no terminal: it has to be forced,
    the terminal that is named has to be able to show it, and nothing may forbid it. -/
def Palette.ofEnvironment (environment : Table String) : Palette :=
  let holds (name : String) (p : String → Bool) : Bool := (environment.get? name).any p
  ⟨!environment.contains "NO_COLOR" && holds "TERM" (· != "dumb") &&
    holds "CLICOLOR_FORCE" (· != "0")⟩

end Stageflow.Cli
