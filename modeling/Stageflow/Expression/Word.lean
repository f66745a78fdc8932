import Stageflow.Expression.Segment
import Stageflow.Text.Blank

namespace Stageflow.Expression

/-- A word of a segment without its quotes. -/
structure Word where
  text : List Char
  /-- Whether the word begins with a quote. -/
  quoted : Bool
  /-- The byte of the expression at which the word starts. -/
  offset : Nat
  deriving DecidableEq, Repr

/-- A word that is written with two dashes in front, which no quote covers. -/
def Word.isFlag (word : Word) : Bool :=
  !word.quoted && ['-', '-'].isPrefixOf word.text

/-- Where a reader of words stands. Only between words no word is being read. -/
inductive Place where
  | between
  | bare
  | single (opened : Nat)
  | double (opened : Nat)
  deriving DecidableEq, Repr

/-- The text that continues the word being read, and the words behind it. -/
abbrev WordsRead :=
  Except Fault (List Char × List Word)

/-- Puts a character in front of the text that continues a word. -/
def WordsRead.push (c : Char) (read : WordsRead) : WordsRead :=
  read.map fun (text, words) => (c :: text, words)

/-- Ends a word, so that no text continues it. -/
def WordsRead.finish (read : WordsRead) : WordsRead :=
  read.map fun (_, words) => ([], words)

/-- Makes a word of the text that continues it. -/
def WordsRead.begin (quoted : Bool) (offset : Nat) (read : WordsRead) : WordsRead :=
  read.map fun (text, words) => ([], ⟨text, quoted, offset⟩ :: words)

/-- Reads words from the byte `position` on. Inside double quotes a backslash takes the meaning
    from a quote or backslash behind it; before anything else it stands for itself. -/
def wordsFrom (place : Place) (position : Nat) : List Char → WordsRead
  | [] =>
    match place with
    | .between | .bare => .ok ([], [])
    | .single opened | .double opened => .error (.unterminated opened)
  | c :: cs =>
    let behind := position + c.utf8Size
    match place with
    | .between =>
      if Text.isBlank c then wordsFrom .between behind cs
      else if c = '\'' then (wordsFrom (.single position) behind cs).begin true position
      else if c = '"' then (wordsFrom (.double position) behind cs).begin true position
      else ((wordsFrom .bare behind cs).push c).begin false position
    | .bare =>
      if Text.isBlank c then (wordsFrom .between behind cs).finish
      else if c = '\'' then wordsFrom (.single position) behind cs
      else if c = '"' then wordsFrom (.double position) behind cs
      else (wordsFrom .bare behind cs).push c
    | .single opened =>
      if c = '\'' then wordsFrom .bare behind cs
      else (wordsFrom (.single opened) behind cs).push c
    | .double opened =>
      if c = '"' then wordsFrom .bare behind cs
      else if c = '\\' then
        match cs with
        | [] => (wordsFrom (.double opened) behind []).push '\\'
        | e :: tail =>
          if e = '"' ∨ e = '\\' then (wordsFrom (.double opened) (behind + 1) tail).push e
          else (wordsFrom (.double opened) behind (e :: tail)).push '\\'
      else (wordsFrom (.double opened) behind cs).push c

def words (segment : Segment) : Except Fault (List Word) :=
  (wordsFrom .between segment.offset segment.text).map (·.2)

end Stageflow.Expression
