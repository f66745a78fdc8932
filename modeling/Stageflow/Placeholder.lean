import Stageflow.Expression.Parse
import Stageflow.Json.Writer

namespace Stageflow

/-- The text that an output is inserted as: strings as they are, null as nothing, everything else
    as compact JSON. -/
def Json.insertionText : Json → String
  | .string s => s
  | .null => ""
  | v => v.compact

namespace Placeholder

/-- A text taken apart: characters that stand for themselves, and placeholders. -/
inductive Piece where
  | literal (c : Char)
  | reference (name : List Char)
  deriving DecidableEq, Repr

/-- Reads a placeholder at the start of a text: two braces, a stage type with blanks around it, and
    two braces. Returns the stage type and the text behind the placeholder. -/
def read? : List Char → Option (List Char × List Char)
  | '\x7b' :: '\x7b' :: cs =>
    let inner := cs.dropWhile Text.isBlank
    let name := inner.takeWhile isTypeChar
    match (inner.dropWhile isTypeChar).dropWhile Text.isBlank with
    | '\x7d' :: '\x7d' :: rest => if name.isEmpty then none else some (name, rest)
    | _ => none
  | _ => none

/-- Takes a text apart from the left, passing over the first `skip` characters. After a placeholder
    the reading goes on behind it. -/
def piecesFrom (skip : Nat) : List Char → List Piece
  | [] => []
  | c :: cs =>
    match skip with
    | skip + 1 => piecesFrom skip cs
    | 0 =>
      match read? (c :: cs) with
      | some (name, rest) => .reference name :: piecesFrom (cs.length - rest.length) cs
      | none => .literal c :: piecesFrom 0 cs

def pieces (text : String) : List Piece :=
  piecesFrom 0 text.toList

/-- Whether a placeholder starts anywhere in a text. -/
def existsIn : List Char → Bool
  | [] => false
  | c :: cs => (read? (c :: cs)).isSome || existsIn cs

/-- The stage types that the placeholders of a text name, from left to right. -/
def references (text : String) : List String :=
  (pieces text).filterMap fun
    | .literal _ => none
    | .reference name => some (String.ofList name)

/-- The stage types that the placeholders of a stage's options name, in the order of the options. -/
def optionReferences (options : Options) : List String :=
  (options.entries.filterMap fun entry => entry.2.text?).flatMap references

end Placeholder

/-- The most recent output of every stage type that has completed. -/
abbrev Outputs :=
  Table Json

namespace Outputs

open Placeholder

/-- Puts outputs for the placeholders among some pieces. The first placeholder without an output
    is the error. -/
def fill (outputs : Outputs) : List Piece → Except String (List Char)
  | [] => .ok []
  | .literal c :: pieces =>
    match fill outputs pieces with
    | .ok cs => .ok (c :: cs)
    | .error reference => .error reference
  | .reference name :: pieces =>
    match outputs.get? (String.ofList name) with
    | none => .error (String.ofList name)
    | some output =>
      match fill outputs pieces with
      | .ok cs => .ok (output.insertionText.toList ++ cs)
      | .error reference => .error reference

/-- A text with an output for every placeholder. What is put in is not read for placeholders. -/
def resolveText (outputs : Outputs) (text : String) : Except String String :=
  (fill outputs (pieces text)).map String.ofList

/-- Resolves an option. Flags hold no placeholders, and a text without any stays as it is. -/
def resolveValue (outputs : Outputs) : OptionValue → Except String OptionValue
  | .text s => if existsIn s.toList then (resolveText outputs s).map .text else .ok (.text s)
  | .flag b => .ok (.flag b)

def resolveEntries (outputs : Outputs) :
    List (String × OptionValue) → Except String (List (String × OptionValue))
  | [] => .ok []
  | entry :: entries =>
    match resolveValue outputs entry.2 with
    | .error reference => .error reference
    | .ok value =>
      match resolveEntries outputs entries with
      | .error reference => .error reference
      | .ok entries => .ok ((entry.1, value) :: entries)

theorem names_resolveEntries {outputs : Outputs} {entries resolved : List (String × OptionValue)}
    (h : resolveEntries outputs entries = .ok resolved) :
    resolved.map (·.1) = entries.map (·.1) := by
  induction entries generalizing resolved with
  | nil => cases h; rfl
  | cons entry entries ih =>
    rw [resolveEntries] at h
    split at h
    · cases h
    · split at h
      · cases h
      next hrest => cases h; simp [ih hrest]

/-- The options of a stage with an output for every placeholder, or the first reference, in the
    order of the options, that has no output. -/
def resolve (outputs : Outputs) (options : Options) : Except String Options :=
  match h : resolveEntries outputs options.entries with
  | .ok entries => .ok ⟨entries, names_resolveEntries h ▸ options.nodup⟩
  | .error reference => .error reference

end Outputs

end Stageflow
