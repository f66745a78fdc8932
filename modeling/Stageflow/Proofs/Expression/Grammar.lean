import Stageflow.Expression.Parse
import Stageflow.Proofs.Options.Merge

namespace Stageflow.Expression

open Text

/-- A character that stands for itself in a word. -/
def isBare (c : Char) : Bool :=
  !Text.isBlank c && c != '\'' && c != '"' && c != '|'

/-- The inside of double quotes and the text that it stands for. A backslash takes the meaning from
    a quote or backslash behind it, and stands for itself before anything else. -/
inductive Escaped : List Char → List Char → Prop where
  | nil : Escaped [] []
  | escape {e : Char} {written text : List Char} (he : e = '"' ∨ e = '\\')
      (tail : Escaped written text) : Escaped ('\\' :: e :: written) (e :: text)
  | backslash {c : Char} {written text : List Char} (hquote : c ≠ '"') (hslash : c ≠ '\\')
      (tail : Escaped (c :: written) text) : Escaped ('\\' :: c :: written) ('\\' :: text)
  | plain {c : Char} {written text : List Char} (hquote : c ≠ '"') (hslash : c ≠ '\\')
      (tail : Escaped written text) : Escaped (c :: written) (c :: text)

/-- A piece of a word, whether it is quoted, how it is written, and the text that it stands for. -/
inductive Piece : Bool → List Char → List Char → Prop where
  | bare {c : Char} (hc : isBare c = true) : Piece false [c] [c]
  | single {text : List Char} (htext : '\'' ∉ text) :
      Piece true ('\'' :: (text ++ ['\''])) text
  | double {written text : List Char} (hwritten : Escaped written text) :
      Piece true ('"' :: (written ++ ['"'])) text

/-- Pieces one behind the other. -/
inductive Pieces : List Char → List Char → Prop where
  | nil : Pieces [] []
  | cons {quoted : Bool} {written text writtens texts : List Char}
      (first : Piece quoted written text) (rest : Pieces writtens texts) :
      Pieces (written ++ writtens) (text ++ texts)

/-- A word that is written at the byte `position`: at least one piece, the first of which decides
    whether the word is quoted. -/
inductive WordAt (position : Nat) : List Char → Word → Prop where
  | mk {quoted : Bool} {written text writtens texts : List Char}
      (first : Piece quoted written text) (rest : Pieces writtens texts) :
      WordAt position (written ++ writtens) ⟨text ++ texts, quoted, position⟩

/-- A text is blank from its start or ends there, so that no word goes on into it. -/
def EndsWord (cs : List Char) : Prop :=
  ∀ c ∈ cs.head?, Text.isBlank c = true

/-- The words of a text that starts at the byte `position`: blanks separate them, and may stand
    around them. -/
inductive WordsAt : Nat → List Char → List Word → Prop where
  | blank {position : Nat} {cs : List Char} (hblank : ∀ c ∈ cs, Text.isBlank c = true) :
      WordsAt position cs []
  | word {position : Nat} {blanks written rest : List Char} {word : Word} {words : List Word}
      (hblanks : ∀ c ∈ blanks, Text.isBlank c = true)
      (hword : WordAt (position + byteLength blanks) written word) (hends : EndsWord rest)
      (hrest : WordsAt (position + byteLength blanks + byteLength written) rest words) :
      WordsAt position (blanks ++ (written ++ rest)) (word :: words)

/-- The name and value of every option that words write. A value stands behind the first equals
    sign of its option, or is the next word unless that is an option itself. -/
inductive OptionWords : List Word → List (String × OptionValue) → Prop where
  | nil : OptionWords [] []
  | inline {word : Word} {words : List Word} {name value : List Char}
      {entries : List (String × OptionValue)} (hflag : word.isFlag = true)
      (htext : word.text = '-' :: '-' :: (name ++ '=' :: value)) (hname : name ≠ [])
      (hequals : '=' ∉ name) (hrest : OptionWords words entries) :
      OptionWords (word :: words) ((String.ofList name, .text (String.ofList value)) :: entries)
  | separate {word next : Word} {words : List Word} {name : List Char}
      {entries : List (String × OptionValue)} (hflag : word.isFlag = true)
      (htext : word.text = '-' :: '-' :: name) (hname : name ≠ []) (hequals : '=' ∉ name)
      (hnext : next.isFlag = false) (hrest : OptionWords words entries) :
      OptionWords (word :: next :: words)
        ((String.ofList name, .text (String.ofList next.text)) :: entries)
  | flag {word : Word} {words : List Word} {name : List Char}
      {entries : List (String × OptionValue)} (hflag : word.isFlag = true)
      (htext : word.text = '-' :: '-' :: name) (hname : name ≠ []) (hequals : '=' ∉ name)
      (hnext : ∀ next ∈ words.head?, next.isFlag = true) (hrest : OptionWords words entries) :
      OptionWords (word :: words) ((String.ofList name, .flag true) :: entries)

/-- The last of some options takes the word behind it for its value, unless that is an option. -/
def AwaitsValue (words : List Word) : Prop :=
  ∃ last ∈ words.getLast?, last.isFlag = true ∧ '=' ∉ last.text

/-- The stage that words write. Its first word names the type; an option that is written again
    keeps its place and takes its last value. -/
inductive StageWords : List Word → Stage → Prop where
  | mk {head : Word} {words : List Word} {options : Options}
      {entries : List (String × OptionValue)} (hquoted : head.quoted = false)
      (hflag : head.isFlag = false) (htype : isTypeName head.text = true)
      (hentries : OptionWords words entries) (hoptions : options.Merges entries) :
      StageWords (head :: words) ⟨String.ofList head.text, options⟩

/-- The stages of an expression, the rest of which starts at the byte `position`: one for every
    segment between pipes. -/
inductive StagesAt : Nat → List Char → List Stage → Prop where
  | last {position : Nat} {text : List Char} {words : List Word} {stage : Stage}
      (hwords : WordsAt position text words) (hstage : StageWords words stage) :
      StagesAt position text [stage]
  | pipe {position : Nat} {text rest : List Char} {words : List Word} {stage : Stage}
      {stages : List Stage} (hwords : WordsAt position text words)
      (hstage : StageWords words stage)
      (hrest : StagesAt (position + byteLength text + 1) rest stages) :
      StagesAt position (text ++ '|' :: rest) (stage :: stages)

/-- An expression writes stages. -/
def Writes (expression : String) (stages : List Stage) : Prop :=
  StagesAt 0 expression.toList stages

end Stageflow.Expression
