namespace Stageflow.Shell

/-- One place of a pattern for texts. -/
inductive PatternItem where
  | exactly (c : Char)
  | anyOne
  | anyMany
  | oneOf (negated : Bool) (ranges : List (Char × Char))
  deriving DecidableEq, Repr

/-- Everything that a text ends with, the text itself first. -/
def suffixes : List Char → List (List Char)
  | [] => [[]]
  | c :: cs => (c :: cs) :: suffixes cs

def PatternItem.accepts (item : PatternItem) (c : Char) : Bool :=
  match item with
  | .exactly d => c == d
  | .anyOne | .anyMany => true
  | .oneOf negated ranges => negated != ranges.any fun range => range.1 ≤ c && c ≤ range.2

/-- Whether a whole text has the form of a pattern. -/
def patternMatches : List PatternItem → List Char → Bool
  | [], cs => cs.isEmpty
  | .anyMany :: items, cs => (suffixes cs).any (patternMatches items)
  | item :: items, cs =>
    match cs with
    | [] => false
    | c :: cs => item.accepts c && patternMatches items cs

/-- A character of a word after its expansion; one that was quoted stands for itself. -/
abbrev Mark :=
  Char × Bool

/-- The characters between brackets, where two with a dash between them are a range. -/
def rangesOf : List Mark → List (Char × Char)
  | (c, _) :: ('-', false) :: (d, _) :: marks => (c, d) :: rangesOf marks
  | (c, _) :: marks => (c, c) :: rangesOf marks
  | [] => []

/-- Reads a set of characters behind its opening bracket; a bracket that closes right away belongs
    to the set. -/
def readSet? (marks : List Mark) : Option (PatternItem × List Mark) :=
  let (negated, marks) :=
    match marks with
    | ('!', false) :: marks | ('^', false) :: marks => (true, marks)
    | marks => (false, marks)
  let first := marks.take 1
  let rest := marks.drop 1
  let content := first ++ rest.takeWhile (· != (']', false))
  if marks.length ≤ content.length then none
  else some (.oneOf negated (rangesOf content), marks.drop (content.length + 1))

/-- The pattern that a word writes. -/
def patternOf : Nat → List Mark → List PatternItem
  | 0, _ => []
  | _, [] => []
  | fuel + 1, (c, quoted) :: marks =>
    if quoted then .exactly c :: patternOf fuel marks
    else if c = '*' then .anyMany :: patternOf fuel marks
    else if c = '?' then .anyOne :: patternOf fuel marks
    else if c = '[' then
      match readSet? marks with
      | some (item, marks) => item :: patternOf fuel marks
      | none => .exactly c :: patternOf fuel marks
    else .exactly c :: patternOf fuel marks

def pattern (marks : List Mark) : List PatternItem :=
  patternOf (marks.length + 1) marks

/-- Whether a word can match anything but itself. -/
def isPattern (marks : List Mark) : Bool :=
  marks.any fun mark => !mark.2 && (mark.1 == '*' || mark.1 == '?' || mark.1 == '[')

/-- A text without the shortest or longest beginning that matches a pattern. -/
def dropStart (longest : Bool) (items : List PatternItem) (cs : List Char) : List Char :=
  let lengths := List.range (cs.length + 1)
  let lengths := if longest then lengths.reverse else lengths
  match lengths.find? fun n => patternMatches items (cs.take n) with
  | some n => cs.drop n
  | none => cs

/-- A text without the shortest or longest end that matches a pattern. -/
def dropEnd (longest : Bool) (items : List PatternItem) (cs : List Char) : List Char :=
  let lengths := List.range (cs.length + 1)
  let lengths := if longest then lengths else lengths.reverse
  match lengths.find? fun n => patternMatches items (cs.drop n) with
  | some n => cs.take n
  | none => cs

end Stageflow.Shell
