namespace Stageflow.Text

/-- The lines of a text, split at `\n`. A carriage return right before a `\n` belongs to the line
    break; one that ends the text does not. What follows a final `\n` is no line. -/
def lines : List Char → List (List Char)
  | [] => []
  | '\n' :: cs => [] :: lines cs
  | '\r' :: '\n' :: cs => [] :: lines cs
  | c :: cs =>
    match lines cs with
    | [] => [[c]]
    | line :: rest => (c :: line) :: rest

theorem lines_eq_nil_iff {cs : List Char} : lines cs = [] ↔ cs = [] := by
  fun_cases lines cs <;> simp_all

/-- Every line of a text behind `width` spaces, without a final line break. -/
def indent (width : Nat) (text : String) : String :=
  "\n".intercalate
    ((lines text.toList).map fun line => String.ofList (List.replicate width ' ' ++ line))

end Stageflow.Text
