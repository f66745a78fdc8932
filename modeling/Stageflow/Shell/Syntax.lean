namespace Stageflow.Shell

/-- The two shells of a machine. They share a language and differ in their messages and in details
    of what `echo` does. -/
inductive Dialect where
  | posix
  | bash
  deriving DecidableEq, Repr, Inhabited

/-- What is done with the value of a parameter. A `colon` makes an empty value count as none. -/
inductive Adjustment where
  | orDefault (colon : Bool)
  | orAssign (colon : Bool)
  | orFail (colon : Bool)
  | ifSet (colon : Bool)
  | dropStart (longest : Bool)
  | dropEnd (longest : Bool)
  deriving DecidableEq, Repr, Inhabited

inductive RedirectKind where
  | input
  | output
  | append
  | duplicate
  /-- The word itself is the input. -/
  | here
  deriving DecidableEq, Repr, Inhabited

mutual

/-- A part of a word. What is quoted is neither split nor matched against file names. -/
inductive Part where
  | text (quoted : Bool) (text : String)
  | parameter (quoted : Bool) (name : String)
  | length (quoted : Bool) (name : String)
  | adjusted (quoted : Bool) (name : String) (adjustment : Adjustment) (word : List Part)
  | command (quoted : Bool) (body : Command)
  | arithmetic (quoted : Bool) (expression : List Part)

/-- A command. A simple one knows its line. -/
inductive Command where
  | simple (line : Nat) (assignments : List (String × List Part)) (words : List (List Part))
      (redirects : List Redirect)
  | pipeline (negated : Bool) (stages : List Command)
  | andThen (first second : Command)
  | orElse (first second : Command)
  | sequence (commands : List Command)
  | background (body : Command)
  | subshell (body : Command) (redirects : List Redirect)
  | group (body : Command) (redirects : List Redirect)
  | branch (branches : List (Command × Command)) (otherwise : Command) (redirects : List Redirect)
  | loop (expected : Bool) (condition body : Command) (redirects : List Redirect)
  | forEach (name : String) (words : Option (List (List Part))) (body : Command)
      (redirects : List Redirect)
  | switch (subject : List Part) (clauses : List (List (List Part) × Command))
      (redirects : List Redirect)
  | define (name : String) (body : Command)

inductive Redirect where
  | mk (descriptor : Nat) (kind : RedirectKind) (target : List Part)

end

instance : Inhabited Part :=
  ⟨.text false ""⟩

instance : Inhabited Command :=
  ⟨.sequence []⟩

/-- A word before its expansion. -/
abbrev Word :=
  List Part

inductive SyntaxFault where
  | openQuote (quote : Char)
  | unexpected (token : String) (expected : Option String)
  | unexpectedEnd (expected : Option String)
  | badSubstitution
  deriving DecidableEq, Repr

/-- A fault and the line on which it is found. -/
structure SyntaxError where
  fault : SyntaxFault
  line : Nat
  deriving DecidableEq, Repr

end Stageflow.Shell
