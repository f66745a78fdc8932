import Stageflow.Shell.Reader

namespace Stageflow.Shell

inductive Operator where
  | multiply | divide | remainder | add | subtract | shiftLeft | shiftRight
  | less | lessEqual | greater | greaterEqual | equal | notEqual
  | bitAnd | bitXor | bitOr | andThen | orElse
  deriving DecidableEq, Repr, Inhabited

/-- How operators are written, longer ones first, and how tightly they bind. -/
def Operator.table : List (String × Nat × Operator) :=
  [("<<", 8, .shiftLeft), (">>", 8, .shiftRight), ("<=", 7, .lessEqual), (">=", 7, .greaterEqual),
    ("==", 6, .equal), ("!=", 6, .notEqual), ("&&", 2, .andThen), ("||", 1, .orElse),
    ("*", 10, .multiply), ("/", 10, .divide), ("%", 10, .remainder), ("+", 9, .add),
    ("-", 9, .subtract), ("<", 7, .less), (">", 7, .greater), ("&", 5, .bitAnd), ("^", 4, .bitXor),
    ("|", 3, .bitOr)]

inductive UnaryOperator where
  | negate | complement | not
  deriving DecidableEq, Repr, Inhabited

inductive Expr where
  | number (n : Int)
  | variable (name : String)
  | unary (operator : UnaryOperator) (operand : Expr)
  | binary (operator : Operator) (left right : Expr)
  | choose (condition yes no : Expr)
  | assign (name : String) (operator : Option Operator) (value : Expr)
  deriving Repr, Inhabited

inductive ArithmeticFault where
  | malformed
  | divisionByZero
  deriving DecidableEq, Repr

def isSpace (c : Char) : Bool :=
  isBlank c || c == '\n'

/-- Numbers have 64 bits and wrap. -/
def wrap (n : Int) : Int :=
  n.bmod (Nat.pow 2 64)

def truth (b : Bool) : Int :=
  if b then 1 else 0

/-- Applies an operation to two numbers as words of 64 bits. -/
def bitwise (f : Nat → Nat → Nat) (a b : Int) : Int :=
  wrap (f (a % (Nat.pow 2 64 : Int)).toNat (b % (Nat.pow 2 64 : Int)).toNat)

def Operator.apply (operator : Operator) (a b : Int) : Except ArithmeticFault Int :=
  match operator with
  | .multiply => .ok (wrap (a * b))
  | .divide => if b = 0 then .error .divisionByZero else .ok (wrap (a.tdiv b))
  | .remainder => if b = 0 then .error .divisionByZero else .ok (wrap (a.tmod b))
  | .add => .ok (wrap (a + b))
  | .subtract => .ok (wrap (a - b))
  | .shiftLeft => .ok (wrap (a * (Nat.pow 2 (b % 64).toNat : Int)))
  | .shiftRight => .ok (a / (Nat.pow 2 (b % 64).toNat : Int))
  | .less => .ok (truth (a < b))
  | .lessEqual => .ok (truth (a ≤ b))
  | .greater => .ok (truth (b < a))
  | .greaterEqual => .ok (truth (b ≤ a))
  | .equal => .ok (truth (a == b))
  | .notEqual => .ok (truth (a != b))
  | .bitAnd => .ok (bitwise (· &&& ·) a b)
  | .bitXor => .ok (bitwise (· ^^^ ·) a b)
  | .bitOr => .ok (bitwise (· ||| ·) a b)
  | .andThen => .ok (truth (a != 0 && b != 0))
  | .orElse => .ok (truth (a != 0 || b != 0))

/-- Reads a number: decimal, octal behind a zero, or hexadecimal behind `0x`. -/
def readLiteral? (digits : List Char) : Option Int :=
  let number (base : Nat) (digits : List Char) : Option Int :=
    (digits.foldlM
      (fun n c =>
        let d :=
          if c.isDigit then c.toNat - 48 else if c.isLower then c.toNat - 87 else c.toNat - 55
        if c.isAlphanum && d < base then some (n * base + d) else none)
      0).map fun n : Nat => wrap n
  match digits with
  | '0' :: 'x' :: ds | '0' :: 'X' :: ds => number 16 ds
  | '0' :: ds => number 8 ds
  | ds => number 10 ds

/-- The value of a variable in an expression; one without a value counts as zero. -/
def numberOf? (text : String) : Option Int :=
  let cs := (text.toList.dropWhile isSpace).reverse.dropWhile isSpace |>.reverse
  match cs with
  | [] => some 0
  | '-' :: ds => if ds.isEmpty then none else (readLiteral? ds).map fun n => wrap (-n)
  | '+' :: ds => if ds.isEmpty then none else readLiteral? ds
  | ds => readLiteral? ds

/-- The number that a decimal numeral with blanks around it writes. -/
def decimalOf? (text : String) : Option Int :=
  let cs := (text.toList.dropWhile isSpace).reverse.dropWhile isSpace |>.reverse
  let number (ds : List Char) : Option Nat :=
    if ds.isEmpty || !ds.all Char.isDigit then none
    else some (ds.foldl (fun n c => n * 10 + (c.toNat - 48)) 0)
  match cs with
  | '-' :: ds => (number ds).map fun n => -n
  | '+' :: ds => (number ds).map fun n => n
  | ds => (number ds).map fun n => n

/-- The operator at the start of a text. An equals sign behind an operator makes it an assignment,
    which is none of them. -/
def leadingOperator? (cs : List Char) : Option (Nat × Nat × Operator) :=
  (Operator.table.find? fun entry => entry.1.toList.isPrefixOf cs).bind fun (sign, level, operator) =>
    let compares := ["<=", ">=", "==", "!="].contains sign
    if !compares && (cs.drop sign.length).head? == some '=' then none
    else some (sign.length, level, operator)

/-- The operators that can stand in front of the sign of an assignment. -/
def assignable : List String :=
  ["<<", ">>", "*", "/", "%", "+", "-", "&", "^", "|"]

/-- The assignment at the start of a text: its length, and the operator in front of its sign. -/
def leadingAssignment? (cs : List Char) : Option (Nat × Option Operator) :=
  match cs with
  | '=' :: rest => if rest.head? = some '=' then none else some (1, none)
  | _ =>
    (Operator.table.find? fun entry =>
        assignable.contains entry.1 && (entry.1 ++ "=").toList.isPrefixOf cs).map
      fun entry => (entry.1.length + 1, some entry.2.2)

mutual

/-- Reads an expression whose operators bind at least as tightly as `level`. -/
def readExpr? (level : Nat) : Nat → List Char → Option (Expr × List Char)
  | 0, _ => none
  | fuel + 1, cs =>
    match readOperand? fuel (cs.dropWhile isSpace) with
    | none => none
    | some (left, cs) => readOperators? level left fuel cs

/-- Reads what follows the left side of an operator. -/
def readOperators? (level : Nat) (left : Expr) : Nat → List Char → Option (Expr × List Char)
  | 0, _ => none
  | fuel + 1, cs =>
    let cs := cs.dropWhile isSpace
    match leadingOperator? cs with
    | some (length, tight, operator) =>
      if tight < level then some (left, cs)
      else
        match readExpr? (tight + 1) fuel (cs.drop length) with
        | none => none
        | some (right, cs) => readOperators? level (.binary operator left right) fuel cs
    | none =>
      match cs with
      | '?' :: rest =>
        if 0 < level then some (left, cs)
        else
          match readExpr? 0 fuel rest with
          | none => none
          | some (yes, cs) =>
            match cs.dropWhile isSpace with
            | ':' :: rest =>
              (readExpr? 0 fuel rest).map fun (no, cs) => (.choose left yes no, cs)
            | _ => none
      | cs => some (left, cs)

/-- Reads a number, a variable or an assignment to one, or an expression in parentheses, with the
    signs in front of it. -/
def readOperand? : Nat → List Char → Option (Expr × List Char)
  | 0, _ => none
  | fuel + 1, cs =>
    let unary (operator : UnaryOperator) (cs : List Char) : Option (Expr × List Char) :=
      (readOperand? fuel (cs.dropWhile isSpace)).map fun (operand, cs) =>
        (.unary operator operand, cs)
    let stepping (operator : Operator) (cs : List Char) : Option (Expr × List Char) :=
      let name := leadingName cs
      if name.isEmpty then none
      else
        some (.assign (String.ofList name) (some operator) (.number 1), cs.drop name.length)
    match cs with
    | [] => none
    | '+' :: '+' :: cs =>
      match stepping .add (cs.dropWhile isSpace) with
      | some result => some result
      | none => readOperand? fuel (cs.dropWhile isSpace)
    | '-' :: '-' :: cs =>
      match stepping .subtract (cs.dropWhile isSpace) with
      | some result => some result
      | none => readOperand? fuel (cs.dropWhile isSpace)
    | '(' :: cs =>
      match readExpr? 0 fuel cs with
      | none => none
      | some (inner, cs) =>
        match cs.dropWhile isSpace with
        | ')' :: cs => some (inner, cs)
        | _ => none
    | '-' :: cs => unary .negate cs
    | '+' :: cs => readOperand? fuel (cs.dropWhile isSpace)
    | '~' :: cs => unary .complement cs
    | '!' :: cs => unary .not cs
    | c :: rest =>
      if c.isDigit then
        (readLiteral? (cs.takeWhile Char.isAlphanum)).map fun n =>
          (.number n, cs.dropWhile Char.isAlphanum)
      else
        let name := leadingName cs
        if name.isEmpty then none
        else
          let behind := (cs.drop name.length).dropWhile isSpace
          match leadingAssignment? behind with
          | some (length, operator) =>
            (readExpr? 0 fuel (behind.drop length)).map fun (value, cs) =>
              (.assign (String.ofList name) operator value, cs)
          | none =>
            let name := String.ofList name
            /- The value before a change is the one after it, changed back. -/
            let changed (operator inverse : Operator) : Expr :=
              .binary inverse (.assign name (some operator) (.number 1)) (.number 1)
            match behind with
            | '+' :: '+' :: behind => some (changed .add .subtract, behind)
            | '-' :: '-' :: behind => some (changed .subtract .add, behind)
            | _ => some (.variable name, rest.drop (name.length - 1))

end

/-- The variables of an evaluation: those that it has assigned, in front of those it found. -/
structure Bindings where
  assigned : List (String × Int)
  found : String → String

def Bindings.get? (bindings : Bindings) (name : String) : Option Int :=
  match bindings.assigned.find? (·.1 == name) with
  | some entry => some entry.2
  | none => numberOf? (bindings.found name)

/-- The value of an expression, and the variables after it. Where an operator or a condition
    settles it, what follows is not evaluated. -/
def Expr.eval (bindings : Bindings) : Expr → Except ArithmeticFault (Int × Bindings)
  | .number n => .ok (n, bindings)
  | .variable name =>
    match bindings.get? name with
    | some n => .ok (n, bindings)
    | none => .error .malformed
  | .unary operator operand =>
    match operand.eval bindings with
    | .error fault => .error fault
    | .ok (n, bindings) =>
      match operator with
      | .negate => .ok (wrap (-n), bindings)
      | .complement => .ok (-n - 1, bindings)
      | .not => .ok (truth (n == 0), bindings)
  | .binary operator left right =>
    match left.eval bindings with
    | .error fault => .error fault
    | .ok (a, bindings) =>
      if operator = .andThen ∧ a = 0 then .ok (0, bindings)
      else if operator = .orElse ∧ a ≠ 0 then .ok (1, bindings)
      else
        match right.eval bindings with
        | .error fault => .error fault
        | .ok (b, bindings) => (operator.apply a b).map fun n => (n, bindings)
  | .choose condition yes no =>
    match condition.eval bindings with
    | .error fault => .error fault
    | .ok (n, bindings) => if n ≠ 0 then yes.eval bindings else no.eval bindings
  | .assign name operator value =>
    match value.eval bindings with
    | .error fault => .error fault
    | .ok (n, bindings) =>
      let result : Except ArithmeticFault Int :=
        match operator, bindings.get? name with
        | none, _ => .ok n
        | some operator, some old => operator.apply old n
        | some _, none => .error .malformed
      result.map fun n => (n, { bindings with assigned := (name, n) :: bindings.assigned })

/-- Evaluates a text and returns its value and the variables that it assigns, the last one first. -/
def evaluate (found : String → String) (text : String) :
    Except ArithmeticFault (Int × List (String × Int)) :=
  let cs := text.toList
  if cs.all isSpace then .ok (0, [])
  else
    match readExpr? 0 (4 * cs.length + 4) cs with
    | none => .error .malformed
    | some (expr, rest) =>
      if rest.all isSpace then (expr.eval ⟨[], found⟩).map fun (n, bindings) => (n, bindings.assigned)
      else .error .malformed

end Stageflow.Shell
