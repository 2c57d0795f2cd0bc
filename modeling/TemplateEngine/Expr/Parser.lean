import TemplateEngine.Expr.Basic
import TemplateEngine.Expr.Lexeme

/-!
# `Expr` · Reading expressions

Expressions are read by recursive descent over lexemes.

* **Statements** are assignments, grouped to the right; below them come conditionals.
* **Operators** with two operands are a table of levels (`levels`), the loosest first; the
  operators of one level group to the left.
* **Operands** are prefix operators, then chains of members, keys and calls, then literals, names
  and brackets. A trailing comma is allowed in arrays and objects, not in arguments; an entry of an
  object without a value is a name.
* **`Program.parse`** reads statements separated by any number of semicolons.

Every step leaves a shorter rest of the lexemes (`Shorter`), which is why reading ends.
-/

namespace TemplateEngine

/-- Lexemes with their byte offsets. -/
abbrev Lexemes := List (Lexeme × Nat)

/-- Why a text is no expression. -/
inductive ParseFault where
  /-- It is no sequence of lexemes. -/
  | lexical (fault : LexemeFault)
  /-- A lexeme, or the end, where an expression should start or end. -/
  | unexpected (found : Option (Lexeme × Nat))
  /-- Something else, or the end, where `what` should stand. -/
  | expected (what : String) (found : Option (Lexeme × Nat))
  /-- The left side of an assignment cannot be assigned to. -/
  | badTarget
  deriving Repr

/-- The wording of a fault. -/
def ParseFault.message : ParseFault → String
  | lexical fault => fault.message
  | unexpected (some (lexeme, offset)) => s!"unexpected {lexeme.describe} at {offset}"
  | unexpected none => "unexpected end of expression"
  | expected what (some (lexeme, offset)) =>
    s!"expected '{what}' but found {lexeme.describe} at {offset}"
  | expected what none => s!"expected '{what}' but reached the end"
  | badTarget => "invalid assignment target"

/-! ## Operators -/

/-- An operator with two operands. -/
inductive Operator where
  /-- One that evaluates both. -/
  | binary (op : BinaryOp)
  /-- One that may leave out the right one. -/
  | logical (op : LogicalOp)
  deriving Repr, DecidableEq

/-- The tree of an operator and its operands. -/
def Operator.apply (left right : Expr) : Operator → Expr
  | binary op => .binary op left right
  | logical op => .logical op left right

/-- The operators of one level with their spellings. -/
abbrev Level := List (String × Operator)

/-- The levels of operators, the loosest first. -/
def levels : List Level :=
  [[("??", .logical .nullish)],
    [("||", .logical .or)],
    [("&&", .logical .and)],
    [("===", .binary .strictEq), ("!==", .binary .strictNe),
      ("==", .binary .looseEq), ("!=", .binary .looseNe)],
    [("<=", .binary .le), (">=", .binary .ge), ("<", .binary .lt), (">", .binary .gt)],
    [("+", .binary .add), ("-", .binary .sub)],
    [("*", .binary .mul), ("/", .binary .div), ("%", .binary .rem)]]

/-- The operator of a lexeme in front of an operand. -/
def unaryOp? : Lexeme → Option UnaryOp
  | .punct "!" => some .not
  | .punct "-" => some .neg
  | .punct "+" => some .plus
  | .word "typeof" => some .typeOf
  | _ => none

/-- The expression that a word stands for where an operand is expected. -/
def wordExpr (name : String) : Expr :=
  match name with
  | "true" => .bool true
  | "false" => .bool false
  | "null" => .null
  | "undefined" => .undefined
  | "$" => .root
  | _ => .ident name

/-! ## Single lexemes -/

/-- What was read, and what is left. -/
abbrev Step (α : Type) (ts : Lexemes) := Except ParseFault (α × Shorter ts)

/-- The rest after a punctuator. -/
def take? (text : String) : (ts : Lexemes) → Option (Shorter ts)
  | (.punct p, _) :: rest => if p = text then some ⟨rest, Nat.lt_succ_self _⟩ else none
  | _ => none

/-- The rest after a punctuator that has to stand here. -/
def expect (text : String) (ts : Lexemes) : Except ParseFault (Shorter ts) :=
  match take? text ts with
  | some rest => .ok rest
  | none => .error (.expected text ts.head?)

/-- The operator of a level that stands here. -/
def operator? (level : Level) : (ts : Lexemes) → Option (Operator × Shorter ts)
  | (.punct p, _) :: rest => (level.lookup p).map fun op => (op, ⟨rest, Nat.lt_succ_self _⟩)
  | _ => none

/-- The name of a member. -/
def memberName : (ts : Lexemes) → Step String ts
  | (.word name, _) :: rest => .ok (name, ⟨rest, Nat.lt_succ_self _⟩)
  | ts => .error (.expected "property name" ts.head?)

/-- The key of an entry: a word, a text, or a number as it is displayed. -/
def entryKey : (ts : Lexemes) → Step String ts
  | (.word name, _) :: rest => .ok (name, ⟨rest, Nat.lt_succ_self _⟩)
  | (.string s, _) :: rest => .ok (s, ⟨rest, Nat.lt_succ_self _⟩)
  | (.number x, _) :: rest => .ok (Decimal.numberText x, ⟨rest, Nat.lt_succ_self _⟩)
  | ts => .error (.expected "object key" ts.head?)

/-! ## Expressions -/

mutual

/-- A statement: a conditional, or an assignment. -/
def statement (ts : Lexemes) : Step Expr ts := do
  let (target, ⟨rest, h⟩) ← conditional ts
  match take? "=" rest with
  | none => return (target, ⟨rest, h⟩)
  | some ⟨rest, _⟩ =>
    if target.isTarget then
      let (value, ⟨rest, _⟩) ← statement rest
      return (.assign target value, ⟨rest, by omega⟩)
    else throw .badTarget
termination_by (ts.length, 5 + levels.length)

/-- A conditional, or what may stand in front of one. -/
def conditional (ts : Lexemes) : Step Expr ts := do
  let (test, ⟨rest, h⟩) ← operation levels ts
  match take? "?" rest with
  | none => return (test, ⟨rest, h⟩)
  | some ⟨rest, _⟩ =>
    let (consequent, ⟨rest, _⟩) ← statement rest
    let ⟨rest, _⟩ ← expect ":" rest
    let (alternate, ⟨rest, _⟩) ← statement rest
    return (.conditional test consequent alternate, ⟨rest, by omega⟩)
termination_by (ts.length, 4 + levels.length)

/-- Operands joined by operators of the given levels, the loosest first. -/
def operation (ls : List Level) (ts : Lexemes) : Step Expr ts :=
  match ls with
  | [] => prefixed ts
  | level :: tighter => do
    let (left, ⟨rest, _⟩) ← operation tighter ts
    let (whole, ⟨rest, _⟩) ← operands level tighter left rest
    return (whole, ⟨rest, by omega⟩)
termination_by (ts.length, 3 + ls.length)
decreasing_by all_goals (simp_wf; omega)

/-- The further operands of a level, joined to `left`. -/
def operands (level : Level) (tighter : List Level) (left : Expr) (ts : Lexemes) :
    Except ParseFault (Expr × NoLonger ts) :=
  match operator? level ts with
  | none => .ok (left, ⟨ts, Nat.le_refl _⟩)
  | some (op, ⟨rest, _⟩) => do
    let (right, ⟨rest, _⟩) ← operation tighter rest
    let (whole, ⟨rest, _⟩) ← operands level tighter (op.apply left right) rest
    return (whole, ⟨rest, by omega⟩)
termination_by (ts.length, 0)

/-- An operand with the operators in front of it. -/
def prefixed (ts : Lexemes) : Step Expr ts :=
  match ts with
  | [] => postfixed []
  | (lexeme, at') :: rest =>
    match unaryOp? lexeme with
    | some op => do
      let (operand, ⟨rest, _⟩) ← prefixed rest
      return (.unary op operand, ⟨rest, by simp only [List.length_cons]; omega⟩)
    | none =>
      if lexeme == .word "await" then do
        let (operand, ⟨rest, _⟩) ← prefixed rest
        return (.await operand, ⟨rest, by simp only [List.length_cons]; omega⟩)
      else postfixed ((lexeme, at') :: rest)
termination_by (ts.length, 2)

/-- An operand with the members, keys and calls after it. -/
def postfixed (ts : Lexemes) : Step Expr ts := do
  let (first, ⟨rest, _⟩) ← operand ts
  let (whole, ⟨rest, _⟩) ← links first rest
  return (whole, ⟨rest, by omega⟩)
termination_by (ts.length, 1)

/-- The further links of a chain. -/
def links (chain : Expr) (ts : Lexemes) : Except ParseFault (Expr × NoLonger ts) :=
  match ts with
  | (.punct ".", _) :: rest => do
    let (name, ⟨rest, _⟩) ← memberName rest
    let (whole, ⟨rest, _⟩) ← links (.member chain name false) rest
    return (whole, ⟨rest, by simp only [List.length_cons]; omega⟩)
  | (.punct "?.", _) :: rest =>
    match take? "[" rest with
    | some ⟨rest, _⟩ => do
      let (key, ⟨rest, _⟩) ← statement rest
      let ⟨rest, _⟩ ← expect "]" rest
      let (whole, ⟨rest, _⟩) ← links (.index chain key true) rest
      return (whole, ⟨rest, by simp only [List.length_cons]; omega⟩)
    | none =>
      match take? "(" rest with
      | some ⟨rest, _⟩ => do
        let (args, ⟨rest, _⟩) ← arguments rest
        let (whole, ⟨rest, _⟩) ← links (.call chain args true) rest
        return (whole, ⟨rest, by simp only [List.length_cons]; omega⟩)
      | none => do
        let (name, ⟨rest, _⟩) ← memberName rest
        let (whole, ⟨rest, _⟩) ← links (.member chain name true) rest
        return (whole, ⟨rest, by simp only [List.length_cons]; omega⟩)
  | (.punct "[", _) :: rest => do
    let (key, ⟨rest, _⟩) ← statement rest
    let ⟨rest, _⟩ ← expect "]" rest
    let (whole, ⟨rest, _⟩) ← links (.index chain key false) rest
    return (whole, ⟨rest, by simp only [List.length_cons]; omega⟩)
  | (.punct "(", _) :: rest => do
    let (args, ⟨rest, _⟩) ← arguments rest
    let (whole, ⟨rest, _⟩) ← links (.call chain args false) rest
    return (whole, ⟨rest, by simp only [List.length_cons]; omega⟩)
  | ts => .ok (chain, ⟨ts, Nat.le_refl _⟩)
termination_by (ts.length, 0)

/-- The arguments of a call after the opening parenthesis. -/
def arguments (ts : Lexemes) : Step (List Expr) ts :=
  match take? ")" ts with
  | some rest => .ok ([], rest)
  | none => moreArguments ts
termination_by (ts.length, 7 + levels.length)

/-- At least one argument, and the closing parenthesis. -/
def moreArguments (ts : Lexemes) : Step (List Expr) ts := do
  let (arg, ⟨rest, _⟩) ← statement ts
  match take? ")" rest with
  | some ⟨rest, _⟩ => return ([arg], ⟨rest, by omega⟩)
  | none =>
    let ⟨rest, _⟩ ← expect "," rest
    let (args, ⟨rest, _⟩) ← moreArguments rest
    return (arg :: args, ⟨rest, by omega⟩)
termination_by (ts.length, 6 + levels.length)

/-- The items of an array after the opening bracket, or after a comma. -/
def items (ts : Lexemes) : Step (List Expr) ts :=
  match take? "]" ts with
  | some rest => .ok ([], rest)
  | none => do
    let (item, ⟨rest, _⟩) ← statement ts
    match take? "]" rest with
    | some ⟨rest, _⟩ => return ([item], ⟨rest, by omega⟩)
    | none =>
      let ⟨rest, _⟩ ← expect "," rest
      let (later, ⟨rest, _⟩) ← items rest
      return (item :: later, ⟨rest, by omega⟩)
termination_by (ts.length, 6 + levels.length)

/-- The entries of an object after the opening brace, or after a comma. -/
def entries (ts : Lexemes) : Step (List (String × Expr)) ts :=
  match take? "\x7d" ts with
  | some rest => .ok ([], rest)
  | none => do
    let (key, ⟨rest, _⟩) ← entryKey ts
    let (value, ⟨rest, _⟩) ← entryValue key rest
    match take? "\x7d" rest with
    | some ⟨rest, _⟩ => return ([(key, value)], ⟨rest, by omega⟩)
    | none =>
      let ⟨rest, _⟩ ← expect "," rest
      let (later, ⟨rest, _⟩) ← entries rest
      return ((key, value) :: later, ⟨rest, by omega⟩)
termination_by (ts.length, 6 + levels.length)

/-- The value of an entry: an expression after a colon, or the name that is its key. -/
def entryValue (key : String) (ts : Lexemes) : Except ParseFault (Expr × NoLonger ts) :=
  match take? ":" ts with
  | some ⟨rest, _⟩ => do
    let (value, ⟨rest, _⟩) ← statement rest
    return (value, ⟨rest, by omega⟩)
  | none => .ok (.ident key, ⟨ts, Nat.le_refl _⟩)
termination_by (ts.length, 0)

/-- A literal, a name, or an expression in brackets. -/
def operand (ts : Lexemes) : Step Expr ts :=
  match ts with
  | [] => .error (.unexpected none)
  | (.number x, _) :: rest => .ok (.number x, ⟨rest, Nat.lt_succ_self _⟩)
  | (.string s, _) :: rest => .ok (.string s, ⟨rest, Nat.lt_succ_self _⟩)
  | (.word name, _) :: rest => .ok (wordExpr name, ⟨rest, Nat.lt_succ_self _⟩)
  | (.punct "(", _) :: rest => do
    let (inner, ⟨rest, _⟩) ← statement rest
    let ⟨rest, _⟩ ← expect ")" rest
    return (inner, ⟨rest, by simp only [List.length_cons]; omega⟩)
  | (.punct "[", _) :: rest => do
    let (elements, ⟨rest, _⟩) ← items rest
    return (.array elements, ⟨rest, by simp only [List.length_cons]; omega⟩)
  | (.punct "\x7b", _) :: rest => do
    let (fields, ⟨rest, _⟩) ← entries rest
    return (.object fields, ⟨rest, by simp only [List.length_cons]; omega⟩)
  | (.punct p, offset) :: _ => .error (.unexpected (some (.punct p, offset)))
termination_by (ts.length, 0)

end

/-! ## Programs -/

/-- Statements separated by semicolons. -/
def program (ts : Lexemes) : Except ParseFault Program :=
  match ts with
  | [] => .ok []
  | (.punct ";", _) :: rest => program rest
  | t :: rest =>
    match statement (t :: rest) with
    | .error fault => .error fault
    | .ok (first, ⟨[], _⟩) => .ok [first]
    | .ok (first, ⟨next :: more, _⟩) =>
      match take? ";" (next :: more) with
      | some ⟨more, _⟩ => (program more).map (first :: ·)
      | none => .error (.unexpected (some next))
termination_by ts.length
decreasing_by all_goals (simp only [List.length_cons] at *; omega)

/-- The program that a text writes. -/
def Program.parse (source : String) : Except ParseFault Program :=
  match Lexeme.split source with
  | .error fault => .error (.lexical fault)
  | .ok ts => program ts

end TemplateEngine
