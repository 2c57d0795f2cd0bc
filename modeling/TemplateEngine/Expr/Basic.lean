/-!
# `Expr` · Expressions

The syntax trees of template expressions.

* **`Expr`** has one constructor per form. A member is read by name (`member`) or by a computed key
  (`index`); reads and calls may be optional, which ends a chain at a missing value.
* **`Expr.containsAwait`** says whether an `await` stands anywhere in a tree; **`Expr.isTarget`**
  which trees may be assigned to.
* **`Program`** is a sequence of statements.
-/

namespace TemplateEngine

/-- Operators with one operand. -/
inductive UnaryOp where
  /-- `!` -/
  | not
  /-- `-` -/
  | neg
  /-- `+` -/
  | plus
  /-- `typeof` -/
  | typeOf
  deriving Repr, DecidableEq, Inhabited

/-- Operators that evaluate both operands. -/
inductive BinaryOp where
  /-- `+` -/
  | add
  /-- `-` -/
  | sub
  /-- `*` -/
  | mul
  /-- `/` -/
  | div
  /-- `%` -/
  | rem
  /-- `==` -/
  | looseEq
  /-- `!=` -/
  | looseNe
  /-- `===` -/
  | strictEq
  /-- `!==` -/
  | strictNe
  /-- `<` -/
  | lt
  /-- `<=` -/
  | le
  /-- `>` -/
  | gt
  /-- `>=` -/
  | ge
  deriving Repr, DecidableEq, Inhabited

/-- Operators that may leave out their right operand. -/
inductive LogicalOp where
  /-- `&&` -/
  | and
  /-- `||` -/
  | or
  /-- `??` -/
  | nullish
  deriving Repr, DecidableEq, Inhabited

/-- A template expression. -/
inductive Expr where
  /-- A number. -/
  | number (x : Float)
  /-- A text. -/
  | string (s : String)
  /-- `true` or `false`. -/
  | bool (b : Bool)
  /-- `null` -/
  | null
  /-- `undefined` -/
  | undefined
  /-- The root of the data, `$`. -/
  | root
  /-- A name. -/
  | ident (name : String)
  /-- `[a, b]` -/
  | array (items : List Expr)
  /-- `a: 1, 'b': 2` in braces, in the order written. -/
  | object (entries : List (String × Expr))
  /-- `object.name`, or with `?.` if optional. -/
  | member (object : Expr) (name : String) (optional : Bool)
  /-- `object[key]`, or with `?.` if optional. -/
  | index (object key : Expr) (optional : Bool)
  /-- `callee(args)`, or with `?.` if optional. -/
  | call (callee : Expr) (args : List Expr) (optional : Bool)
  /-- An operator with one operand. -/
  | unary (op : UnaryOp) (operand : Expr)
  /-- `await operand` -/
  | await (operand : Expr)
  /-- An operator that evaluates both operands. -/
  | binary (op : BinaryOp) (left right : Expr)
  /-- An operator that may leave out its right operand. -/
  | logical (op : LogicalOp) (left right : Expr)
  /-- `test ? consequent : alternate` -/
  | conditional (test consequent alternate : Expr)
  /-- `target = value` -/
  | assign (target value : Expr)
  deriving Repr, Inhabited

/-- A sequence of statements, whose value is that of the last one. -/
abbrev Program := List Expr

namespace Expr

mutual

/-- An `await` stands in the tree. -/
def containsAwait : Expr → Bool
  | .number _ => false
  | .string _ => false
  | .bool _ => false
  | .null => false
  | .undefined => false
  | .root => false
  | .ident _ => false
  | .array items => anyAwait items
  | .object entries => anyEntryAwait entries
  | .member holder _ _ => containsAwait holder
  | .index holder key _ => containsAwait holder || containsAwait key
  | .call callee args _ => containsAwait callee || anyAwait args
  | .unary _ operand => containsAwait operand
  | .await _ => true
  | .binary _ left right => containsAwait left || containsAwait right
  | .logical _ left right => containsAwait left || containsAwait right
  | .conditional test consequent alternate =>
    containsAwait test || containsAwait consequent || containsAwait alternate
  | .assign target value => containsAwait target || containsAwait value

/-- An `await` stands in one of the trees. -/
def anyAwait : List Expr → Bool
  | [] => false
  | e :: rest => containsAwait e || anyAwait rest

/-- An `await` stands in one of the entries. -/
def anyEntryAwait : List (String × Expr) → Bool
  | [] => false
  | (_, e) :: rest => containsAwait e || anyEntryAwait rest

end

/-- A tree that may stand on the left of an assignment: a name or a member that is not optional. -/
def isTarget : Expr → Bool
  | .ident _ => true
  | .member _ _ optional => !optional
  | .index _ _ optional => !optional
  | _ => false

end Expr

end TemplateEngine
