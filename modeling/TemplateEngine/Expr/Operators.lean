import TemplateEngine.Decimal.Remainder
import TemplateEngine.Expr.Basic
import TemplateEngine.Value

/-!
# `Expr` · Operators

What the operators give for values, and how an expression is named in a message.

* **Sums**: `+` joins texts if one side is a text, an array or an object, and adds numbers
  otherwise.
* **Order**: two texts are compared by their characters, other values as numbers; a value that is
  not a number is neither smaller nor larger.
-/

namespace TemplateEngine

/-- The value of an operator with one operand. -/
def UnaryOp.apply (value : Value) : UnaryOp → Value
  | not => .bool (!value.truthy)
  | neg => .number (-value.toNumber)
  | plus => .number value.toNumber
  | typeOf => .string value.typeName

/-- A value that makes a sum a text. -/
def Value.isTextual : Value → Bool
  | .string _ => true
  | .array _ => true
  | .object _ => true
  | _ => false

/-- The order of two values, if they have one. -/
def Value.compare (left right : Value) : Option Ordering :=
  match left, right with
  | .string s, .string t => some (if s < t then .lt else if s = t then .eq else .gt)
  | left, right =>
    let x := left.toNumber
    let y := right.toNumber
    if x < y then some .lt
    else if x == y then some .eq
    else if y < x then some .gt
    else none

/-- The sum of two values. -/
def Value.sum (left right : Value) : Value :=
  if left.isTextual || right.isTextual then .string (left.display ++ right.display)
  else .number (left.toNumber + right.toNumber)

/-- The value of an operator that evaluates both operands. -/
def BinaryOp.apply (left right : Value) : BinaryOp → Value
  | add => left.sum right
  | sub => .number (left.toNumber - right.toNumber)
  | mul => .number (left.toNumber * right.toNumber)
  | div => .number (left.toNumber / right.toNumber)
  | rem => .number (Decimal.remainder left.toNumber right.toNumber)
  | looseEq => .bool (left.looseEquals right)
  | looseNe => .bool (!left.looseEquals right)
  | strictEq => .bool (left.strictEquals right)
  | strictNe => .bool (!left.strictEquals right)
  | lt => .bool (left.compare right == some .lt)
  | le => .bool (left.compare right == some .lt || left.compare right == some .eq)
  | gt => .bool (left.compare right == some .gt)
  | ge => .bool (left.compare right == some .gt || left.compare right == some .eq)

/-- The left operand decides, and the right one is left out. -/
def LogicalOp.isDecided (left : Value) : LogicalOp → Bool
  | and => !left.truthy
  | or => left.truthy
  | nullish => !left.isNullish

/-- A short text for an expression in a message. -/
def Expr.describe : Expr → String
  | .root => "$"
  | .ident name => name
  | .member holder name optional => describe holder ++ (if optional then "?." else ".") ++ name
  | .index holder _ _ => describe holder ++ "[...]"
  | .call callee _ _ => describe callee ++ "(...)"
  | .string s => "'" ++ s ++ "'"
  | .number x => Decimal.numberText x
  | _ => "expression"

end TemplateEngine
