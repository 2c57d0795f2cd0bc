import TemplateEngine.Decimal.Notation
import TemplateEngine.Decimal.Reading
import TemplateEngine.Text.Blank

/-!
# Values

What expressions compute with.

* **`Value`**: plain values, arrays of values, and references to the objects, functions and
  promises of a value graph. Two references are the same thing iff they are equal.
* **Conversions** `display`, `toNumber`, `truthy`, `typeName` need no graph, because an object is
  always shown in the same way.
* **Equality** is strict (`strictEquals`: same kind and same value; arrays and promises equal
  nothing) or loose (`looseEquals`: `null` and `undefined` are equal, numbers are compared with the
  texts that write them, truth values count as numbers).
-/

namespace TemplateEngine

open TemplateEngine.Text

/-- An object of a value graph. -/
structure ObjectId where
  /-- Its place in the graph. -/
  index : Nat
  deriving Repr, DecidableEq, Inhabited

/-- A function of a value graph. -/
structure FunctionId where
  /-- Its place in the graph. -/
  index : Nat
  deriving Repr, DecidableEq, Inhabited

/-- A promise of a value graph. -/
structure PromiseId where
  /-- Its place in the graph. -/
  index : Nat
  deriving Repr, DecidableEq, Inhabited

/-- A value of an expression. -/
inductive Value where
  /-- Nothing was given. -/
  | undefined
  /-- Nothing, said explicitly. -/
  | null
  /-- A truth value. -/
  | bool (b : Bool)
  /-- A number. -/
  | number (x : Float)
  /-- A text. -/
  | string (s : String)
  /-- Values in order; an array never changes. -/
  | array (items : List Value)
  /-- An object, which is shared by all that refer to it. -/
  | object (id : ObjectId)
  /-- A function. -/
  | function (id : FunctionId)
  /-- A value that is computed when it is first waited for. -/
  | promise (id : PromiseId)
  deriving Repr, Inhabited

namespace Value

/-- Neither a value nor an object. -/
def isNullish : Value → Bool
  | .undefined => true
  | .null => true
  | _ => false

/-- A function. -/
def isCallable : Value → Bool
  | .function _ => true
  | _ => false

/-- What a value counts as in a condition. -/
def truthy : Value → Bool
  | .undefined => false
  | .null => false
  | .bool b => b
  | .number x => !(x == 0.0) && x == x
  | .string s => !s.isEmpty
  | _ => true

/-- The name of a value's type. -/
def typeName : Value → String
  | .undefined => "undefined"
  | .bool _ => "boolean"
  | .number _ => "number"
  | .string _ => "string"
  | .function _ => "function"
  | _ => "object"

mutual

/-- The text of a value. -/
def display : Value → String
  | .undefined => "undefined"
  | .null => "null"
  | .bool b => if b then "true" else "false"
  | .number x => Decimal.numberText x
  | .string s => s
  | .array items => String.intercalate "," (displayItems items)
  | .object _ => "[object Object]"
  | .function _ => "function"
  | .promise _ => "[object Object]"

/-- The texts of the items of an array; missing ones are empty. -/
def displayItems : List Value → List String
  | [] => []
  | item :: rest => (if item.isNullish then "" else display item) :: displayItems rest

end

/-- The text of a value, which is empty for a missing one. -/
def text (value : Value) : String := if value.isNullish then "" else value.display

/-- The number that a text writes, blanks around it left out. -/
def numberOf? (s : String) : Option Float := Decimal.parse? (trim s.toList)

/-- The number that a value counts as. -/
def toNumber : Value → Float
  | .null => 0.0
  | .bool b => if b then 1.0 else 0.0
  | .number x => x
  | .string s => if (trim s.toList).isEmpty then 0.0 else (numberOf? s).getD (0.0 / 0.0)
  | _ => 0.0 / 0.0

/-- Same kind and same value. -/
def strictEquals : Value → Value → Bool
  | .undefined, .undefined => true
  | .null, .null => true
  | .bool a, .bool b => a == b
  | .number x, .number y => x == y
  | .string s, .string t => s == t
  | .object a, .object b => a == b
  | .function a, .function b => a == b
  | _, _ => false

/-- A text writes a number. -/
def writes (s : String) (x : Float) : Bool :=
  match numberOf? s with
  | some y => x == y
  | none => false

/-- A number and any value are loosely equal. -/
def numberEquals (x : Float) : Value → Bool
  | .number y => x == y
  | .string s => writes s x
  | _ => false

/-- Equal, or equal after a conversion to numbers. -/
def looseEquals (a b : Value) : Bool :=
  if a.isNullish && b.isNullish then true
  else
    match a, b with
    | .number x, .string s => writes s x
    | .string s, .number x => writes s x
    | .bool p, .bool q => p == q
    | .bool p, other => numberEquals (if p then 1.0 else 0.0) other
    | other, .bool p => numberEquals (if p then 1.0 else 0.0) other
    | a, b => strictEquals a b

end Value

end TemplateEngine
