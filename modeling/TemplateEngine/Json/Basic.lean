import TemplateEngine.Dictionary

/-!
# `Json` · Values

JSON values with their numbers kept as they are written: an integer stays an integer.

* **`Json`** has the entries of an object in a list, which readers keep sorted by key.
* **Views** `entry?`, `string?`, `array?` and so on give the part of a value that a caller expects.
-/

namespace TemplateEngine

/-- A JSON number. -/
inductive Json.Number where
  /-- A number written without point and exponent that fits in 64 bits. -/
  | int (n : Int)
  /-- Any other number. -/
  | float (x : Float)
  deriving Repr, Inhabited

/-- A JSON value. -/
inductive Json where
  /-- `null` -/
  | null
  /-- `true` or `false`. -/
  | bool (b : Bool)
  /-- A number. -/
  | num (n : Json.Number)
  /-- A text. -/
  | str (s : String)
  /-- An array. -/
  | arr (items : List Json)
  /-- An object. -/
  | obj (entries : List (String × Json))
  deriving Repr, Inhabited

namespace Json

/-- The double of a number. -/
def Number.toFloat : Number → Float
  | .int n => Float.ofInt n
  | .float x => x

/-- The entries of an object; other values have none. -/
def entries : Json → List (String × Json)
  | .obj es => es
  | _ => []

/-- The value at a key of an object. -/
def entry? (key : String) (json : Json) : Option Json := json.entries.lookup key

/-- A text. -/
def string? : Json → Option String
  | .str s => some s
  | _ => none

/-- The items of an array. -/
def array? : Json → Option (List Json)
  | .arr items => some items
  | _ => none

/-- A natural number. -/
def nat? : Json → Option Nat
  | .num (.int n) => if 0 ≤ n then some n.toNat else none
  | _ => none

/-- A truth value. -/
def bool? : Json → Option Bool
  | .bool b => some b
  | _ => none

/-- An object. -/
def isObject : Json → Bool
  | .obj _ => true
  | _ => false

end Json

end TemplateEngine
