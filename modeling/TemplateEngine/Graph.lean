import TemplateEngine.Dictionary
import TemplateEngine.Error
import TemplateEngine.Json.Printer
import TemplateEngine.Value

/-!
# The value graph

The objects, functions and promises that values refer to.

* **`Graph`** holds them in the order in which they were made; an identifier is a place in it.
  Objects are changed in place, which is how all that refer to one see the same.
* **Functions** are those of the library (`Callable`) and native ones, which a host numbers.
* **Promises** are computed when they are first waited for, and at most once (`PromiseState`).
* **JSON**: `ofJson` makes the objects of a JSON value; `toJson?` is the JSON of a value, unless an
  object holds itself. Functions and missing values are left out of objects.
-/

namespace TemplateEngine

/-- A request. -/
structure RequestId where
  /-- Its place among the requests. -/
  index : Nat
  deriving Repr, DecidableEq, Inhabited

/-- A content slot. -/
structure SlotId where
  /-- Its place among the slots. -/
  index : Nat
  deriving Repr, DecidableEq, Inhabited

/-- A native function, as its host numbers it. -/
abbrev NativeId := Nat

/-- What a function does. -/
inductive Callable where
  /-- The JSON text of a value. -/
  | json
  /-- A text in upper case. -/
  | upper
  /-- A text in lower case. -/
  | lower
  /-- A text without the blanks at its ends. -/
  | trim
  /-- A text with the special characters of HTML escaped. -/
  | escape
  /-- The value of the first attribute with a name. -/
  | attribute (attributes : List (String × String))
  /-- Asks for a redirect of a request. -/
  | redirect (request : RequestId)
  /-- A promise of the text of a content slot. -/
  | content (slot : SlotId)
  /-- A function of the host. -/
  | native (id : NativeId)
  /-- A function of the host that gives a promise. -/
  | nativeAsync (id : NativeId)
  deriving Repr, Inhabited

/-- The computation of a promise. -/
inductive Work where
  /-- A call of a function of the host. -/
  | native (id : NativeId) (args : List Value)
  /-- The text of a content slot. -/
  | content (slot : SlotId)
  deriving Repr, Inhabited

/-- How far the computation of a promise is. -/
inductive PromiseState where
  /-- Nobody has waited for it yet. -/
  | pending (work : Work)
  /-- It is being computed. -/
  | running
  /-- It ended with a value or an error. -/
  | settled (result : Except Error Value)
  deriving Inhabited

/-- Objects, functions and promises. -/
structure Graph where
  /-- The objects. -/
  objects : Array (Dictionary Value)
  /-- The functions. -/
  functions : Array Callable
  /-- The promises. -/
  promises : Array PromiseState
  deriving Inhabited

namespace Graph

/-- Nothing. -/
def empty : Graph := ⟨#[], #[], #[]⟩

/-! ## Objects -/

/-- The members of an object. -/
def members (graph : Graph) (id : ObjectId) : Dictionary Value :=
  graph.objects[id.index]?.getD .empty

/-- A member of an object; a missing one is `undefined`. -/
def read (graph : Graph) (id : ObjectId) (key : String) : Value :=
  ((graph.members id).find? key).getD .undefined

/-- An object has a member. -/
def has (graph : Graph) (id : ObjectId) (key : String) : Bool := (graph.members id).contains key

/-- Sets a member of an object. -/
def write (graph : Graph) (id : ObjectId) (key : String) (value : Value) : Graph :=
  match graph with
  | ⟨objects, functions, promises⟩ =>
    ⟨objects.modify id.index (·.insert key value), functions, promises⟩

/-- Makes an object. -/
def newObject (graph : Graph) (members : Dictionary Value) : ObjectId × Graph :=
  match graph with
  | ⟨objects, functions, promises⟩ =>
    (⟨objects.size⟩, ⟨objects.push members, functions, promises⟩)

/-! ## Functions and promises -/

/-- Makes a function. -/
def newFunction (graph : Graph) (callable : Callable) : FunctionId × Graph :=
  match graph with
  | ⟨objects, functions, promises⟩ =>
    (⟨functions.size⟩, ⟨objects, functions.push callable, promises⟩)

/-- Makes a promise. -/
def newPromise (graph : Graph) (state : PromiseState) : PromiseId × Graph :=
  match graph with
  | ⟨objects, functions, promises⟩ =>
    (⟨promises.size⟩, ⟨objects, functions, promises.push state⟩)

/-- The state of a promise. -/
def promise? (graph : Graph) (id : PromiseId) : Option PromiseState := graph.promises[id.index]?

/-- Changes the state of a promise. -/
def setPromise (graph : Graph) (id : PromiseId) (state : PromiseState) : Graph :=
  match graph with
  | ⟨objects, functions, promises⟩ =>
    ⟨objects, functions, promises.modify id.index fun _ => state⟩

/-- Makes a function that is a member under a name. -/
def addFunction (members : Dictionary Value × Graph) (named : String × Callable) :
    Dictionary Value × Graph :=
  let (id, graph) := members.2.newFunction named.2
  (members.1.insert named.1 (.function id), graph)

/-- Makes several functions, the members of a new object. -/
def newLibrary (graph : Graph) (callables : List (String × Callable)) : ObjectId × Graph :=
  let (members, graph) := callables.foldl addFunction (Dictionary.empty, graph)
  graph.newObject members

/-! ## Members of values -/

/-- A member of a value. Texts and arrays have a length and their parts by number; `null` and
`undefined` have no members. -/
def memberOf (graph : Graph) (value : Value) (key : String) : Except ExpressionFault Value :=
  match value with
  | .undefined => .error (.noMember key value.display)
  | .null => .error (.noMember key value.display)
  | .object id => .ok (graph.read id key)
  | .array items =>
    if key = "length" then .ok (.number (Float.ofNat items.length))
    else .ok (((Decimal.index? key.toList).bind (items[·]?)).getD .undefined)
  | .string s =>
    if key = "length" then .ok (.number (Float.ofNat s.length))
    else
      .ok ((((Decimal.index? key.toList).bind (s.toList[·]?)).map fun c =>
        .string (String.singleton c)).getD .undefined)
  | _ => .ok .undefined

/-! ## JSON -/

mutual

/-- The value of a JSON value, whose objects are made. -/
def ofJson (graph : Graph) : Json → Value × Graph
  | .null => (.null, graph)
  | .bool b => (.bool b, graph)
  | .num n => (.number n.toFloat, graph)
  | .str s => (.string s, graph)
  | .arr items =>
    let (values, graph) := ofJsonItems graph items
    (.array values, graph)
  | .obj entries =>
    let (members, graph) := ofJsonEntries graph .empty entries
    let (id, graph) := graph.newObject members
    (.object id, graph)

/-- The values of JSON values. -/
def ofJsonItems (graph : Graph) : List Json → List Value × Graph
  | [] => ([], graph)
  | item :: rest =>
    let (value, graph) := ofJson graph item
    let (values, graph) := ofJsonItems graph rest
    (value :: values, graph)

/-- The members of an object with JSON entries, added to those before. -/
def ofJsonEntries (graph : Graph) (before : Dictionary Value) :
    List (String × Json) → Dictionary Value × Graph
  | [] => (before, graph)
  | (key, json) :: rest =>
    let (value, graph) := ofJson graph json
    ofJsonEntries graph (before.insert key value) rest

end

/-- The object that holds the data of a request: the JSON object itself, an empty one for `null`,
and otherwise one that has the value under `value`. -/
def dataOfJson (graph : Graph) (json : Json) : ObjectId × Graph :=
  match graph.ofJson json with
  | (.object id, graph) => (id, graph)
  | (.null, graph) => graph.newObject .empty
  | (value, graph) => graph.newObject (Dictionary.empty.insert "value" value)

/-- The JSON of a number: an integer if it is one of 64 bits, and `null` if it is not finite. -/
def numberJson (x : Float) : Json :=
  match Decimal.integer? x with
  | some n =>
    if Decimal.fitsSigned n then .num (.int n) else .num (.float x)
  | none => if Decimal.isFinite x then .num (.float x) else .null

/-- A value that is left out of the JSON of an object. -/
def isOmitted : Value → Bool
  | .undefined => true
  | .function _ => true
  | _ => false

mutual

/-- The JSON of a value, given that of the objects. -/
def jsonOf (object : ObjectId → Option Json) : Value → Option Json
  | .bool b => some (.bool b)
  | .number x => some (numberJson x)
  | .string s => some (.str s)
  | .array items => (jsonOfItems object items).map .arr
  | .object id => object id
  | _ => some .null

/-- The JSON of values, given that of the objects. -/
def jsonOfItems (object : ObjectId → Option Json) : List Value → Option (List Json)
  | [] => some []
  | item :: rest => do
    let json ← jsonOf object item
    let later ← jsonOfItems object rest
    return json :: later

end

/-- The JSON entries of members, given the JSON of the objects. -/
def jsonOfMembers (object : ObjectId → Option Json) :
    List (String × Value) → Option (List (String × Json))
  | [] => some []
  | (key, value) :: rest => do
    if isOmitted value then jsonOfMembers object rest
    else
      let json ← jsonOf object value
      let later ← jsonOfMembers object rest
      return (key, json) :: later

/-- The JSON of an object in which objects are nested at most `depth` deep. -/
def objectJson? (graph : Graph) : Nat → ObjectId → Option Json
  | 0, _ => none
  | depth + 1, id =>
    (jsonOfMembers (objectJson? graph depth) (graph.members id).entries).map .obj

/-- The JSON of a value; none if it has no end, because an object holds itself. Without that,
objects nest at most as deep as there are objects. -/
def toJson? (graph : Graph) (value : Value) : Option Json :=
  jsonOf (objectJson? graph (graph.objects.size + 1)) value

/-- The JSON text of a value; what JSON cannot write is named. -/
def inspect? (graph : Graph) (value : Value) : Option String :=
  match value with
  | .undefined => some "undefined"
  | .function _ => some "[function]"
  | .promise _ => some "[promise]"
  | other => (graph.toJson? other).map Json.render

end Graph

end TemplateEngine
