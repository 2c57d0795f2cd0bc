import TemplateEngine.Json.Printer
import TemplateEngine.Store
import TemplateEngine.Text.Case
import TemplateEngine.Text.Html

/-!
# Functions and what templates can call

* **`call`** applies a function: the library's own ones at once, native ones through the host. A
  function that gives a promise computes nothing yet.
* **`standardBuiltins`** are the functions that do not depend on the invocation; `viewBuiltins`
  adds the attributes of the invoking tag and the redirect of the request.
-/

namespace TemplateEngine

open Render TemplateEngine.Text

variable {σ : Type}

/-- The first argument; `undefined` without one. -/
def firstArg (args : List Value) : Value := args.head?.getD .undefined

/-- A function of texts on the text of the first argument. -/
def onText (f : List Char → List Char) (args : List Value) : Value :=
  .string (String.ofList (f (firstArg args).text.toList))

/-- Applies what a function does. -/
def Callable.call (host : Host σ) (callable : Callable) (args : List Value) : Render σ Value :=
  match callable with
  | .json => do
    match ← withGraph fun graph => graph.toJson? (firstArg args) with
    | some value => return .string value.render
    | none => throw .exhausted
  | .upper => return onText toUpper args
  | .lower => return onText toLower args
  | .trim => return onText Text.trim args
  | .escape => return onText escapeHtml args
  | .attribute attributes =>
    return ((attributes.lookup (firstArg args).text).map .string).getD .undefined
  | .redirect request => do
    let target := (firstArg args).text
    if target.isEmpty then raise (.expression .noTarget)
    askRedirect request target
    return .undefined
  | .content slot => do
    return .promise (← changeGraph fun graph => graph.newPromise (.pending (.content slot)))
  | .native id => ofNative (host.call id args)
  | .nativeAsync id => do
    return .promise (← changeGraph fun graph => graph.newPromise (.pending (.native id args)))

/-- Applies a function. -/
def call (host : Host σ) (id : FunctionId) (args : List Value) : Render σ Value := do
  match ← withGraph fun graph => graph.functions[id.index]? with
  | some callable => callable.call host args
  | none => return .undefined

/-! ## Names beside the data -/

/-- The functions that do not depend on the invocation. -/
def standardCallables : List (String × Callable) :=
  [("json", .json), ("upper", .upper), ("lower", .lower), ("trim", .trim), ("escape", .escape)]

/-- The members of an object with text members, in which the last of two with one name counts. -/
def textMembers (attributes : List (String × String)) : Dictionary Value :=
  .ofList (attributes.map fun (name, value) => (name, .string value))

/-- Makes the names that do not depend on the invocation. -/
def standardBuiltins : Render σ ObjectId :=
  changeGraph fun graph => graph.newLibrary standardCallables

/-- Makes the names of an invocation with attributes in a request. -/
def viewBuiltins (attributes : List (String × String)) (request : RequestId) :
    Render σ ObjectId :=
  changeGraph fun graph =>
    let (attrs, graph) := graph.newObject (textMembers attributes)
    let (builtins, graph) := graph.newLibrary
      (standardCallables ++ [("attr", .attribute attributes), ("redirect", .redirect request)])
    (builtins, graph.write builtins "attrs" (.object attrs))

end TemplateEngine
