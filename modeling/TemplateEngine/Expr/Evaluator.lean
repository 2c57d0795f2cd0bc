import TemplateEngine.Expr.Eval
import TemplateEngine.Expr.RootPath

/-!
# `Expr` · Evaluators

From the text of an expression to a value that is neither a function nor a promise.

* **`Evaluator`** runs a rooted text, with or without waiting. The library's own one
  (`Evaluator.interpreter`) parses the text, or finds the program from before, and gives the value
  of the last statement.
* **Unwrapping** (`unwrap`): a function is called without arguments and a promise is waited for, at
  most `unwrapLimit` times.
* **`evaluateValue`** writes the roots, runs and unwraps. A redirect that the request has asked for
  ends it, before anything else is said about its outcome; other errors are told with both texts of
  the expression.
-/

namespace TemplateEngine

open Render TemplateEngine.Text

variable {σ : Type}

/-- Something that runs the rooted text of an expression. -/
structure Evaluator (σ : Type) where
  /-- The value of a text in which nothing is waited for. -/
  run : String → Scope → Render σ Value
  /-- The value of a text in which promises are waited for. -/
  runAwaiting : (PromiseId → Render σ Value) → String → Scope → Render σ Value

/-- The value of the last statement of a program; `last` if there is none. -/
def runStatements (eval : Expr → Render σ Value) (last : Value) : Program → Render σ Value
  | [] => return last
  | statement :: rest => do runStatements eval (← eval statement) rest

/-- The evaluator that parses and walks expressions. -/
def Evaluator.interpreter (host : Host σ) : Evaluator σ where
  run source scope := do
    runStatements (Expr.eval host scope) .undefined (← programOf source)
  runAwaiting wait source scope := do
    runStatements (Expr.evalAwaiting host wait scope) .undefined (← programOf source)

/-- How many functions are called and promises waited for to get at a value. -/
def unwrapLimit : Nat := 64

/-- Calls functions and waits for promises until there is a plain value; `steps` are left. -/
def unwrap (host : Host σ) (wait : PromiseId → Render σ Value) : Nat → Value → Render σ Value
  | 0, _ => raise (.expression (.unsettled unwrapLimit))
  | steps + 1, value =>
    match value with
    | .function id => do unwrap host wait steps (← call host id [])
    | .promise id => do unwrap host wait steps (← wait id)
    | plain => return plain

/-- The plain value of a rooted text. -/
def runRooted (host : Host σ) (evaluator : Evaluator σ) (wait : PromiseId → Render σ Value)
    (scope : Scope) (rooted : String) : Render σ Value := do
  let value ←
    if RootPath.usesAwait rooted then evaluator.runAwaiting wait rooted scope
    else evaluator.run rooted scope
  unwrap host wait unwrapLimit value

/-- An error with the expression that failed; a redirect stays what it is. -/
def evaluationError (source rooted : String) (error : Error) : Error :=
  if error.isRedirect then error
  else .evaluation (trimString source) (trimString rooted) error

/-- The plain value of an expression. -/
def evaluateValue (host : Host σ) (evaluator : Evaluator σ) (wait : PromiseId → Render σ Value)
    (scope : Scope) (source : String) : Render σ Value := do
  let rooted := RootPath.writeRoots source
  note (.started scope.request source)
  let result ← attempt (runRooted host evaluator wait scope rooted)
  note (.ended scope.request)
  checkRedirect scope.request
  match result with
  | .ok value => return value
  | .error error => raise (evaluationError source rooted error)

end TemplateEngine
