import TemplateEngine.Builtins
import TemplateEngine.Expr.Operators

/-!
# `Expr` · Evaluation

Two walks over an expression: one that cannot wait (`Expr.eval`), and one that waits for promises
at each `await` (`Expr.evalAwaiting`) and leaves the parts without one to the first.

* **Chains.** Members, keys and calls form chains. An optional link on a missing value ends its
  whole chain, which is then `undefined`; `walk` gives nothing for such a chain. The right end of
  the chain is the outermost expression, so both walks are recursions on the tree.
* **Order of effects**: operands from left to right; in an assignment first the value, then the
  object, then the key.
* **Waiting** is an argument, because a promise may stand for the rendering of a template.
-/

namespace TemplateEngine

open Render

variable {σ : Type}

/-! ## Single steps -/

/-- The value of a name: the data first, then the names beside it. -/
def lookup (scope : Scope) (name : String) : Render σ Value :=
  withGraph fun graph =>
    if graph.has scope.data name then graph.read scope.data name
    else graph.read scope.builtins name

/-- The value of a chain; a chain that was ended is `undefined`. -/
def settle (chain : Render σ (Option Value)) : Render σ Value := do
  return (← chain).getD .undefined

/-- Goes on with the value of a chain unless it was ended or an optional link ends it here. -/
def link (chain : Render σ (Option Value)) (optional : Bool)
    (next : Value → Render σ Value) : Render σ (Option Value) := do
  match ← chain with
  | none => return none
  | some value => if optional && value.isNullish then return none else return some (← next value)

/-- A member of a value, which the expression `source` gave. -/
def readMember (value : Value) (key : String) (source : Expr) : Render σ Value := do
  match ← withGraph fun graph => graph.memberOf value key with
  | .ok member => return member
  | .error _ => raise (.expression (.noMemberOf key value.display source.describe))

/-- Calls a value, which the expression `source` gave. -/
def callValue (host : Host σ) (value : Value) (args : List Value) (source : Expr) :
    Render σ Value :=
  match value with
  | .function id => call host id args
  | _ => raise (.expression (.notFunction source.describe))

/-- Sets a member of a value. -/
def assignMember (holder : Value) (key : String) (value : Value) : Render σ Value :=
  match holder with
  | .object id => do
    changeGraph fun graph => ((), graph.write id key value)
    return value
  | other => raise (.expression (.notAssignable key other.typeName))

/-- Sets a name of the data. -/
def assignName (scope : Scope) (name : String) (value : Value) : Render σ Value := do
  changeGraph fun graph => ((), graph.write scope.data name value)
  return value

/-- Makes the object of evaluated entries, of which the last with one key counts. -/
def makeObject (entries : List (String × Value)) : Render σ Value := do
  return .object (← changeGraph fun graph => graph.newObject (.ofList entries))

namespace Expr

/-! ## Without waiting -/

mutual

/-- The value of an expression, or nothing for a chain that an optional link ended. -/
def walk (host : Host σ) (scope : Scope) : Expr → Render σ (Option Value)
  | .number x => return some (.number x)
  | .string s => return some (.string s)
  | .bool b => return some (.bool b)
  | .null => return some .null
  | .undefined => return some .undefined
  | .root => return some (.object scope.data)
  | .ident name => return some (← lookup scope name)
  | .array items => return some (.array (← walkItems host scope items))
  | .object entries => return some (← makeObject (← walkEntries host scope entries))
  | .member holder name optional =>
    link (walk host scope holder) optional fun value => readMember value name holder
  | .index holder key optional =>
    link (walk host scope holder) optional fun value => do
      let key ← settle (walk host scope key)
      readMember value key.display holder
  | .call callee args optional =>
    link (walk host scope callee) optional fun value => do
      let args ← walkItems host scope args
      callValue host value args callee
  | .unary op operand => return some (op.apply (← settle (walk host scope operand)))
  | .await _ => raise (.expression .strayAwait)
  | .binary op left right => do
    let left ← settle (walk host scope left)
    let right ← settle (walk host scope right)
    return some (op.apply left right)
  | .logical op left right => do
    let left ← settle (walk host scope left)
    if op.isDecided left then return some left else some <$> settle (walk host scope right)
  | .conditional test consequent alternate => do
    let test ← settle (walk host scope test)
    if test.truthy then some <$> settle (walk host scope consequent)
    else some <$> settle (walk host scope alternate)
  | .assign (.ident name) value => do
    let value ← settle (walk host scope value)
    some <$> assignName scope name value
  | .assign (.member holder name _) value => do
    let value ← settle (walk host scope value)
    let holder ← settle (walk host scope holder)
    some <$> assignMember holder name value
  | .assign (.index holder key _) value => do
    let value ← settle (walk host scope value)
    let holder ← settle (walk host scope holder)
    let key ← settle (walk host scope key)
    some <$> assignMember holder key.display value
  | .assign target value => do
    let _ ← settle (walk host scope value)
    raise (.expression (.badTarget target.describe))

/-- The values of expressions from left to right. -/
def walkItems (host : Host σ) (scope : Scope) : List Expr → Render σ (List Value)
  | [] => return []
  | item :: rest => do
    let value ← settle (walk host scope item)
    let values ← walkItems host scope rest
    return value :: values

/-- The values of entries from left to right. -/
def walkEntries (host : Host σ) (scope : Scope) :
    List (String × Expr) → Render σ (List (String × Value))
  | [] => return []
  | (key, e) :: rest => do
    let value ← settle (walk host scope e)
    let values ← walkEntries host scope rest
    return (key, value) :: values

end

/-- The value of an expression in which nothing is waited for. -/
def eval (host : Host σ) (scope : Scope) (e : Expr) : Render σ Value := settle (walk host scope e)

/-! ## With waiting -/

/-- Waits for a value if it is a promise. -/
def awaitValue (wait : PromiseId → Render σ Value) (value : Value) : Render σ Value :=
  match value with
  | .promise id => wait id
  | other => return other

/-- The value of an expression whose chain is given: expressions without an `await` are left to the
walk that cannot wait. -/
def whole (host : Host σ) (scope : Scope) (e : Expr) (chain : Render σ (Option Value)) :
    Render σ Value :=
  if e.containsAwait then settle chain else eval host scope e

mutual

/-- The value of an expression, or nothing for a chain that an optional link ended. The members,
keys and calls of a chain are all visited here; a part that is no chain is, if it holds no
`await`, left to the walk that cannot wait. -/
def walkAwaiting (host : Host σ) (wait : PromiseId → Render σ Value) (scope : Scope) :
    Expr → Render σ (Option Value)
  | .await operand => do
    let value ← whole host scope operand (walkAwaiting host wait scope operand)
    some <$> awaitValue wait value
  | .member holder name optional =>
    link (walkAwaiting host wait scope holder) optional fun value => readMember value name holder
  | .index holder key optional =>
    link (walkAwaiting host wait scope holder) optional fun value => do
      let key ← whole host scope key (walkAwaiting host wait scope key)
      readMember value key.display holder
  | .call callee args optional =>
    link (walkAwaiting host wait scope callee) optional fun value => do
      let args ← walkItemsAwaiting host wait scope args
      callValue host value args callee
  | .array items =>
    if anyAwait items then return some (.array (← walkItemsAwaiting host wait scope items))
    else some <$> eval host scope (.array items)
  | .object entries =>
    if anyEntryAwait entries then
      return some (← makeObject (← walkEntriesAwaiting host wait scope entries))
    else some <$> eval host scope (.object entries)
  | .unary op operand =>
    if operand.containsAwait then
      return some (op.apply (← whole host scope operand (walkAwaiting host wait scope operand)))
    else some <$> eval host scope (.unary op operand)
  | .binary op left right =>
    if left.containsAwait || right.containsAwait then do
      let left ← whole host scope left (walkAwaiting host wait scope left)
      let right ← whole host scope right (walkAwaiting host wait scope right)
      return some (op.apply left right)
    else some <$> eval host scope (.binary op left right)
  | .logical op left right =>
    if left.containsAwait || right.containsAwait then do
      let left ← whole host scope left (walkAwaiting host wait scope left)
      if op.isDecided left then return some left
      else some <$> whole host scope right (walkAwaiting host wait scope right)
    else some <$> eval host scope (.logical op left right)
  | .conditional test consequent alternate =>
    if test.containsAwait || consequent.containsAwait || alternate.containsAwait then do
      let test ← whole host scope test (walkAwaiting host wait scope test)
      if test.truthy then
        some <$> whole host scope consequent (walkAwaiting host wait scope consequent)
      else some <$> whole host scope alternate (walkAwaiting host wait scope alternate)
    else some <$> eval host scope (.conditional test consequent alternate)
  | .assign (.ident name) value =>
    if value.containsAwait then do
      let value ← whole host scope value (walkAwaiting host wait scope value)
      some <$> assignName scope name value
    else some <$> eval host scope (.assign (.ident name) value)
  | .assign (.member holder name optional) value =>
    if holder.containsAwait || value.containsAwait then do
      let value ← whole host scope value (walkAwaiting host wait scope value)
      let holder ← whole host scope holder (walkAwaiting host wait scope holder)
      some <$> assignMember holder name value
    else some <$> eval host scope (.assign (.member holder name optional) value)
  | .assign (.index holder key optional) value =>
    if holder.containsAwait || key.containsAwait || value.containsAwait then do
      let value ← whole host scope value (walkAwaiting host wait scope value)
      let holder ← whole host scope holder (walkAwaiting host wait scope holder)
      let key ← whole host scope key (walkAwaiting host wait scope key)
      some <$> assignMember holder key.display value
    else some <$> eval host scope (.assign (.index holder key optional) value)
  | .assign target value =>
    if target.containsAwait || value.containsAwait then do
      let _ ← whole host scope value (walkAwaiting host wait scope value)
      raise (.expression (.badTarget target.describe))
    else some <$> eval host scope (.assign target value)
  | leaf => some <$> eval host scope leaf

/-- The values of expressions from left to right. -/
def walkItemsAwaiting (host : Host σ) (wait : PromiseId → Render σ Value) (scope : Scope) :
    List Expr → Render σ (List Value)
  | [] => return []
  | item :: rest => do
    let value ← whole host scope item (walkAwaiting host wait scope item)
    let values ← walkItemsAwaiting host wait scope rest
    return value :: values

/-- The values of entries from left to right. -/
def walkEntriesAwaiting (host : Host σ) (wait : PromiseId → Render σ Value) (scope : Scope) :
    List (String × Expr) → Render σ (List (String × Value))
  | [] => return []
  | (key, e) :: rest => do
    let value ← whole host scope e (walkAwaiting host wait scope e)
    let values ← walkEntriesAwaiting host wait scope rest
    return (key, value) :: values

end

/-- The value of an expression in which promises are waited for. -/
def evalAwaiting (host : Host σ) (wait : PromiseId → Render σ Value) (scope : Scope) (e : Expr) :
    Render σ Value :=
  whole host scope e (walkAwaiting host wait scope e)

end Expr

end TemplateEngine
