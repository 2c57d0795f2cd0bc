import TemplateEngine.Expr.Evaluator

/-!
# `Expr` · What an evaluation is made of

An evaluation is put together from few kinds of steps: reading the value graph, setting a member,
making an object or a pending promise, asking for a redirect, calling a native function, looking a
program up, failing, and waiting.

* **`Respects host R`**: the relation `R` between computations holds of each of these steps and
  itself, and goes through sequences.
* **`Respects.runRooted`**: then it holds between two evaluations of one expression if it holds
  between their ways to wait. With a relation that looks at one of its sides only, this is what a
  single evaluation ensures.
-/

namespace TemplateEngine

open Render

variable {σ : Type}

/-- A relation that holds of the steps of an evaluation and goes through sequences. -/
structure Respects (host : Host σ) (R : ∀ α : Type, Render σ α → Render σ α → Prop) : Prop where
  /-- A value. -/
  pure : ∀ {α : Type} (a : α), R α (pure a) (pure a)
  /-- A sequence. -/
  bind : ∀ {α β : Type} {x y : Render σ α} {f g : α → Render σ β}, R α x y →
    (∀ a, R β (f a) (g a)) → R β (x >>= f) (y >>= g)
  /-- Reading the graph. -/
  read : ∀ {α : Type} (f : Graph → α), R α (withGraph f) (withGraph f)
  /-- Setting a member. -/
  write : ∀ id key value, R Unit (changeGraph fun graph => ((), graph.write id key value))
    (changeGraph fun graph => ((), graph.write id key value))
  /-- Making an object. -/
  newObject : ∀ members, R ObjectId (changeGraph fun graph => graph.newObject members)
    (changeGraph fun graph => graph.newObject members)
  /-- Making a promise. -/
  newPromise : ∀ work, R PromiseId (changeGraph fun graph => graph.newPromise (.pending work))
    (changeGraph fun graph => graph.newPromise (.pending work))
  /-- Failing. -/
  fault : ∀ {α : Type} fault, R α (raise (.expression fault)) (raise (.expression fault))
  /-- Nesting too deep. -/
  exhausted : ∀ {α : Type}, R α (throw .exhausted) (throw .exhausted)
  /-- Asking for a redirect. -/
  ask : ∀ request target, R Unit (askRedirect request target) (askRedirect request target)
  /-- Calling a native function. -/
  native : ∀ id args, R Value (ofNative (host.call id args)) (ofNative (host.call id args))
  /-- Looking a program up. -/
  program : ∀ source, R Program (programOf source) (programOf source)

namespace Respects

variable {host : Host σ} {R : ∀ α : Type, Render σ α → Render σ α → Prop}

theorem map {α β : Type} (h : Respects host R) {x y : Render σ α} (hxy : R α x y) (f : α → β) :
    R β (f <$> x) (f <$> y) :=
  h.bind hxy fun a => h.pure (f a)

/-! ## Single steps -/

theorem lookup (h : Respects host R) (scope : Scope) (name : String) :
    R Value (lookup scope name) (lookup scope name) :=
  h.read _

theorem settle (h : Respects host R) {x y : Render σ (Option Value)} (hxy : R _ x y) :
    R Value (settle x) (settle y) :=
  h.bind hxy fun _ => h.pure _

theorem link (h : Respects host R) {x y : Render σ (Option Value)} (hxy : R _ x y)
    (optional : Bool) {f g : Value → Render σ Value} (hfg : ∀ value, R Value (f value) (g value)) :
    R _ (link x optional f) (link y optional g) := by
  refine h.bind hxy fun chain => ?_
  cases chain with
  | none => exact h.pure none
  | some value =>
    dsimp only
    split
    · exact h.pure none
    · exact h.bind (hfg value) fun _ => h.pure _

theorem readMember (h : Respects host R) (value : Value) (key : String) (source : Expr) :
    R Value (readMember value key source) (readMember value key source) := by
  refine h.bind (h.read _) fun member => ?_
  cases member with
  | ok value => exact h.pure value
  | error fault => exact h.fault _

theorem callableCall (h : Respects host R) (callable : Callable) (args : List Value) :
    R Value (callable.call host args) (callable.call host args) := by
  cases callable with
  | json =>
    refine h.bind (h.read _) fun json => ?_
    cases json with
    | none => exact h.exhausted
    | some json => exact h.pure _
  | redirect request =>
    unfold Callable.call
    dsimp only
    split
    · exact h.bind (h.fault _) fun _ => h.bind (h.ask _ _) fun _ => h.pure _
    · exact h.bind (h.ask _ _) fun _ => h.pure _
  | content slot => exact h.bind (h.newPromise _) fun _ => h.pure _
  | native id => exact h.native id args
  | nativeAsync id => exact h.bind (h.newPromise _) fun _ => h.pure _
  | _ => exact h.pure _

theorem call (h : Respects host R) (id : FunctionId) (args : List Value) :
    R Value (call host id args) (call host id args) := by
  refine h.bind (h.read _) fun callable => ?_
  cases callable with
  | none => exact h.pure _
  | some callable => exact h.callableCall callable args

theorem callValue (h : Respects host R) (value : Value) (args : List Value) (source : Expr) :
    R Value (callValue host value args source) (callValue host value args source) := by
  cases value with
  | function id => exact h.call id args
  | _ => exact h.fault _

theorem assignMember (h : Respects host R) (holder : Value) (key : String) (value : Value) :
    R Value (assignMember holder key value) (assignMember holder key value) := by
  cases holder with
  | object id => exact h.bind (h.write id key value) fun _ => h.pure _
  | _ => exact h.fault _

theorem assignName (h : Respects host R) (scope : Scope) (name : String) (value : Value) :
    R Value (assignName scope name value) (assignName scope name value) :=
  h.bind (h.write _ _ _) fun _ => h.pure _

theorem makeObject (h : Respects host R) (entries : List (String × Value)) :
    R Value (makeObject entries) (makeObject entries) :=
  h.bind (h.newObject _) fun _ => h.pure _

/-! ## Without waiting -/

mutual

theorem walk (h : Respects host R) (scope : Scope) :
    (e : Expr) → R _ (Expr.walk host scope e) (Expr.walk host scope e)
  | .number _ => h.pure _
  | .string _ => h.pure _
  | .bool _ => h.pure _
  | .null => h.pure _
  | .undefined => h.pure _
  | .root => h.pure _
  | .ident name => h.bind (h.lookup scope name) fun _ => h.pure _
  | .array items => h.bind (h.walkItems scope items) fun _ => h.pure _
  | .object entries =>
    h.bind (h.walkEntries scope entries) fun _ => h.bind (h.makeObject _) fun _ => h.pure _
  | .member holder name optional =>
    h.link (h.walk scope holder) optional fun value => h.readMember value name holder
  | .index holder key optional =>
    h.link (h.walk scope holder) optional fun value =>
      h.bind (h.settle (h.walk scope key)) fun _ => h.readMember value _ holder
  | .call callee args optional =>
    h.link (h.walk scope callee) optional fun value =>
      h.bind (h.walkItems scope args) fun _ => h.callValue value _ callee
  | .unary op operand => h.bind (h.settle (h.walk scope operand)) fun _ => h.pure _
  | .await _ => h.fault _
  | .binary op left right =>
    h.bind (h.settle (h.walk scope left)) fun _ =>
      h.bind (h.settle (h.walk scope right)) fun _ => h.pure _
  | .logical op left right => by
    refine h.bind (h.settle (h.walk scope left)) fun value => ?_
    split
    · exact h.pure _
    · exact h.map (h.settle (h.walk scope right)) _
  | .conditional test consequent alternate => by
    refine h.bind (h.settle (h.walk scope test)) fun value => ?_
    split
    · exact h.map (h.settle (h.walk scope consequent)) _
    · exact h.map (h.settle (h.walk scope alternate)) _
  | .assign target value => by
    have hvalue := h.settle (h.walk scope value)
    cases target with
    | ident name => exact h.bind hvalue fun _ => h.map (h.assignName scope name _) _
    | member holder name optional =>
      exact h.bind hvalue fun _ => h.bind (h.settle (h.walk scope holder)) fun _ =>
        h.map (h.assignMember _ name _) _
    | index holder key optional =>
      exact h.bind hvalue fun _ => h.bind (h.settle (h.walk scope holder)) fun _ =>
        h.bind (h.settle (h.walk scope key)) fun _ => h.map (h.assignMember _ _ _) _
    | _ => exact h.bind hvalue fun _ => h.fault _

theorem walkItems (h : Respects host R) (scope : Scope) :
    (items : List Expr) → R _ (Expr.walkItems host scope items) (Expr.walkItems host scope items)
  | [] => h.pure _
  | item :: rest =>
    h.bind (h.settle (h.walk scope item)) fun _ =>
      h.bind (h.walkItems scope rest) fun _ => h.pure _

theorem walkEntries (h : Respects host R) (scope : Scope) :
    (entries : List (String × Expr)) →
      R _ (Expr.walkEntries host scope entries) (Expr.walkEntries host scope entries)
  | [] => h.pure _
  | (_, e) :: rest =>
    h.bind (h.settle (h.walk scope e)) fun _ =>
      h.bind (h.walkEntries scope rest) fun _ => h.pure _

end

theorem eval (h : Respects host R) (scope : Scope) (e : Expr) :
    R _ (Expr.eval host scope e) (Expr.eval host scope e) :=
  h.settle (h.walk scope e)

/-! ## With waiting -/

variable {wait wait' : PromiseId → Render σ Value}

theorem awaitValue (h : Respects host R) (hwait : ∀ id, R _ (wait id) (wait' id))
    (value : Value) : R _ (Expr.awaitValue wait value) (Expr.awaitValue wait' value) := by
  cases value with
  | promise id => exact hwait id
  | _ => exact h.pure _

theorem whole (h : Respects host R) (scope : Scope) (e : Expr)
    {x y : Render σ (Option Value)} (hxy : R _ x y) :
    R _ (Expr.whole host scope e x) (Expr.whole host scope e y) := by
  unfold Expr.whole
  split
  · exact h.settle hxy
  · exact h.eval scope e

/-- A part without an `await` is left to the walk that cannot wait. -/
theorem orEval (h : Respects host R) (scope : Scope) (e : Expr) (awaits : Bool)
    {x y : Render σ (Option Value)} (hxy : R _ x y) :
    R _ (if awaits then x else some <$> Expr.eval host scope e)
      (if awaits then y else some <$> Expr.eval host scope e) := by
  split
  · exact hxy
  · exact h.map (h.eval scope e) _

mutual

theorem walkAwaiting (h : Respects host R) (hwait : ∀ id, R _ (wait id) (wait' id))
    (scope : Scope) : (e : Expr) →
      R _ (Expr.walkAwaiting host wait scope e) (Expr.walkAwaiting host wait' scope e)
  | .number _ => h.map (h.eval scope _) _
  | .string _ => h.map (h.eval scope _) _
  | .bool _ => h.map (h.eval scope _) _
  | .null => h.map (h.eval scope _) _
  | .undefined => h.map (h.eval scope _) _
  | .root => h.map (h.eval scope _) _
  | .ident _ => h.map (h.eval scope _) _
  | .await operand =>
    h.bind (h.whole scope operand (h.walkAwaiting hwait scope operand)) fun value =>
      h.map (h.awaitValue hwait value) _
  | .member holder name optional =>
    h.link (h.walkAwaiting hwait scope holder) optional fun value => h.readMember value name holder
  | .index holder key optional =>
    h.link (h.walkAwaiting hwait scope holder) optional fun value =>
      h.bind (h.whole scope key (h.walkAwaiting hwait scope key)) fun _ =>
        h.readMember value _ holder
  | .call callee args optional =>
    h.link (h.walkAwaiting hwait scope callee) optional fun value =>
      h.bind (h.walkItemsAwaiting hwait scope args) fun _ => h.callValue value _ callee
  | .array items =>
    h.orEval scope _ _ (h.bind (h.walkItemsAwaiting hwait scope items) fun _ => h.pure _)
  | .object entries =>
    h.orEval scope _ _ (h.bind (h.walkEntriesAwaiting hwait scope entries) fun _ =>
      h.bind (h.makeObject _) fun _ => h.pure _)
  | .unary op operand =>
    h.orEval scope _ _ (h.bind (h.whole scope operand (h.walkAwaiting hwait scope operand))
      fun _ => h.pure _)
  | .binary op left right =>
    h.orEval scope _ _ (h.bind (h.whole scope left (h.walkAwaiting hwait scope left)) fun _ =>
      h.bind (h.whole scope right (h.walkAwaiting hwait scope right)) fun _ => h.pure _)
  | .logical op left right => by
    refine h.orEval scope _ _ (h.bind (h.whole scope left (h.walkAwaiting hwait scope left))
      fun value => ?_)
    split
    · exact h.pure _
    · exact h.map (h.whole scope right (h.walkAwaiting hwait scope right)) _
  | .conditional test consequent alternate => by
    refine h.orEval scope _ _ (h.bind (h.whole scope test (h.walkAwaiting hwait scope test))
      fun value => ?_)
    split
    · exact h.map (h.whole scope consequent (h.walkAwaiting hwait scope consequent)) _
    · exact h.map (h.whole scope alternate (h.walkAwaiting hwait scope alternate)) _
  | .assign target value => by
    have hvalue := h.whole scope value (h.walkAwaiting hwait scope value)
    cases target with
    | ident name =>
      exact h.orEval scope _ _ (h.bind hvalue fun _ => h.map (h.assignName scope name _) _)
    | member holder name optional =>
      exact h.orEval scope _ _ (h.bind hvalue fun _ =>
        h.bind (h.whole scope holder (h.walkAwaiting hwait scope holder)) fun _ =>
          h.map (h.assignMember _ name _) _)
    | index holder key optional =>
      exact h.orEval scope _ _ (h.bind hvalue fun _ =>
        h.bind (h.whole scope holder (h.walkAwaiting hwait scope holder)) fun _ =>
          h.bind (h.whole scope key (h.walkAwaiting hwait scope key)) fun _ =>
            h.map (h.assignMember _ _ _) _)
    | _ => exact h.orEval scope _ _ (h.bind hvalue fun _ => h.fault _)

theorem walkItemsAwaiting (h : Respects host R) (hwait : ∀ id, R _ (wait id) (wait' id))
    (scope : Scope) : (items : List Expr) →
      R _ (Expr.walkItemsAwaiting host wait scope items)
        (Expr.walkItemsAwaiting host wait' scope items)
  | [] => h.pure _
  | item :: rest =>
    h.bind (h.whole scope item (h.walkAwaiting hwait scope item)) fun _ =>
      h.bind (h.walkItemsAwaiting hwait scope rest) fun _ => h.pure _

theorem walkEntriesAwaiting (h : Respects host R) (hwait : ∀ id, R _ (wait id) (wait' id))
    (scope : Scope) : (entries : List (String × Expr)) →
      R _ (Expr.walkEntriesAwaiting host wait scope entries)
        (Expr.walkEntriesAwaiting host wait' scope entries)
  | [] => h.pure _
  | (_, e) :: rest =>
    h.bind (h.whole scope e (h.walkAwaiting hwait scope e)) fun _ =>
      h.bind (h.walkEntriesAwaiting hwait scope rest) fun _ => h.pure _

end

/-! ## From a text to a plain value -/

theorem runStatements (h : Respects host R) {eval eval' : Expr → Render σ Value}
    (heval : ∀ e, R _ (eval e) (eval' e)) (last : Value) (program : Program) :
    R _ (runStatements eval last program) (runStatements eval' last program) := by
  induction program generalizing last with
  | nil => exact h.pure last
  | cons statement rest ih => exact h.bind (heval statement) fun value => ih value

theorem unwrap (h : Respects host R) (hwait : ∀ id, R _ (wait id) (wait' id)) (steps : Nat)
    (value : Value) :
    R _ (unwrap host wait steps value) (unwrap host wait' steps value) := by
  induction steps generalizing value with
  | zero => exact h.fault _
  | succ steps ih =>
    cases value with
    | function id => exact h.bind (h.call id []) fun value => ih value
    | promise id => exact h.bind (hwait id) fun value => ih value
    | _ => exact h.pure _

/-- Evaluations of one text are related if their ways to wait are. -/
theorem runRooted (h : Respects host R) (hwait : ∀ id, R _ (wait id) (wait' id)) (scope : Scope)
    (rooted : String) :
    R _ (runRooted host (.interpreter host) wait scope rooted)
      (runRooted host (.interpreter host) wait' scope rooted) := by
  unfold TemplateEngine.runRooted
  dsimp only
  split
  · exact h.bind (h.bind (h.program rooted) fun program =>
      h.runStatements (fun e => h.whole scope e (h.walkAwaiting hwait scope e)) _ program)
      fun value => h.unwrap hwait unwrapLimit value
  · exact h.bind (h.bind (h.program rooted) fun program => h.runStatements (h.eval scope) _ program)
      fun value => h.unwrap hwait unwrapLimit value

end Respects

end TemplateEngine
