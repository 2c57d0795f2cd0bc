import TemplateEngine.Expr.Evaluator
import TemplateEngine.Proofs.Render.Moving

/-!
# `Expr` · Evaluation on placed stores

An expression gives the same wherever the values that it is about stand.

* One lemma for each kind of step: reading a member, calling a function, setting a member, making
  an object. Every reference that a step looks at or makes is found at its place.
* **`Moves.walk`** and **`Moves.walkAwaiting`**: the two walks over an expression, by recursion on
  the tree. What was evaluated before refers to what is there, and goes on to do so (`Moves.mono`).
* **`Moves.runRooted`**: from the text of an expression to its plain value.
-/

namespace TemplateEngine

open Render

/-- The references of a scope. -/
def Refs.scope : Refs Scope where
  placed p scope := ⟨p.objectId scope.data, p.objectId scope.builtins, scope.request⟩
  Within e scope := Refs.object.Within e scope.data ∧ Refs.object.Within e scope.builtins
  mono h hscope := ⟨Refs.object.mono h hscope.1, Refs.object.mono h hscope.2⟩
  fixed := by
    intro p e scope h hscope
    have hdata : p.objectId scope.data = scope.data := Refs.object.fixed h hscope.1
    have hbuiltins : p.objectId scope.builtins = scope.builtins := Refs.object.fixed h hscope.2
    rw [hdata, hbuiltins]

/-- The references of a chain, which may have been ended. -/
abbrev Refs.chain : Refs (Option Value) := Refs.value.option

/-- The references of evaluated entries. -/
abbrev Refs.entries : Refs (List (String × Value)) := Refs.value.named.list

variable {σ : Type} {m : Motion σ} {host : Host σ} {e : Extent} {scope : Scope}

namespace Render.Moves

/-! ## Single steps -/

theorem lookup (scope : Scope) (name : String) :
    Moves (σ := σ) m e .value (lookup scope name)
      (lookup (Refs.scope.placed m.toPlacement scope) name) :=
  ofGraph fun g g' hg _ => by
    rw [Refs.scope, hg.has, hg.read, hg.read]
    split
    · exact ⟨rfl, hg.closed.read _ _⟩
    · exact ⟨rfl, hg.closed.read _ _⟩

theorem some {x y : Render σ Value} (h : Moves m e .value x y) :
    Moves m e .chain (Option.some <$> x) (Option.some <$> y) :=
  h.map (fun _ => rfl) fun _ _ hvalue _ hsome => Option.some.inj hsome ▸ hvalue

theorem pureSome {v w : Value} (h : w = v.placed m.toPlacement) (hv : v.Within e) :
    Moves (σ := σ) m e .chain (Pure.pure (Option.some v)) (Pure.pure (Option.some w)) :=
  pure (congrArg Option.some h) fun _ hsome => Option.some.inj hsome ▸ hv

theorem settle {x y : Render σ (Option Value)} (h : Moves m e .chain x y) :
    Moves m e .value (settle x) (settle y) :=
  h.bind fun _ chain _ hchain => by
    cases chain with
    | none => exact pure rfl trivial
    | some value => exact pure rfl (hchain value rfl)

theorem link {x y : Render σ (Option Value)} (h : Moves m e .chain x y) (optional : Bool)
    {f g : Value → Render σ Value} (hnext : ∀ e' value, e ≤ e' → value.Within e' →
      Moves m e' .value (f value) (g (value.placed m.toPlacement))) :
    Moves m e .chain (link x optional f) (link y optional g) := by
  refine h.bind fun e' chain he hchain => ?_
  cases chain with
  | none => exact pure rfl nofun
  | some value =>
    simp only [Refs.chain, Refs.option, Refs.value, Option.map_some, Value.isNullish_placed]
    split
    · exact pure rfl nofun
    · exact (hnext e' value he (hchain value rfl)).bind fun _ _ _ hvalue => pureSome rfl hvalue

theorem readMember {value : Value} (hvalue : value.Within e) (key : String) (source : Expr) :
    Moves (σ := σ) m e .value (readMember value key source)
      (readMember (value.placed m.toPlacement) key source) :=
  withGraph fun g g' hg he => by
    have hmember := hg.closed.memberOf (hvalue.mono he) key
    rw [hg.memberOf, Value.display_placed]
    rcases hread : g.memberOf value key with fault | member
    · exact raise _
    · rw [hread] at hmember
      exact pure rfl hmember

theorem callableCall (hhost : host.Parametric m.host m.toPlacement) {callable : Callable}
    (h : callable.Known m.toPlacement) {args : List Value}
    (hargs : Refs.value.list.Within e args) :
    Moves m e .value (callable.call host args)
      (callable.call host (Refs.value.list.placed m.toPlacement args)) := by
  have hfirst : firstArg (Refs.value.list.placed m.toPlacement args) =
      (firstArg args).placed m.toPlacement := Value.firstArg_placed args
  have htext : (firstArg (Refs.value.list.placed m.toPlacement args)).text =
      (firstArg args).text := by
    rw [hfirst, Value.text_placed]
  have honText : ∀ f, Moves (σ := σ) m e .value (Pure.pure (onText f args))
      (Pure.pure (onText f (Refs.value.list.placed m.toPlacement args))) := by
    intro f
    unfold onText
    rw [htext]
    exact pure rfl trivial
  cases callable with
  | json =>
    refine withGraph fun g g' hg _ => ?_
    rw [hfirst, hg.toJson?]
    rcases g.toJson? (firstArg args) with _ | json
    · exact throw _
    · exact pure rfl trivial
  | upper => exact honText _
  | lower => exact honText _
  | trim => exact honText _
  | escape => exact honText _
  | «attribute» attributes =>
    unfold Callable.call
    rw [htext]
    have hattribute : ∀ found : Option String, Moves (σ := σ) m e .value
        (Pure.pure ((found.map Value.string).getD .undefined))
        (Pure.pure ((found.map Value.string).getD .undefined)) := by
      rintro (_ | text)
      · exact pure rfl trivial
      · exact pure rfl trivial
    exact hattribute _
  | redirect request =>
    unfold Callable.call
    rw [htext]
    have hask : Moves (σ := σ) m e .value
        (do Render.askRedirect request (firstArg args).text; return .undefined)
        (do Render.askRedirect request (firstArg args).text; return .undefined) :=
      (askRedirect _ _).bind fun _ _ _ _ => pure rfl trivial
    dsimp only
    split
    · exact bind (r := .free) (raise _) fun _ _ he _ => hask.mono he
    · exact hask
  | content slot =>
    have hwork : (Work.content slot).Known m.toPlacement := h
    exact (newPromise hwork trivial).bind fun _ _ _ hid => pure rfl hid
  | native id => exact ofNative hhost h hargs
  | nativeAsync id =>
    have hwork : (Work.native id args).Known m.toPlacement := h
    exact (newPromise hwork hargs).bind fun _ _ _ hid => pure rfl hid

theorem call (hhost : host.Parametric m.host m.toPlacement) (id : FunctionId) {args : List Value}
    (hargs : Refs.value.list.Within e args) :
    Moves m e .value (call host id args)
      (call host (m.functionId id) (Refs.value.list.placed m.toPlacement args)) :=
  withGraph fun g g' hg he => by
    rw [hg.function?]
    rcases hfind : g.functions[id.index]? with _ | callable
    · exact pure rfl trivial
    · exact callableCall hhost (hg.callable callable (Array.mem_of_getElem? hfind))
        (Refs.value.list.mono he hargs)

theorem callValue (hhost : host.Parametric m.host m.toPlacement) (value : Value)
    {args : List Value} (hargs : Refs.value.list.Within e args) (source : Expr) :
    Moves m e .value (callValue host value args source)
      (callValue host (value.placed m.toPlacement) (Refs.value.list.placed m.toPlacement args)
        source) := by
  cases value with
  | function id => exact call hhost id hargs
  | _ => exact raise _

theorem assignMember (holder : Value) (key : String) {value : Value} (hvalue : value.Within e) :
    Moves (σ := σ) m e .value (assignMember holder key value)
      (assignMember (holder.placed m.toPlacement) key (value.placed m.toPlacement)) := by
  cases holder with
  | object id => exact (write id key hvalue).bind fun _ _ he _ => pure rfl (hvalue.mono he)
  | _ => exact raise _

theorem assignName (scope : Scope) (name : String) {value : Value} (hvalue : value.Within e) :
    Moves (σ := σ) m e .value (assignName scope name value)
      (assignName (Refs.scope.placed m.toPlacement scope) name (value.placed m.toPlacement)) :=
  (write scope.data name hvalue).bind fun _ _ he _ => pure rfl (hvalue.mono he)

theorem makeObject {entries : List (String × Value)} (h : Refs.entries.Within e entries) :
    Moves (σ := σ) m e .value (makeObject entries)
      (makeObject (Refs.entries.placed m.toPlacement entries)) := by
  have hmembers : Refs.members.Within e (.ofList entries) := Dictionary.forall_mem_ofList h
  have hplaced : Dictionary.ofList (Refs.entries.placed m.toPlacement entries) =
      Refs.members.placed m.toPlacement (.ofList entries) := Dictionary.ofList_map _ entries
  unfold TemplateEngine.makeObject
  rw [hplaced]
  exact (newObject hmembers).bind fun _ _ _ hid => pure rfl hid

/-- An array of values. -/
theorem array {x y : Render σ (List Value)} (h : Moves m e Refs.value.list x y) :
    Moves m e .chain (do return Option.some (.array (← x))) (do return Option.some (.array (← y))) :=
  h.bind fun _ values _ hvalues => pureSome
    (by rw [Value.placed, Value.placedItems_eq_map]; rfl) (Value.withinItems_iff.2 hvalues)

/-- An object of entries. -/
theorem object {x y : Render σ (List (String × Value))} (h : Moves m e .entries x y) :
    Moves m e .chain (do return Option.some (← TemplateEngine.makeObject (← x)))
      (do return Option.some (← TemplateEngine.makeObject (← y))) :=
  h.bind fun _ _ _ hentries => (makeObject hentries).bind fun _ _ _ hvalue => pureSome rfl hvalue

/-- The value of an operator refers to nothing. -/
theorem unary (op : UnaryOp) {x y : Render σ Value} (h : Moves m e .value x y) :
    Moves m e .chain (do return Option.some (op.apply (← x)))
      (do return Option.some (op.apply (← y))) :=
  h.bind fun _ value _ _ => pureSome (op.apply_placed value) (op.within_apply value _)

theorem binary (op : BinaryOp) {x y x' y' : Render σ Value} (h : Moves m e .value x y)
    (h' : Moves m e .value x' y') :
    Moves m e .chain (do let left ← x; let right ← x'; return Option.some (op.apply left right))
      (do let left ← y; let right ← y'; return Option.some (op.apply left right)) :=
  h.bind fun _ left he _ => (h'.mono he).bind fun _ right _ _ =>
    pureSome (op.apply_placed left right) (op.within_apply left right _)

theorem logical (op : LogicalOp) {x y x' y' : Render σ Value} (h : Moves m e .value x y)
    (h' : Moves m e .value x' y') :
    Moves m e .chain
      (do let left ← x; if op.isDecided left then return Option.some left else Option.some <$> x')
      (do let left ← y; if op.isDecided left then return Option.some left else Option.some <$> y') := by
  refine h.bind fun _ left he hleft => ?_
  have hdecided : op.isDecided (Refs.value.placed m.toPlacement left) = op.isDecided left :=
    op.isDecided_placed left
  rw [hdecided]
  split
  · exact pureSome rfl hleft
  · exact (h'.mono he).some

theorem conditional {x y x' y' x'' y'' : Render σ Value} (h : Moves m e .value x y)
    (h' : Moves m e .value x' y') (h'' : Moves m e .value x'' y'') :
    Moves m e .chain
      (do let test ← x; if test.truthy then Option.some <$> x' else Option.some <$> x'')
      (do let test ← y; if test.truthy then Option.some <$> y' else Option.some <$> y'') := by
  refine h.bind fun _ test he _ => ?_
  have htruthy : (Refs.value.placed m.toPlacement test).truthy = test.truthy := test.truthy_placed
  rw [htruthy]
  split
  · exact (h'.mono he).some
  · exact (h''.mono he).some

/-- An assignment to a name. -/
theorem setName (scope : Scope) (name : String) {x y : Render σ Value} (h : Moves m e .value x y) :
    Moves m e .chain (do let value ← x; Option.some <$> TemplateEngine.assignName scope name value)
      (do let value ← y
          Option.some <$>
            TemplateEngine.assignName (Refs.scope.placed m.toPlacement scope) name value) :=
  h.bind fun _ _ _ hvalue => (assignName scope name hvalue).some

/-- An assignment to a member. -/
theorem setMember (name : String) {x y x' y' : Render σ Value} (h : Moves m e .value x y)
    (h' : Moves m e .value x' y') :
    Moves m e .chain
      (do let value ← x
          let holder ← x'
          Option.some <$> TemplateEngine.assignMember holder name value)
      (do let value ← y
          let holder ← y'
          Option.some <$> TemplateEngine.assignMember holder name value) :=
  h.bind fun _ _ h₁ hvalue => (h'.mono h₁).bind fun _ holder h₂ _ =>
    (assignMember holder name (hvalue.mono h₂)).some

/-- An assignment to a member with a computed key. -/
theorem setIndex {x y x' y' x'' y'' : Render σ Value} (h : Moves m e .value x y)
    (h' : Moves m e .value x' y') (h'' : Moves m e .value x'' y'') :
    Moves m e .chain
      (do let value ← x
          let holder ← x'
          let key ← x''
          Option.some <$> TemplateEngine.assignMember holder key.display value)
      (do let value ← y
          let holder ← y'
          let key ← y''
          Option.some <$> TemplateEngine.assignMember holder key.display value) := by
  refine h.bind fun _ value h₁ hvalue => (h'.mono h₁).bind fun _ holder h₂ _ =>
    ((h''.mono h₁).mono h₂).bind fun _ key h₃ _ => ?_
  have hkey : (Refs.value.placed m.toPlacement key).display = key.display := key.display_placed
  rw [hkey]
  exact (assignMember holder _ ((hvalue.mono h₂).mono h₃)).some

/-- A member with a computed key. -/
theorem readIndex {value : Value} (hvalue : value.Within e) (source : Expr) {x y : Render σ Value}
    (h : Moves m e .value x y) :
    Moves m e .value (do let key ← x; TemplateEngine.readMember value key.display source)
      (do let key ← y
          TemplateEngine.readMember (value.placed m.toPlacement) key.display source) := by
  refine h.bind fun _ key he _ => ?_
  have hkey : (Refs.value.placed m.toPlacement key).display = key.display := key.display_placed
  rw [hkey]
  exact readMember (hvalue.mono he) _ source

/-- A call with evaluated arguments. -/
theorem callWith (hhost : host.Parametric m.host m.toPlacement) (value : Value) (source : Expr)
    {x y : Render σ (List Value)} (h : Moves m e Refs.value.list x y) :
    Moves m e .value (do let args ← x; TemplateEngine.callValue host value args source)
      (do let args ← y
          TemplateEngine.callValue host (value.placed m.toPlacement) args source) :=
  h.bind fun _ _ _ hargs => callValue hhost value hargs source

theorem cons {x y : Render σ Value} {x' y' : Render σ (List Value)} (h : Moves m e .value x y)
    (h' : Moves m e Refs.value.list x' y') :
    Moves m e Refs.value.list (do let value ← x; let values ← x'; return value :: values)
      (do let value ← y; let values ← y'; return value :: values) :=
  h.bind fun _ _ h₁ hvalue => (h'.mono h₁).bind fun _ _ h₂ hvalues =>
    pure rfl (List.forall_mem_cons.2 ⟨hvalue.mono h₂, hvalues⟩)

theorem consEntry (key : String) {x y : Render σ Value} {x' y' : Render σ (List (String × Value))}
    (h : Moves m e .value x y) (h' : Moves m e .entries x' y') :
    Moves m e .entries (do let value ← x; let values ← x'; return (key, value) :: values)
      (do let value ← y; let values ← y'; return (key, value) :: values) :=
  h.bind fun _ _ h₁ hvalue => (h'.mono h₁).bind fun _ _ h₂ hvalues =>
    pure rfl (List.forall_mem_cons.2 ⟨hvalue.mono h₂, hvalues⟩)

/-! ## Without waiting -/

mutual

theorem walk (hhost : host.Parametric m.host m.toPlacement) (hscope : Refs.scope.Within e scope) :
    (expr : Expr) → Moves m e .chain (expr.walk host scope)
      (expr.walk host (Refs.scope.placed m.toPlacement scope))
  | .number _ => pureSome rfl trivial
  | .string _ => pureSome rfl trivial
  | .bool _ => pureSome rfl trivial
  | .null => pureSome rfl trivial
  | .undefined => pureSome rfl trivial
  | .root => pureSome rfl hscope.1
  | .ident name => (lookup scope name).bind fun _ _ _ hvalue => pureSome rfl hvalue
  | .array items => (walkItems hhost hscope items).array
  | .object entries => (walkEntries hhost hscope entries).object
  | .member holder name optional =>
    (walk hhost hscope holder).link optional fun _ _ _ hvalue => readMember hvalue name holder
  | .index holder key optional =>
    (walk hhost hscope holder).link optional fun _ _ he hvalue =>
      readIndex hvalue holder ((walk hhost hscope key).settle.mono he)
  | .call callee args optional =>
    (walk hhost hscope callee).link optional fun _ value he _ =>
      callWith hhost value callee ((walkItems hhost hscope args).mono he)
  | .unary op operand => (walk hhost hscope operand).settle.unary op
  | .await _ => raise _
  | .binary op left right =>
    (walk hhost hscope left).settle.binary op (walk hhost hscope right).settle
  | .logical op left right =>
    (walk hhost hscope left).settle.logical op (walk hhost hscope right).settle
  | .conditional test consequent alternate =>
    (walk hhost hscope test).settle.conditional (walk hhost hscope consequent).settle
      (walk hhost hscope alternate).settle
  | .assign target value => by
    have hvalue := (walk hhost hscope value).settle
    cases target with
    | ident name => exact hvalue.setName scope name
    | member holder name optional => exact hvalue.setMember name (walk hhost hscope holder).settle
    | index holder key optional =>
      exact hvalue.setIndex (walk hhost hscope holder).settle (walk hhost hscope key).settle
    | _ => exact hvalue.bind fun _ _ _ _ => raise _

theorem walkItems (hhost : host.Parametric m.host m.toPlacement)
    (hscope : Refs.scope.Within e scope) : (items : List Expr) →
    Moves m e Refs.value.list (Expr.walkItems host scope items)
      (Expr.walkItems host (Refs.scope.placed m.toPlacement scope) items)
  | [] => pure rfl nofun
  | item :: rest => (walk hhost hscope item).settle.cons (walkItems hhost hscope rest)

theorem walkEntries (hhost : host.Parametric m.host m.toPlacement)
    (hscope : Refs.scope.Within e scope) : (entries : List (String × Expr)) →
    Moves m e .entries (Expr.walkEntries host scope entries)
      (Expr.walkEntries host (Refs.scope.placed m.toPlacement scope) entries)
  | [] => pure rfl nofun
  | (key, expr) :: rest =>
    (walk hhost hscope expr).settle.consEntry key (walkEntries hhost hscope rest)

end

theorem eval (hhost : host.Parametric m.host m.toPlacement) (hscope : Refs.scope.Within e scope)
    (expr : Expr) :
    Moves m e .value (expr.eval host scope)
      (expr.eval host (Refs.scope.placed m.toPlacement scope)) :=
  (walk hhost hscope expr).settle

/-! ## With waiting -/

variable {wait wait' : PromiseId → Render σ Value}

/-- The ways to wait do the same for promises that are there. -/
abbrev Waits (m : Motion σ) (wait wait' : PromiseId → Render σ Value) : Prop :=
  ∀ e id, Refs.promise.Within e id → Moves m e .value (wait id) (wait' (m.promiseId id))

theorem awaitValue (hwait : Waits m wait wait') {value : Value} (hvalue : value.Within e) :
    Moves m e .value (Expr.awaitValue wait value)
      (Expr.awaitValue wait' (value.placed m.toPlacement)) := by
  cases value with
  | promise id => exact hwait e id hvalue
  | _ => exact pure rfl hvalue

theorem whole (hhost : host.Parametric m.host m.toPlacement) (hscope : Refs.scope.Within e scope)
    (expr : Expr) {x y : Render σ (Option Value)} (h : Moves m e .chain x y) :
    Moves m e .value (expr.whole host scope x)
      (expr.whole host (Refs.scope.placed m.toPlacement scope) y) := by
  unfold Expr.whole
  split
  · exact h.settle
  · exact eval hhost hscope expr

/-- A part without an `await` is left to the walk that cannot wait. -/
theorem orEval (hhost : host.Parametric m.host m.toPlacement) (hscope : Refs.scope.Within e scope)
    (expr : Expr) (awaits : Bool) {x y : Render σ (Option Value)} (h : Moves m e .chain x y) :
    Moves m e .chain (if awaits then x else Option.some <$> expr.eval host scope)
      (if awaits then y
        else Option.some <$> expr.eval host (Refs.scope.placed m.toPlacement scope)) := by
  split
  · exact h
  · exact (eval hhost hscope expr).some

mutual

theorem walkAwaiting (hhost : host.Parametric m.host m.toPlacement) (hwait : Waits m wait wait')
    (hscope : Refs.scope.Within e scope) : (expr : Expr) →
    Moves m e .chain (expr.walkAwaiting host wait scope)
      (expr.walkAwaiting host wait' (Refs.scope.placed m.toPlacement scope))
  | .number _ => (eval hhost hscope _).some
  | .string _ => (eval hhost hscope _).some
  | .bool _ => (eval hhost hscope _).some
  | .null => (eval hhost hscope _).some
  | .undefined => (eval hhost hscope _).some
  | .root => (eval hhost hscope _).some
  | .ident _ => (eval hhost hscope _).some
  | .await operand =>
    (wholeAwaiting hhost hwait hscope operand).bind fun _ _ _ hvalue =>
      (awaitValue hwait hvalue).some
  | .member holder name optional =>
    (walkAwaiting hhost hwait hscope holder).link optional fun _ _ _ hvalue =>
      readMember hvalue name holder
  | .index holder key optional =>
    (walkAwaiting hhost hwait hscope holder).link optional fun _ _ he hvalue =>
      readIndex hvalue holder ((wholeAwaiting hhost hwait hscope key).mono he)
  | .call callee args optional =>
    (walkAwaiting hhost hwait hscope callee).link optional fun _ value he _ =>
      callWith hhost value callee ((walkItemsAwaiting hhost hwait hscope args).mono he)
  | .array items => orEval hhost hscope _ _ (walkItemsAwaiting hhost hwait hscope items).array
  | .object entries =>
    orEval hhost hscope _ _ (walkEntriesAwaiting hhost hwait hscope entries).object
  | .unary op operand =>
    orEval hhost hscope _ _ ((wholeAwaiting hhost hwait hscope operand).unary op)
  | .binary op left right =>
    orEval hhost hscope _ _ ((wholeAwaiting hhost hwait hscope left).binary op
      (wholeAwaiting hhost hwait hscope right))
  | .logical op left right =>
    orEval hhost hscope _ _ ((wholeAwaiting hhost hwait hscope left).logical op
      (wholeAwaiting hhost hwait hscope right))
  | .conditional test consequent alternate =>
    orEval hhost hscope _ _ ((wholeAwaiting hhost hwait hscope test).conditional
      (wholeAwaiting hhost hwait hscope consequent) (wholeAwaiting hhost hwait hscope alternate))
  | .assign target value => by
    have hvalue := wholeAwaiting hhost hwait hscope value
    cases target with
    | ident name => exact orEval hhost hscope _ _ (hvalue.setName scope name)
    | member holder name optional =>
      exact orEval hhost hscope _ _
        (hvalue.setMember name (wholeAwaiting hhost hwait hscope holder))
    | index holder key optional =>
      exact orEval hhost hscope _ _ (hvalue.setIndex (wholeAwaiting hhost hwait hscope holder)
        (wholeAwaiting hhost hwait hscope key))
    | _ => exact orEval hhost hscope _ _ (hvalue.bind fun _ _ _ _ => raise _)

theorem wholeAwaiting (hhost : host.Parametric m.host m.toPlacement) (hwait : Waits m wait wait')
    (hscope : Refs.scope.Within e scope) (expr : Expr) :
    Moves m e .value (expr.whole host scope (expr.walkAwaiting host wait scope))
      (expr.whole host (Refs.scope.placed m.toPlacement scope)
        (expr.walkAwaiting host wait' (Refs.scope.placed m.toPlacement scope))) :=
  whole hhost hscope expr (walkAwaiting hhost hwait hscope expr)

theorem walkItemsAwaiting (hhost : host.Parametric m.host m.toPlacement)
    (hwait : Waits m wait wait') (hscope : Refs.scope.Within e scope) : (items : List Expr) →
    Moves m e Refs.value.list (Expr.walkItemsAwaiting host wait scope items)
      (Expr.walkItemsAwaiting host wait' (Refs.scope.placed m.toPlacement scope) items)
  | [] => pure rfl nofun
  | item :: rest =>
    (wholeAwaiting hhost hwait hscope item).cons (walkItemsAwaiting hhost hwait hscope rest)

theorem walkEntriesAwaiting (hhost : host.Parametric m.host m.toPlacement)
    (hwait : Waits m wait wait') (hscope : Refs.scope.Within e scope) :
    (entries : List (String × Expr)) →
    Moves m e .entries (Expr.walkEntriesAwaiting host wait scope entries)
      (Expr.walkEntriesAwaiting host wait' (Refs.scope.placed m.toPlacement scope) entries)
  | [] => pure rfl nofun
  | (key, expr) :: rest =>
    (wholeAwaiting hhost hwait hscope expr).consEntry key
      (walkEntriesAwaiting hhost hwait hscope rest)

end

/-! ## From a text to a plain value -/

theorem runStatements {eval eval' : Expr → Render σ Value}
    (heval : ∀ expr, Moves m e .value (eval expr) (eval' expr)) {last : Value}
    (hlast : last.Within e) (program : Program) :
    Moves m e .value (runStatements eval last program)
      (runStatements eval' (last.placed m.toPlacement) program) := by
  induction program generalizing last e with
  | nil => exact pure rfl hlast
  | cons statement rest ih =>
    exact (heval statement).bind fun _ _ he hvalue => ih (fun expr => (heval expr).mono he) hvalue

theorem unwrap (hhost : host.Parametric m.host m.toPlacement) (hwait : Waits m wait wait')
    (steps : Nat) {value : Value} (hvalue : value.Within e) :
    Moves m e .value (unwrap host wait steps value)
      (unwrap host wait' steps (value.placed m.toPlacement)) := by
  induction steps generalizing value e with
  | zero => exact raise _
  | succ steps ih =>
    have hnone : Refs.value.list.Within e [] := nofun
    cases value with
    | function id => exact (call hhost id hnone).bind fun _ _ _ hvalue => ih hvalue
    | promise id => exact (hwait e id hvalue).bind fun _ _ _ hvalue => ih hvalue
    | _ => exact pure rfl hvalue

theorem runRooted (hhost : host.Parametric m.host m.toPlacement) (hwait : Waits m wait wait')
    (hscope : Refs.scope.Within e scope) (rooted : String) :
    Moves m e .value (runRooted host (.interpreter host) wait scope rooted)
      (runRooted host (.interpreter host) wait' (Refs.scope.placed m.toPlacement scope) rooted) := by
  have hundefined : Value.undefined.Within e := trivial
  unfold TemplateEngine.runRooted
  dsimp only
  split
  · exact ((programOf rooted).bind fun _ program he _ =>
      (runStatements (fun expr => wholeAwaiting hhost hwait hscope expr) hundefined program).mono
        he).bind fun _ _ _ hvalue => unwrap hhost hwait unwrapLimit hvalue
  · exact ((programOf rooted).bind fun _ program he _ =>
      (runStatements (fun expr => eval hhost hscope expr) hundefined program).mono
        he).bind fun _ _ _ hvalue => unwrap hhost hwait unwrapLimit hvalue

end Render.Moves

end TemplateEngine
