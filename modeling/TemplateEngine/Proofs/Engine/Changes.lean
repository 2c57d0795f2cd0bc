import Mathlib.Logic.Relation
import TemplateEngine.Proofs.Engine.Respects
import TemplateEngine.Proofs.Graph.Cycles
import TemplateEngine.Proofs.Graph.Prefix

/-!
# `Engine` · Changes of the value graph

All that happens in the value graph is that more is made, that promises go on, and that objects are
written to.

* **`Graph.Step kept`** is one such change that writes to no kept object. The members of the kept
  objects stay, and so do all functions (`Graph.Step.members`, `Graph.Step.functions`).
* **`Render.Stepwise`**: a computation makes only such changes. Sequences and the catching of errors
  preserve this, so it holds of every request (`Engine.stepwise_renderView`) if it holds of the
  native functions.
-/

namespace TemplateEngine

open Render

variable {σ α β : Type}

/-! ## Changes -/

namespace Graph

variable {kept : ObjectId → Prop} {g h : Graph} {id : ObjectId}

/-- A change of the graph: more is made, a promise goes on, or an object that is not kept is
written to. -/
inductive Step (kept : ObjectId → Prop) (g : Graph) : Graph → Prop where
  /-- An object is made. -/
  | object (members : Dictionary Value) : Step kept g (g.newObject members).2
  /-- A function is made. -/
  | function (callable : Callable) : Step kept g (g.newFunction callable).2
  /-- A promise is made. -/
  | promise (state : PromiseState) : Step kept g (g.newPromise state).2
  /-- A promise goes on. -/
  | setPromise (id : PromiseId) (state : PromiseState) : Step kept g (g.setPromise id state)
  /-- An object is written to. -/
  | write {id : ObjectId} (hid : ¬kept id) (key : String) (value : Value) :
    Step kept g (g.write id key value)

theorem members_newObject (hid : id.index < g.objects.size) (members : Dictionary Value) :
    (g.newObject members).2.members id = g.members id :=
  congrArg (·.getD .empty) (getElem?_of_isPrefix (prefix_push g.objects members) hid)

namespace Step

/-- Objects stay. -/
theorem size_objects (hstep : Step kept g h) : g.objects.size ≤ h.objects.size := by
  cases hstep with
  | object members => exact size_le_of_isPrefix (prefix_push g.objects members)
  | write hid key value => exact Array.size_modify.ge
  | function | promise | setPromise => exact le_rfl

/-- Functions stay what they are. -/
theorem functions (hstep : Step kept g h) : g.functions.toList <+: h.functions.toList := by
  cases hstep with
  | function callable => exact prefix_push g.functions callable
  | object | promise | setPromise | write => exact List.prefix_refl _

/-- Kept objects keep their members. -/
theorem members (hstep : Step kept g h) (hkept : kept id) (hid : id.index < g.objects.size) :
    h.members id = g.members id := by
  cases hstep with
  | object members => exact members_newObject hid members
  | write hother key value => exact members_write_of_ne fun heq => hother (heq ▸ hkept)
  | function | promise | setPromise => rfl

end Step

/-- Functions stay what they are in any number of changes. -/
theorem functions_of_steps (hsteps : Relation.ReflTransGen (Step kept) g h) :
    g.functions.toList <+: h.functions.toList := by
  induction hsteps with
  | refl => exact List.prefix_refl _
  | tail _ hstep ih => exact ih.trans hstep.functions

theorem steps_addFunctions (callables : List (String × Callable)) (members : Dictionary Value)
    (g : Graph) :
    Relation.ReflTransGen (Step kept) g (callables.foldl addFunction (members, g)).2 := by
  induction callables generalizing members g with
  | nil => exact .refl
  | cons named rest ih => exact (ih _ _).head (.function named.2)

/-- A library is made in several steps. -/
theorem steps_newLibrary (g : Graph) (callables : List (String × Callable)) :
    Relation.ReflTransGen (Step kept) g (g.newLibrary callables).2 :=
  (steps_addFunctions callables .empty g).tail (.object _)

end Graph

/-! ## Computations -/

namespace Render

/-- All that a computation does in the graph are changes that keep no object. -/
def Stepwise (x : Render σ α) : Prop :=
  ∀ s, Relation.ReflTransGen (Graph.Step fun _ => False) s.graph (exec x s).2.graph

namespace Stepwise

/-- A computation that leaves the graph alone. -/
theorem still {x : Render σ α} (h : ∀ s, (exec x s).2.graph = s.graph) : Stepwise x :=
  fun s => (h s).symm ▸ .refl

theorem bind {x : Render σ α} {f : α → Render σ β} (hx : Stepwise x) (hf : ∀ a, Stepwise (f a)) :
    Stepwise (x >>= f) := by
  intro s
  have hfirst := hx s
  rw [exec_bind]
  rcases hexec : exec x s with ⟨stop | a, t⟩
  · rw [hexec] at hfirst
    exact hfirst
  · rw [hexec] at hfirst
    exact hfirst.trans (hf a t)

theorem attempt {x : Render σ α} (hx : Stepwise x) : Stepwise (attempt x) := by
  intro s
  have hsteps := hx s
  rw [exec_attempt]
  rcases hexec : exec x s with ⟨stop | a, t⟩
  · rw [hexec] at hsteps
    cases stop <;> exact hsteps
  · rw [hexec] at hsteps
    exact hsteps

theorem mapError (f : Error → Error) {x : Render σ α} (hx : Stepwise x) :
    Stepwise (mapError f x) := by
  intro s
  have hsteps := hx s
  rw [exec_mapError]
  rcases hexec : exec x s with ⟨stop | a, t⟩
  · rw [hexec] at hsteps
    cases stop <;> exact hsteps
  · rw [hexec] at hsteps
    exact hsteps

theorem changeGraph {f : Graph → α × Graph}
    (h : ∀ g, Relation.ReflTransGen (Graph.Step fun _ => False) g (f g).2) :
    Stepwise (changeGraph f : Render σ α) :=
  fun s => h s.graph

theorem programOf (source : String) : Stepwise (programOf source : Render σ Program) :=
  still fun s => by rw [exec_programOf_eq_lookUp]

theorem loadTemplate (path source : String) :
    Stepwise (loadTemplate path source : Render σ CompiledTemplate) :=
  still fun s => by rw [exec_loadTemplate]

theorem viewBuiltins (attributes : List (String × String)) (request : RequestId) :
    Stepwise (viewBuiltins attributes request : Render σ ObjectId) :=
  changeGraph fun _ =>
    ((Graph.steps_newLibrary _ _).head (.object _)).tail (.write (fun h => h) _ _)

end Stepwise

/-- Evaluations change the graph step by step if native functions do. -/
theorem respects_stepwise {host : Host σ}
    (hnative : ∀ id args, Stepwise (ofNative (host.call id args))) :
    Respects host fun _ x _ => Stepwise x where
  pure _ := .still fun _ => rfl
  bind := .bind
  read _ := .still fun _ => rfl
  write _ key value := .changeGraph fun _ => .single (.write (fun h => h) key value)
  newObject members := .changeGraph fun _ => .single (.object members)
  newPromise work := .changeGraph fun _ => .single (.promise (.pending work))
  fault _ := .still fun _ => rfl
  exhausted := .still fun _ => rfl
  ask _ _ := .still fun _ => rfl
  native := hnative
  program := .programOf

end Render

/-- So do the steps of a rendering. -/
theorem Engine.respects_stepwise {engine : Engine σ}
    (hnative : ∀ id args, Stepwise (ofNative (engine.host.call id args))) :
    engine.Respects fun _ x _ => Stepwise x where
  toRespects := Render.respects_stepwise hnative
  raise _ := .still fun _ => rfl
  attempt := .attempt
  mapError f := .mapError f
  note _ := .still fun _ => rfl
  library _ := .changeGraph fun g => Graph.steps_newLibrary g _
  builtins := .viewBuiltins
  newRequest := .still fun _ => rfl
  withRequest _ _ := .still fun _ => rfl
  changeRequest _ _ := .still fun _ => rfl
  newSlot _ := .still fun _ => rfl
  load path source _ := .loadTemplate path source
  stalled := .still fun _ => rfl
  slot _ := .still fun _ => rfl
  changeSlot _ _ := .still fun _ => rfl
  setPromise id state := .changeGraph fun _ => .single (.setPromise id state)

/-- Every request changes the graph step by step if native functions do. -/
theorem Engine.stepwise_renderView {engine : Engine σ} (hengine : engine.Interprets)
    (hnative : ∀ id args, Stepwise (ofNative (engine.host.call id args))) (fuel : Nat)
    (path : String) (data : ObjectId) : Stepwise (engine.renderView fuel path data) :=
  (Engine.respects_stepwise hnative).sustains.renderView hengine fuel path data

/-- So a request leaves all functions what they are. -/
theorem Engine.functions_renderView {engine : Engine σ} (hengine : engine.Interprets)
    (hnative : ∀ id args, Stepwise (ofNative (engine.host.call id args))) (fuel : Nat)
    (path : String) (data : ObjectId) (s : Store σ) :
    s.graph.functions.toList <+:
      (exec (engine.renderView fuel path data) s).2.graph.functions.toList :=
  Graph.functions_of_steps (stepwise_renderView hengine hnative fuel path data s)

end TemplateEngine
