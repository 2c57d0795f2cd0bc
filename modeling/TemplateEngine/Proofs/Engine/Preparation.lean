import TemplateEngine.Proofs.Engine.Expansion
import TemplateEngine.Proofs.Expr.Respects
import TemplateEngine.Proofs.Render.Alike

/-!
# `Engine` · Evaluation and preparation on stores that are alike

Sections do not matter to an expression, nor to the preparation of a nested template.

* **`Engine.Prepares engine R`**: the relation `R` holds of each step of an evaluation and of a
  preparation. Then it holds of whole ones.
* **Waiting** for a promise renders nothing while no slot waits to be rendered (`Mirrors.waitFor`),
  so it makes no difference how other pieces of output are produced.
* **`Mirrors.evaluateValue`** and **`Mirrors.prepare`** follow.
* **`Nested`**: what is known of the context of a nested template.
-/

namespace TemplateEngine

open Render TemplateEngine.Template

variable {σ : Type} {read : String → Except Error String} {host : Host σ} {engine : Engine σ}

/-- The expressions of an engine are parsed and walked by the library. -/
def Engine.Interprets (engine : Engine σ) : Prop := engine.evaluator = .interpreter engine.host

theorem Engine.interprets_interpreting (config : Config) (read : String → Except Error String)
    (host : Host σ) : (interpreting config read host).Interprets := rfl

/-! ## What a preparation is made of -/

/-- A relation that holds of the steps of evaluations and preparations, and goes through sequences
and through the catching of errors. -/
structure Engine.Prepares (engine : Engine σ) (R : ∀ α : Type, Render σ α → Render σ α → Prop) :
    Prop extends TemplateEngine.Respects engine.host R where
  /-- Failing. -/
  raise : ∀ {α : Type} (error : Error), R α (raise error) (raise error)
  /-- Catching an error. -/
  attempt : ∀ {α : Type} {x y : Render σ α}, R α x y → R _ (attempt x) (attempt y)
  /-- The start of an evaluation. -/
  started : ∀ request source, R Unit (note (.started request source)) (note (.started request source))
  /-- The end of an evaluation. -/
  ended : ∀ request, R Unit (note (.ended request)) (note (.ended request))
  /-- Checking for a redirect. -/
  checkRedirect : ∀ request, R Unit (checkRedirect request) (checkRedirect request)
  /-- Making the names of an invocation. -/
  builtins : ∀ attributes request, R ObjectId (viewBuiltins attributes request)
    (viewBuiltins attributes request)

namespace Engine.Prepares

variable {R : ∀ α : Type, Render σ α → Render σ α → Prop} {wait wait' : PromiseId → Render σ Value}

theorem ofExcept {α : Type} (h : engine.Prepares R) (result : Except Error α) :
    R α (ofExcept result) (ofExcept result) := by
  cases result with
  | ok value => exact h.pure value
  | error error => exact h.raise error

theorem ofShared {α : Type} (h : engine.Prepares R) (result : Except Error α) :
    R α (ofShared result) (ofShared result) := by
  cases result with
  | ok value => exact h.pure value
  | error error => exact h.raise _

theorem forM {ι : Type} (h : engine.Prepares R) {f g : ι → Render σ Unit} (items : List ι)
    (hfg : ∀ item, R Unit (f item) (g item)) : R Unit (items.forM f) (items.forM g) := by
  induction items with
  | nil => exact h.pure ()
  | cons item rest ih => exact h.bind (hfg item) fun _ => ih

theorem evaluateValue (h : engine.Prepares R) (hengine : engine.Interprets)
    (hwait : ∀ id, R _ (wait id) (wait' id)) (scope : Scope) (source : String) :
    R Value (engine.evaluateValue wait scope source) (engine.evaluateValue wait' scope source) := by
  have hrun := h.toRespects.runRooted hwait scope (RootPath.writeRoots source)
  unfold Engine.evaluateValue TemplateEngine.evaluateValue
  rw [hengine]
  refine h.bind (h.started _ _) fun _ => h.bind (h.attempt hrun) fun result =>
    h.bind (h.ended _) fun _ => h.bind (h.checkRedirect _) fun _ => ?_
  cases result with
  | ok value => exact h.pure value
  | error error => exact h.raise _

theorem evaluate (h : engine.Prepares R) (hengine : engine.Interprets)
    (hwait : ∀ id, R _ (wait id) (wait' id)) (scope : Scope) (source : String) :
    R String (engine.evaluate wait scope source) (engine.evaluate wait' scope source) :=
  h.bind (h.evaluateValue hengine hwait scope source) fun _ => h.pure _

theorem childContext (h : engine.Prepares R) (caller : Context) (kind : ChildKind)
    (viewPath filePath section_ : String) (attributes : List (String × String))
    (body : Option SlotId) :
    R Context (Engine.childContext caller kind viewPath filePath section_ attributes body)
      (Engine.childContext caller kind viewPath filePath section_ attributes body) := by
  unfold Engine.childContext
  cases kind with
  | shared => exact h.bind (h.pure _) fun _ => h.bind (h.builtins _ _) fun _ => h.pure _
  | fresh => exact h.bind (h.newObject _) fun _ => h.bind (h.builtins _ _) fun _ => h.pure _

theorem prepare (h : engine.Prepares R) (hengine : engine.Interprets)
    (hwait : ∀ id, R _ (wait id) (wait' id)) (walk : Walk) (invocation : Invocation) :
    R Context (walk.prepare engine wait invocation) (walk.prepare engine wait' invocation) := by
  unfold Walk.prepare
  refine h.bind (h.ofExcept _) fun filePath => h.bind (h.childContext _ _ _ _ _ _ _) fun child =>
    h.bind (h.ofExcept _) fun _ => h.bind (h.forM _ fun _ => h.write _ _ _) fun _ => ?_
  refine h.bind (h.forM _ fun expression => ?_) fun _ => h.pure child
  exact h.bind (h.evaluateValue hengine hwait _ expression) fun _ => h.pure ()

end Engine.Prepares

/-! ## Stores that are alike -/

namespace Render.Mirrors

/-- What an evaluation is made of does the same on stores that are alike. -/
theorem respects (host : Host σ) :
    Respects host fun _ x y => Mirrors read x y where
  pure a := .pure a
  bind hx hf := hx.bind hf
  read f := .withGraph f
  write _ _ _ := .changeGraph _
  newObject _ := .changeGraph _
  newPromise _ := .changeGraph _
  fault _ := .raise _
  exhausted := .throw _
  ask request target := .askRedirect request target
  native id args := .ofNative (host.call id args)
  program source := .programOf source

/-- So does what a preparation is made of. -/
theorem prepares (engine : Engine σ) : engine.Prepares fun _ x y => Mirrors read x y where
  toRespects := respects engine.host
  raise error := .raise error
  attempt h := h.attempt
  started _ _ := note _
  ended _ := note _
  checkRedirect _ := checkRedirect _
  builtins _ _ := changeGraph _

variable {wait wait' : PromiseId → Render σ Value}

theorem evaluateValue (hengine : engine.Interprets)
    (hwait : ∀ id, Mirrors read (wait id) (wait' id)) (scope : Scope) (source : String) :
    Mirrors read (engine.evaluateValue wait scope source)
      (engine.evaluateValue wait' scope source) :=
  (prepares engine).evaluateValue hengine hwait scope source

theorem evaluate (hengine : engine.Interprets)
    (hwait : ∀ id, Mirrors read (wait id) (wait' id)) (scope : Scope) (source : String) :
    Mirrors read (engine.evaluate wait scope source) (engine.evaluate wait' scope source) :=
  (prepares engine).evaluate hengine hwait scope source

/-! ## Waiting -/

/-- A slot that does not wait to be rendered is read without rendering anything. -/
theorem readSlot (run run' : Task → Render σ String) (id : SlotId) :
    Mirrors read (readSlot run id) (readSlot run' id) := by
  intro s t h
  have hslot := h.slot? id
  unfold TemplateEngine.readSlot
  rw [exec_bind_ok (exec_slot? id s), exec_bind_ok (exec_slot? id t), ← hslot]
  rcases hfind : s.slots[id.index]? with _ | slot
  · exact pure "" s t h
  · rcases hstate : slot.state with fragments | _ | result
    · exact absurd hstate (h.idle slot (Array.mem_of_getElem? hfind) fragments)
    · simp only [Option.map_some, hstate]
      exact throw .stalled s t h
    · simp only [Option.map_some, hstate]
      rcases result with error | text
      · exact raise _ s t h
      · exact pure text s t h

/-- Waiting for a promise does not depend on how other pieces of output are produced. -/
theorem waitFor (run run' : Task → Render σ String) (id : PromiseId) :
    Mirrors read (waitFor engine run id) (waitFor engine run' id) := by
  have hshared : ∀ result : Except Error Value,
      Mirrors (σ := σ) read (ofShared result) (ofShared result) := (prepares engine).ofShared
  have hwork : ∀ work, Mirrors read (runWork engine run work) (runWork engine run' work) := by
    intro work
    cases work with
    | native id args => exact .ofNative _
    | content slot => exact (readSlot run run' slot).map _
  unfold TemplateEngine.waitFor
  refine (withGraph _).bind fun state => ?_
  rcases state with _ | work | _ | result
  · exact .pure Value.undefined
  · exact (changeGraph _).bind fun _ => (hwork work).attempt.bind fun result =>
      (changeGraph _).bind fun _ => hshared result
  · exact .throw .stalled
  · exact hshared result

theorem prepare (hengine : engine.Interprets)
    (hwait : ∀ id, Mirrors read (wait id) (wait' id)) (walk : Walk) (invocation : Invocation) :
    Mirrors read (walk.prepare engine wait invocation) (walk.prepare engine wait' invocation) :=
  (prepares engine).prepare hengine hwait walk invocation

end Render.Mirrors

/-- The context of a template that `invocation` nests in the template of `parent`. -/
structure Nested (engine : Engine σ) (parent : Context) (section_ : String)
    (invocation : Invocation) (child : Context) : Prop where
  /-- It belongs to the same request. -/
  request : child.request = parent.request
  /-- It writes to the section in which it is invoked. -/
  defaultSection : child.defaultSection = section_
  /-- It knows the same directories. -/
  basePaths : child.basePaths = parent.basePaths
  /-- It is one level deeper. -/
  depth : child.depth = parent.depth + 1
  /-- It is not too deep. -/
  bounded : child.depth ≤ engine.config.maxDepth
  /-- Its path is resolved with the directories known there. -/
  filePath : engine.resolvePath parent invocation.path = .ok child.filePath

/-- The context of a child has what its caller hands on. -/
theorem ensures_childContext (caller : Context) (kind : ChildKind)
    (viewPath filePath section_ : String) (attributes : List (String × String))
    (body : Option SlotId) (s : Store σ) :
    Ensures (Engine.childContext caller kind viewPath filePath section_ attributes body) s
      (fun child _ => child.request = caller.request ∧ child.defaultSection = section_ ∧
        child.basePaths = caller.basePaths ∧ child.depth = caller.depth + 1 ∧
        child.filePath = filePath)
      fun _ _ => True := by
  unfold Engine.childContext viewBuiltins
  cases kind with
  | shared =>
    exact .bind_ok (exec_pure _ _) (.bind_ok (exec_changeGraph _ _)
      (.pure ⟨rfl, rfl, rfl, rfl, rfl⟩))
  | fresh =>
    exact .bind_ok (exec_changeGraph _ _) (.bind_ok (exec_changeGraph _ _)
      (.pure ⟨rfl, rfl, rfl, rfl, rfl⟩))

theorem Engine.depth_le_of_checkDepth {context : Context} {a : Unit}
    (h : engine.checkDepth context = .ok a) : context.depth ≤ engine.config.maxDepth := by
  unfold Engine.checkDepth at h
  split at h
  · cases h
  · next hdepth => exact Nat.le_of_not_lt hdepth

/-- Preparation depends on the context and the active section of the walk only. -/
theorem Walk.prepare_eq_start {walk : Walk} (h : walk.active = walk.context.defaultSection)
    (wait : PromiseId → Render σ Value) (invocation : Invocation) :
    walk.prepare engine wait invocation =
      (Walk.start walk.context).prepare engine wait invocation := by
  unfold prepare
  rw [h]
  rfl

/-- What is prepared is nested where it is invoked. -/
theorem ensures_prepare (wait : PromiseId → Render σ Value) (walk : Walk)
    (invocation : Invocation) (s : Store σ) :
    Ensures (walk.prepare engine wait invocation) s
      (fun child _ => Nested engine walk.context walk.active invocation child)
      fun _ _ => True := by
  unfold Walk.prepare
  have hpath : Ensures (ofExcept (engine.resolvePath walk.context invocation.path)) s
      (fun filePath _ => engine.resolvePath walk.context invocation.path = .ok filePath)
      fun _ _ => True := .ofExcept (fun _ h => h) fun _ _ => trivial
  refine hpath.bind fun filePath s hpath => ?_
  refine (ensures_childContext ..).bind fun child s ⟨hrequest, hsection, hbase, hdepth, hfile⟩ => ?_
  have hbounded : Ensures (ofExcept (engine.checkDepth child)) s
      (fun _ _ => child.depth ≤ engine.config.maxDepth) fun _ _ => True :=
    .ofExcept (fun _ h => Engine.depth_le_of_checkDepth h) fun _ _ => trivial
  refine hbounded.bind fun _ s hbounded => (Ensures.any _ s).bind fun _ s _ =>
    (Ensures.any _ s).bind fun _ s _ => .pure ?_
  exact ⟨hrequest, hsection, hbase, hdepth, hbounded, by rw [hpath, hfile]⟩

/-! ## Layouts -/

/-- There is a layout if one is asked for. -/
theorem Reading.findSome?_layout?_eq_none {readings : List Reading} :
    readings.findSome? (·.layout? engine) = none ↔ ∀ path, .layout path ∉ readings := by
  rw [List.findSome?_eq_none_iff]
  constructor
  · intro h path hmem
    cases h _ hmem
  · intro h reading hmem
    cases reading with
    | layout path => exact absurd hmem (h path)
    | _ => rfl

/-- The first layout that is asked for is that of the plan. -/
theorem Plan.ensures_step (engine : Engine σ) (wait : PromiseId → Render σ Value) (plan : Plan)
    (reading : Reading) (s : Store σ) :
    Ensures (plan.step engine wait reading) s
      (fun plan' _ => plan'.layout = plan.layout.or (reading.layout? engine)) fun _ _ => True := by
  have hnone : plan.layout = plan.layout.or none := (Option.or_none ..).symm
  cases reading with
  | text text => exact .pure hnone
  | fault error => exact .raise trivial
  | expression source => exact (Ensures.any _ s).bind fun _ _ _ => .pure hnone
  | effect source =>
    unfold step
    dsimp only
    split
    · exact (Ensures.any _ s).bind fun _ _ _ => .pure hnone
    · exact .pure hnone
  | base name path => exact (Ensures.any _ s).bind fun _ _ _ => .pure hnone
  | layout path =>
    unfold step
    rcases plan.layout with _ | existing
    · exact .pure rfl
    · exact .raise trivial
  | «section» name => exact .pure hnone
  | render name optional => exact .throw trivial
  | nest invocation => exact (Ensures.any _ s).bind fun _ _ _ => .pure hnone
  | paired => exact .throw trivial

theorem Plan.ensures_layout (engine : Engine σ) (wait : PromiseId → Render σ Value)
    (readings : List Reading) (plan : Plan) (s : Store σ) :
    Ensures (readings.foldlM (Plan.step engine wait) plan) s
      (fun plan' _ => plan'.layout = plan.layout.or (readings.findSome? (·.layout? engine)))
      fun _ _ => True := by
  induction readings generalizing plan s with
  | nil => exact .pure (Option.or_none ..).symm
  | cons reading readings ih =>
    rw [List.foldlM_cons]
    refine (ensures_step engine wait plan reading s).bind fun plan' s' hlayout => ?_
    refine (ih plan' s').mono (fun plan'' _ h => ?_) fun _ _ h => h
    rw [h, hlayout, List.findSome?_cons, Option.or_assoc]
    rcases reading.layout? engine with _ | path <;> rfl

end TemplateEngine
