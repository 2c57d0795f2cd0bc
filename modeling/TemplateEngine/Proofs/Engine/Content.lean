import TemplateEngine.Proofs.Engine.Frame
import TemplateEngine.Proofs.Engine.Preparation
import TemplateEngine.Proofs.Expr.Programs
import TemplateEngine.Proofs.Expr.Rooting
import TemplateEngine.Proofs.Engine.Waiting
import TemplateEngine.Proofs.Graph.Prefix

/-!
# `Engine` · The content of a layout

A layout reads the content of its page from a slot, in an expression or where it prints it.

* **`Graph.Provides`**: the data of a layout has a function that reads the slot.
* **`exec_evaluate_content`**: the expression `content` calls this function and waits for the promise
  that it gives. The promise reads the slot.
* **Slots**: the first reader renders the slot (`exec_readSlot_pending`), and it is the same text for
  all later ones (`exec_readSlot_settled`).
-/

namespace TemplateEngine

open Render

variable {σ : Type} {engine : Engine σ} {run : Task → Render σ String} {slot : SlotId}
  {data : ObjectId} {id : FunctionId} {s t : Store σ} {text : String}

/-! ## Slots -/

/-- The store in which a slot has its text. -/
def Store.settled (s : Store σ) (slot : SlotId) (text : String) : Store σ :=
  { s with slots := s.slots.modify slot.index fun slot => { slot with state := .settled (.ok text) } }

/-- A slot is rendered when it is read first. -/
theorem exec_readSlot_pending {fragments : List (Fragment Deferred)}
    (hslot : s.slots[slot.index]?.map Slot.state = some (.pending fragments))
    (hrender : exec (renderFragments (runDeferred run) fragments) (s.running slot) = (.ok text, t)) :
    exec (readSlot run slot) s = (.ok text, t.settled slot text) := by
  have hrunning : exec (changeSlot slot fun slot => { slot with state := .running }) s =
      (.ok (), s.running slot) := rfl
  have hattempt : exec (attempt (renderFragments (runDeferred run) fragments)) (s.running slot) =
      (.ok (.ok text), t) := by
    rw [exec_attempt, hrender]
  unfold readSlot
  rw [exec_bind_ok (exec_slot? slot s), hslot]
  dsimp only
  rw [exec_bind_ok hrunning, exec_bind_ok hattempt]
  rfl

/-- A slot that was rendered keeps its text. -/
theorem exec_readSlot_settled
    (hslot : s.slots[slot.index]?.map Slot.state = some (.settled (.ok text))) :
    exec (readSlot run slot) s = (.ok text, s) := by
  unfold readSlot
  rw [exec_bind_ok (exec_slot? slot s), hslot]
  rfl

/-- The content is rendered when it is printed, unless it was read before. -/
theorem exec_renderContent_pending {fragments : List (Fragment Deferred)}
    (hslot : s.slots[slot.index]? = some ⟨.pending fragments, false⟩)
    (hrender : exec (renderFragments (runDeferred run) fragments) ((s.marked slot).running slot) =
      (.ok text, t)) (optional : Bool) :
    exec (Engine.renderContent run slot optional) s = (.ok text, t.settled slot text) := by
  have hpending : (s.marked slot).slots[slot.index]?.map Slot.state = some (.pending fragments) := by
    unfold Store.marked
    rw [Array.getElem?_modify, if_pos rfl, hslot]
    rfl
  unfold Engine.renderContent
  rw [exec_bind_ok (exec_consume slot s), hslot]
  dsimp only [Option.any_some]
  rw [if_neg Bool.false_ne_true]
  exact exec_readSlot_pending hpending hrender

/-! ## Promises -/

/-- The store in which a promise is in some state. -/
def Store.withPromise (s : Store σ) (id : PromiseId) (state : PromiseState) : Store σ :=
  { s with graph := s.graph.setPromise id state }

/-- A promise of the content has the text of the slot. -/
theorem exec_waitFor_content {id : PromiseId}
    (hpromise : s.graph.promise? id = some (.pending (.content slot)))
    (hread : exec (readSlot run slot) (s.withPromise id .running) = (.ok text, t)) :
    exec (waitFor engine run id) s =
      (.ok (.string text), t.withPromise id (.settled (.ok (.string text)))) := by
  have hwork : exec (runWork engine run (.content slot)) (s.withPromise id .running) =
      (.ok (.string text), t) := by
    unfold runWork
    rw [exec_map, hread]
  have hrunning : exec (changeGraph fun graph => ((), graph.setPromise id .running)) s =
      (.ok (), s.withPromise id .running) := rfl
  have hattempt : exec (attempt (runWork engine run (.content slot))) (s.withPromise id .running) =
      (.ok (.ok (.string text)), t) := by
    rw [exec_attempt, hwork]
  unfold waitFor
  rw [exec_bind_ok (exec_withGraph _ _), hpromise]
  dsimp only
  rw [exec_bind_ok hrunning, exec_bind_ok hattempt]
  rfl

/-! ## The expression -/

/-- The member `content` of an object is a function that reads a slot. -/
structure Graph.Provides (graph : Graph) (data : ObjectId) (id : FunctionId) (slot : SlotId) :
    Prop where
  /-- The member. -/
  member : (graph.objects[data.index]?).bind (·.find? Config.content) = some (.function id)
  /-- The function. -/
  function : graph.functions[id.index]? = some (.content slot)

theorem Graph.Provides.has {graph : Graph} (h : graph.Provides data id slot) :
    graph.has data Config.content = true ∧ graph.read data Config.content = .function id := by
  obtain ⟨members, hmembers, hmember⟩ := Option.bind_eq_some_iff.1 h.member
  have hfind : (graph.members data).find? Config.content = some (.function id) := by
    unfold Graph.members
    rw [hmembers]
    exact hmember
  unfold Graph.has Graph.read Dictionary.contains
  rw [hfind]
  exact ⟨rfl, rfl⟩

/-- The member and the function stay where they are. -/
theorem Graph.Provides.congr {graph graph' : Graph} (h : graph.Provides data id slot)
    (hobject : graph'.objects[data.index]? = graph.objects[data.index]?)
    (hfunction : graph'.functions[id.index]? = graph.functions[id.index]?) :
    graph'.Provides data id slot where
  member := by
    rw [hobject]
    exact h.member
  function := hfunction.trans h.function

theorem writeRoots_content : RootPath.writeRoots Config.content = Config.content := by
  decide +kernel

theorem usesAwait_content : RootPath.usesAwait Config.content = false := by
  decide +kernel

/-- The store in which the promise of the content is waited for. -/
def Store.promising (s : Store σ) (request : RequestId) (slot : SlotId) : Store σ :=
  { s.noted (.started request Config.content) with
    programs := (lookUp s.programs Config.content).2
    graph := (s.graph.newPromise (.pending (.content slot))).2 }

/-- The expression `content` waits for a promise that reads the slot. -/
theorem exec_evaluate_content (hengine : engine.Interprets) (hparsed : s.programs.Parsed)
    {scope : Scope} (hprovides : s.graph.Provides scope.data id slot)
    {wait : PromiseId → Render σ Value}
    (hwait : exec (wait ⟨s.graph.promises.size⟩) (s.promising scope.request slot) =
      (.ok (.string text), t))
    (hredirect : t.redirect scope.request = none) :
    exec (engine.evaluate wait scope Config.content) s = (.ok text, t.noted (.ended scope.request)) := by
  have hprogram : exec (programOf Config.content) (s.noted (.started scope.request Config.content)) =
      (.ok [.ident Config.content],
        { s.noted (.started scope.request Config.content) with
          programs := (lookUp s.programs Config.content).2 }) := by
    rw [exec_programOf_eq_lookUp]
    show ((lookUp s.programs Config.content).1, _) = _
    rw [(lookUp_of_parsed hparsed Config.content).1]
    show ((Program.parse "content").mapError _, _) = _
    rw [parse_content]
    rfl
  let s₁ : Store σ := { s.noted (.started scope.request Config.content) with
    programs := (lookUp s.programs Config.content).2 }
  obtain ⟨hhas, hmember⟩ := hprovides.has
  -- The data has the name, so that the names beside it are not asked.
  have hlookup : exec (lookup scope Config.content) s₁ = (.ok (.function id), s₁) := by
    show (Except.ok (if s.graph.has scope.data Config.content then
      s.graph.read scope.data Config.content else s.graph.read scope.builtins Config.content), s₁) = _
    rw [hhas, if_pos rfl, hmember]
  have hwalk : exec (Expr.walk engine.host scope (.ident Config.content)) s₁ =
      (.ok (some (.function id)), s₁) := by
    unfold Expr.walk
    rw [exec_bind_ok hlookup]
    rfl
  have hvalue : exec (Expr.eval engine.host scope (.ident Config.content)) s₁ =
      (.ok (.function id), s₁) := by
    unfold Expr.eval settle
    rw [exec_bind_ok hwalk]
    rfl
  have hcall : exec (call engine.host id []) s₁ =
      (.ok (.promise ⟨s.graph.promises.size⟩), s.promising scope.request slot) := by
    have hfunction : s₁.graph.functions[id.index]? = some (.content slot) := hprovides.function
    unfold call
    rw [exec_bind_ok (exec_withGraph _ _), hfunction]
    rfl
  have hunwrap : exec (unwrap engine.host wait unwrapLimit (.function id)) s₁ =
      (.ok (.string text), t) := by
    unfold unwrapLimit
    rw [unwrap, exec_bind_ok hcall, unwrap, exec_bind_ok hwait]
    rfl
  have hstatements : exec (runStatements (Expr.eval engine.host scope) .undefined
      [.ident Config.content]) s₁ = (.ok (.function id), s₁) := by
    unfold runStatements
    rw [exec_bind_ok hvalue]
    rfl
  have hrun : exec (runRooted engine.host engine.evaluator wait scope Config.content)
      (s.noted (.started scope.request Config.content)) = (.ok (.string text), t) := by
    unfold runRooted
    rw [hengine, usesAwait_content, if_neg Bool.false_ne_true]
    unfold Evaluator.interpreter
    dsimp only
    rw [bind_assoc, exec_bind_ok hprogram, exec_bind_ok hstatements]
    exact hunwrap
  have hattempt : exec (attempt (runRooted engine.host engine.evaluator wait scope Config.content))
      (s.noted (.started scope.request Config.content)) = (.ok (.ok (.string text)), t) := by
    rw [exec_attempt, hrun]
  have hchecked : exec (checkRedirect scope.request) (t.noted (.ended scope.request)) =
      (.ok (), t.noted (.ended scope.request)) := by
    have hnone : (t.noted (.ended scope.request)).redirect scope.request = none := hredirect
    rw [exec_checkRedirect, hnone]
  have hevaluate : exec (engine.evaluateValue wait scope Config.content) s =
      (.ok (.string text), t.noted (.ended scope.request)) := by
    unfold Engine.evaluateValue evaluateValue
    rw [writeRoots_content, exec_bind_ok (exec_note _ _), exec_bind_ok hattempt,
      exec_bind_ok (exec_note _ _), exec_bind_ok hchecked]
    rfl
  unfold Engine.evaluate
  rw [exec_bind_ok hevaluate]
  rfl

/-- The store in which an expression has started to render the content. -/
def Store.reading (s : Store σ) (request : RequestId) (slot : SlotId) : Store σ :=
  ((s.promising request slot).withPromise ⟨s.graph.promises.size⟩ .running).running slot

/-- The store in which an expression has got the content from a promise. -/
def Store.answered (s : Store σ) (request : RequestId) (id : PromiseId) (text : String) : Store σ :=
  (s.withPromise id (.settled (.ok (.string text)))).noted (.ended request)

theorem Store.promise?_promising (s : Store σ) (request : RequestId) (slot : SlotId) :
    (s.promising request slot).graph.promise? ⟨s.graph.promises.size⟩ =
      some (.pending (.content slot)) :=
  Array.getElem?_push_size

/-- The first expression renders the content. -/
theorem exec_content_first (hengine : engine.Interprets) (hparsed : s.programs.Parsed) {scope : Scope}
    (hprovides : s.graph.Provides scope.data id slot) {fragments : List (Fragment Deferred)}
    (hslot : s.slots[slot.index]?.map Slot.state = some (.pending fragments))
    (hrender : exec (renderFragments (runDeferred run) fragments) (s.reading scope.request slot) =
      (.ok text, t))
    (hredirect : t.redirect scope.request = none) :
    exec (engine.evaluate (waitFor engine run) scope Config.content) s =
      (.ok text, (t.settled slot text).answered scope.request ⟨s.graph.promises.size⟩ text) := by
  have hread : exec (readSlot run slot)
      ((s.promising scope.request slot).withPromise ⟨s.graph.promises.size⟩ .running) =
        (.ok text, t.settled slot text) := exec_readSlot_pending hslot hrender
  exact exec_evaluate_content hengine hparsed hprovides
    (exec_waitFor_content (s.promise?_promising scope.request slot) hread) hredirect

/-- Later ones get the same text. -/
theorem exec_content_again (hengine : engine.Interprets) (hparsed : s.programs.Parsed) {scope : Scope}
    (hprovides : s.graph.Provides scope.data id slot)
    (hslot : s.slots[slot.index]?.map Slot.state = some (.settled (.ok text)))
    (hredirect : s.redirect scope.request = none) :
    exec (engine.evaluate (waitFor engine run) scope Config.content) s =
      (.ok text, ((s.promising scope.request slot).withPromise ⟨s.graph.promises.size⟩
        .running).answered scope.request ⟨s.graph.promises.size⟩ text) := by
  have hread : exec (readSlot run slot)
      ((s.promising scope.request slot).withPromise ⟨s.graph.promises.size⟩ .running) =
        (.ok text, (s.promising scope.request slot).withPromise ⟨s.graph.promises.size⟩ .running) :=
    exec_readSlot_settled hslot
  exact exec_evaluate_content hengine hparsed hprovides
    (exec_waitFor_content (s.promise?_promising scope.request slot) hread) hredirect

end TemplateEngine
