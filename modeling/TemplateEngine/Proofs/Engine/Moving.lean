import TemplateEngine.Proofs.Engine.Preparation
import TemplateEngine.Proofs.Expr.Moving

/-!
# `Engine` · Evaluation and preparation on placed stores

Evaluating an expression and preparing a nested template do the same wherever the values stand
(`Moves.evaluateValue`, `Moves.prepare`). No slot to which a value refers waits to be rendered, so
it does not matter how other pieces of output are produced (`Moves.waitFor`).
-/

namespace TemplateEngine

open Render TemplateEngine.Template

/-- The references of a context. -/
def Refs.context : Refs Context where
  placed p context :=
    { context with data := p.objectId context.data, builtins := p.objectId context.builtins }
  Within e context := Refs.scope.Within e context.scope
  mono h hcontext := Refs.scope.mono h hcontext
  fixed := by
    intro p e context h hcontext
    have hdata : p.objectId context.data = context.data := Refs.object.fixed h hcontext.1
    have hbuiltins : p.objectId context.builtins = context.builtins :=
      Refs.object.fixed h hcontext.2
    rw [hdata, hbuiltins]

/-- Texts have no references. -/
theorem Refs.textMembers_placed (p : Placement) (attributes : List (String × String)) :
    Refs.members.placed p (textMembers attributes) = textMembers attributes := by
  unfold textMembers
  refine (Dictionary.ofList_map _ _).symm.trans ?_
  rw [Dictionary.mapEntries, List.map_map]
  rfl

theorem Refs.within_textMembers (e : Extent) (attributes : List (String × String)) :
    Refs.members.Within e (textMembers attributes) := by
  refine Dictionary.forall_mem_ofList fun named hnamed => ?_
  obtain ⟨text, -, rfl⟩ := List.mem_map.1 hnamed
  exact trivial

variable {σ : Type} {m : Motion σ} {e : Extent} {engine : Engine σ}
  {run run' : Task → Render σ String} {wait wait' : PromiseId → Render σ Value}

/-- Paths do not depend on references. -/
theorem Engine.resolvePath_placed (context : Context) (path : String) (p : Placement) :
    engine.resolvePath (Refs.context.placed p context) path = engine.resolvePath context path := by
  unfold resolvePath resolveDirectory Context.directory
  dsimp only [Refs.context]

namespace Render.Moves

/-! ## Waiting -/

/-- A slot that does not wait to be rendered is read without rendering anything. -/
theorem readSlot {id : SlotId} (hid : m.slot id) :
    Moves m e .free (readSlot run id) (readSlot run' id) := by
  intro s t hst he
  have hslot := hst.slot id hid
  have hidle := fun fragments => hst.idle id fragments hid
  unfold TemplateEngine.readSlot
  rw [exec_bind_ok (exec_slot? id s), exec_bind_ok (exec_slot? id t), hslot]
  rcases hstate : s.slots[id.index]?.map Slot.state with _ | fragments | _ | result
  · exact free "" s t hst he
  · exact absurd hstate (hidle fragments)
  · exact throw .stalled s t hst he
  · have hshared : Moves (σ := σ) m e .free (TemplateEngine.ofShared result)
        (TemplateEngine.ofShared result) :=
      ofShared (congrFun Except.map_id _).symm fun _ _ => trivial
    exact hshared s t hst he

theorem runWork (hhost : engine.host.Parametric m.host m.toPlacement) {work : Work}
    (hknown : work.Known m.toPlacement) (hwork : Refs.work.Within e work) :
    Moves m e .value (runWork engine run work)
      (runWork engine run' (Refs.work.placed m.toPlacement work)) := by
  cases work with
  | native id args => exact ofNative hhost hknown hwork
  | content slot => exact (readSlot hknown).map (fun _ => rfl) fun _ _ _ => trivial

theorem waitFor (hhost : engine.host.Parametric m.host m.toPlacement) :
    Waits m (waitFor engine run) (waitFor engine run') := by
  intro e id _
  refine withGraph fun g g' hg _ => ?_
  rw [hg.promise?]
  rcases hstate : g.promise? id with _ | work | _ | result
  · exact pure rfl trivial
  · have hknown : work.Known m.toPlacement := hg.state _ (Array.mem_of_getElem? hstate)
    have hwork : Refs.work.Within g.extent work := hg.closed.promise? hstate
    have hrunning : Refs.state.Within g.extent .running := trivial
    have hknown' : PromiseState.running.Known m.toPlacement := trivial
    refine (setPromise id hknown' hrunning).bind fun _ _ he _ =>
      (runWork hhost hknown (Refs.work.mono he hwork)).attempt.bind fun _ result _ hresult => ?_
    have hsettled : Refs.state.Within _ (.settled result) := hresult
    have hknown' : (PromiseState.settled result).Known m.toPlacement := trivial
    exact (setPromise id hknown' hsettled).bind fun _ _ he' _ =>
      ofShared rfl (Refs.value.result.mono he' hresult)
  · exact throw .stalled
  · have hresult : Refs.value.result.Within g.extent result := hg.closed.promise? hstate
    exact ofShared rfl hresult

/-! ## Evaluation -/

theorem evaluateValue (hengine : engine.Interprets)
    (hhost : engine.host.Parametric m.host m.toPlacement) (hwait : Waits m wait wait')
    {scope : Scope} (hscope : Refs.scope.Within e scope) (source : String) :
    Moves m e .value (engine.evaluateValue wait scope source)
      (engine.evaluateValue wait' (Refs.scope.placed m.toPlacement scope) source) := by
  have hrun := runRooted hhost hwait hscope (RootPath.writeRoots source)
  unfold Engine.evaluateValue TemplateEngine.evaluateValue
  rw [hengine]
  refine (note _).bind fun _ _ h₁ _ => (hrun.attempt.mono h₁).bind fun _ result _ hresult =>
    (note _).bind fun _ _ h₂ _ => (checkRedirect _).bind fun _ _ h₃ _ => ?_
  cases result with
  | ok value => exact pure rfl (((hresult value rfl).mono h₂).mono h₃)
  | error error => exact raise _

theorem evaluate (hengine : engine.Interprets)
    (hhost : engine.host.Parametric m.host m.toPlacement) (hwait : Waits m wait wait')
    {scope : Scope} (hscope : Refs.scope.Within e scope) (source : String) :
    Moves m e .free (engine.evaluate wait scope source)
      (engine.evaluate wait' (Refs.scope.placed m.toPlacement scope) source) :=
  (evaluateValue hengine hhost hwait hscope source).bind fun _ value _ _ =>
    pure (Value.text_placed value) trivial

/-! ## Preparation -/

theorem viewBuiltins (attributes : List (String × String)) (request : RequestId) :
    Moves (σ := σ) m e .object (viewBuiltins attributes request)
      (viewBuiltins attributes request) := by
  have hcallables : ∀ named ∈ standardCallables ++
      [("attr", .attribute attributes), ("redirect", .redirect request)],
      named.2.Known m.toPlacement := by
    simp [standardCallables, Callable.Known]
  refine changeGraph fun g g' hg _ => ?_
  have hattrs := hg.newObject (Refs.within_textMembers g.extent attributes)
  rw [Refs.textMembers_placed] at hattrs
  dsimp only
  generalize g.newObject (textMembers attributes) = first at hattrs ⊢
  generalize g'.newObject (textMembers attributes) = first' at hattrs ⊢
  obtain ⟨attrs, g₁⟩ := first
  obtain ⟨attrs', g₁'⟩ := first'
  obtain rfl : attrs' = m.objectId attrs := hattrs.value
  have hlibrary := hattrs.placed.newLibrary hcallables
  dsimp only at hlibrary ⊢
  generalize g₁.newLibrary _ = second at hlibrary ⊢
  generalize g₁'.newLibrary _ = second' at hlibrary ⊢
  obtain ⟨builtins, g₂⟩ := second
  obtain ⟨builtins', g₂'⟩ := second'
  obtain rfl : builtins' = m.objectId builtins := hlibrary.value
  have hattrs' : Value.Within g₂.extent (.object attrs) :=
    Refs.object.mono hlibrary.grows hattrs.within
  have hwrite := hlibrary.placed.write builtins "attrs" hattrs'
  exact ⟨rfl, Refs.object.mono hwrite.grows hlibrary.within, hwrite.placed,
    hattrs.beside.trans (hlibrary.beside.trans hwrite.beside),
    Extent.le_trans hattrs.grows (Extent.le_trans hlibrary.grows hwrite.grows)⟩

theorem childContext (caller : Context) (kind : ChildKind)
    (hdata : kind = .shared → Refs.object.Within e caller.data)
    (viewPath filePath section_ : String)
    (attributes : List (String × String)) (body : Option SlotId) :
    Moves (σ := σ) m e .context
      (Engine.childContext caller kind viewPath filePath section_ attributes body)
      (Engine.childContext (Refs.context.placed m.toPlacement caller) kind viewPath filePath
        section_ attributes body) := by
  unfold Engine.childContext
  cases kind with
  | shared =>
    have hcaller : Moves (σ := σ) m e .object (Pure.pure caller.data)
        (Pure.pure (m.objectId caller.data)) := pure rfl (hdata rfl)
    exact hcaller.bind fun _ data _ hdata => (viewBuiltins _ _).bind fun _ builtins he hbuiltins =>
      pure rfl ⟨Refs.object.mono he hdata, hbuiltins⟩
  | fresh =>
    have hempty : Refs.members.Within e .empty := nofun
    exact (newObject hempty).bind fun _ data _ hdata =>
      (viewBuiltins _ _).bind fun _ builtins he hbuiltins =>
        pure rfl ⟨Refs.object.mono he hdata, hbuiltins⟩

/-- A preparation depends on the context and the active section of the walk. -/
theorem prepare (hengine : engine.Interprets)
    (hhost : engine.host.Parametric m.host m.toPlacement) (hwait : Waits m wait wait')
    (walk walk' : Walk) (hcontext : walk'.context = Refs.context.placed m.toPlacement walk.context)
    (hactive : walk'.active = walk.active) (invocation : Invocation)
    (hdata : invocation.kind = .shared → Refs.object.Within e walk.context.data) :
    Moves m e .context (walk.prepare engine wait invocation)
      (walk'.prepare engine wait' invocation) := by
  unfold Walk.prepare
  rw [hcontext, hactive]
  rw [Engine.resolvePath_placed]
  refine (ofResult _).bind fun _ filePath h₁ _ => ?_
  refine (childContext walk.context _ (fun hkind => Refs.object.mono h₁ (hdata hkind)) _ _ _ _ _).bind
    fun _ child _ hchild => ?_
  refine (ofResult (engine.checkDepth child)).bind fun e₂ _ h₂ _ => ?_
  have hchild₂ := Refs.context.mono h₂ hchild
  have hset : Moves (σ := σ) m e₂ .free
      (invocation.data.forM fun named =>
        Render.changeGraph fun graph => ((), graph.write child.data named.1 (.string named.2)))
      (invocation.data.forM fun named => Render.changeGraph fun graph =>
        ((), graph.write (m.objectId child.data) named.1 (.string named.2))) :=
    forM _ fun named => write child.data named.1 trivial
  refine hset.bind fun e₃ _ h₃ _ => ?_
  have hchild₃ := Refs.context.mono h₃ hchild₂
  have hrun : Moves m e₃ .free
      (invocation.expressions.forM fun expression => do
        let _ ← engine.evaluateValue wait child.scope expression)
      (invocation.expressions.forM fun expression => do
        let _ ← engine.evaluateValue wait' (Refs.scope.placed m.toPlacement child.scope) expression) :=
    forM _ fun expression =>
      (evaluateValue hengine hhost hwait hchild₃ expression).bind fun _ _ _ _ => free ()
  exact hrun.bind fun _ _ h₄ _ => pure rfl (Refs.context.mono h₄ hchild₃)

end Render.Moves

end TemplateEngine
