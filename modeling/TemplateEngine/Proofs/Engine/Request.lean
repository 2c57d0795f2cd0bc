import TemplateEngine.Engine.Render
import TemplateEngine.Proofs.Render.Operations

/-!
# `Engine` · The start of a request

A request gets a context at the top level and sections of its own, with nothing in them
(`exec_context`, `Store.sections_withRequest`). Other requests are left as they are.
-/

namespace TemplateEngine

open Render

variable {σ : Type}

/-- The store after a request was started. -/
def Store.withRequest (store : Store σ) (graph : Graph) : Store σ :=
  { store with requests := store.requests.push .new, graph := graph }

/-- A context at the top level of a request for a path. -/
structure Context.AtTop (engine : Engine σ) (path : String) (context : Context) : Prop where
  /-- The path is resolved from the root. -/
  filePath : context.filePath =
    Path.withExtension engine.config.extension (Path.combine "/" (Text.trimString path))
  /-- No directory has a name. -/
  basePaths : context.basePaths = .empty
  /-- Output is for the default section of the settings. -/
  defaultSection : context.defaultSection = engine.config.defaultSection
  /-- Nothing is above it. -/
  depth : context.depth = 0

/-- The context of a request is one of a new request, and only functions are made for it. -/
theorem exec_context (engine : Engine σ) (path : String) (data : ObjectId) (store : Store σ) :
    ∃ context graph, exec (engine.context path data) store = (.ok context, store.withRequest graph) ∧
      context.request = ⟨store.requests.size⟩ ∧ context.AtTop engine path ∧
      graph.promises = store.graph.promises := by
  have hnew : exec newRequest store = (.ok ⟨store.requests.size⟩,
      { store with requests := store.requests.push .new }) := rfl
  unfold Engine.context Engine.topContext viewBuiltins
  refine ⟨_, _, (exec_bind_ok hnew _).trans ((exec_bind_ok (exec_changeGraph _ _) _).trans
    (exec_pure _ _)), ?_, ?_, ?_⟩
  · dsimp only
  · constructor <;> dsimp only
  · rfl

/-- The data of the context is what was given. -/
theorem data_of_context {engine : Engine σ} {path : String} {data : ObjectId} {context : Context}
    {store store' : Store σ} (h : exec (engine.context path data) store = (.ok context, store')) :
    context.data = data := by
  unfold Engine.context Engine.topContext at h
  obtain ⟨request, _, -, hrest⟩ := exec_bind_eq_ok h
  obtain ⟨builtins, _, -, hrest⟩ := exec_bind_eq_ok hrest
  cases hrest
  rfl

theorem Store.sections_withRequest (store : Store σ) (graph : Graph) :
    (store.withRequest graph).sections ⟨store.requests.size⟩ = .empty ∧
      (store.withRequest graph).redirect ⟨store.requests.size⟩ = none := by
  unfold Store.sections Store.redirect Store.withRequest
  rw [Array.getElem?_push_size]
  exact ⟨rfl, rfl⟩

end TemplateEngine
