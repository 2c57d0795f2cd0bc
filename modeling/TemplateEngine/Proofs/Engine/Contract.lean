import TemplateEngine.Engine.Render
import TemplateEngine.Proofs.Render.Contract
import TemplateEngine.Proofs.Section.Production
import TemplateEngine.RenderCommand
import TemplateEngine.Source.Memory

/-!
# `Engine` · Contracts of the engine

What the parts of the engine ensure under any contract that allows them to append to sections, to
take scopes from sections, to read templates and to evaluate expressions.

* **`Contract.Allows`** lists these permissions.
* **Walks**: `Meets.prepare`, `Meets.invoke` and `Meets.direct`, for everything but paired tags.
* **Renders**: fragments, slots, promises, sections and layouts, given what the production of other
  pieces ensures (`run`). `Meets.produce` closes the recursion for contracts that a whole template
  meets.
-/

namespace TemplateEngine

open Render TemplateEngine.Text TemplateEngine.Template

variable {σ : Type}

/-- What a contract allows the parts of an engine to do. -/
structure Contract.Allows (c : Contract σ) (engine : Engine σ) : Prop where
  /-- What comes from outside is within bounds. -/
  keeps : engine.Keeps c.bounds
  /-- Appending to a section. -/
  appends : ∀ {s : Store σ} {id : RequestId} (name owner : String) (fragment : Fragment Deferred),
    c.Holds s → c.bounds.ours id →
      c.Ready (s.setSections id ((s.sections id).add name owner fragment).2) ∧
        c.Changes s (s.setSections id ((s.sections id).add name owner fragment).2)
  /-- Taking from a section without a scope. -/
  takesNone : ∀ {s : Store σ} {id : RequestId} {name : String} {after : Sections Deferred},
    c.Holds s → c.bounds.ours id → (s.sections id).takeCurrent name = .ok (none, after) →
      c.Ready (s.setSections id after) ∧ c.Changes s (s.setSections id after)
  /-- Taking a scope. -/
  takes : ∀ {s : Store σ} {id : RequestId} {name : String} {scope : ScopeId}
    {after : Sections Deferred}, c.Holds s → c.bounds.ours id →
      (s.sections id).takeCurrent name = .ok (some scope, after) →
        c.Ready ((s.setSections id after).noted (.taken id name scope)) ∧
          c.Changes s ((s.setSections id after).noted (.taken id name scope))
  /-- Reading a template. -/
  reads : ∀ {s : Store σ} (path : String), c.Holds s →
    c.Ready (s.noted (.reading path)) ∧ c.Changes s (s.noted (.reading path))
  /-- Evaluating an expression. -/
  evaluates : ∀ {wait : PromiseId → Render σ Value} {scope : Scope} (source : String),
    (∀ id, c.Meets (wait id) fun _ => True) → c.bounds.ours scope.request →
      c.Meets (engine.evaluateValue wait scope source) fun _ => True

/-- A walk goes on in the same request, with the same tags open. -/
def Walk.Goes (before after : Walk) : Prop :=
  after.context.request = before.context.request ∧ after.openTags = before.openTags

namespace Contract.Meets

variable {c : Contract σ} {engine : Engine σ} {wait : PromiseId → Render σ Value} {walk : Walk}

/-! ## Walks -/

theorem append (h : c.Allows engine) (hwalk : c.bounds.ours walk.context.request)
    {payload : Payload Deferred} {priority : Priority}
    (hpayload : Fragment.Within c.bounds ⟨payload, priority⟩) :
    c.Meets (walk.append payload priority) fun _ => True := by
  refine of_exec fun s hs => ?_
  refine ⟨(), _, rfl, True.intro, ⟨hs.sound.setSections fun hid scope fragment hf => ?_,
    (h.appends walk.active walk.context.viewPath ⟨payload, priority⟩ hs hwalk).1⟩,
    (h.appends walk.active walk.context.viewPath ⟨payload, priority⟩ hs hwalk).2⟩
  rcases Sections.mem_fragments_add hf with rfl | hf
  · exact hpayload
  · exact hs.sound.scopes _ hid scope fragment hf

theorem appendText (h : c.Allows engine) (hwalk : c.bounds.ours walk.context.request)
    (text : String) : c.Meets (walk.appendText text) fun _ => True := by
  unfold Walk.appendText
  split
  · exact pure True.intro
  · exact append h hwalk True.intro

theorem appendTask (h : c.Allows engine) (hwalk : c.bounds.ours walk.context.request)
    (template : CompiledTemplate) (token : Nat) {task : Task} (htask : task.Within c.bounds)
    (priority : Priority) :
    c.Meets (walk.appendTask template token task priority) fun _ => True :=
  append h hwalk htask

theorem viewBuiltins (attributes : List (String × String)) (request : RequestId) :
    c.Meets (viewBuiltins attributes request) fun _ => True :=
  changeGraph _ fun _ hgraph =>
    ⟨True.intro, ((hgraph.newObject _).newLibrary _).write _ _ _⟩

theorem childContext (caller : Context) (kind : ChildKind) (viewPath filePath section_ : String)
    (attributes : List (String × String)) (body : Option SlotId) :
    c.Meets (Engine.childContext caller kind viewPath filePath section_ attributes body)
      fun child => child.request = caller.request := by
  have hbuiltins : ∀ data slot, c.Meets (do
      let builtins ← TemplateEngine.viewBuiltins attributes caller.request
      return { caller with
        viewPath := viewPath, filePath := filePath, data := data, isLayout := false
        defaultSection := section_, slot := slot, attributes := attributes
        depth := caller.depth + 1, builtins := builtins })
      fun child => child.request = caller.request :=
    fun data slot => (viewBuiltins attributes caller.request).bind fun builtins _ => pure rfl
  unfold Engine.childContext
  cases kind with
  | shared => exact hbuiltins caller.data _
  | fresh =>
    have hdata : c.Meets (Render.changeGraph fun graph => graph.newObject .empty : Render σ ObjectId)
        fun _ => True :=
      changeGraph _ fun _ hgraph => ⟨True.intro, hgraph.newObject .empty⟩
    exact hdata.bind fun data _ => hbuiltins data _

theorem forM {α : Type} {f : α → Render σ Unit} (items : List α)
    (hf : ∀ item ∈ items, c.Meets (f item) fun _ => True) :
    c.Meets (items.forM f) fun _ => True := by
  induction items with
  | nil => exact pure True.intro
  | cons item rest ih =>
    exact (hf item List.mem_cons_self).bind fun _ _ =>
      ih fun item hitem => hf item (List.mem_cons_of_mem _ hitem)

theorem resolveDirectory (context : Context) (path : String) :
    c.Meets (Render.ofExcept (Engine.resolveDirectory context path) : Render σ String)
      fun _ => True :=
  ofExcept (fun _ _ => True.intro) fun _ h => c.bounds.own (Error.isOwn_resolveDirectory h)

theorem resolvePath (engine : Engine σ) (context : Context) (path : String) :
    c.Meets (Render.ofExcept (engine.resolvePath context path) : Render σ String) fun _ => True :=
  ofExcept (fun _ _ => True.intro) fun _ h => c.bounds.own (Error.isOwn_resolvePath h)

theorem checkDepth (engine : Engine σ) (context : Context) :
    c.Meets (Render.ofExcept (engine.checkDepth context) : Render σ Unit) fun _ => True :=
  ofExcept (fun _ _ => True.intro) fun _ h => c.bounds.own (Error.isOwn_checkDepth h)

/-- A nested template that is prepared belongs to the request of its caller. -/
theorem prepare (h : c.Allows engine) (hwait : ∀ id, c.Meets (wait id) fun _ => True)
    (hwalk : c.bounds.ours walk.context.request) (invocation : Invocation) :
    c.Meets (walk.prepare engine wait invocation)
      fun child => child.request = walk.context.request := by
  unfold Walk.prepare
  refine (resolvePath engine walk.context invocation.path).bind fun filePath _ => ?_
  refine (childContext _ _ _ _ _ _ _).bind fun child hchild => ?_
  refine (checkDepth engine child).bind fun _ _ => ?_
  have hdata : ∀ named ∈ invocation.data, c.Meets (Render.changeGraph fun graph =>
      ((), graph.write child.data named.1 (.string named.2)) : Render σ Unit) fun _ => True :=
    fun _ _ => changeGraph _ fun _ hgraph => ⟨True.intro, hgraph.write _ _ _⟩
  refine (forM invocation.data hdata).bind fun _ _ => ?_
  have hscope : c.bounds.ours child.scope.request := by
    show c.bounds.ours child.request
    rw [hchild]
    exact hwalk
  refine (forM invocation.expressions fun expression _ =>
    (h.evaluates expression hwait hscope).bind fun _ _ => pure True.intro).bind fun _ _ => ?_
  exact pure hchild

theorem invoke (h : c.Allows engine) (hwait : ∀ id, c.Meets (wait id) fun _ => True)
    (hwalk : c.bounds.ours walk.context.request) (template : CompiledTemplate) (token : Nat)
    (invocation : Invocation) :
    c.Meets (walk.invoke engine wait template token invocation) fun _ => True := by
  unfold Walk.invoke
  refine (prepare h hwait hwalk invocation).bind fun child hchild => ?_
  refine appendTask h hwalk template token ?_ .nestedView
  show c.bounds.ours child.request
  rw [hchild]
  exact hwalk

theorem appendSection (h : c.Allows engine) (hwalk : c.bounds.ours walk.context.request)
    (template : CompiledTemplate) (token : Nat) (name : String) (optional : Bool) :
    c.Meets (walk.appendSection template token name optional) fun _ => True := by
  have hsection : Task.Within c.bounds (.section walk.context.request name optional) := hwalk
  have hcontent : ∀ slot, Task.Within c.bounds (.content slot optional) := fun _ => True.intro
  unfold Walk.appendSection
  split
  · split
    · exact appendTask h hwalk template token (hcontent _) _
    · exact appendTask h hwalk template token hsection _
  · exact appendTask h hwalk template token hsection _

theorem direct (h : c.Allows engine) (hwait : ∀ id, c.Meets (wait id) fun _ => True)
    (hwalk : c.bounds.ours walk.context.request) (template : CompiledTemplate) (token : Nat)
    (directive : Directive) :
    c.Meets (walk.direct engine wait template token directive) walk.Goes := by
  have hsame : walk.Goes walk := ⟨rfl, rfl⟩
  unfold Walk.direct
  match directive with
  | .eval expression =>
    dsimp only
    split
    · exact (h.evaluates expression hwait hwalk).bind fun _ _ => pure hsame
    · exact pure hsame
  | .base name path =>
    exact (resolveDirectory walk.context path).bind fun directory _ => pure ⟨rfl, rfl⟩
  | .layout path =>
    dsimp only
    split
    · exact raise (c.bounds.own id)
    · exact pure ⟨rfl, rfl⟩
  | .section name => exact pure ⟨rfl, rfl⟩
  | .render name optional =>
    exact (appendSection h hwalk template token name optional).bind fun _ _ => pure hsame
  | .include path expression =>
    have hinvoke := invoke h hwait hwalk template token (.ofDirective .shared path expression)
    exact hinvoke.bind fun _ _ => pure hsame
  | .view path expression =>
    have hinvoke := invoke h hwait hwalk template token (.ofDirective .fresh path expression)
    exact hinvoke.bind fun _ _ => pure hsame
  | .unknown word => exact raise (c.bounds.own id)

/-- Literals, expressions and directives leave the open tags as they are. -/
theorem step (h : c.Allows engine) (hwait : ∀ id, c.Meets (wait id) fun _ => True)
    (hwalk : c.bounds.ours walk.context.request) (template : CompiledTemplate) (token : Nat)
    {part : Token} (hpart : part.kind = .literal ∨ part.kind = .expression) :
    c.Meets (walk.step engine wait template token part) walk.Goes := by
  have hsame : walk.Goes { walk with stripNext := false } := ⟨rfl, rfl⟩
  unfold Walk.step
  rcases hpart with hkind | hkind
  · rw [hkind]
    exact (appendText h hwalk _).bind fun _ _ => pure hsame
  · rw [hkind]
    rcases Directive.parse part.body with fault | _ | directive
    · exact raise (c.bounds.own fun h => h)
    · have htext : c.Meets (engine.evaluate wait walk.context.scope part.body) fun _ => True :=
        (h.evaluates part.body hwait hwalk).bind fun _ _ => pure True.intro
      exact htext.bind fun text _ => (appendText h hwalk text).bind fun _ _ => pure hsame
    · have hstrip : c.bounds.ours
          ({ walk with stripNext := directive.consumesLine } : Walk).context.request := hwalk
      exact direct h hwait hstrip template token directive

/-! ## Renders -/

section Renders

variable {run : Task → Render σ String}
  (hrun : ∀ task : Task, task.Within c.bounds → c.Meets (run task) fun _ => True)

include hrun

theorem runDeferred {deferred : Deferred} (hdeferred : deferred.task.Within c.bounds) :
    c.Meets (runDeferred run deferred) fun _ => True :=
  mapError (hrun deferred.task hdeferred) (Error.similar_locate _ _)

theorem produceAll (pieces : List (Fragment Deferred × Nat))
    (hpieces : ∀ piece ∈ pieces, piece.1.Within c.bounds) :
    c.Meets (produceAll (TemplateEngine.runDeferred run) pieces) fun _ => True := by
  induction pieces with
  | nil => exact pure True.intro
  | cons piece rest ih =>
    obtain ⟨⟨payload, priority⟩, place⟩ := piece
    have hpiece := hpieces _ List.mem_cons_self
    have hrest := ih fun piece hpiece => hpieces piece (List.mem_cons_of_mem _ hpiece)
    unfold TemplateEngine.produceAll
    cases payload with
    | literal text =>
      have htext : c.Meets (Pure.pure text : Render σ String) fun _ => True := pure True.intro
      exact htext.bind fun _ _ => hrest.bind fun _ _ => pure True.intro
    | deferred deferred =>
      exact (runDeferred hrun hpiece).bind fun _ _ => hrest.bind fun _ _ => pure True.intro

theorem renderFragments {fragments : List (Fragment Deferred)}
    (hfragments : ∀ fragment ∈ fragments, fragment.Within c.bounds) :
    c.Meets (renderFragments (TemplateEngine.runDeferred run) fragments) fun _ => True :=
  (produceAll hrun _ fun _ h => hfragments _ (mem_of_mem_productionOrder h)).bind
    fun _ _ => pure True.intro

theorem renderScope {request : RequestId} (hrequest : c.bounds.ours request) (scope : ScopeId) :
    c.Meets (renderScope run request scope) fun _ => True :=
  (fragments hrequest scope).bind fun _ h => renderFragments hrun h

/-- A slot is rendered at most once; its result is kept. -/
theorem readSlot (id : SlotId) : c.Meets (readSlot run id) fun _ => True := by
  unfold TemplateEngine.readSlot
  refine (slot? id).bind fun slot hslot => ?_
  rcases slot with _ | ⟨state, consumed⟩
  · exact pure True.intro
  have hstate : state.Sound c.bounds := hslot _ rfl
  cases state with
  | running => exact stalled
  | settled result =>
    refine ofShared (fun _ _ => True.intro) ?_
    rintro error rfl
    exact hstate
  | pending fragments =>
    have hrunning : c.Meets (Render.changeSlot id fun slot => { slot with state := .running } :
        Render σ Unit) fun _ => True := changeSlot id fun _ _ => True.intro
    refine hrunning.bind fun _ _ => ?_
    refine remember (renderFragments hrun hstate) (fun result s hs hresult => ?_)
      fun _ _ => ⟨rfl, rfl⟩
    refine hs.modifySlot id fun slot _ => ?_
    cases result with
    | ok text => exact True.intro
    | error error => exact hresult error rfl

theorem runWork (hkeeps : engine.Keeps c.bounds) (work : Work) :
    c.Meets (runWork engine run work) fun _ => True := by
  cases work with
  | native id args => exact native hkeeps.host id args
  | content slot => exact (readSlot hrun slot).map

/-- A promise is computed at most once; its result is kept. -/
theorem waitFor (hkeeps : engine.Keeps c.bounds) (id : PromiseId) :
    c.Meets (waitFor engine run id) fun _ => True := by
  have hread : c.Meets (Render.withGraph fun graph => graph.promise? id : Render σ _)
      fun promise => ∀ state, promise = some state → state.Sound c.bounds :=
    withGraph _ fun graph hgraph state => hgraph.promise?
  unfold TemplateEngine.waitFor
  refine hread.bind fun promise hpromise => ?_
  rcases promise with _ | state
  · exact pure True.intro
  have hstate : state.Sound c.bounds := hpromise _ rfl
  cases state with
  | running => exact stalled
  | settled result =>
    refine ofShared (fun _ _ => True.intro) ?_
    rintro error rfl
    exact hstate
  | pending work =>
    have hstate : PromiseState.Sound c.bounds .running := True.intro
    have hrunning : c.Meets (Render.changeGraph fun graph => ((), graph.setPromise id .running) :
        Render σ Unit) fun _ => True :=
      changeGraph _ fun graph hgraph => ⟨True.intro, hgraph.setPromise id hstate⟩
    refine hrunning.bind fun _ _ => ?_
    refine remember (runWork hrun hkeeps work) (fun result s hs hresult => ?_)
      fun _ _ => ⟨rfl, rfl⟩
    refine hs.congr rfl rfl (hs.graph.setPromise id ?_)
    cases result with
    | ok value => exact True.intro
    | error error => exact hresult error rfl

omit hrun in
theorem fetch (h : c.Allows engine) (context : Context) :
    c.Meets (engine.fetch context) fun _ => True := by
  unfold Engine.fetch
  refine (checkDepth engine context).bind fun _ _ => ?_
  have hnote : c.Meets (note (.reading context.filePath) : Render σ Unit) fun _ => True :=
    of_exec fun s hs => ⟨(), _, exec_note _ s, True.intro,
      ⟨hs.sound.noted _, (h.reads _ hs).1⟩, (h.reads _ hs).2⟩
  refine hnote.bind fun _ _ => ?_
  refine (ofExcept (fun _ _ => True.intro) fun error => h.keeps.read _ error).bind fun _ _ => ?_
  exact loadTemplate _ _

omit hrun in
theorem enterLayout (page : Context) (layout : String) {content : SlotState}
    (hcontent : content.Sound c.bounds) :
    c.Meets (engine.enterLayout page layout content)
      fun context => context.request = page.request := by
  have hdata : ∀ slot, c.Meets (Render.changeGraph fun graph =>
      graph.newLibrary [(Config.content, .content slot)] : Render σ ObjectId) fun _ => True :=
    fun slot => changeGraph _ fun _ hgraph => ⟨True.intro, hgraph.newLibrary _⟩
  unfold Engine.enterLayout
  refine (resolvePath engine page layout).bind fun filePath _ => ?_
  refine (newSlot hcontent).bind fun slot _ => ?_
  refine (hdata slot).bind fun data _ => ?_
  unfold Engine.layoutContext
  exact (viewBuiltins [] page.request).bind fun _ _ => pure rfl

theorem renderLayout {page : Context} (hpage : c.bounds.ours page.request) (layout : String)
    (scope : ScopeId) : c.Meets (engine.renderLayout run page layout scope) fun _ => True := by
  unfold Engine.renderLayout
  refine (fragments hpage scope).bind fun fragments hfragments => ?_
  have hcontent : SlotState.Sound c.bounds (.pending fragments) := hfragments
  refine (enterLayout page layout hcontent).bind fun context hcontext => ?_
  refine hrun _ ?_
  show c.bounds.ours context.request
  rw [hcontext]
  exact hpage

theorem renderWalked (hwalk : c.bounds.ours walk.context.request) (template : CompiledTemplate)
    (scope : ScopeId) : c.Meets (engine.renderWalked run template scope walk) fun _ => True := by
  unfold Engine.renderWalked
  split
  · exact mapError (renderLayout hrun hwalk _ scope) (Error.similar_locateLayout _ _)
  · exact renderScope hrun hwalk scope

omit hrun in
theorem consumedText (name : String) (optional : Bool) :
    c.Meets (Engine.consumedText name optional : Render σ String) fun _ => True := by
  unfold Engine.consumedText
  split
  · exact pure True.intro
  · exact raise (c.bounds.own id)

theorem renderSection (h : c.Allows engine) {request : RequestId}
    (hrequest : c.bounds.ours request) (name : String) (optional : Bool) :
    c.Meets (Engine.renderSection run request name optional) fun _ => True := by
  intro s hs
  have hexec := exec_trySections request (fun sections => sections.takeCurrent name) s
  unfold Engine.renderSection
  rcases htake : (s.sections request).takeCurrent name with fault | ⟨_ | scope, after⟩
  all_goals rw [htake] at hexec
  · have hstop : c.Meets (if optional then return "" else Render.raise (sectionError fault) :
        Render σ String) fun _ => True := by
      split
      · exact pure True.intro
      · rw [Sections.takeCurrent_error htake]
        exact raise (c.bounds.own id)
    exact .bind_ok hexec (hstop s hs)
  all_goals have hsound := hs.sound.take htake
  · obtain ⟨hready, hchange⟩ := h.takesNone hs hrequest htake
    exact .bind_ok hexec ((consumedText name optional).afterwards ⟨hsound, hready⟩ hchange)
  · obtain ⟨hready, hchange⟩ := h.takes hs hrequest htake
    refine .bind_ok hexec (.bind_ok (exec_note _ _) ?_)
    exact (renderScope hrun hrequest scope).afterwards ⟨hsound.noted _, hready⟩ hchange

theorem renderContent (slot : SlotId) (optional : Bool) :
    c.Meets (Engine.renderContent run slot optional) fun _ => True := by
  unfold Engine.renderContent
  refine (consume slot).bind fun consumed _ => ?_
  split
  · exact consumedText _ optional
  · exact readSlot hrun slot

/-- Output is produced within a contract if whole templates are. -/
theorem perform (h : c.Allows engine)
    (htemplate : ∀ context, c.bounds.ours context.request →
      c.Meets (engine.renderTemplate run context) fun _ => True)
    {task : Task} (htask : task.Within c.bounds) :
    c.Meets (engine.perform run task) fun _ => True := by
  match task, htask with
  | .template context, htask => exact htemplate context htask
  | .section _ name optional, htask => exact renderSection hrun h htask name optional
  | .content slot optional, _ => exact renderContent hrun slot optional

end Renders

/-- All output is produced within a contract if whole templates are, given the rest. -/
theorem produce (h : c.Allows engine)
    (htemplate : ∀ run : Task → Render σ String,
      (∀ task : Task, task.Within c.bounds → c.Meets (run task) fun _ => True) →
        ∀ context, c.bounds.ours context.request →
          c.Meets (engine.renderTemplate run context) fun _ => True)
    (fuel : Nat) {task : Task} (htask : task.Within c.bounds) :
    c.Meets (engine.produce fuel task) fun _ => True := by
  induction fuel generalizing task with
  | zero => exact exhausted
  | succ fuel ih =>
    exact perform (fun task htask => ih htask) h (htemplate _ fun task htask => ih htask) htask

end Contract.Meets

/-! ## Engines on templates in memory -/

/-- The engine for templates in memory, without native functions and without a cache. -/
def Engine.inMemory (config : Config) (templates : List (String × String)) : Engine Unit :=
  .interpreting { config with cacheSize := 0 } (MemorySource.ofList templates).read Host.none

/-- Such an engine fails only in ways that the library knows. -/
theorem Engine.keeps_inMemory (bounds : Bounds) (config : Config)
    (templates : List (String × String)) : (inMemory config templates).Keeps bounds where
  host := {
    fails := fun _ _ _ _ h => nomatch h
    leaves := fun _ _ _ h => h }
  read path error h := by
    have h : (MemorySource.ofList templates).read path = .error error := h
    unfold MemorySource.read at h
    dsimp only at h
    split at h
    · cases h
    · cases h
      exact bounds.own trivial

/-- A store with one request, which nothing has been done for. -/
def Store.starting : Store Unit := { Store.fresh .nothing () with requests := #[.new] }

/-- What is laid by in it is nothing. -/
theorem Store.sound_starting {bounds : Bounds} (h : ∀ id, bounds.ours id → id.index < 1) :
    Store.starting.Sound bounds where
  live := h
  scopes id _ scope fragment hf := by
    have hsections : Store.starting.sections id = .empty := by
      unfold Store.sections
      obtain ⟨_ | index⟩ := id <;> rfl
    rw [hsections, Sections.fragments_of_le (Nat.zero_le _)] at hf
    cases hf
  slots slot hslot := by simp [Store.starting, Store.fresh] at hslot
  graph state hstate := by simp [Store.starting, Store.fresh, Graph.empty] at hstate

/-- The context of its request for a template. -/
def Context.first (path section_ : String) : Context where
  viewPath := path
  filePath := path
  basePaths := .empty
  data := ⟨0⟩
  request := ⟨0⟩
  isLayout := false
  defaultSection := section_
  slot := none
  attributes := []
  depth := 0
  builtins := ⟨0⟩

/-- A store with nothing in it but the program of a text. -/
def Store.knowing (source : String) (program : Program) : Store Unit :=
  { Store.fresh .nothing () with programs := (Recent.empty programLimit).put source program }

theorem Store.sound_knowing {bounds : Bounds} (h : ∀ id, ¬bounds.ours id) (source : String)
    (program : Program) : (Store.knowing source program).Sound bounds where
  live id hid := absurd hid (h id)
  scopes id hid := absurd hid (h id)
  slots slot hslot := by simp [Store.knowing, Store.fresh] at hslot
  graph state hstate := by simp [Store.knowing, Store.fresh, Graph.empty] at hstate

end TemplateEngine
