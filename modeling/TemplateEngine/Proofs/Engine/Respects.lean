import TemplateEngine.Engine.Render
import TemplateEngine.Proofs.Engine.Preparation
import TemplateEngine.Proofs.Expr.Respects

/-!
# `Engine` · What a rendering is made of

A rendering is put together from the steps of its evaluations and few others: failing and catching
errors, the journal, requests, new slots, and reading templates. Beside these it reads slots and
waits for promises.

* **`Engine.Passes engine R`**: the relation `R` between computations holds of each of these steps
  and itself, and goes through sequences and through the catching of errors. Then it holds of walks
  and of what renders the fragments of a scope.
* **`Engine.Sustains engine R`**: it also holds of printing a slot and of waiting for a promise,
  given that it holds of the output that these produce. Then it holds of every request
  (`Sustains.renderView`). The recursion of pieces of output that contain others is closed once, in
  `Sustains.produce`.
* **`Engine.Respects engine R`**: it also holds of every single step with slots and promises, which
  suffices for printing and waiting (`Respects.sustains`).
-/

namespace TemplateEngine

open Render TemplateEngine.Text TemplateEngine.Template

variable {σ : Type}

/-- A relation that holds of the steps of a rendering that read no slot and wait for nothing, and
goes through sequences. -/
structure Engine.Passes (engine : Engine σ) (R : ∀ α : Type, Render σ α → Render σ α → Prop) :
    Prop extends TemplateEngine.Respects engine.host R where
  /-- Failing. -/
  raise : ∀ {α : Type} (error : Error), R α (raise error) (raise error)
  /-- Catching an error. -/
  attempt : ∀ {α : Type} {x y : Render σ α}, R α x y → R _ (attempt x) (attempt y)
  /-- Changing an error. -/
  mapError : ∀ {α : Type} (f : Error → Error) {x y : Render σ α}, R α x y →
    R α (mapError f x) (mapError f y)
  /-- Writing into the journal. -/
  note : ∀ event, R Unit (note event) (note event)
  /-- Making an object of functions. -/
  library : ∀ callables, R ObjectId (changeGraph fun graph => graph.newLibrary callables)
    (changeGraph fun graph => graph.newLibrary callables)
  /-- Making the names of an invocation. -/
  builtins : ∀ attributes request, R ObjectId (viewBuiltins attributes request)
    (viewBuiltins attributes request)
  /-- Starting a request. -/
  newRequest : R RequestId newRequest newRequest
  /-- Reading a request. -/
  withRequest : ∀ {α : Type} id (f : Request → α), R α (withRequest id f) (withRequest id f)
  /-- Changing a request. -/
  changeRequest : ∀ id f, R Unit (changeRequest id f) (changeRequest id f)
  /-- Making a slot that nobody has read. -/
  newSlot : ∀ fragments, R SlotId (newSlot (.pending fragments)) (newSlot (.pending fragments))
  /-- Loading a template whose source was read. -/
  load : ∀ path source, engine.read path = .ok source →
    R CompiledTemplate (loadTemplate path source) (loadTemplate path source)

/-- A relation that also holds of printing slots and of waiting, given that it holds of the output
that is produced for that. -/
structure Engine.Sustains (engine : Engine σ) (R : ∀ α : Type, Render σ α → Render σ α → Prop) :
    Prop extends Engine.Passes engine R where
  /-- Printing a slot. -/
  print : ∀ {run run' : Task → Render σ String}, (∀ task, R _ (run task) (run' task)) →
    ∀ slot optional, R String (renderContent run slot optional) (renderContent run' slot optional)
  /-- Waiting for a promise. -/
  wait : ∀ {run run' : Task → Render σ String}, (∀ task, R _ (run task) (run' task)) →
    ∀ id, R Value (waitFor engine run id) (waitFor engine run' id)

/-- A relation that also holds of every single step with slots and promises. -/
structure Engine.Respects (engine : Engine σ) (R : ∀ α : Type, Render σ α → Render σ α → Prop) :
    Prop extends Engine.Passes engine R where
  /-- Waiting for itself. -/
  stalled : ∀ {α : Type}, R α (throw .stalled) (throw .stalled)
  /-- Reading a slot. -/
  slot : ∀ id, R _ (slot? id) (slot? id)
  /-- Changing a slot. -/
  changeSlot : ∀ id f, R Unit (changeSlot id f) (changeSlot id f)
  /-- Changing how far a promise is. -/
  setPromise : ∀ id state, R Unit (changeGraph fun graph => ((), graph.setPromise id state))
    (changeGraph fun graph => ((), graph.setPromise id state))

namespace Engine.Passes

variable {engine : Engine σ} {R : ∀ α : Type, Render σ α → Render σ α → Prop}

/-! ## Single steps -/

theorem withSections {α : Type} (h : engine.Passes R) (id : RequestId)
    (f : Sections Deferred → α) : R α (withSections id f) (withSections id f) :=
  h.withRequest id _

theorem changeSections {α : Type} (h : engine.Passes R) (id : RequestId)
    (f : Sections Deferred → α × Sections Deferred) :
    R α (changeSections id f) (changeSections id f) :=
  h.bind (h.withSections id f) fun _ => h.bind (h.changeRequest id _) fun _ => h.pure _

theorem trySections {α : Type} (h : engine.Passes R) (id : RequestId)
    (f : Sections Deferred → Except Sections.Fault (α × Sections Deferred)) :
    R _ (trySections id f) (trySections id f) := by
  refine h.bind (h.withSections id f) fun result => ?_
  cases result with
  | error fault => exact h.pure _
  | ok changed => exact h.bind (h.changeRequest id _) fun _ => h.pure _

theorem checkRedirect (h : engine.Passes R) (id : RequestId) :
    R Unit (checkRedirect id) (checkRedirect id) := by
  refine h.bind (h.withRequest id _) fun redirect => ?_
  cases redirect with
  | some target => exact h.raise _
  | none => exact h.pure ()

theorem popSection (h : engine.Passes R) (request : RequestId) (name : String) :
    R _ (popSection request name) (popSection request name) := by
  refine h.bind (h.trySections request _) fun result => ?_
  cases result with
  | ok popped => exact h.pure popped
  | error fault => exact h.raise _

/-- Preparations are made of such steps too. -/
theorem prepares (h : engine.Passes R) : engine.Prepares R where
  toRespects := h.toRespects
  raise := h.raise
  attempt := h.attempt
  started _ _ := h.note _
  ended _ := h.note _
  checkRedirect := h.checkRedirect
  builtins := h.builtins

theorem ofExcept {α : Type} (h : engine.Passes R) (result : Except Error α) :
    R α (ofExcept result) (ofExcept result) :=
  h.prepares.ofExcept result

theorem ofShared {α : Type} (h : engine.Passes R) (result : Except Error α) :
    R α (ofShared result) (ofShared result) :=
  h.prepares.ofShared result

section Waiting

variable {wait wait' : PromiseId → Render σ Value}

/-! ## Walks -/

theorem append (h : engine.Passes R) (walk : Walk) (payload : Payload Deferred)
    (priority : Priority) : R Unit (walk.append payload priority) (walk.append payload priority) :=
  h.bind (h.changeSections _ _) fun _ => h.pure ()

theorem appendText (h : engine.Passes R) (walk : Walk) (text : String) :
    R Unit (walk.appendText text) (walk.appendText text) := by
  unfold Walk.appendText
  split
  · exact h.pure ()
  · exact h.append walk _ _

theorem appendSection (h : engine.Passes R) (walk : Walk) (template : CompiledTemplate)
    (token : Nat) (name : String) (optional : Bool) :
    R Unit (walk.appendSection template token name optional)
      (walk.appendSection template token name optional) := by
  unfold Walk.appendSection
  split
  · split
    · exact h.append walk _ _
    · exact h.append walk _ _
  · exact h.append walk _ _

theorem invoke (h : engine.Passes R) (hengine : engine.Interprets)
    (hwait : ∀ id, R _ (wait id) (wait' id)) (template : CompiledTemplate) (walk : Walk)
    (token : Nat) (invocation : Invocation) :
    R Unit (walk.invoke engine wait template token invocation)
      (walk.invoke engine wait' template token invocation) :=
  h.bind (h.prepares.prepare hengine hwait walk invocation) fun _ => h.append walk _ _

theorem direct (h : engine.Passes R) (hengine : engine.Interprets)
    (hwait : ∀ id, R _ (wait id) (wait' id)) (template : CompiledTemplate) (walk : Walk)
    (token : Nat) (directive : Directive) :
    R Walk (walk.direct engine wait template token directive)
      (walk.direct engine wait' template token directive) := by
  cases directive with
  | eval expression =>
    unfold Walk.direct
    dsimp only
    split
    · exact h.bind (h.prepares.evaluateValue hengine hwait _ expression) fun _ => h.pure walk
    · exact h.pure walk
  | base name path => exact h.bind (h.ofExcept _) fun _ => h.pure _
  | layout path =>
    unfold Walk.direct
    dsimp only
    split
    · exact h.raise _
    · exact h.pure _
  | «section» name => exact h.pure _
  | render name optional => exact h.bind (h.appendSection walk _ _ _ _) fun _ => h.pure walk
  | «include» path expression =>
    exact h.bind (h.invoke hengine hwait template walk token _) fun _ => h.pure walk
  | view path expression =>
    exact h.bind (h.invoke hengine hwait template walk token _) fun _ => h.pure walk
  | unknown word => exact h.raise _

theorem openTag (h : engine.Passes R) (hengine : engine.Interprets)
    (hwait : ∀ id, R _ (wait id) (wait' id)) (template : CompiledTemplate) (walk : Walk)
    (token : Nat) (part : Token) :
    R Walk (walk.openTag engine wait template token part)
      (walk.openTag engine wait' template token part) := by
  unfold Walk.openTag
  split
  · exact h.raise _
  · split
    · exact h.raise _
    · split
      · exact h.bind (h.invoke hengine hwait template walk token _) fun _ => h.pure walk
      · exact h.bind (h.withSections _ _) fun _ => h.bind (h.changeSections _ _) fun _ => h.pure _

theorem closeTag (h : engine.Passes R) (hengine : engine.Interprets)
    (hwait : ∀ id, R _ (wait id) (wait' id)) (template : CompiledTemplate) (walk : Walk)
    (part : Token) :
    R Walk (walk.closeTag engine wait template part)
      (walk.closeTag engine wait' template part) := by
  unfold Walk.closeTag
  dsimp only
  split
  · exact h.raise _
  · next opened openTags _ =>
    split
    · exact h.raise _
    · refine h.bind (h.withSections _ _) fun peek => ?_
      -- What is left after the check is the same, whether it fails or not.
      split
      case' isTrue => refine h.bind (h.raise _) fun _ => ?_
      all_goals
        refine h.bind (h.popSection _ _) fun _ => h.bind (h.withSections _ _) fun _ =>
          h.bind (h.newSlot _) fun body => ?_
        split
        · exact h.raise _
        · exact h.bind (h.invoke hengine hwait template _ _ _) fun _ => h.pure _

theorem step (h : engine.Passes R) (hengine : engine.Interprets)
    (hwait : ∀ id, R _ (wait id) (wait' id)) (template : CompiledTemplate) (walk : Walk)
    (token : Nat) (part : Token) :
    R Walk (walk.step engine wait template token part)
      (walk.step engine wait' template token part) := by
  unfold Walk.step
  split
  · exact h.bind (h.appendText walk _) fun _ => h.pure _
  · split
    · exact h.raise _
    · exact h.direct hengine hwait template _ token _
    · exact h.bind (h.prepares.evaluate hengine hwait _ _) fun text =>
        h.bind (h.appendText walk text) fun _ => h.pure _
  · exact h.openTag hengine hwait template _ token part
  · exact h.closeTag hengine hwait template _ part

theorem steps (h : engine.Passes R) (hengine : engine.Interprets)
    (hwait : ∀ id, R _ (wait id) (wait' id)) (template : CompiledTemplate) (parts : List Token)
    (walk : Walk) (token : Nat) :
    R Walk (walk.steps engine wait template token parts)
      (walk.steps engine wait' template token parts) := by
  induction parts generalizing walk token with
  | nil => exact h.pure walk
  | cons part rest ih =>
    exact h.bind (h.mapError _ (h.step hengine hwait template walk token part)) fun walk =>
      ih walk (token + 1)

theorem run (h : engine.Passes R) (hengine : engine.Interprets)
    (hwait : ∀ id, R _ (wait id) (wait' id)) (template : CompiledTemplate) (context : Context) :
    R Walk (Walk.run engine wait template context) (Walk.run engine wait' template context) := by
  refine h.bind (h.steps hengine hwait template _ _ 0) fun walk => ?_
  split
  · exact h.pure walk
  · exact h.raise _

end Waiting

/-! ## Output -/

section Output

variable {run run' : Task → Render σ String}

theorem runDeferred (h : engine.Passes R) (hrun : ∀ task, R _ (run task) (run' task))
    (deferred : Deferred) : R String (runDeferred run deferred) (runDeferred run' deferred) :=
  h.mapError _ (hrun deferred.task)

theorem produceAll (h : engine.Passes R) (hrun : ∀ task, R _ (run task) (run' task))
    (pieces : List (Fragment Deferred × Nat)) :
    R _ (produceAll (TemplateEngine.runDeferred run) pieces)
      (produceAll (TemplateEngine.runDeferred run') pieces) := by
  induction pieces with
  | nil => exact h.pure _
  | cons piece rest ih =>
    obtain ⟨⟨payload, priority⟩, place⟩ := piece
    cases payload with
    | literal text => exact h.bind (h.pure text) fun _ => h.bind ih fun _ => h.pure _
    | deferred deferred =>
      exact h.bind (h.runDeferred hrun deferred) fun _ => h.bind ih fun _ => h.pure _

theorem renderFragments (h : engine.Passes R) (hrun : ∀ task, R _ (run task) (run' task))
    (fragments : List (Fragment Deferred)) :
    R String (renderFragments (TemplateEngine.runDeferred run) fragments)
      (renderFragments (TemplateEngine.runDeferred run') fragments) :=
  h.bind (h.produceAll hrun _) fun _ => h.pure _

theorem renderScope (h : engine.Passes R) (hrun : ∀ task, R _ (run task) (run' task))
    (request : RequestId) (scope : ScopeId) :
    R String (renderScope run request scope) (renderScope run' request scope) :=
  h.bind (h.withSections request _) fun fragments => h.renderFragments hrun fragments

theorem fetch (h : engine.Passes R) (context : Context) :
    R CompiledTemplate (engine.fetch context) (engine.fetch context) := by
  unfold Engine.fetch
  refine h.bind (h.ofExcept _) fun _ => h.bind (h.note _) fun _ => ?_
  rcases hread : engine.read context.filePath with error | source
  · exact h.raise error
  · exact h.load _ source hread

theorem enterLayout (h : engine.Passes R) (page : Context) (layout : String)
    (fragments : List (Fragment Deferred)) :
    R Context (engine.enterLayout page layout (.pending fragments))
      (engine.enterLayout page layout (.pending fragments)) :=
  h.bind (h.ofExcept _) fun _ => h.bind (h.newSlot _) fun _ => h.bind (h.library _) fun _ =>
    h.bind (h.builtins _ _) fun _ => h.pure _

theorem renderWalked (h : engine.Passes R) (hrun : ∀ task, R _ (run task) (run' task))
    (template : CompiledTemplate) (scope : ScopeId) (walk : Walk) :
    R String (engine.renderWalked run template scope walk)
      (engine.renderWalked run' template scope walk) := by
  unfold Engine.renderWalked
  split
  · exact h.mapError _ (h.bind (h.withSections _ _) fun _ => h.bind (h.enterLayout _ _ _) fun _ =>
      hrun _)
  · exact h.renderScope hrun _ scope

theorem consumedText (h : engine.Passes R) (name : String) (optional : Bool) :
    R String (Engine.consumedText name optional) (Engine.consumedText name optional) := by
  unfold Engine.consumedText
  split
  · exact h.pure _
  · exact h.raise _

theorem renderSection (h : engine.Passes R) (hrun : ∀ task, R _ (run task) (run' task))
    (request : RequestId) (name : String) (optional : Bool) :
    R String (Engine.renderSection run request name optional)
      (Engine.renderSection run' request name optional) := by
  refine h.bind (h.trySections request _) fun taken => ?_
  split
  · exact h.bind (h.note _) fun _ => h.renderScope hrun request _
  · exact h.consumedText name optional
  · split
    · exact h.pure _
    · exact h.raise _

end Output

end Engine.Passes

/-! ## Pieces of output -/

namespace Engine.Sustains

variable {engine : Engine σ} {R : ∀ α : Type, Render σ α → Render σ α → Prop}

section Output

variable {run run' : Task → Render σ String}

theorem renderTemplate (h : engine.Sustains R) (hengine : engine.Interprets)
    (hrun : ∀ task, R _ (run task) (run' task)) (context : Context) :
    R String (engine.renderTemplate run context) (engine.renderTemplate run' context) := by
  refine h.bind (h.fetch context) fun template => h.bind (h.changeSections _ _) fun scope => ?_
  have hbody := h.bind (h.run hengine (h.wait hrun) template context) fun walk =>
    h.renderWalked hrun template scope walk
  exact h.bind (h.attempt hbody) fun output => h.bind (h.attempt (h.popSection _ _)) fun popped =>
    h.bind (h.ofExcept output) fun _ => h.bind (h.ofExcept popped) fun _ => h.pure _

theorem perform (h : engine.Sustains R) (hengine : engine.Interprets)
    (hrun : ∀ task, R _ (run task) (run' task)) (task : Task) :
    R String (engine.perform run task) (engine.perform run' task) := by
  cases task with
  | template context => exact h.renderTemplate hengine hrun context
  | «section» request name optional => exact h.renderSection hrun request name optional
  | content slot optional => exact h.print hrun slot optional

end Output

/-- Whatever is produced, and however deep its pieces nest, is related to itself. -/
theorem produce (h : engine.Sustains R) (hengine : engine.Interprets) (fuel : Nat) (task : Task) :
    R String (engine.produce fuel task) (engine.produce fuel task) := by
  induction fuel generalizing task with
  | zero => exact h.exhausted
  | succ fuel ih => exact h.perform hengine ih task

/-- So is every request. -/
theorem renderView (h : engine.Sustains R) (hengine : engine.Interprets) (fuel : Nat)
    (path : String) (data : ObjectId) :
    R Rendered (engine.renderView fuel path data) (engine.renderView fuel path data) := by
  have hcontext : R Context (engine.context path data) (engine.context path data) :=
    h.bind h.newRequest fun _ => h.bind (h.builtins _ _) fun _ => h.pure _
  exact h.bind hcontext fun context => h.bind (h.attempt (h.produce hengine fuel _)) fun _ =>
    h.bind (h.withRequest _ _) fun _ => h.ofExcept _

end Engine.Sustains

/-! ## Slots and promises step by step -/

namespace Engine.Respects

variable {engine : Engine σ} {R : ∀ α : Type, Render σ α → Render σ α → Prop}
  {run run' : Task → Render σ String}

theorem readSlot (h : engine.Respects R) (hrun : ∀ task, R _ (run task) (run' task)) (id : SlotId) :
    R String (readSlot run id) (readSlot run' id) := by
  refine h.bind (h.slot id) fun slot => ?_
  split
  · exact h.ofShared _
  · exact h.bind (h.changeSlot id _) fun _ => h.bind (h.attempt (h.renderFragments hrun _))
      fun result => h.bind (h.changeSlot id _) fun _ => h.ofShared result
  · exact h.stalled
  · exact h.pure _

theorem renderContent (h : engine.Respects R) (hrun : ∀ task, R _ (run task) (run' task))
    (slot : SlotId) (optional : Bool) :
    R String (Engine.renderContent run slot optional)
      (Engine.renderContent run' slot optional) := by
  have hconsume : R Bool (consume slot) (consume slot) :=
    h.bind (h.slot slot) fun _ => h.bind (h.changeSlot slot _) fun _ => h.pure _
  refine h.bind hconsume fun consumed => ?_
  split
  · exact h.consumedText _ optional
  · exact h.readSlot hrun slot

theorem waitFor (h : engine.Respects R) (hrun : ∀ task, R _ (run task) (run' task))
    (id : PromiseId) : R Value (waitFor engine run id) (waitFor engine run' id) := by
  have hwork : ∀ work, R Value (runWork engine run work) (runWork engine run' work) := by
    intro work
    cases work with
    | native id args => exact h.native id args
    | content slot => exact h.map (h.readSlot hrun slot) _
  refine h.bind (h.read _) fun state => ?_
  split
  · exact h.ofShared _
  · exact h.bind (h.setPromise id _) fun _ => h.bind (h.attempt (hwork _)) fun result =>
      h.bind (h.setPromise id _) fun _ => h.ofShared result
  · exact h.stalled
  · exact h.pure _

/-- Printing and waiting are made of single steps. -/
theorem sustains (h : engine.Respects R) : engine.Sustains R where
  toPasses := h.toPasses
  print := h.renderContent
  wait := h.waitFor

end Engine.Respects

end TemplateEngine
