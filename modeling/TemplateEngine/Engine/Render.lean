import TemplateEngine.Engine.Walk

/-!
# `Engine` · Rendering

* **Open recursion.** Producing output of one piece may produce output of others: a template
  renders its fragments, a section takes a scope and renders that, a content slot renders what it
  was given, and an expression may wait for a content slot. All of these are written with the
  production of the other pieces as an argument `run`.
* **`Engine.produce`** closes the recursion with fuel, which bounds how deep pieces nest, not how
  many there are.
* **Waiting** for a slot or a promise that is being computed further up can never end (`stalled`).
* **`Engine.renderView`** is a whole request, whose outcome is a page or a redirect.
-/

namespace TemplateEngine

open Render

variable {σ : Type}

/-- The outcome of a request. -/
inductive Rendered where
  /-- A page. -/
  | html (text : String)
  /-- A redirect. -/
  | redirect (target : String)
  deriving Repr, DecidableEq, Inhabited

/-! ## Fragments, slots and promises -/

/-- Produces deferred output; a failure gets the place of the token that asked for it. -/
def runDeferred (run : Task → Render σ String) (deferred : Deferred) : Render σ String :=
  mapError (locate deferred.template deferred.token) (run deferred.task)

/-- The output of a scope with the fragments it has now. -/
def renderScope (run : Task → Render σ String) (request : RequestId) (scope : ScopeId) :
    Render σ String := do
  let fragments ← withSections request fun sections => sections.fragments scope
  renderFragments (runDeferred run) fragments

/-- The result of a computation that others have started or ended. -/
def ofShared {α : Type} (result : Except Error α) : Render σ α :=
  match result with
  | .ok value => pure value
  | .error error => raise (.shared error)

/-- The text of a slot, rendered if nobody has read it before; a slot that is not there has none. -/
def readSlot (run : Task → Render σ String) (id : SlotId) : Render σ String := do
  match (← slot? id).map Slot.state with
  | some (.settled result) => ofShared result
  | some (.pending fragments) =>
    changeSlot id fun slot => { slot with state := .running }
    let result ← attempt (renderFragments (runDeferred run) fragments)
    changeSlot id fun slot => { slot with state := .settled result }
    ofShared result
  | some .running => throw .stalled
  | none => return ""

/-- What a promise computes. -/
def runWork (engine : Engine σ) (run : Task → Render σ String) (work : Work) : Render σ Value :=
  match work with
  | .native id args => ofNative (engine.host.call id args)
  | .content slot => .string <$> readSlot run slot

/-- The value of a promise, computed if nobody has waited for it before; a promise that is not there
has none. -/
def waitFor (engine : Engine σ) (run : Task → Render σ String) (id : PromiseId) :
    Render σ Value := do
  match ← withGraph fun graph => graph.promise? id with
  | some (.settled result) => ofShared result
  | some (.pending work) =>
    changeGraph fun graph => ((), graph.setPromise id .running)
    let result ← attempt (runWork engine run work)
    changeGraph fun graph => ((), graph.setPromise id (.settled result))
    ofShared result
  | some .running => throw .stalled
  | none => return .undefined

/-! ## Templates -/

/-- An error of a layout that has no place yet gets that of the directive. -/
def locateLayout (template : CompiledTemplate) (token : Nat) (error : Error) : Error :=
  match error with
  | .template .. => error
  | other => locate template token other

namespace Engine

/-- The context of the layout of a page, whose content is in a new slot. -/
def enterLayout (engine : Engine σ) (page : Context) (layout : String) (content : SlotState) :
    Render σ Context := do
  let filePath ← ofExcept (engine.resolvePath page layout)
  let slot ← newSlot content
  let data ← changeGraph fun graph => graph.newLibrary [(Config.content, .content slot)]
  layoutContext page layout filePath engine.config.defaultSection data slot

/-- Renders the layout of a page whose output is in a scope. -/
def renderLayout (engine : Engine σ) (run : Task → Render σ String) (page : Context)
    (layout : String) (scope : ScopeId) : Render σ String := do
  let fragments ← withSections page.request fun sections => sections.fragments scope
  let context ← engine.enterLayout page layout (.pending fragments)
  run (.template context)

/-- Renders what a walk has left: the page itself, or its layout. -/
def renderWalked (engine : Engine σ) (run : Task → Render σ String) (template : CompiledTemplate)
    (scope : ScopeId) (walk : Walk) : Render σ String :=
  match walk.layout with
  | some layout =>
    mapError (locateLayout template layout.token)
      (engine.renderLayout run walk.context layout.path scope)
  | none => renderScope run walk.context.request scope

/-- The template of a context, unless it is nested too deep. -/
def fetch (engine : Engine σ) (context : Context) : Render σ CompiledTemplate := do
  ofExcept (engine.checkDepth context)
  note (.reading context.filePath)
  let source ← ofExcept (engine.read context.filePath)
  loadTemplate context.filePath source

/-- Renders the template of a context: its output is collected in a scope of its own on the
context's section, which is taken off again in the end, also after a failure. -/
def renderTemplate (engine : Engine σ) (run : Task → Render σ String) (context : Context) :
    Render σ String := do
  let template ← engine.fetch context
  let scope ← changeSections context.request fun sections =>
    sections.push context.defaultSection context.viewPath
  let output ← attempt do
    let walk ← Walk.run engine (waitFor engine run) template context
    engine.renderWalked run template scope walk
  let popped ← attempt (popSection context.request context.defaultSection)
  let text ← ofExcept output
  let _ ← ofExcept popped
  return text

/-! ## Tasks -/

/-- The text of a section that has been printed already. -/
def consumedText (name : String) (optional : Bool) : Render σ String :=
  if optional then return "" else raise (.structural (.alreadyRendered name))

/-- Prints the current scope of a section, which is taken away from it. -/
def renderSection (run : Task → Render σ String) (request : RequestId) (name : String)
    (optional : Bool) : Render σ String := do
  match ← trySections request fun sections => sections.takeCurrent name with
  | .ok (some scope) =>
    note (.taken request name scope)
    renderScope run request scope
  | .ok none => consumedText name optional
  | .error fault => if optional then return "" else raise (sectionError fault)

/-- Prints a slot, which is then consumed. -/
def renderContent (run : Task → Render σ String) (slot : SlotId) (optional : Bool) :
    Render σ String := do
  if ← consume slot then consumedText Config.content optional else readSlot run slot

/-- Produces a piece of output, given the production of others. -/
def perform (engine : Engine σ) (run : Task → Render σ String) (task : Task) : Render σ String :=
  match task with
  | .template context => engine.renderTemplate run context
  | .section request name optional => renderSection run request name optional
  | .content slot optional => renderContent run slot optional

/-- Produces a piece of output; the fuel bounds how deep pieces nest. -/
def produce (engine : Engine σ) : Nat → Task → Render σ String
  | 0, _ => throw .exhausted
  | fuel + 1, task => engine.perform (engine.produce fuel) task

/-! ## Requests -/

/-- Renders the template of a context. -/
def render (engine : Engine σ) (fuel : Nat) (context : Context) : Render σ String :=
  engine.produce fuel (.template context)

/-- The outcome of a request whose template was rendered, or failed to be. -/
def outcome (redirect : Option String) (result : Except Error String) : Except Error Rendered :=
  match result with
  | .ok html =>
    match redirect with
    | some target => .ok (.redirect target)
    | none => .ok (.html html)
  | .error error =>
    match error.redirectTarget? with
    | some target => .ok (.redirect target)
    | none => .error error

/-- A whole request for the view at a path. -/
def renderView (engine : Engine σ) (fuel : Nat) (path : String) (data : ObjectId) :
    Render σ Rendered := do
  let context ← engine.context path data
  let result ← attempt (engine.render fuel context)
  let redirect ← withRequest context.request Request.redirect
  ofExcept (outcome redirect result)

/-- Nesting that no request in practice reaches. -/
def ampleFuel : Nat := Nat.pow 2 20

/-- The message for end users. -/
def errorMessage (engine : Engine σ) (error : Error) : String :=
  error.publicMessage engine.config.errorMode

end Engine

end TemplateEngine
