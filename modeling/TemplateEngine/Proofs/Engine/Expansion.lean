import TemplateEngine.Proofs.Engine.Reading

/-!
# `Engine` · Direct expansion

The output of a template by a recursion over the templates that it nests. There are no scopes, no
sections to push and to pop, and no priorities.

* **`Plan`**: the readings of a template are gone through in their order. Texts and nested
  templates, which are prepared on the way, become the pieces of its output (`Plan.step`).
* **`Engine.expand`**: only after that the nested templates are expanded, one by one in the order of
  the source, and the pieces are put together (`expandPieces`).
* **`Output`**: text for the section of the template itself is its output; text for other sections
  is listed, that of a template before that of the templates nested in it.
-/

namespace TemplateEngine

open Render TemplateEngine.Text TemplateEngine.Template

variable {σ : Type}

/-- A piece of what a template gives. -/
inductive Piece where
  /-- Text for a section. -/
  | text (name text : String)
  /-- A nested template. -/
  | nested (context : Context)

/-- What is known of a template after some of its readings. -/
structure Plan where
  /-- The context, with the directories named so far. -/
  context : Context
  /-- The section that texts are for. -/
  active : String
  /-- The layout. -/
  layout : Option String
  /-- The next literal loses the line terminator it starts with. -/
  stripNext : Bool
  /-- The pieces so far. -/
  pieces : List Piece

namespace Plan

/-- Nothing is known yet. -/
def start (context : Context) : Plan := ⟨context, context.defaultSection, none, false, []⟩

/-- One more text. -/
def put (plan : Plan) (text : String) : Plan :=
  { plan with stripNext := false, pieces := plan.pieces ++ [.text plan.active text] }

/-- One more reading. There is no expansion of templates that print sections or have bodies. -/
def step (engine : Engine σ) (wait : PromiseId → Render σ Value) (plan : Plan) :
    Reading → Render σ Plan
  | .text text => return plan.put (if plan.stripNext then stripLineEnd text else text)
  | .fault error => raise error
  | .expression source => do
    return plan.put (← engine.evaluate wait plan.context.scope source)
  | .effect source => do
    if !source.isEmpty then
      let _ ← engine.evaluateValue wait plan.context.scope source
    return { plan with stripNext := false }
  | .base name path => do
    let directory ← ofExcept (Engine.resolveDirectory plan.context path)
    return { plan with
      context := { plan.context with basePaths := plan.context.basePaths.insert name directory }
      stripNext := true }
  | .layout path =>
    match plan.layout with
    | some existing => raise (.structural (.layoutAlreadySet existing))
    | none =>
      return { plan with layout := some (path.getD engine.config.layout), stripNext := true }
  | .section name => return { plan with active := name, stripNext := true }
  | .nest invocation => do
    let child ← (Walk.start plan.context).prepare engine wait invocation
    return { plan with stripNext := true, pieces := plan.pieces ++ [.nested child] }
  | .render .. => throw .stalled
  | .paired => throw .stalled

end Plan

/-- The layout that a reading asks for. -/
def Reading.layout? (engine : Engine σ) : Reading → Option String
  | .layout path => some (path.getD engine.config.layout)
  | _ => none

/-! ## Output -/

/-- What a template and those nested in it give. -/
structure Output where
  /-- The text for the section of the template. -/
  text : String
  /-- The texts for other sections. -/
  routed : List (String × String)
  deriving Repr, DecidableEq

/-- The text that a piece has for another section. -/
def Piece.routed? (home : String) : Piece → Option (String × String)
  | .text name s => if name = home then none else some (name, s)
  | .nested _ => none

/-- The texts that pieces have for other sections. -/
def routed (home : String) (pieces : List Piece) : List (String × String) :=
  pieces.filterMap (Piece.routed? home)

/-- The pieces put together, the nested templates being expanded one by one; the texts for other
sections are those of nested templates only. -/
def expandPieces (expand : Context → Render σ Output) (home : String) :
    List Piece → Render σ Output
  | [] => return ⟨"", []⟩
  | .text name text :: rest => do
    let output ← expandPieces expand home rest
    return { output with text := if name = home then text ++ output.text else output.text }
  | .nested context :: rest => do
    let first ← expand context
    let output ← expandPieces expand home rest
    return ⟨first.text ++ output.text, first.routed ++ output.routed⟩

namespace Engine

/-- The template of a path. -/
def compiled (engine : Engine σ) (path : String) : Except Error CompiledTemplate := do
  CompiledTemplate.compile path (← engine.read path)

/-- The template of a context, unless it is nested too deep. -/
def opened (engine : Engine σ) (context : Context) : Except Error CompiledTemplate := do
  engine.checkDepth context
  engine.compiled context.filePath

/-- Waits for a promise that needs no template to be rendered. -/
def settle (engine : Engine σ) : PromiseId → Render σ Value :=
  waitFor engine fun _ => throw .stalled

/-- What all readings of a template make known. -/
def plan (engine : Engine σ) (context : Context) (template : CompiledTemplate) : Render σ Plan :=
  template.readings.foldlM (Plan.step engine engine.settle) (.start context)

/-- Expands a template; `levels` of them may be nested. -/
def expand (engine : Engine σ) : Nat → Context → Render σ Output
  | 0, _ => throw .exhausted
  | levels + 1, context => do
    let template ← ofExcept (engine.opened context)
    let plan ← engine.plan context template
    let output ← expandPieces (engine.expand levels) context.defaultSection plan.pieces
    return { output with
      routed := TemplateEngine.routed context.defaultSection plan.pieces ++ output.routed }

/-- A whole request for the view at a path. -/
def expandView (engine : Engine σ) (levels : Nat) (path : String) (data : ObjectId) :
    Render σ Rendered := do
  let context ← engine.context path data
  let result ← attempt (engine.expand levels context)
  let redirect ← withRequest context.request Request.redirect
  ofExcept (outcome redirect (result.map Output.text))

end Engine

end TemplateEngine
