import TemplateEngine.Engine.Basic
import TemplateEngine.Engine.Invocation

/-!
# `Engine` · The walk

A template is walked part by part. Literals and the output of expressions become fragments of the
active section; directives and tags change the walk or append fragments that are produced later.

* **`Walk`** is the state of a walk: the active section, the layout that was asked for, the tags
  that wait for their closers, and whether the next literal loses a line terminator.
* **`step`** handles one part. A paired tag collects its body in a scope of its own, which the
  closer takes off again and hands to the nested template as its content.
* **`walk`** handles all parts of a template; failures get the place of their part (`locate`).
-/

namespace TemplateEngine

open Render TemplateEngine.Text TemplateEngine.Template

variable {σ : Type}

/-- A layout that was asked for. -/
structure LayoutRequest where
  /-- Its path as it is written. -/
  path : String
  /-- The place of the directive among the parts. -/
  token : Nat
  deriving Repr, DecidableEq, Inhabited

/-- A paired tag that waits for its closer. -/
structure OpenTag where
  /-- The tag. -/
  tag : ServerTag
  /-- Its place among the parts. -/
  token : Nat
  /-- The section that was active. -/
  sectionName : String
  /-- The scope that was current there. -/
  saved : Option ScopeId
  /-- The scope of the body. -/
  body : ScopeId
  deriving Inhabited

/-- The state of a walk. -/
structure Walk where
  /-- The context, with the directories named so far. -/
  context : Context
  /-- The section that output goes to. -/
  active : String
  /-- The layout. -/
  layout : Option LayoutRequest
  /-- The open tags, the innermost first. -/
  openTags : List OpenTag
  /-- The next literal loses the line terminator it starts with. -/
  stripNext : Bool
  deriving Inhabited

/-- The state at the start of a template. -/
def Walk.start (context : Context) : Walk := ⟨context, context.defaultSection, none, [], false⟩

/-- The place of a part is put around an error; a redirect stays what it is. -/
def locate (template : CompiledTemplate) (token : Nat) (error : Error) : Error :=
  if error.isRedirect then error
  else .template template.path (template.excerpt token) error

/-- The error for a fault of a section. -/
def sectionError : Sections.Fault → Error
  | .tooManyPops => .structural .tooManyPops
  | .missing name => .structural (.missingSection name)

/-- The error for popping a section. -/
def popError : Sections.Fault → Error
  | .tooManyPops => .structural .tooManyPops
  | .missing name => .structural (.popOfUnused name)

/-- Gives a section back what was current at its last push; gives what that replaces. -/
def popSection (request : RequestId) (name : String) : Render σ (Option ScopeId) := do
  match ← trySections request fun sections => sections.pop name with
  | .ok popped => return popped
  | .error fault => raise (popError fault)

namespace Engine

/-- The plain value of an expression. -/
def evaluateValue (engine : Engine σ) (wait : PromiseId → Render σ Value) (scope : Scope)
    (source : String) : Render σ Value :=
  TemplateEngine.evaluateValue engine.host engine.evaluator wait scope source

/-- The output of an expression; a missing value has none. -/
def evaluate (engine : Engine σ) (wait : PromiseId → Render σ Value) (scope : Scope)
    (source : String) : Render σ String := do
  return (← engine.evaluateValue wait scope source).text

end Engine

namespace Walk

/-- Appends a fragment to the active section. -/
def append (walk : Walk) (payload : Payload Deferred) (priority : Priority) : Render σ Unit := do
  let _ ← changeSections walk.context.request fun sections =>
    sections.add walk.active walk.context.viewPath ⟨payload, priority⟩

/-- Appends text to the active section, unless it is empty. -/
def appendText (walk : Walk) (text : String) : Render σ Unit :=
  if text.isEmpty then return else walk.append (.literal text) .normal

/-- Appends output that is produced later. -/
def appendTask (walk : Walk) (template : CompiledTemplate) (token : Nat) (task : Task)
    (priority : Priority) : Render σ Unit :=
  walk.append (.deferred ⟨task, template, token⟩) priority

/-- Prepares a nested template: its context, its data and its expressions. -/
def prepare (engine : Engine σ) (wait : PromiseId → Render σ Value) (walk : Walk)
    (invocation : Invocation) : Render σ Context := do
  let filePath ← ofExcept (engine.resolvePath walk.context invocation.path)
  let child ← Engine.childContext walk.context invocation.kind invocation.path filePath
    walk.active invocation.attributes invocation.body
  ofExcept (engine.checkDepth child)
  invocation.data.forM fun (name, value) =>
    changeGraph fun graph => ((), graph.write child.data name (.string value))
  invocation.expressions.forM fun expression => do
    let _ ← engine.evaluateValue wait child.scope expression
  return child

/-- Prepares a nested template, whose output is produced later. -/
def invoke (engine : Engine σ) (wait : PromiseId → Render σ Value) (template : CompiledTemplate)
    (walk : Walk) (token : Nat) (invocation : Invocation) : Render σ Unit := do
  let child ← walk.prepare engine wait invocation
  walk.appendTask template token (.template child) .nestedView

/-- Appends a section, or the content of the context's slot, to the active section. -/
def appendSection (walk : Walk) (template : CompiledTemplate) (token : Nat) (name : String)
    (optional : Bool) : Render σ Unit :=
  if name = Config.content then
    match walk.context.slot with
    | some slot => walk.appendTask template token (.content slot optional) .printedContent
    | none =>
      walk.appendTask template token (.section walk.context.request name optional) .printedContent
  else
    walk.appendTask template token (.section walk.context.request name optional) .printedSection

/-- Handles a directive. -/
def direct (engine : Engine σ) (wait : PromiseId → Render σ Value) (template : CompiledTemplate)
    (walk : Walk) (token : Nat) (directive : Directive) : Render σ Walk :=
  match directive with
  | .eval expression => do
    if !expression.isEmpty then
      let _ ← engine.evaluateValue wait walk.context.scope expression
    return walk
  | .base name path => do
    let directory ← ofExcept (Engine.resolveDirectory walk.context path)
    return { walk with context := { walk.context with
      basePaths := walk.context.basePaths.insert name directory } }
  | .layout path =>
    match walk.layout with
    | some existing => raise (.structural (.layoutAlreadySet existing.path))
    | none => return { walk with layout := some ⟨path.getD engine.config.layout, token⟩ }
  | .section name => return { walk with active := name }
  | .render name optional => do
    walk.appendSection template token name optional
    return walk
  | .include path expression => do
    walk.invoke engine wait template token (.ofDirective .shared path expression)
    return walk
  | .view path expression => do
    walk.invoke engine wait template token (.ofDirective .fresh path expression)
    return walk
  | .unknown word => raise (.structural (.unknownCommand word))

/-- Handles an opening tag. The attributes of a paired one are checked here, not at its closer. -/
def openTag (engine : Engine σ) (wait : PromiseId → Render σ Value) (template : CompiledTemplate)
    (walk : Walk) (token : Nat) (part : Token) : Render σ Walk := do
  match ServerTag.parse part.text with
  | .error fault =>
    raise (.markup ((fault.map .attribute).getD .notTag) template.source part.offset)
  | .ok tag =>
    match Invocation.ofTag tag none with
    | .error fault => raise (.structural fault)
    | .ok invocation =>
      if tag.selfClosing then
        walk.invoke engine wait template token invocation
        return walk
      else
        let request := walk.context.request
        let saved ← withSections request fun sections => sections.current walk.active
        let body ← changeSections request fun sections =>
          sections.push walk.active walk.context.viewPath
        return { walk with openTags := ⟨tag, token, walk.active, saved, body⟩ :: walk.openTags }

/-- The next pop of a section restores the given scope, or its absence. -/
def restores (peek : Peek) (saved : Option ScopeId) : Bool :=
  match peek, saved with
  | .scope top, some saved => top == saved
  | .unset, none => true
  | _, _ => false

/-- Handles a closing tag: the body is taken off its section and becomes the content of the nested
template, which is then invoked where its tag was opened. -/
def closeTag (engine : Engine σ) (wait : PromiseId → Render σ Value) (template : CompiledTemplate)
    (walk : Walk) (part : Token) : Render σ Walk := do
  let name := part.closerName
  match walk.openTags with
  | [] => raise (.structural (.neverOpened name))
  | opened :: openTags =>
    if opened.tag.name ≠ name then
      raise (.structural (.wrongCloser name opened.tag.name))
    else
      let request := walk.context.request
      let peek ← withSections request fun sections => sections.peek opened.sectionName
      if !restores peek opened.saved then
        raise (.structural (.unbalancedBody name opened.sectionName))
      let _ ← popSection request opened.sectionName
      let walk := { walk with active := opened.sectionName, openTags := openTags }
      let fragments ← withSections request fun sections => sections.fragments opened.body
      let body ← newSlot (.pending fragments)
      match Invocation.ofTag opened.tag (some body) with
      | .error fault => raise (.structural fault)
      | .ok invocation =>
        walk.invoke engine wait template opened.token invocation
        return walk

/-- Handles one part of a template. -/
def step (engine : Engine σ) (wait : PromiseId → Render σ Value) (template : CompiledTemplate)
    (walk : Walk) (token : Nat) (part : Token) : Render σ Walk :=
  match part.kind with
  | .literal => do
    walk.appendText (if walk.stripNext then stripLineEnd part.text else part.text)
    return { walk with stripNext := false }
  | .expression =>
    match Directive.parse part.body with
    | .error fault => raise (.structural (.directive fault))
    | .ok (some directive) =>
      direct engine wait template { walk with stripNext := directive.consumesLine } token directive
    | .ok none => do
      walk.appendText (← engine.evaluate wait walk.context.scope part.body)
      return { walk with stripNext := false }
  | .openTag => openTag engine wait template { walk with stripNext := true } token part
  | .closeTag => closeTag engine wait template { walk with stripNext := true } part

/-- Handles the given parts, of which the first has the place `token`. -/
def steps (engine : Engine σ) (wait : PromiseId → Render σ Value) (template : CompiledTemplate)
    (walk : Walk) (token : Nat) : List Token → Render σ Walk
  | [] => return walk
  | part :: rest => do
    let walk ← mapError (locate template token) (walk.step engine wait template token part)
    steps engine wait template walk (token + 1) rest

/-- Walks a whole template. -/
def run (engine : Engine σ) (wait : PromiseId → Render σ Value) (template : CompiledTemplate)
    (context : Context) : Render σ Walk := do
  let walk ← steps engine wait template (.start context) 0 template.tokens
  match walk.openTags with
  | [] => return walk
  | opened :: _ =>
    raise (locate template opened.token (.structural (.neverClosed opened.tag.name)))

end Walk

end TemplateEngine
