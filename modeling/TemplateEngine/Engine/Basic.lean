import TemplateEngine.Config
import TemplateEngine.Expr.Evaluator

/-!
# `Engine` · Settings, paths and contexts

* **`Engine σ`**: settings, a way to read templates, native functions and an evaluator.
* **Paths**: `$name/rest` stands for a directory that the template has named, a path with a slash
  in front for itself, and any other one is relative to the template's directory. A template path
  without an extension gets the configured one.
* **Contexts** of requests, of nested templates and of layouts. A context deeper than the settings
  allow is refused by `checkDepth`.
-/

namespace TemplateEngine

open Render TemplateEngine.Text

/-- What renders templates. -/
structure Engine (σ : Type) where
  /-- The settings. -/
  config : Config
  /-- The text of the template at a path. -/
  read : String → Except Error String
  /-- The native functions. -/
  host : Host σ
  /-- What runs expressions. -/
  evaluator : Evaluator σ

namespace Engine

variable {σ : Type}

/-- An engine whose expressions are parsed and walked by the library. -/
def interpreting (config : Config) (read : String → Except Error String) (host : Host σ) :
    Engine σ :=
  ⟨config, read, host, .interpreter host⟩

/-- The cache that the settings ask for. -/
def newCache (config : Config) : TemplateCache :=
  if config.cacheSize = 0 then .nothing else .keeping config.cacheSize

/-! ## Paths -/

/-- The directory that a path written in a context stands for. -/
def resolveDirectory (context : Context) (path : String) : Except Error String :=
  match path.toList with
  | '$' :: rest =>
    let (name, tail) := cutAt '/' rest
    let name := String.ofList name
    match context.basePaths.find? name with
    | some base => .ok (Path.combine base (String.ofList (tail.getD [])))
    | none => .error (.resolution (.unknownBase name path))
  | _ => .ok (Path.combine context.directory path)

/-- The template that a path written in a context stands for. -/
def resolvePath (engine : Engine σ) (context : Context) (path : String) : Except Error String :=
  (resolveDirectory context (trimString path)).map (Path.withExtension engine.config.extension)

/-- Refuses a context that is nested too deep. -/
def checkDepth (engine : Engine σ) (context : Context) : Except Error Unit :=
  if context.depth > engine.config.maxDepth then
    .error (.structural (.tooDeep context.depth engine.config.maxDepth context.viewPath))
  else .ok ()

/-! ## Contexts -/

/-- The context of a request with paths, a section and data. -/
def topContext (viewPath filePath section_ : String) (data : ObjectId) : Render σ Context := do
  let request ← newRequest
  let builtins ← viewBuiltins [] request
  return {
    viewPath := viewPath, filePath := filePath, basePaths := .empty, data := data
    request := request, isLayout := false, defaultSection := section_, slot := none
    attributes := [], depth := 0, builtins := builtins }

/-- The context of a request for a path. -/
def context (engine : Engine σ) (path : String) (data : ObjectId) : Render σ Context :=
  topContext path
    (Path.withExtension engine.config.extension (Path.combine "/" (trimString path)))
    engine.config.defaultSection data

/-- The context of a template nested in another one: it writes to `section_`, has the attributes
and the body of its tag, and without a body prints the content of a caller whose data it shares. -/
def childContext (caller : Context) (kind : ChildKind) (viewPath filePath section_ : String)
    (attributes : List (String × String)) (body : Option SlotId) : Render σ Context := do
  let data ← match kind with
    | .shared => pure caller.data
    | .fresh => changeGraph fun graph => graph.newObject .empty
  let slot := match kind, body with
    | _, some body => some body
    | .shared, none => caller.slot
    | .fresh, none => none
  let builtins ← viewBuiltins attributes caller.request
  return { caller with
    viewPath := viewPath, filePath := filePath, data := data, isLayout := false
    defaultSection := section_, slot := slot, attributes := attributes
    depth := caller.depth + 1, builtins := builtins }

/-- The context of the layout of a page, with data and content of its own. -/
def layoutContext (page : Context) (viewPath filePath section_ : String) (data : ObjectId)
    (content : SlotId) : Render σ Context := do
  let builtins ← viewBuiltins [] page.request
  return { page with
    viewPath := viewPath, filePath := filePath, data := data, isLayout := true
    defaultSection := section_, slot := some content, attributes := []
    depth := page.depth + 1, builtins := builtins }

end Engine

end TemplateEngine
