import TemplateEngine.Graph
import TemplateEngine.Path
import TemplateEngine.Section.Stack
import TemplateEngine.Template.Compiled

/-!
# Contexts

What one invocation of a template knows, and what it leaves to be rendered later.

* **`Context`**: paths, data, section and depth of an invocation, and the request it belongs to.
  Includes share the data of their caller, views and layouts get their own.
* **`Task`** and **`Deferred`**: a piece of output that is produced later (a nested template, a
  section, the content of a slot), and the place of the token that asked for it, to which its
  failures are attributed.
* **`Slot`**: the content handed to a layout or to a paired tag. It is rendered when it is first
  read and then remembered; printing it once marks it as consumed.
* **`Request`**: the sections and the redirect of a request, which its contexts share.
-/

namespace TemplateEngine

/-- What an expression can see. -/
structure Scope where
  /-- The data, `$`. -/
  data : ObjectId
  /-- The names that stand for something if the data does not define them. -/
  builtins : ObjectId
  /-- The request whose redirect ends evaluation. -/
  request : RequestId
  deriving Repr, DecidableEq, Inhabited

/-- How a nested template relates to its caller. -/
inductive ChildKind where
  /-- It shares the caller's data. -/
  | shared
  /-- It gets fresh data. -/
  | fresh
  deriving Repr, DecidableEq, Inhabited

/-- The state of one invocation of a template. -/
structure Context where
  /-- The path as the caller wrote it. -/
  viewPath : String
  /-- The resolved path. -/
  filePath : String
  /-- The directories that have a name for paths. -/
  basePaths : Dictionary String
  /-- The data of expressions. -/
  data : ObjectId
  /-- The request. -/
  request : RequestId
  /-- The template is a layout. -/
  isLayout : Bool
  /-- The section for the output of the template. -/
  defaultSection : String
  /-- The content that can be printed. -/
  slot : Option SlotId
  /-- The plain attributes of the tag that invoked the template. -/
  attributes : List (String × String)
  /-- The number of invocations above this one. -/
  depth : Nat
  /-- The names known beside the data. -/
  builtins : ObjectId
  deriving Inhabited

namespace Context

/-- The directory for relative paths. -/
def directory (context : Context) : String := Path.directory context.filePath

/-- What the expressions of the template can see. -/
def scope (context : Context) : Scope := ⟨context.data, context.builtins, context.request⟩

end Context

/-! ## Deferred output -/

/-- Output that is produced later. -/
inductive Task where
  /-- The output of a template in its context. -/
  | template (context : Context)
  /-- The current scope of a section of a request; an optional one may be missing. -/
  | section (request : RequestId) (name : String) (optional : Bool)
  /-- The text of a content slot; an optional one may have been printed before. -/
  | content (slot : SlotId) (optional : Bool)
  deriving Inhabited

/-- A task and the token that asked for it. -/
structure Deferred where
  /-- What is produced. -/
  task : Task
  /-- The template with the token. -/
  template : CompiledTemplate
  /-- The place of the token among the parts of the template. -/
  token : Nat
  deriving Inhabited

/-- How far the rendering of a slot is. -/
inductive SlotState where
  /-- Nobody has read it yet; these fragments give its text. -/
  | pending (fragments : List (Fragment Deferred))
  /-- It is being rendered. -/
  | running
  /-- It ended with a text or an error. -/
  | settled (result : Except Error String)
  deriving Inhabited

/-- Content handed to a layout or to a paired tag. -/
structure Slot where
  /-- How far its rendering is. -/
  state : SlotState
  /-- It has been printed. -/
  consumed : Bool
  deriving Inhabited

/-- What the contexts of a request share. -/
structure Request where
  /-- The sections. -/
  sections : Sections Deferred
  /-- The target of the redirect that was asked for first. -/
  redirect : Option String
  deriving Inhabited

/-- A request without sections and without a redirect. -/
def Request.new : Request := ⟨.empty, none⟩

end TemplateEngine
