import TemplateEngine.Graph
import TemplateEngine.Section.Stack

/-!
# The journal

What a run does, in the order in which it does it: the evaluations of expressions from their start
to their end, the templates that are read, the redirects that are asked for, the failures of native
functions and the scopes that are taken from their sections.

Nothing reads the journal. It is there so that one can say what happened when.
-/

namespace TemplateEngine

/-- Something that a run does. -/
inductive Event where
  /-- The evaluation of an expression of a request starts. -/
  | started (request : RequestId) (source : String)
  /-- The evaluation that started last, and has not ended, ends. -/
  | ended (request : RequestId)
  /-- The template at a path is read. -/
  | reading (path : String)
  /-- An expression asks for a redirect of a request. -/
  | asked (request : RequestId) (target : String)
  /-- A native function fails. -/
  | failed (error : Error)
  /-- The current scope of a section is taken away to be printed. -/
  | taken (request : RequestId) (name : String) (scope : ScopeId)
  deriving Inhabited

end TemplateEngine
