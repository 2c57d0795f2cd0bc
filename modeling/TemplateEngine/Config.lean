import TemplateEngine.Error

/-!
# Settings

The settings of an engine: the extension and the layout that paths leave out, the section that
output goes to, how deep templates may nest, how much of a failure end users see, and how many
compiled templates are kept.
-/

namespace TemplateEngine

/-- The settings of an engine. -/
structure Config where
  /-- Added to template paths without an extension. -/
  extension : String
  /-- The layout of a template that asks for one without naming it. -/
  layout : String
  /-- The section for the output of requested templates and layouts. -/
  defaultSection : String
  /-- How deep templates may nest. -/
  maxDepth : Nat
  /-- How much of a failure end users see. -/
  errorMode : ErrorMode
  /-- How many compiled templates are kept; none are for zero. -/
  cacheSize : Nat
  deriving Repr, DecidableEq

namespace Config

/-- The name of the section that layouts print as the content. -/
def content : String := "content"

/-- The settings of an engine that is given none. -/
def standard : Config := ⟨".html", "/layout", content, 64, .development, 100⟩

instance : Inhabited Config := ⟨standard⟩

end Config

end TemplateEngine
