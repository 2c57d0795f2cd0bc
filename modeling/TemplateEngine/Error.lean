import TemplateEngine.Expr.Parser
import TemplateEngine.Template.Directive
import TemplateEngine.Template.Excerpt
import TemplateEngine.Template.Tag

/-!
# Errors

What ends a render without a page: a failure with its causes, or a redirect on its way out.

* **Faults** `MarkupFault`, `StructuralFault`, `ExpressionFault`, `ResolutionFault` are the causes
  of one kind each; `message` gives their wording.
* **`Error`** is a leaf, or a layer around a cause: the expression that failed, the place in the
  template, or the mark that the error came out of a result shared by several readers (`shared`),
  which is never shown.
* **Chains.** `layers` are the errors of a chain from the outermost inwards without the shared
  ones, `rootCause` is the innermost one, and `report` is the text of all of them.
-/

namespace TemplateEngine

open TemplateEngine.Template

/-! ## Faults -/

/-- Why a template text cannot be cut into tokens, or a tag cannot be read. -/
inductive MarkupFault where
  /-- A token has no end. -/
  | scan (fault : ScanFault)
  /-- The attributes of a tag are malformed. -/
  | attribute (fault : AttributeFault)
  /-- A text that should be a tag is none. -/
  | notTag
  deriving Repr, DecidableEq

/-- The wording of a fault in the token at a byte offset. -/
def MarkupFault.message (offset : Nat) : MarkupFault → String
  | .scan fault => fault.message offset
  | .attribute fault => fault.message
  | .notTag => "not a server tag"

/-- Why directives, tags and sections do not fit together. -/
inductive StructuralFault where
  /-- The arguments of a directive are malformed. -/
  | directive (fault : DirectiveFault)
  /-- A second layout is asked for. -/
  | layoutAlreadySet (path : String)
  /-- A directive that does not exist. -/
  | unknownCommand (word : String)
  /-- A server tag that does not exist. -/
  | unknownTag (name : String)
  /-- A tag's parameter that does not exist. -/
  | unknownParameter (key tag : String)
  /-- A tag without a path. -/
  | missingPath (tag : String)
  /-- A paired tag without its closer. -/
  | neverClosed (tag : String)
  /-- A closer without a paired tag. -/
  | neverOpened (tag : String)
  /-- A closer of another tag than the innermost open one. -/
  | wrongCloser (tag opened : String)
  /-- The section of a tag's body is not as it was at the opener. -/
  | unbalancedBody (tag sectionName : String)
  /-- A section that has been printed already. -/
  | alreadyRendered (sectionName : String)
  /-- A pop from a section with nothing pushed. -/
  | tooManyPops
  /-- A pop from a section that was never used. -/
  | popOfUnused (sectionName : String)
  /-- A section that was never used. -/
  | missingSection (sectionName : String)
  /-- Templates are nested deeper than allowed. -/
  | tooDeep (depth limit : Nat) (view : String)
  /-- Any other text. -/
  | other (text : String)
  deriving Repr, DecidableEq

/-- The wording of a fault. -/
def StructuralFault.message : StructuralFault → String
  | directive fault => fault.message
  | layoutAlreadySet path => s!"#layout already set to '{path}'"
  | unknownCommand word => s!"unknown command '#{word}'"
  | unknownTag name => s!"unknown server tag <$:{name}>"
  | unknownParameter key tag => s!"unknown parameter '{key}' on <$:{tag}>"
  | missingPath tag => s!"<$:{tag}> requires a $path attribute"
  | neverClosed tag => s!"<$:{tag}> is never closed: missing </$:{tag}>"
  | neverOpened tag => s!"</$:{tag}> has no matching <$:{tag}>"
  | wrongCloser tag opened => s!"</$:{tag}> does not match the open <$:{opened}>"
  | unbalancedBody tag sectionName =>
    s!"<$:{tag}> body is not balanced within section '{sectionName}'"
  | alreadyRendered sectionName => s!"section '{sectionName}' already rendered at this scope"
  | tooManyPops => "too many pops"
  | popOfUnused sectionName => s!"too many pops: section '{sectionName}' has no scopes"
  | missingSection sectionName => s!"section '{sectionName}' does not exist"
  | tooDeep depth limit view =>
    s!"nesting too deep: {depth} exceeds the limit of {limit} (while invoking {view})"
  | other text => text

/-- Why an expression cannot be read or has no value. -/
inductive ExpressionFault where
  /-- The text is no program. -/
  | parse (fault : ParseFault)
  /-- A member of `null` or `undefined`, shown as `shown`, is read. -/
  | noMember (key shown : String)
  /-- A member of `null` or `undefined` is read; `source` is the expression it is read from. -/
  | noMemberOf (key shown source : String)
  /-- Something that is no function is called. -/
  | notFunction (source : String)
  /-- A member of something other than an object is assigned to. -/
  | notAssignable (key type : String)
  /-- Something that is neither a name nor a member is assigned to. -/
  | badTarget (source : String)
  /-- An `await` stands where nothing can be waited for. -/
  | strayAwait
  /-- A value is still a function or a promise after so many steps. -/
  | unsettled (steps : Nat)
  /-- A redirect without a target. -/
  | noTarget
  /-- Any other text. -/
  | other (text : String)
  deriving Repr

/-- The wording of a fault. -/
def ExpressionFault.message : ExpressionFault → String
  | parse fault => fault.message
  | noMember key shown => s!"cannot read property '{key}' of {shown}"
  | noMemberOf key shown source => s!"cannot read property '{key}' of {shown} ({source})"
  | notFunction source => s!"{source} is not a function"
  | notAssignable key type => s!"cannot set property '{key}' on {type}"
  | badTarget source => s!"invalid assignment target {source}"
  | strayAwait => "'await' is only valid in asynchronous evaluation"
  | unsettled steps => s!"value did not settle after {steps} calls"
  | noTarget => "redirect requires a target"
  | other text => text

/-- Why a path names no template. -/
inductive ResolutionFault where
  /-- A base name that is not registered, in a path. -/
  | unknownBase (name path : String)
  /-- No template is stored at a path. -/
  | notFound (path : String)
  /-- No template is stored at a path, which stands for a file. -/
  | noFile (path file : String)
  /-- The file of a path lies outside of the root. -/
  | escapes (path : String)
  /-- The root directory itself cannot be reached. -/
  | noRoot (root reason : String)
  /-- Any other text. -/
  | other (text : String)
  deriving Repr, DecidableEq

/-- The wording of a fault. -/
def ResolutionFault.message : ResolutionFault → String
  | unknownBase name path => s!"unknown base path '${name}' in '{path}'"
  | notFound path => s!"Template not found: {path}"
  | noFile path file => s!"Template not found: {path} (tried {file})"
  | escapes path => s!"Template path escapes the view root: {path}"
  | noRoot root reason => s!"Template root '{root}' is not accessible: {reason}"
  | other text => text

/-! ## Errors -/

/-- A failure, or a redirect. -/
inductive Error where
  /-- A template text cannot be read; the place is that of the token, the file is named if known. -/
  | parse (fault : MarkupFault) (offset : Nat) (position : Position) (file : Option String)
  /-- Directives, tags and sections do not fit together. -/
  | structural (fault : StructuralFault)
  /-- An expression cannot be read or has no value. -/
  | expression (fault : ExpressionFault)
  /-- The expression `source`, run as `rooted`, failed. -/
  | evaluation (source rooted : String) (cause : Error)
  /-- A path names no template. -/
  | resolution (fault : ResolutionFault)
  /-- A file cannot be read. -/
  | io (text : String)
  /-- The template cache failed. -/
  | cache (text : String)
  /-- The part of `file` shown in the excerpt failed. -/
  | template (file : String) (excerpt : Excerpt) (cause : Error)
  /-- The cause came out of a result shared by several readers. -/
  | shared (cause : Error)
  /-- A redirect was asked for. -/
  | redirect (target : String)
  deriving Repr

/-- How much of a failure end users see. -/
inductive ErrorMode where
  /-- All of it. -/
  | development
  /-- Only that there was one. -/
  | production
  deriving Repr, DecidableEq, Inhabited

namespace Error

/-- A fault in the token at a byte offset of a source. -/
def markup (fault : MarkupFault) (source : String) (offset : Nat) : Error :=
  .parse fault offset (Position.ofOffset source offset) none

/-- Names the file of a parse error that has none. -/
def inFile (path : String) : Error → Error
  | .parse fault offset position none => .parse fault offset position (some path)
  | error => error

/-- The text of one error, without its causes. -/
def message : Error → String
  | .parse fault offset position file =>
    "Parse error in " ++ file.getD "<template>" ++ ": " ++ fault.message offset ++
      s!" at offset {offset} (line {position.line}, column {position.column})"
  | .structural fault => s!"Structural error: {fault.message}"
  | .expression fault => s!"Expression error: {fault.message}"
  | .evaluation source rooted _ =>
    s!"Error evaluating \x60{source}\x60 (evaluated as \x60{rooted}\x60)"
  | .resolution fault => s!"Resolution error: {fault.message}"
  | .io text => s!"IO error: {text}"
  | .cache text => s!"Cache error: {text}"
  | .template file excerpt _ => s!"Template error in {file} at {excerpt.render}"
  | .shared cause => message cause
  | .redirect target => s!"Redirect requested to {target}"

/-- The errors of a chain from the outermost inwards, without the shared ones. -/
def layers : Error → List Error
  | .evaluation source rooted cause => .evaluation source rooted cause :: layers cause
  | .template file excerpt cause => .template file excerpt cause :: layers cause
  | .shared cause => layers cause
  | error => [error]

/-- The innermost error of a chain. -/
def rootCause : Error → Error
  | .evaluation _ _ cause => rootCause cause
  | .template _ _ cause => rootCause cause
  | .shared cause => rootCause cause
  | error => error

/-- What lies below the innermost error: the system's own text for a file that cannot be read. -/
def systemText? (error : Error) : Option String :=
  match error.rootCause with
  | .io text => some text
  | _ => none

/-- The texts of all errors of a chain, each cause in a paragraph of its own. -/
def report (error : Error) : String :=
  String.intercalate "\n\ncaused by: " (error.layers.map message ++ error.systemText?.toList)

/-- The target of a redirect, seen through shared results only. -/
def redirectTarget? : Error → Option String
  | .redirect target => some target
  | .shared cause => redirectTarget? cause
  | _ => none

/-- A redirect, not a failure. -/
def isRedirect (error : Error) : Bool := error.redirectTarget?.isSome

/-- The innermost error is a path that names no template. -/
def isNotFound (error : Error) : Bool :=
  match error.rootCause with
  | .resolution _ => true
  | _ => false

/-- The message for end users. -/
def publicMessage (mode : ErrorMode) (error : Error) : String :=
  match mode with
  | .development => error.report
  | .production => "An error occurred while rendering this page."

end Error

end TemplateEngine
