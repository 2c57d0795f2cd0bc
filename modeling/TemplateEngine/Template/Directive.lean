import TemplateEngine.Text.Blank

/-!
# `Template` · Directives

An expression token whose body starts with `#` is a directive. What follows the sign decides which:
a blank makes it an expression evaluated for its effect, and a word is the name of a command, with
its arguments after the next blank.

* **`Directive.parse`** gives nothing for a plain expression, and a fault for a known command with
  malformed arguments. A word that is no command is kept (`unknown`).
* **Arguments** may stand in quotes (`unquote`). For `#include` and `#view` everything after the
  first bar is an expression.
-/

namespace TemplateEngine.Template

open TemplateEngine.Text

/-- A directive. -/
inductive Directive where
  /-- An expression evaluated for its effect. -/
  | eval (expression : String)
  /-- Gives a directory a name for paths. -/
  | base (name path : String)
  /-- Asks for a layout, the configured one if no path is given. -/
  | layout (path : Option String)
  /-- Sends the output that follows to a section. -/
  | section (name : String)
  /-- Puts a section here; an optional one may be missing. -/
  | render (name : String) (optional : Bool)
  /-- Renders a template with the same data, after an expression. -/
  | include (path : String) (expression : Option String)
  /-- Renders a template with fresh data, after an expression. -/
  | view (path : String) (expression : Option String)
  /-- A word that is no command. -/
  | unknown (word : String)
  deriving Repr, DecidableEq, Inhabited

/-- Why a command's arguments are malformed. -/
inductive DirectiveFault where
  /-- `#base` does not have two arguments. -/
  | baseArguments (count : Nat)
  /-- `#section` does not have one name. -/
  | sectionName
  /-- `#render` does not have one name. -/
  | renderName
  /-- The named command has no path. -/
  | missingPath (command : String)
  deriving Repr, DecidableEq

/-- The wording of a fault. -/
def DirectiveFault.message : DirectiveFault → String
  | baseArguments count => s!"#base expects a name and a path, got {count} argument(s)"
  | sectionName => "#section expects one name"
  | renderName => "#render expects one section name"
  | missingPath command => s!"#{command} requires a path"

/-! ## Arguments -/

/-- What stands between two quotes of the given kind, if they enclose the text. -/
def between? (quote : Char) (cs : List Char) : Option (List Char) :=
  match cs with
  | c :: rest => if c = quote ∧ rest.getLast? = some quote then some rest.dropLast else none
  | [] => none

/-- A trimmed argument without the quotes around it. -/
def unquote (cs : List Char) : List Char :=
  let cs := trim cs
  match between? '"' cs with
  | some inner => inner
  | none => (between? '\x27' cs).getD cs

/-- A path and, after the first bar, an expression, which is none if it is blank. -/
def pathAndExpression (command : String) (args : List Char) :
    Except DirectiveFault (String × Option String) :=
  let (path, expression) := cutAt '|' args
  match unquote path with
  | [] => .error (.missingPath command)
  | path =>
    let expression := (expression.map trim).filter (!·.isEmpty)
    .ok (String.ofList path, expression.map String.ofList)

/-- A name that is one word. -/
def oneName? (cs : List Char) : Option String :=
  if cs.isEmpty || cs.any isBlank then none else some (String.ofList cs)

namespace Directive

/-- The command `word` with its trimmed arguments. -/
def ofCommand (word : String) (args : List Char) : Except DirectiveFault Directive :=
  match word with
  | "base" =>
    match words args with
    | [name, path] =>
      .ok (.base (String.ofList (name.dropWhile (· == '$'))) (String.ofList (unquote path)))
    | parts => .error (.baseArguments parts.length)
  | "layout" =>
    match unquote args with
    | [] => .ok (.layout none)
    | path => .ok (.layout (some (String.ofList path)))
  | "section" =>
    match oneName? (unquote args) with
    | some name => .ok (.section name)
    | none => .error .sectionName
  | "render" =>
    let name := unquote args
    let (name, optional) :=
      if name.getLast? = some '?' then (trimEnd name.dropLast, true) else (name, false)
    match oneName? name with
    | some name => .ok (.render name optional)
    | none => .error .renderName
  | "include" => (pathAndExpression word args).map fun (path, expression) =>
      .include path expression
  | "view" => (pathAndExpression word args).map fun (path, expression) => .view path expression
  | _ => .ok (.unknown word)

/-- The directive in the body of an expression token; `none` for a plain expression. -/
def parse (body : String) : Except DirectiveFault (Option Directive) :=
  match trimStart body.toList with
  | '#' :: rest =>
    match rest with
    | [] => .ok (some (.eval ""))
    | c :: _ =>
      if isBlank c then .ok (some (.eval (String.ofList (trim rest))))
      else
        let (word, args) := cutAtBlank rest
        (ofCommand (String.ofList word) (trim (args.getD []))).map some
  | _ => .ok none

/-- A directive that takes the line terminator after it away. -/
def consumesLine : Directive → Bool
  | .eval _ => false
  | .unknown _ => false
  | _ => true

end Directive

end TemplateEngine.Template
