import TemplateEngine.Engine.Render
import TemplateEngine.Json.Parser
import TemplateEngine.Project
import TemplateEngine.Source.Files

/-!
# Rendering from the command line

One view is rendered, and the page is printed, or the target of the redirect it asks for.

* **`viewOf`**: the file is given relative to the root, or below it.
* **`renderFile`**: the text to print, or the whole report of a failure, whatever the error mode.
* **`RenderCommand.run`**: the settings come from the current directory, the data from a JSON file
  with an object, and the root is the current directory unless another one is given.
-/

namespace TemplateEngine

/-- A program without native functions. -/
def Host.none : Host Unit := ⟨fun _ _ => pure .undefined⟩

/-- An engine that reads templates from files. -/
def Engine.ofFiles (source : FileSource) (config : Config) : Engine Unit :=
  .interpreting config source.read .none

/-! ## Views -/

/-- The components of a path: its names without empty ones and, except in front, without dots. -/
def componentsOf (path : String) : List String :=
  match FileTree.namesOf path with
  | [] => []
  | first :: rest =>
    (if first = "" then (if rest = [] then [] else ["/"]) else [first]) ++
      rest.filter fun name => name ≠ "" ∧ name ≠ "."

/-- The components of a path below another one. -/
def below? (root path : String) : Option (List String) :=
  let base := componentsOf root
  let names := componentsOf path
  if base.isPrefixOf names then some (names.drop base.length) else none

/-- The text of components: a slash in front of those of a rooted path, and one between others. -/
def textOfComponents : List String → String
  | "/" :: names => "/" ++ String.intercalate "/" names
  | names => String.intercalate "/" names

/-- Takes all repetitions of a dot with a slash off the front, and then all slashes. -/
def withoutLeadingDots : List Char → List Char
  | '.' :: '/' :: rest => withoutLeadingDots rest
  | cs => cs.dropWhile (· == '/')

/-- The view for a file that is given relative to the root or below it. -/
def viewOf (root file : String) : String :=
  let relative := ((below? root file).map textOfComponents).getD file
  let slashed := relative.toList.map fun c => if c = '\\' then '/' else c
  String.ofList ('/' :: withoutLeadingDots slashed)

/-! ## Rendering -/

/-- The text that is printed for an outcome. -/
def Rendered.printed : Rendered → String
  | .html text => text
  | .redirect target => s!"redirect: {target}"

/-- The report for a computation that does not end. -/
def endlessReport : String := "rendering does not end"

/-- The text to print for a view, or the report of its failure. -/
def renderFile (source : FileSource) (file : String) (data : Json) (config : Config) :
    Except String String :=
  let engine := Engine.ofFiles source config
  let program : Render Unit Rendered := do
    let data ← Render.changeGraph fun graph => graph.dataOfJson data
    engine.renderView Engine.ampleFuel (viewOf source.root file) data
  match (program.run.run (.fresh (Engine.newCache config) ())).1 with
  | .ok rendered => .ok rendered.printed
  | .error (.raised error) => .error error.report
  | .error _ => .error endlessReport

/-- A request to render a view. -/
structure RenderCommand where
  /-- The file of the view. -/
  file : String
  /-- The file with the data. -/
  data : Option String
  /-- The root of the templates. -/
  root : Option String
  deriving Repr, DecidableEq, Inhabited

namespace RenderCommand

/-- The data in a file. -/
def loadData (tree : FileTree) (path : String) : Except String Json :=
  match tree.read path with
  | .error _ => .error s!"reading data file {path}"
  | .ok text =>
    match Json.parse? text with
    | none => .error s!"parsing data file {path}"
    | some json =>
      if json.isObject then .ok json else .error s!"data file {path} must hold a JSON object"

/-- The path of the current directory. -/
def currentPath (tree : FileTree) : String := "/" ++ String.intercalate "/" tree.current

/-- The text that the command prints, or the message of its failure. -/
def run (tree : FileTree) (command : RenderCommand) : Except String String := do
  let project ← Project.load tree
  let root := command.root.getD (currentPath tree)
  let data ←
    match command.data with
    | some path => loadData tree path
    | none => .ok (.obj [])
  let output ← renderFile ⟨tree, root⟩ command.file data project.engineConfig
  return output ++ "\n"

end RenderCommand

end TemplateEngine
