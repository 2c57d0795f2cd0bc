import TemplateEngine.Hook
import TemplateEngine.Http.MediaType
import TemplateEngine.Http.Response
import TemplateEngine.Query
import TemplateEngine.RenderCommand

/-!
# `Http` · Sites

The views of a project over HTTP.

* **Requests**: `Target.parse` cuts a request target into its path and its query, and what stands
  in front of them; what follows a `#` does not count.
* **Static files** stand below `/static`. Their paths are decoded, and one that leads upwards is not
  found; a directory answers with its index file, or with a redirect to its path with a slash.
* **Views** answer all other paths, to `GET` and `HEAD` only. A directory, and any path with a slash
  at its end, is answered by its `index` view (`viewPath`), and the parameters of the query are the
  data.
* **Failures**: a missing template is a 404 that tells nothing, everything else is a 500 with the
  message for end users.
-/

namespace TemplateEngine.Http

open TemplateEngine.Text

/-! ## Requests -/

/-- What a request asks for. -/
structure Target where
  /-- The scheme and the authority in front of the path; nothing if there are none. -/
  origin : String
  /-- The path, as it is written. -/
  path : String
  /-- The query. -/
  query : Option String
  deriving Repr, DecidableEq, Inhabited

namespace Target

/-- A character of a scheme. -/
def isSchemeChar (c : Char) : Bool :=
  isAsciiLetter c || isAsciiDigit c || c == '+' || c == '-' || c == '.'

/-- The scheme that a target starts with, and what follows its colon and slashes. -/
def scheme? (cs : List Char) : Option (List Char × List Char) :=
  match cs.dropWhile isSchemeChar with
  | ':' :: '/' :: '/' :: rest => some (cs.takeWhile isSchemeChar, rest)
  | _ => none

/-- A scheme in its usual letters: the two of the web are written small. -/
def shownScheme (scheme : List Char) : List Char :=
  let small := scheme.map Char.toLower
  if small = "http".toList ∨ small = "https".toList then small else scheme

/-- The target with a path and a query. -/
def ofPath (origin path : List Char) : Target :=
  let (path, query) := cutAt '?' (path.takeWhile (· != '#'))
  ⟨String.ofList origin, String.ofList path, query.map String.ofList⟩

/-- The target that is written as `uri`: a path, or a scheme and an authority with a path, which is
a slash if there is none, or an authority alone, which has an empty path. -/
def parse (uri : String) : Target :=
  let cs := uri.toList
  if cs.head? = some '/' ∨ cs = ['*'] then .ofPath [] cs
  else
    match scheme? cs with
    | none => ⟨"", "", none⟩
    | some (scheme, rest) =>
      let isEnd (c : Char) : Bool := c == '/' || c == '?' || c == '#'
      let authority := rest.takeWhile (!isEnd ·)
      let target := Target.ofPath (shownScheme scheme ++ "://".toList ++ authority)
        (rest.dropWhile (!isEnd ·))
      if target.path.isEmpty then { target with path := "/" } else target

end Target

/-- A method that only asks. -/
def isReading (method : String) : Bool := method == "GET" || method == "HEAD"

/-! ## Views -/

/-- Takes one slash of each pair, from left to right. -/
def mergeSlashes : List Char → List Char
  | '/' :: '/' :: rest => '/' :: mergeSlashes rest
  | c :: rest => c :: mergeSlashes rest
  | [] => []

/-- A path without the slashes at its start. -/
def withoutRoot (path : String) : List Char := path.toList.dropWhile (· == '/')

/-- The view for the path of a request. -/
def viewPath (isDirectory : String → Bool) (extension path : String) : String :=
  let inner := withoutRoot path
  let isIndex := inner.isEmpty || path.toList.getLast? == some '/' ||
    isDirectory (String.ofList inner)
  let view :=
    if isIndex then
      '/' :: ((inner.reverse.dropWhile (· == '/')).reverse ++ "/index".toList)
    else '/' :: inner
  Path.withExtension extension (String.ofList (mergeSlashes view))

/-- The data of a request: the parameters of its query. -/
def dataOf (target : Target) : Json :=
  .obj ((Query.parameters (target.query.getD "")).entries.map fun (name, value) =>
    (name, .str value))

/-- The response for the outcome of a view. -/
def respondTo : Except HookFailure Rendered → Response
  | .ok (.html text) => .html text
  | .ok (.redirect target) => .redirect target
  | .error failure =>
    if failure.notFound then .plain 404 "Not found" else .plain 500 failure.message

/-! ## Sites -/

/-- A project whose views are served. -/
structure Site where
  /-- The tree with its files. -/
  tree : FileTree
  /-- The directory of the project. -/
  root : String
  /-- Its settings. -/
  project : Project

namespace Site

/-- The directory of the views. -/
def viewsDir (site : Site) : String := FileTree.join site.root site.project.server.viewsDir

/-- The directory of the static files. -/
def staticDir (site : Site) : String := FileTree.join site.root site.project.server.staticDir

/-- The extension of views. -/
def extension (site : Site) : String := site.project.engineConfig.extension

/-- The engine for views. -/
def hooks (site : Site) : HookRegistry (Engine Unit) :=
  HookRegistry.empty.register site.extension
    (.ofFiles ⟨site.tree, site.viewsDir⟩ site.project.engineConfig)

/-- The view for the path of a request. -/
def viewOf (site : Site) (path : String) : String :=
  viewPath (fun inner => site.tree.isDirectory (FileTree.join site.viewsDir inner)) site.extension
    path

/-- The response of a view. -/
def respondWithView (site : Site) (target : Target) : Render Unit Response := do
  let data ← Render.changeGraph fun graph => graph.dataOfJson (dataOf target)
  return respondTo (← site.hooks.render Engine.ampleFuel (site.viewOf target.path) data)

/-! ## Static files -/

/-- What follows the path of static files and its slash in a path, with a slash in front. -/
def staticPath? (path : String) : Option String :=
  match "/static".toList.isPrefixOf? path.toList with
  | some [] => some "/"
  | some ('/' :: '/' :: rest) => some (String.ofList ('/' :: rest))
  | some ('/' :: rest) => some (String.ofList ('/' :: rest))
  | _ => none

/-- The names of a decoded path; none if it leads upwards. -/
def staticNames? (path : String) : Option (List String) := do
  let decoded ← decode? (Query.unescape (String.ofList (withoutRoot path)).toUTF8.toList)
  let names := (FileTree.namesOf decoded).filter fun name => name ≠ "" ∧ name ≠ "."
  if FileTree.isRooted decoded ∨ ".." ∈ names then none else some names

/-- The response with what stands at a path, which has a body if it is a text. -/
def fileResponse (site : Site) (method file name : String) : Response :=
  match site.tree.access file with
  | .ok place =>
    let text := if method = "HEAD" then none else (site.tree.textAt place).toOption
    ⟨200, none, some (mediaTypeOf name), text.getD ""⟩
  | .error .missing => .bare 404
  | .error .notDirectory => .bare 404
  | .error _ => .bare 500

/-- The response of a static file; `path` is the path of the target below the static files. -/
def respondWithFile (site : Site) (method path : String) (target : Target) : Response :=
  if !isReading method then .bare 405
  else
    match staticNames? path with
    | none => .bare 404
    | some names =>
      let file := names.foldl FileTree.join site.staticDir
      if !site.tree.isDirectory file then
        site.fileResponse method file (names.getLast?.getD (String.ofList
          (Path.fileName site.staticDir)))
      else if path.toList.getLast? = some '/' then
        site.fileResponse method (FileTree.join file "index.html") "index.html"
      else
        let query := (target.query.map ("?" ++ ·)).getD ""
        ⟨307, some (target.origin ++ path ++ "/" ++ query), none, ""⟩

/-! ## Responses -/

/-- The response to a request. -/
def respond (site : Site) (method : String) (target : Target) : Render Unit Response :=
  match staticPath? target.path with
  | some path => return site.respondWithFile method path target
  | none =>
    if isReading method then site.respondWithView target
    else return .plain 405 "Method not allowed"

/-- The responses to requests, one after another. -/
def respondAll (site : Site) (requests : List (String × String)) : List Response :=
  let program := requests.mapM fun (method, uri) =>
    tryCatch (site.respond method (.parse uri)) fun _ => return .plain 500 "No response"
  match (program.run.run (.fresh (Engine.newCache site.project.engineConfig) ())).1 with
  | .ok responses => responses
  | .error _ => []

end Site

end TemplateEngine.Http
