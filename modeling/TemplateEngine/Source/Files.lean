import TemplateEngine.Error
import TemplateEngine.Files.Tree
import TemplateEngine.Path

/-!
# `Source` · Templates in files

Template texts in the files below a root directory. The path of a template is normalized, so that
it does not lead out of the root by itself; a link may do so, and then the template is refused.
-/

namespace TemplateEngine

/-- Template texts in files. -/
structure FileSource where
  /-- The tree with the files. -/
  tree : FileTree
  /-- The path of the root directory. -/
  root : String
  deriving Repr, Inhabited

namespace FileSource

/-- The path of the file for a template path. -/
def fileOf (source : FileSource) (path : String) : String :=
  FileTree.join source.root
    (String.ofList ((Path.normalize path).toList.dropWhile (· == '/')))

/-- The text of the template at a path. -/
def read (source : FileSource) (path : String) : Except Error String :=
  let file := source.fileOf path
  match source.tree.resolve source.root with
  | .error fault => .error (.resolution (.noRoot source.root fault.message))
  | .ok root =>
    match source.tree.resolve file with
    | .error .missing => .error (.resolution (.noFile path file))
    | .error fault => .error (.io fault.message)
    | .ok place =>
      if !root.isPrefixOf place then .error (.resolution (.escapes path))
      else
        match source.tree.textAt place with
        | .ok text => .ok text
        | .error .isDirectory => .error (.resolution (.noFile path file))
        | .error fault => .error (.io fault.message)

end FileSource

end TemplateEngine
