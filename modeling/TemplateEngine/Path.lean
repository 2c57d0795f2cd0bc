/-!
# Logical paths

Templates address each other by paths with slashes, rooted at `/`, that never leave the root.

* **`Path.normalize`** cuts a path at slashes and backslashes, leaves out empty and `.` segments,
  and lets `..` take the segment in front away, if there is one.
* **`Path.combine`** reads a path in a directory; one that starts with a slash stands for itself.
* **`Path.directory`**, **`Path.withExtension`**: the directory of a path, and the extension it
  gets if its last segment has no dot.
-/

namespace TemplateEngine.Path

/-- A character that separates the segments of a path. -/
def isSeparator (c : Char) : Bool := c == '/' || c == '\\'

/-- The pieces of a path between separators; there is always at least one. -/
def segments (cs : List Char) : List (List Char) := cs.splitOnP isSeparator

/-- The effect of a segment on those in front of it, of which the last comes first. -/
def push (before : List (List Char)) (segment : List Char) : List (List Char) :=
  if segment = [] ∨ segment = ['.'] then before
  else if segment = ['.', '.'] then before.tail
  else segment :: before

/-- The segments of a normalized path. -/
def normalSegments (cs : List Char) : List (List Char) := ((segments cs).foldl push []).reverse

/-- The text of a rooted path with the given segments. -/
def ofSegments (parts : List (List Char)) : List Char :=
  match parts with
  | [] => ['/']
  | parts => parts.flatMap ('/' :: ·)

/-- The normal form of a path. -/
def normalize (path : String) : String := String.ofList (ofSegments (normalSegments path.toList))

/-- The path written `relative` in the directory `dir`. -/
def combine (dir relative : String) : String :=
  if relative.toList.head? = some '/' then normalize relative
  else normalize (dir ++ "/" ++ relative)

/-- What stands in front of the last slash; the root if nothing does. -/
def directory (path : String) : String :=
  match path.toList.reverse.dropWhile (· != '/') with
  | [] => "/"
  | [_] => "/"
  | _ :: before => String.ofList before.reverse

/-- What stands behind the last slash. -/
def fileName (path : String) : List Char := (path.toList.reverse.takeWhile (· != '/')).reverse

/-- The path with an extension added if its last segment has no dot. -/
def withExtension (extension path : String) : String :=
  if (fileName path).contains '.' || extension.isEmpty then path else path ++ extension

end TemplateEngine.Path
