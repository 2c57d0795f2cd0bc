/-!
# `Files` · Trees

Directories, files and symbolic links, as far as templates and settings are read from them.

* **`Location`**: the names that lead from the root directory to a place.
* **`FileTree`**: what stands at which place, and the directory that relative paths start from. The
  directories above a place are there without being listed.
* **`follow`** walks along a path: empty names and `.` stay, `..` goes up, and a link is replaced
  with its target, at most `maxLinks` times. Everything but the last name has to be a directory.
* **`resolve`** is the place that a path leads to, free of links, found name by name; **`access`**
  is the same for a path that is opened in one step and may therefore not be too long.
* **`FileFault`** is why there is no such place, in the words of the operating system.
-/

namespace TemplateEngine

/-- A place in a tree: the names from the root directory on. -/
abbrev Location := List String

/-- Why a path leads nowhere, or a place cannot be read. -/
inductive FileFault where
  /-- Nothing has the name. -/
  | missing
  /-- Something other than a directory is used as one. -/
  | notDirectory
  /-- A directory is used as a file. -/
  | isDirectory
  /-- A name or a path is too long. -/
  | nameTooLong
  /-- Links lead to links without end. -/
  | tooManyLinks
  /-- A path holds the character that ends paths. -/
  | nulInPath
  /-- A file cannot be read as a text. -/
  | unreadable (reason : String)
  deriving Repr, DecidableEq

/-- The wording of a fault. -/
def FileFault.message : FileFault → String
  | missing => "No such file or directory (os error 2)"
  | notDirectory => "Not a directory (os error 20)"
  | isDirectory => "Is a directory (os error 21)"
  | nameTooLong => "File name too long (os error 36)"
  | tooManyLinks => "Too many levels of symbolic links (os error 40)"
  | nulInPath => "file name contained an unexpected NUL byte"
  | unreadable reason => reason

/-- What stands at a place. -/
inductive FileEntry where
  /-- A file with a text. -/
  | file (text : String)
  /-- A file that has no text. -/
  | unreadable (reason : String)
  /-- A directory. -/
  | directory
  /-- A symbolic link to a path. -/
  | link (target : String)
  deriving Repr, DecidableEq

/-- A tree of directories, and the directory that relative paths start from. -/
structure FileTree where
  /-- What stands at which place. -/
  entries : List (Location × FileEntry)
  /-- The directory that relative paths start from. -/
  current : Location
  deriving Repr, Inhabited

namespace FileTree

/-- How many links a path may lead through. -/
def maxLinks : Nat := 40

/-- How many bytes a name may have. -/
def maxNameSize : Nat := 255

/-- How many bytes a path may have that is opened. -/
def maxPathSize : Nat := 4095

/-- What stands at a place. The root and all that lies above a place are directories. -/
def entry? (tree : FileTree) (place : Location) : Option FileEntry :=
  match tree.entries.lookup place with
  | some entry => some entry
  | none =>
    if place.isEmpty || tree.entries.any fun e => place.isPrefixOf e.1 then some .directory
    else none

/-- The names of a path between its slashes. -/
def namesOf (path : String) : List String := (path.toList.splitOnP (· == '/')).map String.ofList

/-- A path that starts from the root. -/
def isRooted (path : String) : Bool := path.toList.head? == some '/'

/-- Walks along names from a directory, through at most `links` links. -/
def follow (tree : FileTree) (links : Nat) (place : Location) (names : List String) :
    Except FileFault Location :=
  match names with
  | [] => .ok place
  | name :: rest =>
    if tree.entry? place ≠ some .directory then .error .notDirectory
    else if name = "" ∨ name = "." then follow tree links place rest
    else if name = ".." then follow tree links place.dropLast rest
    else if maxNameSize < name.utf8ByteSize then .error .nameTooLong
    else
      match tree.entry? (place ++ [name]) with
      | none => .error .missing
      | some (.link target) =>
        match links with
        | 0 => .error .tooManyLinks
        | links + 1 =>
          follow tree links (if isRooted target then [] else place) (namesOf target ++ rest)
      | some _ => follow tree links (place ++ [name]) rest
termination_by (links, names.length)

/-- The place that a path leads to. -/
def resolve (tree : FileTree) (path : String) : Except FileFault Location :=
  if path.isEmpty then .error .missing
  else if path.toList.contains '\x00' then .error .nulInPath
  else follow tree maxLinks (if isRooted path then [] else tree.current) (namesOf path)

/-- The place that a path leads to when it is opened: it may not be too long as a whole. -/
def access (tree : FileTree) (path : String) : Except FileFault Location :=
  if path.toList.contains '\x00' ∨ path.utf8ByteSize ≤ maxPathSize then tree.resolve path
  else .error .nameTooLong

/-- The text at a place without links. -/
def textAt (tree : FileTree) (place : Location) : Except FileFault String :=
  match tree.entry? place with
  | some (.file text) => .ok text
  | some (.unreadable reason) => .error (.unreadable reason)
  | some .directory => .error .isDirectory
  | some (.link _) => .error .tooManyLinks
  | none => .error .missing

/-- The text of the file that a path leads to. -/
def read (tree : FileTree) (path : String) : Except FileFault String := do
  tree.textAt (← tree.access path)

/-- A path leads somewhere. -/
def isReachable (tree : FileTree) (path : String) : Bool := (tree.access path).toOption.isSome

/-- A path leads to a directory. -/
def isDirectory (tree : FileTree) (path : String) : Bool :=
  match tree.access path with
  | .ok place => tree.entry? place == some .directory
  | .error _ => false

/-- A path below another one; one that starts from the root stands for itself. -/
def join (base path : String) : String :=
  if isRooted path || base.isEmpty then path
  else if base.toList.getLast? = some '/' then base ++ path
  else base ++ "/" ++ path

end FileTree

end TemplateEngine
