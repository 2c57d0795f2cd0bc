import TemplateEngine.Config
import TemplateEngine.Files.Tree
import TemplateEngine.Toml.Parser
import TemplateEngine.Toml.Record

/-!
# Projects

The settings of a project, which stand in a TOML document with three tables.

* **`[project]`**: name and version. **`[server]`**: where it listens, the directories of views and
  of static files, and the error mode. **`[engine]`**: the settings of the engine.
* **`Project.engineConfig`**: the error mode of the server is the one that counts.
* **`Project.load`** reads the document in the current directory; without one, and for all that it
  leaves out, there are defaults.
-/

namespace TemplateEngine

open TemplateEngine.Toml

/-- The settings of the server. -/
structure ServerConfig where
  /-- The number it listens at. -/
  listenAt : UInt16
  /-- The host. -/
  host : String
  /-- The directory of the views. -/
  viewsDir : String
  /-- The directory of the static files. -/
  staticDir : String
  /-- How much of a failure clients see. -/
  mode : ErrorMode
  deriving Repr, DecidableEq

/-- The settings of a project. -/
structure Project where
  /-- The name. -/
  name : String
  /-- The version. -/
  version : String
  /-- The settings of the server. -/
  server : ServerConfig
  /-- The settings of the engine. -/
  engine : Config
  deriving Repr, DecidableEq

/-- The settings of a server that is given none. -/
def ServerConfig.standard : ServerConfig := ⟨3000, "127.0.0.1", "views", "static", .development⟩

namespace Project

/-- The settings of a project that is given none. -/
def standard : Project := ⟨"unnamed", "0.1.0", .standard, .standard⟩

/-- The settings of the project's engine. -/
def engineConfig (project : Project) : Config :=
  { project.engine with errorMode := project.server.mode }

/-! ## Reading -/

/-- The words for error modes. -/
def modeWords : List (String × ErrorMode) :=
  [("development", .development), ("production", .production)]

/-- An error mode. -/
def readMode : Read ErrorMode := readWord modeWords

/-- A size. -/
def readSize : Read Nat := readNat (Nat.pow 2 63) "usize"

/-- The fields of the table about the project. -/
def projectFields : Fields Project := [
  field "name" readString fun name project => { project with name := name },
  field "version" readString fun version project => { project with version := version }]

/-- The fields of the table about the server. -/
def serverFields : Fields ServerConfig := [
  field "port" (readNat (Nat.pow 2 16) "u16") fun number server =>
    { server with listenAt := UInt16.ofNat number },
  field "host" readString fun host server => { server with host := host },
  field "views_dir" readString fun dir server => { server with viewsDir := dir },
  field "static_dir" readString fun dir server => { server with staticDir := dir },
  field "mode" readMode fun mode server => { server with mode := mode }]

/-- The fields of the table about the engine. -/
def engineFields : Fields Config := [
  field "extension" readString fun extension config => { config with extension := extension },
  field "layout" readString fun layout config => { config with layout := layout },
  field "default_section" readString fun name config => { config with defaultSection := name },
  field "max_depth" readSize fun depth config => { config with maxDepth := depth },
  field "error_mode" readMode fun mode config => { config with errorMode := mode },
  field "cache_size" readSize fun size config => { config with cacheSize := size }]

/-- The tables of the document. -/
def tables : Fields Project := [
  ("project", fun place item project =>
    readRecord "struct ProjectConfig" projectFields project place item),
  ("server", fun place item project => do
    let server ← readRecord "struct ServerConfig" serverFields project.server place item
    return { project with server := server }),
  ("engine", fun place item project => do
    let engine ← readRecord "struct EngineConfig" engineFields project.engine place item
    return { project with engine := engine })]

/-- The settings that a document gives. -/
def parse (document : String) : Except Fault Project := do
  readEntries tables standard (← Toml.parse document)

/-- The file with the settings. -/
def fileName : String := "vellum.toml"

/-- The settings of the project in the current directory, or what is wrong with their file. -/
def load (tree : FileTree) : Except String Project :=
  if !tree.isReachable fileName then .ok standard
  else
    match tree.read fileName with
    | .error fault => .error fault.message
    | .ok document =>
      match parse document with
      | .error fault => .error (fault.render document)
      | .ok project => .ok project

end Project

end TemplateEngine
