import TemplateEngine.Engine.Render

/-!
# Hooks

A host that serves files of several kinds hands each request to the engine for the kind of file.

* **`HookRegistry`** keeps engines by file extension; dots in front of an extension and the case of
  its letters do not count. The extension of a path is what stands behind the last dot of its last
  segment.
* **`HookFailure`** is a failed request as the host is told: the message for end users, and whether
  a template is missing.
-/

namespace TemplateEngine

open Render

/-- A failed request. -/
structure HookFailure where
  /-- The message for end users. -/
  message : String
  /-- The template, or one that it includes, does not exist. -/
  notFound : Bool
  /-- The error; none if no engine took the request. -/
  source : Option Error

/-- The failure of a request that no engine takes. -/
def HookFailure.unregistered (path : String) : HookFailure :=
  ⟨s!"no view engine registered for '{path}'", false, none⟩

/-- The failure that an error is for the host. -/
def HookFailure.ofError (mode : ErrorMode) (error : Error) : HookFailure :=
  ⟨error.publicMessage mode, error.isNotFound, some error⟩

/-- Engines by file extension. -/
structure HookRegistry (ε : Type) where
  /-- The engines under the keys of their extensions. -/
  hooks : Dictionary ε
  deriving Inhabited

namespace HookRegistry

variable {ε : Type}

/-- No engines. -/
def empty : HookRegistry ε := ⟨.empty⟩

/-- An extension without the dots in front and in lower case. -/
def keyOf (extension : List Char) : String :=
  String.ofList ((extension.dropWhile (· == '.')).map Char.toLower)

/-- The extension of a path: what stands behind the last dot of its last segment. -/
def extensionOf? (path : String) : Option (List Char) :=
  let file := Path.fileName path
  if file.contains '.' then some (file.reverse.takeWhile (· != '.')).reverse else none

/-- Registers an engine for an extension, in the place of the one before. -/
def register (registry : HookRegistry ε) (extension : String) (hook : ε) : HookRegistry ε :=
  ⟨registry.hooks.insert (keyOf extension.toList) hook⟩

/-- The engine for the extension of a path. -/
def hookFor? (registry : HookRegistry ε) (path : String) : Option ε :=
  (extensionOf? path).bind fun extension => registry.hooks.find? (keyOf extension)

/-- A request for the file at a path, by the engine for its extension. -/
def render {σ : Type} (registry : HookRegistry (Engine σ)) (fuel : Nat) (path : String)
    (data : ObjectId) : Render σ (Except HookFailure Rendered) :=
  match registry.hookFor? path with
  | none => return .error (.unregistered path)
  | some engine => do
    match ← attempt (engine.renderView fuel path data) with
    | .ok rendered => return .ok rendered
    | .error error => return .error (.ofError engine.config.errorMode error)

end HookRegistry

end TemplateEngine
