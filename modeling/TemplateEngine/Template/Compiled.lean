import TemplateEngine.Digest
import TemplateEngine.Error
import TemplateEngine.Recent

/-!
# `Template` · Compiled templates

A template cut into its parts, and the store that spares cutting it again.

* **`CompiledTemplate`** keeps the source, its parts and the digest of the source.
* **`TemplateCache`** keeps a limited number of them by path, or none at all. `load` hands out a
  kept template only if the source just read has its digest; otherwise it compiles the source and
  keeps the result. A number tells apart what was compiled at different times.
-/

namespace TemplateEngine

open TemplateEngine.Template

/-- A template source with its parts. -/
structure CompiledTemplate where
  /-- The resolved path of the template. -/
  path : String
  /-- The text it was read as. -/
  source : String
  /-- Literals and tokens in turn. -/
  tokens : List Token
  /-- The digest of the source. -/
  hash : String
  deriving Repr, DecidableEq, Inhabited

namespace CompiledTemplate

/-- Cuts a source into its parts; a fault names the path. -/
def compile (path source : String) : Except Error CompiledTemplate :=
  match tokenize source with
  | .ok tokens => .ok ⟨path, source, tokens, Digest.digest source⟩
  | .error (fault, offset) => .error ((Error.markup (.scan fault) source offset).inFile path)

/-- The template was compiled from a source with the same digest. -/
def isFor (template : CompiledTemplate) (source : String) : Bool :=
  template.hash == Digest.digest source

/-- The surroundings of one of its parts. -/
def excerpt (template : CompiledTemplate) (token : Nat) : Excerpt :=
  Excerpt.at template.source template.tokens token

end CompiledTemplate

/-- Compiled templates by path. -/
structure TemplateCache where
  /-- The templates that are kept, each with its number; nothing is kept without a store. -/
  store : Option (Recent (Nat × CompiledTemplate))
  /-- How many templates were compiled so far. -/
  compiled : Nat

namespace TemplateCache

/-- A cache that keeps at most `capacity` templates, but at least one. -/
def keeping (capacity : Nat) : TemplateCache := ⟨some (.empty capacity), 0⟩

/-- A cache that keeps nothing. -/
def nothing : TemplateCache := ⟨none, 0⟩

/-- The template kept under a key, with its number. -/
def get? (cache : TemplateCache) (key : String) : Option (Nat × CompiledTemplate) × TemplateCache :=
  match cache.store with
  | none => (none, cache)
  | some store =>
    let (found, store) := store.get? key
    (found, { cache with store := some store })

/-- Keeps a template under a key. -/
def put (cache : TemplateCache) (key : String) (template : Nat × CompiledTemplate) :
    TemplateCache :=
  { cache with store := cache.store.map (·.put key template) }

/-- Forgets the template under a key. -/
def erase (cache : TemplateCache) (key : String) : TemplateCache :=
  { cache with store := cache.store.map (·.erase key) }

/-- Forgets all templates. -/
def clear (cache : TemplateCache) : TemplateCache :=
  { cache with store := cache.store.map Recent.clear }

/-- Compiles a source and keeps it under a key. -/
def compile (cache : TemplateCache) (key path source : String) :
    Except Error (Nat × CompiledTemplate) × TemplateCache :=
  match CompiledTemplate.compile path source with
  | .error error => (.error error, cache)
  | .ok template =>
    let numbered := (cache.compiled, template)
    (.ok numbered, { cache with compiled := cache.compiled + 1 }.put key numbered)

/-- The template of a path whose source was just read. -/
def load (cache : TemplateCache) (path source : String) :
    Except Error (Nat × CompiledTemplate) × TemplateCache :=
  match cache.get? path with
  | (some (number, template), cache) =>
    if template.isFor source then (.ok (number, template), cache)
    else cache.compile path path source
  | (none, cache) => cache.compile path path source

end TemplateCache

end TemplateEngine
