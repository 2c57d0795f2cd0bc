/-!
# `Section` · Scopes

A template does not write its output. It appends fragments to a scope, and the scope is rendered
when all of them are known.

* **`Fragment`**: literal text, or a deferred renderer of any type `δ`, with a priority.
* **Placement and production.** The output has the fragments in the order in which they were
  appended (`assemble`). They are produced one after another, the highest priority first, and of
  equal priorities the first appended first (`productionOrder`), so that one fragment can fill
  another scope before a later one prints it.
* **`renderFragments`** produces and assembles in any monad; the first failure ends it.
-/

namespace TemplateEngine

variable {δ : Type}

/-- The place of a fragment in the order of production; the largest is produced first. -/
abbrev Priority := Nat

namespace Priority

/-- Literal text and the output of expressions. -/
def normal : Priority := 0

/-- A section other than the content that is printed. -/
def printedSection : Priority := 1

/-- The content that is printed. -/
def printedContent : Priority := 2

/-- Included templates and views. -/
def nestedView : Priority := 3

end Priority

/-- The payload of a fragment. -/
inductive Payload (δ : Type) where
  /-- Text. -/
  | literal (text : String)
  /-- Something that gives text when the scope is rendered. -/
  | deferred (renderer : δ)
  deriving Repr, Inhabited

/-- An entry of a scope. -/
structure Fragment (δ : Type) where
  /-- What it holds. -/
  payload : Payload δ
  /-- When it is produced. -/
  priority : Priority
  deriving Repr, Inhabited

/-- The fragments that a template appended, under the name of the template. -/
structure ViewScope (δ : Type) where
  /-- The path of the template as its caller wrote it. -/
  owner : String
  /-- The fragments in the order in which they were appended. -/
  fragments : Array (Fragment δ)
  deriving Inhabited

/-- The scope with one more fragment. -/
def ViewScope.push (scope : ViewScope δ) (fragment : Fragment δ) : ViewScope δ :=
  { scope with fragments := scope.fragments.push fragment }

/-! ## Rendering -/

/-- Puts an item in front of the first one that it must precede. -/
def insertOrdered {α : Type} (precedes : α → α → Bool) (item : α) : List α → List α
  | [] => [item]
  | head :: rest =>
    if precedes item head then item :: head :: rest
    else head :: insertOrdered precedes item rest

/-- Items in order; of those that need not precede each other, the first one stays in front. -/
def ordered {α : Type} (precedes : α → α → Bool) (items : List α) : List α :=
  items.foldl (fun sorted item => insertOrdered precedes item sorted) []

/-- Fragments with their places, in the order of production. -/
def productionOrder (fragments : List (Fragment δ)) : List (Fragment δ × Nat) :=
  ordered (fun a b => b.1.priority < a.1.priority) fragments.zipIdx

/-- Texts joined in the order of their places. -/
def assemble (texts : List (String × Nat)) : String :=
  String.join ((ordered (fun a b => a.2 < b.2) texts).map (·.1))

/-- Produces fragments one after another. -/
def produceAll {m : Type → Type} [Monad m] (run : δ → m String) :
    List (Fragment δ × Nat) → m (List (String × Nat))
  | [] => pure []
  | (fragment, place) :: rest => do
    let text ← match fragment.payload with
      | .literal text => pure text
      | .deferred renderer => run renderer
    let texts ← produceAll run rest
    return (text, place) :: texts

/-- The output of fragments, their deferred renderers run by `run`. -/
def renderFragments {m : Type → Type} [Monad m] (run : δ → m String)
    (fragments : List (Fragment δ)) : m String := do
  return assemble (← produceAll run (productionOrder fragments))

end TemplateEngine
