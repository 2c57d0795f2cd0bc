import TemplateEngine.Dictionary
import TemplateEngine.Section.Scope

/-!
# `Section` · Stacks of scopes

The named sections of one request.

* **`Stack`** is one section: the scope that fragments go to now, if there is one, and those that
  come back with each pop. A push installs a fresh scope; taking the current scope leaves the
  section without one until the next push, pop or append.
* **`Sections`** holds the scopes of a request, which are named by their place (`ScopeId`), and its
  sections by name. A section exists from the first push or append on.
* **Failures**: popping more than was pushed, and popping or taking from a section that does not
  exist (`Sections.Fault`).
-/

namespace TemplateEngine

variable {δ : Type}

/-- A scope of a request. -/
structure ScopeId where
  /-- Its place among the scopes of the request. -/
  index : Nat
  deriving Repr, DecidableEq, Inhabited

/-- A section: a stack of scopes. -/
structure Stack where
  /-- The scope that fragments are appended to. -/
  current : Option ScopeId
  /-- What was current at each push that is not yet popped, the last push first. -/
  history : List (Option ScopeId)
  /-- The scope that was replaced, taken or popped last. -/
  previous : Option ScopeId
  deriving Repr, DecidableEq, Inhabited

namespace Stack

/-- A section without scopes. -/
def empty : Stack := ⟨none, [], none⟩

/-- Makes a scope current and keeps the one before. -/
def push (stack : Stack) (scope : ScopeId) : Stack :=
  ⟨some scope, stack.current :: stack.history, stack.current⟩

/-- Gives back what was current at the last push; also gives what it replaces. -/
def pop? (stack : Stack) : Option (Option ScopeId × Stack) :=
  match stack.history with
  | [] => none
  | restored :: rest => some (stack.current, ⟨restored, rest, stack.current⟩)

/-- Takes the current scope away. -/
def take (stack : Stack) : Option ScopeId × Stack :=
  match stack.current with
  | some scope => (some scope, { stack with current := none, previous := some scope })
  | none => (none, stack)

end Stack

/-- What the next pop of a section restores. -/
inductive Peek where
  /-- Nothing was pushed. -/
  | empty
  /-- The absence of a scope. -/
  | unset
  /-- A scope. -/
  | scope (id : ScopeId)
  deriving Repr, DecidableEq

/-- The scopes of one request and its sections by name. -/
structure Sections (δ : Type) where
  /-- The scopes in the order in which they were made. -/
  scopes : Array (ViewScope δ)
  /-- The sections that exist. -/
  named : Dictionary Stack
  deriving Inhabited

/-- Why a section cannot be popped or taken. -/
inductive Sections.Fault where
  /-- The section has nothing pushed. -/
  | tooManyPops
  /-- The section does not exist. -/
  | missing (name : String)
  deriving Repr, DecidableEq

namespace Sections

/-- No scopes and no sections. -/
def empty : Sections δ := ⟨#[], .empty⟩

/-- The section with a name; an empty one if it does not exist. -/
def stack (sections : Sections δ) (name : String) : Stack :=
  (sections.named.find? name).getD .empty

/-- Changes a section, which exists afterwards. -/
def setStack (sections : Sections δ) (name : String) (stack : Stack) : Sections δ :=
  { sections with named := sections.named.insert name stack }

/-- Makes a scope without fragments. -/
def newScope (sections : Sections δ) (owner : String) : ScopeId × Sections δ :=
  (⟨sections.scopes.size⟩, { sections with scopes := sections.scopes.push ⟨owner, #[]⟩ })

/-- A scope of the request. -/
def scope? (sections : Sections δ) (id : ScopeId) : Option (ViewScope δ) :=
  sections.scopes[id.index]?

/-- The fragments of a scope as they are now. -/
def fragments (sections : Sections δ) (id : ScopeId) : List (Fragment δ) :=
  match sections.scope? id with
  | some scope => scope.fragments.toList
  | none => []

/-- Appends a fragment to a scope; gives its place there. -/
def addTo (sections : Sections δ) (id : ScopeId) (fragment : Fragment δ) : Nat × Sections δ :=
  match sections with
  | ⟨scopes, named⟩ =>
    let place := (scopes[id.index]?.map (·.fragments.size)).getD 0
    (place, ⟨scopes.modify id.index (·.push fragment), named⟩)

/-- The scope that is current in a section. -/
def current (sections : Sections δ) (name : String) : Option ScopeId :=
  (sections.stack name).current

/-- The scope of a section that was replaced, taken or popped last. -/
def previous (sections : Sections δ) (name : String) : Option ScopeId :=
  (sections.stack name).previous

/-- How many pushes of a section are not yet popped; none if it does not exist. -/
def depth? (sections : Sections δ) (name : String) : Option Nat :=
  (sections.named.find? name).map (·.history.length)

/-- What the next pop of a section restores. -/
def peek (sections : Sections δ) (name : String) : Peek :=
  match (sections.stack name).history with
  | [] => .empty
  | none :: _ => .unset
  | some id :: _ => .scope id

/-- Makes a fresh scope current in a section. -/
def push (sections : Sections δ) (name owner : String) : ScopeId × Sections δ :=
  let (id, sections) := sections.newScope owner
  (id, sections.setStack name ((sections.stack name).push id))

/-- Gives a section back what was current at its last push; also gives what that replaces. -/
def pop (sections : Sections δ) (name : String) : Except Fault (Option ScopeId × Sections δ) :=
  match sections.named.find? name with
  | none => .error (.missing name)
  | some stack =>
    match stack.pop? with
    | none => .error .tooManyPops
    | some (popped, stack) => .ok (popped, sections.setStack name stack)

/-- Appends a fragment to the current scope of a section, which is made for `owner` if there is
none; gives its place there. -/
def add (sections : Sections δ) (name owner : String) (fragment : Fragment δ) :
    Nat × Sections δ :=
  let stack := sections.stack name
  match stack.current with
  | some id => (sections.setStack name stack).addTo id fragment
  | none =>
    let (id, sections) := sections.newScope owner
    (sections.setStack name { stack with current := some id }).addTo id fragment

/-- Takes the current scope of a section away, so that it is printed once. -/
def takeCurrent (sections : Sections δ) (name : String) :
    Except Fault (Option ScopeId × Sections δ) :=
  match sections.named.find? name with
  | none => .error (.missing name)
  | some stack =>
    let (taken, stack) := stack.take
    .ok (taken, sections.setStack name stack)

end Sections

end TemplateEngine
