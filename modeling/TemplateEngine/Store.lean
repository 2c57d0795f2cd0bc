import TemplateEngine.Context
import TemplateEngine.Journal

/-!
# The store

Everything that changes while templates are rendered, and the monad that changes it.

* **`Store σ`** holds the value graph, the requests, the slots, what is kept of templates and
  programs, the state `σ` of the host, and the journal.
* **`Render σ`** computes with a store and may stop. What was changed before it stopped stays
  changed. A stop is an error, a wait that can never end (`stalled`), or the end of the fuel that
  bounds the nesting of renders (`exhausted`); only errors can be caught (`attempt`).
* **`Host σ`** gives the native functions their meaning: they see and change the value graph and
  the host's own state, and nothing else.
-/

namespace TemplateEngine

/-- What changes while templates are rendered. -/
structure Store (σ : Type) where
  /-- Objects, functions and promises. -/
  graph : Graph
  /-- The requests, of which the last is running. -/
  requests : Array Request
  /-- The content slots. -/
  slots : Array Slot
  /-- Compiled templates. -/
  templates : TemplateCache
  /-- Parsed programs by their text. -/
  programs : Recent Program
  /-- The state of the host. -/
  host : σ
  /-- What was done so far, the last first. -/
  journal : List Event

/-- How many parsed programs are kept. -/
def programLimit : Nat := 512

namespace Store

variable {σ : Type}

/-- A store with nothing in it but the state of the host. -/
def fresh (templates : TemplateCache) (host : σ) : Store σ :=
  ⟨.empty, #[], #[], templates, .empty programLimit, host, []⟩

end Store

/-- Why a computation has no value. -/
inductive Stop where
  /-- An error ended it. -/
  | raised (error : Error)
  /-- It waits for itself. -/
  | stalled
  /-- It nests deeper than the fuel allows. -/
  | exhausted
  deriving Inhabited

/-- A computation with a store. -/
abbrev Render (σ α : Type) : Type := ExceptT Stop (StateM (Store σ)) α

/-- A computation of the host: it sees the value graph and the host's own state. -/
abbrev Native (σ α : Type) : Type := ExceptT Error (StateM (Graph × σ)) α

/-- The native functions of a host. -/
structure Host (σ : Type) where
  /-- Calls a native function. -/
  call : NativeId → List Value → Native σ Value

namespace Render

variable {σ α : Type}

/-! ## Errors -/

/-- Ends with an error. -/
def raise (error : Error) : Render σ α := throw (.raised error)

/-- Ends with the error of a result, or gives its value. -/
def ofExcept (result : Except Error α) : Render σ α :=
  match result with
  | .ok value => pure value
  | .error error => raise error

/-- The result of a computation, its error included; other stops go on. -/
def attempt (x : Render σ α) : Render σ (Except Error α) :=
  tryCatch (Except.ok <$> x) fun stop =>
    match stop with
    | .raised error => pure (.error error)
    | other => throw other

/-- A computation whose errors are changed. -/
def mapError (f : Error → Error) (x : Render σ α) : Render σ α :=
  tryCatch x fun stop =>
    match stop with
    | .raised error => raise (f error)
    | other => throw other

/-! ## Parts of the store -/

/-- Writes an event into the journal. -/
def note (event : Event) : Render σ Unit :=
  modify fun store => { store with journal := event :: store.journal }

/-- Reads the value graph. -/
def withGraph (f : Graph → α) : Render σ α := return f (← get).graph

/-- Changes the value graph. -/
def changeGraph (f : Graph → α × Graph) : Render σ α :=
  modifyGet fun store =>
    match store with
    | ⟨graph, requests, slots, templates, programs, host, journal⟩ =>
      let (value, graph) := f graph
      (value, ⟨graph, requests, slots, templates, programs, host, journal⟩)

/-- Runs a computation of the host. -/
def ofNative (x : Native σ α) : Render σ α := do
  let result ← modifyGet fun store =>
    match store with
    | ⟨graph, requests, slots, templates, programs, host, journal⟩ =>
      let (result, graph, host) := x.run (graph, host)
      (result, ⟨graph, requests, slots, templates, programs, host, journal⟩)
  match result with
  | .ok value => return value
  | .error error =>
    note (.failed error)
    raise error

/-- Reads a request. -/
def withRequest (id : RequestId) (f : Request → α) : Render σ α :=
  return f ((← get).requests[id.index]?.getD .new)

/-- Changes a request. -/
def changeRequest (id : RequestId) (f : Request → Request) : Render σ Unit :=
  modify fun store =>
    match store with
    | ⟨graph, requests, slots, templates, programs, host, journal⟩ =>
      ⟨graph, requests.modify id.index f, slots, templates, programs, host, journal⟩

/-- Starts a request. -/
def newRequest : Render σ RequestId :=
  modifyGet fun store =>
    (⟨store.requests.size⟩, { store with requests := store.requests.push .new })

/-- Reads the sections of a request. -/
def withSections (id : RequestId) (f : Sections Deferred → α) : Render σ α :=
  withRequest id fun request => f request.sections

/-- Changes the sections of a request. -/
def changeSections (id : RequestId) (f : Sections Deferred → α × Sections Deferred) :
    Render σ α := do
  let (value, sections) ← withSections id f
  changeRequest id fun request => { request with sections := sections }
  return value

/-- Changes the sections of a request, or ends with a fault and leaves them as they are. -/
def trySections (id : RequestId)
    (f : Sections Deferred → Except Sections.Fault (α × Sections Deferred)) :
    Render σ (Except Sections.Fault α) := do
  match ← withSections id f with
  | .error fault => return .error fault
  | .ok (value, sections) =>
    changeRequest id fun request => { request with sections := sections }
    return .ok value

/-- Ends with a redirect if the request has asked for one. -/
def checkRedirect (id : RequestId) : Render σ Unit := do
  match ← withRequest id Request.redirect with
  | some target => raise (.redirect target)
  | none => return

/-- Asks for a redirect; the first target counts. -/
def askRedirect (id : RequestId) (target : String) : Render σ Unit := do
  note (.asked id target)
  changeRequest id fun request => { request with redirect := request.redirect.or (some target) }

/-- Makes a slot. -/
def newSlot (state : SlotState) : Render σ SlotId :=
  modifyGet fun store =>
    (⟨store.slots.size⟩, { store with slots := store.slots.push ⟨state, false⟩ })

/-- Reads a slot. -/
def slot? (id : SlotId) : Render σ (Option Slot) := return (← get).slots[id.index]?

/-- Changes a slot. -/
def changeSlot (id : SlotId) (f : Slot → Slot) : Render σ Unit :=
  modify fun store => { store with slots := store.slots.modify id.index f }

/-- Marks a slot as printed; says whether it was before. -/
def consume (id : SlotId) : Render σ Bool := do
  let slot ← slot? id
  changeSlot id fun slot => { slot with consumed := true }
  return slot.any (·.consumed)

/-- The program of a text, parsed or kept from before. -/
def programOf (source : String) : Render σ Program := do
  let found ← modifyGet fun store =>
    let (found, programs) := store.programs.get? source
    (found, { store with programs := programs })
  match found with
  | some program => return program
  | none =>
    match Program.parse source with
    | .error fault => raise (.expression (.parse fault))
    | .ok program =>
      modify fun store => { store with programs := store.programs.put source program }
      return program

/-- The compiled template of a path whose source was just read. -/
def loadTemplate (path source : String) : Render σ CompiledTemplate := do
  let result ← modifyGet fun store =>
    let (result, templates) := store.templates.load path source
    (result, { store with templates := templates })
  return (← ofExcept result).2

end Render

end TemplateEngine
