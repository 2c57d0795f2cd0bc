import TemplateEngine.Proofs.Error
import TemplateEngine.Proofs.Render.Operations
import TemplateEngine.Proofs.Section.Stack

/-!
# `Render` · Sound stores

What is laid by in a store for later: the tasks that wait in scopes and slots, and the errors with
which slots and promises have ended.

* **`Bounds`** say which requests are meant and which errors may be met.
* **`Store.Sound`**: the tasks that wait in scopes of these requests and in slots belong to these
  requests, which all exist, and the errors that are remembered are expected ones.
* **`Engine.Keeps`**: what an engine is given from outside, the reader and the native functions,
  fails in expected ways only.

Every operation of a store keeps it sound.
-/

namespace TemplateEngine

variable {σ : Type}

/-- The requests that are meant and the errors that may be met. -/
structure Bounds where
  /-- A request is meant. -/
  ours : RequestId → Prop
  /-- An error may be met. -/
  expected : Error → Prop
  /-- The failures of the library are met. -/
  own : ∀ {error}, error.IsOwn → expected error
  /-- Redirects are met. -/
  redirect : ∀ target, expected (.redirect target)
  /-- The layers of an error make no difference. -/
  similar : ∀ {a b}, expected a → Error.Similar a b → expected b

variable {bounds : Bounds}

/-! ## What is laid by -/

/-- A task belongs to the requests that are meant. -/
def Task.Within (bounds : Bounds) : Task → Prop
  | .template context => bounds.ours context.request
  | .section request _ _ => bounds.ours request
  | .content _ _ => True

/-- What a fragment defers belongs to the requests that are meant. -/
def Fragment.Within (bounds : Bounds) (fragment : Fragment Deferred) : Prop :=
  match fragment.payload with
  | .literal _ => True
  | .deferred deferred => deferred.task.Within bounds

/-- What a slot holds is within bounds. -/
def SlotState.Sound (bounds : Bounds) : SlotState → Prop
  | .pending fragments => ∀ fragment ∈ fragments, fragment.Within bounds
  | .running => True
  | .settled (.ok _) => True
  | .settled (.error error) => bounds.expected error

/-- What a promise has ended with is within bounds. -/
def PromiseState.Sound (bounds : Bounds) : PromiseState → Prop
  | .pending _ => True
  | .running => True
  | .settled (.ok _) => True
  | .settled (.error error) => bounds.expected error

/-- The promises have ended within bounds. -/
def Graph.Sound (bounds : Bounds) (graph : Graph) : Prop :=
  ∀ state ∈ graph.promises, state.Sound bounds

/-- What is laid by in a store is within bounds. -/
structure Store.Sound (bounds : Bounds) (store : Store σ) : Prop where
  /-- The requests that are meant exist. -/
  live : ∀ id, bounds.ours id → id.index < store.requests.size
  /-- The tasks in their scopes belong to them. -/
  scopes : ∀ id, bounds.ours id → ∀ scope,
    ∀ fragment ∈ (store.sections id).fragments scope, fragment.Within bounds
  /-- The slots are within bounds. -/
  slots : ∀ slot ∈ store.slots, slot.state.Sound bounds
  /-- The promises are within bounds. -/
  graph : store.graph.Sound bounds

/-- More requests may be meant. -/
theorem SlotState.Sound.mono {wider : Bounds} {state : SlotState} (h : state.Sound bounds)
    (hours : ∀ id, bounds.ours id → wider.ours id)
    (hexpected : ∀ error, bounds.expected error → wider.expected error) : state.Sound wider := by
  have htask : ∀ task : Task, task.Within bounds → task.Within wider := by
    intro task htask
    match task, htask with
    | .template context, htask => exact hours context.request htask
    | .section request _ _, htask => exact hours request htask
    | .content _ _, _ => trivial
  match state, h with
  | .pending fragments, h =>
    intro fragment hmem
    have hfragment := h fragment hmem
    obtain ⟨payload, priority⟩ := fragment
    cases payload with
    | literal text => trivial
    | deferred deferred => exact htask _ hfragment
  | .running, _ => trivial
  | .settled (.ok _), _ => trivial
  | .settled (.error error), h => exact hexpected error h

/-! ## Graphs -/

namespace Graph

variable {graph : Graph}

theorem Sound.write (h : graph.Sound bounds) (id : ObjectId) (key : String) (value : Value) :
    (graph.write id key value).Sound bounds := h

theorem Sound.newObject (h : graph.Sound bounds) (members : Dictionary Value) :
    (graph.newObject members).2.Sound bounds := h

theorem promises_foldl_addFunction (callables : List (String × Callable))
    (members : Dictionary Value × Graph) :
    (callables.foldl addFunction members).2.promises = members.2.promises := by
  induction callables generalizing members with
  | nil => rfl
  | cons named rest ih =>
    rw [List.foldl_cons, ih]
    rfl

theorem promises_newLibrary (graph : Graph) (callables : List (String × Callable)) :
    (graph.newLibrary callables).2.promises = graph.promises :=
  promises_foldl_addFunction callables (.empty, graph)

theorem Sound.newLibrary (h : graph.Sound bounds) (callables : List (String × Callable)) :
    (graph.newLibrary callables).2.Sound bounds := by
  intro state hstate
  rw [promises_newLibrary] at hstate
  exact h state hstate

theorem Sound.newPromise (h : graph.Sound bounds) {state : PromiseState}
    (hstate : state.Sound bounds) : (graph.newPromise state).2.Sound bounds := by
  intro other hother
  rcases Array.mem_push.1 hother with hother | rfl
  · exact h other hother
  · exact hstate

theorem Sound.setPromise (h : graph.Sound bounds) (id : PromiseId) {state : PromiseState}
    (hstate : state.Sound bounds) : (graph.setPromise id state).Sound bounds := by
  intro other hother
  obtain ⟨i, hi, rfl⟩ := Array.mem_iff_getElem.1 hother
  have hi' : i < graph.promises.size := by simpa [Graph.setPromise] using hi
  have hget : (graph.setPromise id state).promises[i] =
      if id.index = i then state else graph.promises[i] := by
    simp only [Graph.setPromise, Array.getElem_modify]
  rw [hget]
  split
  · exact hstate
  · exact h _ (Array.getElem_mem hi')

/-- A promise that is found is within bounds. -/
theorem Sound.promise? (h : graph.Sound bounds) {id : PromiseId} {state : PromiseState}
    (hfind : graph.promise? id = some state) : state.Sound bounds :=
  h state (Array.mem_of_getElem? hfind)

end Graph

/-! ## Stores -/

namespace Store

variable {store store' : Store σ}

/-- A store that lays by the same is as sound. -/
theorem Sound.congr (h : store.Sound bounds) (hrequests : store'.requests = store.requests)
    (hslots : store'.slots = store.slots) (hgraph : store'.graph.Sound bounds) :
    store'.Sound bounds where
  live id hid := by
    rw [hrequests]
    exact h.live id hid
  scopes id hid := by
    unfold Store.sections
    rw [hrequests]
    exact h.scopes id hid
  slots := by
    rw [hslots]
    exact h.slots
  graph := hgraph

theorem Sound.noted (h : store.Sound bounds) (event : Event) :
    (store.noted event).Sound bounds :=
  h.congr rfl rfl h.graph

theorem Sound.asking (h : store.Sound bounds) (id : RequestId) (target : String) :
    (store.asking id target).Sound bounds where
  live other hother := by
    rw [requests_size_asking]
    exact h.live other hother
  scopes other hother := by
    rw [sections_asking]
    exact h.scopes other hother
  slots := h.slots
  graph := h.graph

theorem Sound.setSections (h : store.Sound bounds) {id : RequestId} {sections : Sections Deferred}
    (hsections : bounds.ours id →
      ∀ scope, ∀ fragment ∈ sections.fragments scope, fragment.Within bounds) :
    (store.setSections id sections).Sound bounds where
  live other hother := by
    rw [requests_size_setSections]
    exact h.live other hother
  scopes other hother := by
    by_cases hid : other = id
    · subst hid
      rw [sections_setSections_self (h.live other hother)]
      exact hsections hother
    · rw [sections_setSections_of_ne hid]
      exact h.scopes other hother
  slots := h.slots
  graph := h.graph

theorem Sound.push (h : store.Sound bounds) (id : RequestId) (name owner : String) :
    (store.setSections id ((store.sections id).push name owner).2).Sound bounds := by
  refine h.setSections fun hid scope fragment hf => ?_
  rw [Sections.fragments_push] at hf
  exact h.scopes id hid scope fragment hf

theorem Sound.pop (h : store.Sound bounds) {id : RequestId} {name : String}
    {popped : Option ScopeId} {sections : Sections Deferred}
    (hpop : (store.sections id).pop name = .ok (popped, sections)) :
    (store.setSections id sections).Sound bounds := by
  refine h.setSections fun hid scope fragment hf => ?_
  rw [Sections.fragments_pop hpop] at hf
  exact h.scopes id hid scope fragment hf

theorem Sound.take (h : store.Sound bounds) {id : RequestId} {name : String}
    {taken : Option ScopeId} {sections : Sections Deferred}
    (htake : (store.sections id).takeCurrent name = .ok (taken, sections)) :
    (store.setSections id sections).Sound bounds := by
  refine h.setSections fun hid scope fragment hf => ?_
  rw [(Sections.takeCurrent_cases htake).2, Sections.fragments_setStack] at hf
  exact h.scopes id hid scope fragment hf

theorem Sound.pushSlot (h : store.Sound bounds) {slot : Slot} (hslot : slot.state.Sound bounds) :
    ({ store with slots := store.slots.push slot } : Store σ).Sound bounds where
  live := h.live
  scopes := h.scopes
  slots other hother := by
    rcases Array.mem_push.1 hother with hother | rfl
    · exact h.slots other hother
    · exact hslot
  graph := h.graph

theorem Sound.modifySlot (h : store.Sound bounds) (id : SlotId) {f : Slot → Slot}
    (hf : ∀ slot, slot.state.Sound bounds → (f slot).state.Sound bounds) :
    ({ store with slots := store.slots.modify id.index f } : Store σ).Sound bounds where
  live := h.live
  scopes := h.scopes
  slots other hother := by
    obtain ⟨i, hi, rfl⟩ := Array.mem_iff_getElem.1 hother
    have hi' : i < store.slots.size := by simpa using hi
    have hget : (store.slots.modify id.index f)[i] =
        if id.index = i then f store.slots[i] else store.slots[i] := Array.getElem_modify hi
    rw [hget]
    have hold := h.slots _ (Array.getElem_mem hi')
    split
    · exact hf _ hold
    · exact hold
  graph := h.graph

/-- A slot that is found is within bounds. -/
theorem Sound.slot? (h : store.Sound bounds) {id : SlotId} {slot : Slot}
    (hfind : store.slots[id.index]? = some slot) : slot.state.Sound bounds :=
  h.slots slot (Array.mem_of_getElem? hfind)

/-- An empty store is sound if no request is meant. -/
theorem sound_fresh (templates : TemplateCache) (host : σ) (h : ∀ id, ¬bounds.ours id) :
    (Store.fresh templates host).Sound bounds where
  live id hid := absurd hid (h id)
  scopes id hid := absurd hid (h id)
  slots slot hslot := by simp [Store.fresh] at hslot
  graph state hstate := by simp [Store.fresh, Graph.empty] at hstate

end Store

/-! ## What comes from outside -/

/-- Native functions fail in expected ways, also in the promises that they leave. -/
structure Host.Keeps (bounds : Bounds) (host : Host σ) : Prop where
  /-- A function fails in an expected way. -/
  fails : ∀ id args state error, ((host.call id args).run.run state).1 = .error error →
    bounds.expected error
  /-- The promises that it leaves are as sound as those that it found. -/
  leaves : ∀ id args state, state.1.Sound bounds →
    ((host.call id args).run.run state).2.1.Sound bounds

/-- What an engine is given from outside fails in expected ways. -/
structure Engine.Keeps (bounds : Bounds) (engine : Engine σ) : Prop where
  /-- The native functions do. -/
  host : engine.host.Keeps bounds
  /-- Reading a template does. -/
  read : ∀ path error, engine.read path = .error error → bounds.expected error

end TemplateEngine
