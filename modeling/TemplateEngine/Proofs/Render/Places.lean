import TemplateEngine.Proofs.Engine.Balance
import TemplateEngine.Proofs.Template.Compiled

/-!
# `Render` · The places of failures

A failure names the part of a template at which it happened. What is rendered later, by whatever
other template, keeps the place of the token that asked for it.

* **`Error.Placed place`**: every place in the chain of an error is one of those in `place`.
* **`Chronicle`** says which places are known while the journal of a run grows; a part of a template
  that was read is one of them (`Chronicle.Knows`).
* **`Store.Told`**: what is laid by in a store, the tokens to which later failures are attributed
  and the errors that are remembered, has known places only.
* **`Chronicle.Fails`** says what a failure leaves: its places are known, and unless it came from
  inside of the body of a paired tag, every push is popped (`Template.Sheltered`).
* **`Chronicle.Meets`**: a computation keeps all this up. There is one rule for each way to put
  computations together, and one for each operation of the store.
-/

namespace TemplateEngine

open Render TemplateEngine.Template

variable {σ α β : Type}

/-! ## Errors -/

namespace Error

/-- The places in the chain of an error are some of the given ones. -/
def Placed (place : String → Excerpt → Prop) (error : Error) : Prop :=
  ∀ file excerpt cause, .template file excerpt cause ∈ error.layers → place file excerpt

variable {place place' : String → Excerpt → Prop} {error : Error}

theorem Placed.mono (h : error.Placed place)
    (hplace : ∀ file excerpt, place file excerpt → place' file excerpt) : error.Placed place' :=
  fun file excerpt cause hmem => hplace file excerpt (h file excerpt cause hmem)

theorem placed_template {file : String} {excerpt : Excerpt} :
    (Error.template file excerpt error).Placed place ↔
      place file excerpt ∧ error.Placed place := by
  unfold Placed
  rw [layers]
  refine ⟨fun h => ⟨h file excerpt error List.mem_cons_self, fun file excerpt cause hmem =>
    h file excerpt cause (List.mem_cons_of_mem _ hmem)⟩, ?_⟩
  rintro ⟨hplace, hcause⟩ file' excerpt' cause hmem
  rcases List.mem_cons.1 hmem with heq | hmem
  · cases heq
    exact hplace
  · exact hcause file' excerpt' cause hmem

theorem placed_evaluation {source rooted : String} :
    (Error.evaluation source rooted error).Placed place ↔ error.Placed place := by
  unfold Placed
  rw [layers]
  refine forall₃_congr fun file excerpt cause => ?_
  rw [List.mem_cons]
  exact ⟨fun h hmem => h (.inr hmem), fun h hmem => h (hmem.resolve_left nofun)⟩

theorem placed_shared : (Error.shared error).Placed place ↔ error.Placed place := by
  unfold Placed
  rw [layers]

/-- A failure that the library finds has no place by itself. -/
theorem IsOwn.placed (h : error.IsOwn) : error.Placed place := by
  intro file excerpt cause hmem
  have hlayers : error.layers = [error] := by
    cases error with
    | parse | structural | expression | resolution => rfl
    | _ => exact h.elim
  rw [hlayers, List.mem_singleton] at hmem
  subst hmem
  exact h.elim

theorem placed_redirect (target : String) : (Error.redirect target).Placed place := by
  intro file excerpt cause hmem
  cases List.mem_singleton.1 hmem

theorem Placed.evaluationError (h : error.Placed place) (source rooted : String) :
    (evaluationError source rooted error).Placed place := by
  unfold TemplateEngine.evaluationError
  split
  · exact h
  · exact placed_evaluation.2 h

theorem Placed.locate (h : error.Placed place) {template : CompiledTemplate} {token : Nat}
    (hplace : place template.path (template.excerpt token)) :
    (TemplateEngine.locate template token error).Placed place := by
  unfold TemplateEngine.locate
  split
  · exact h
  · exact placed_template.2 ⟨hplace, h⟩

theorem Placed.locateLayout (h : error.Placed place) {template : CompiledTemplate} {token : Nat}
    (hplace : place template.path (template.excerpt token)) :
    (TemplateEngine.locateLayout template token error).Placed place := by
  unfold TemplateEngine.locateLayout
  split
  · exact h
  · exact h.locate hplace

end Error

/-! ## Bodies that cannot fail -/

namespace Template

/-- The name of a tag that waits for its closer. -/
def Token.opens? (part : Token) : Option String :=
  match part.kind, ServerTag.parse part.text with
  | .openTag, .ok tag =>
    match Invocation.ofTag tag none with
    | .ok _ => if tag.selfClosing then none else some tag.name
    | .error _ => none
  | _, _ => none

/-- A part that cannot fail: a literal, or a directive that chooses or prints a section. -/
def Token.isCalm (part : Token) : Bool :=
  match part.kind with
  | .literal => true
  | .expression =>
    match Directive.parse part.body with
    | .ok (some (.section _)) => true
    | .ok (some (.render _ _)) => true
    | _ => false
  | _ => false

/-- Every paired tag is closed, and until then no part can fail; `opened` is the tag that is open
now. -/
def Sheltered (opened : Option String) : List Token → Bool
  | [] => opened.isNone
  | part :: rest =>
    match opened with
    | none => Sheltered part.opens? rest
    | some name =>
      if part.kind = .closeTag then part.closerName = name && Sheltered none rest
      else part.isCalm && Sheltered (some name) rest

/-- What follows a literal or an expression is as sheltered. -/
theorem Sheltered.of_plain {opened : Option String} {part : Token} {rest : List Token}
    (hkind : part.kind = .literal ∨ part.kind = .expression)
    (h : Sheltered opened (part :: rest)) : Sheltered opened rest := by
  unfold Sheltered at h
  cases opened with
  | none =>
    have hopens : part.opens? = none := by
      unfold Token.opens?
      rcases hkind with hkind | hkind <;> rw [hkind]
    rw [hopens] at h
    exact h
  | some name =>
    have hclose : part.kind ≠ .closeTag := by
      rcases hkind with hkind | hkind <;> rw [hkind] <;> exact nofun
    dsimp only at h
    rw [if_neg hclose, Bool.and_eq_true] at h
    exact h.2

end Template

/-! ## What is known -/

/-- A template was read since. -/
def ReadSince (base journal : List Event) (path : String) : Prop :=
  ∃ events, journal = events ++ base ∧ Event.reading path ∈ events

theorem ReadSince.later {base J K : List Event} {path : String} (h : ReadSince base J path)
    (hJK : J <:+ K) : ReadSince base K path := by
  obtain ⟨events, rfl, hmem⟩ := h
  obtain ⟨more, rfl⟩ := hJK
  exact ⟨more ++ events, by rw [List.append_assoc], List.mem_append_right _ hmem⟩

/-- A template was compiled from its file, which was read since. -/
structure CompiledTemplate.KnownBy (read : String → Except Error String) (base journal : List Event)
    (template : CompiledTemplate) : Prop where
  /-- It is what the text of the file compiles to. -/
  compiled : ∃ source, read template.path = .ok source ∧
    CompiledTemplate.compile template.path source = .ok template
  /-- The file was read. -/
  reading : ReadSince base journal template.path

/-- What is said of a run while its journal grows. -/
structure Chronicle where
  /-- The texts of the templates. -/
  read : String → Except Error String
  /-- The journal when it began. -/
  base : List Event
  /-- A request is meant. -/
  ours : RequestId → Prop
  /-- A failure may be at a place. -/
  place : List Event → String → Excerpt → Prop
  /-- Places are never forgotten. -/
  later : ∀ {J K file excerpt}, J <:+ K → place J file excerpt → place K file excerpt
  /-- The parts of a template that was read are places, apart from its literals. -/
  here : ∀ {J : List Event} {template : CompiledTemplate} {token : Nat} {part : Token},
    template.KnownBy read base J → template.tokens[token]? = some part → part.kind ≠ .literal →
      place J template.path (template.excerpt token)

namespace Chronicle

/-- The requests that are meant, and all errors. -/
def bounds (c : Chronicle) : Bounds where
  ours := c.ours
  expected _ := True
  own _ := trivial
  redirect _ := trivial
  similar _ _ := trivial

/-- A template that was read. -/
def Knows (c : Chronicle) (J : List Event) (template : CompiledTemplate) : Prop :=
  template.KnownBy c.read c.base J

/-- A failure may be at a part of a template. -/
def Marks (c : Chronicle) (J : List Event) (template : CompiledTemplate) (token : Nat) : Prop :=
  c.place J template.path (template.excerpt token)

/-- In the templates that were read, no body of a paired tag can fail. -/
def Shelters (c : Chronicle) (J : List Event) : Prop :=
  ∀ path source tokens, ReadSince c.base J path → c.read path = .ok source →
    tokenize source = .ok tokens → Sheltered none tokens

variable {c : Chronicle} {J K : List Event}

theorem Knows.later {template : CompiledTemplate} (h : c.Knows J template) (hJK : J <:+ K) :
    c.Knows K template :=
  ⟨h.compiled, h.reading.later hJK⟩

theorem Knows.marks {template : CompiledTemplate} {token : Nat} {part : Token}
    (h : c.Knows J template) (hpart : template.tokens[token]? = some part)
    (hkind : part.kind ≠ .literal) : c.Marks J template token :=
  c.here h hpart hkind

theorem Shelters.earlier (h : c.Shelters K) (hJK : J <:+ K) : c.Shelters J :=
  fun path source tokens hread => h path source tokens (hread.later hJK)

/-- A template that was read is sheltered if all are. -/
theorem Shelters.sheltered (h : c.Shelters J) {template : CompiledTemplate}
    (hknown : c.Knows J template) : Sheltered none template.tokens := by
  obtain ⟨source, hread, hcompile⟩ := hknown.compiled
  exact h template.path source template.tokens hknown.reading hread
    (CompiledTemplate.parts_of_compile hcompile).2.2

end Chronicle

/-! ## What is laid by -/

/-- What a fragment defers belongs to the requests that are meant, and its place is known. -/
def Fragment.Told (c : Chronicle) (J : List Event) (fragment : Fragment Deferred) : Prop :=
  match fragment.payload with
  | .literal _ => True
  | .deferred deferred =>
    deferred.task.Within c.bounds ∧ c.Marks J deferred.template deferred.token

/-- The places of an error that is remembered are known. -/
def SlotState.Told (c : Chronicle) (J : List Event) : SlotState → Prop
  | .pending fragments => ∀ fragment ∈ fragments, fragment.Told c J
  | .running => True
  | .settled (.ok _) => True
  | .settled (.error error) => error.Placed (c.place J)

/-- The places of an error that a promise ended with are some of the given ones. -/
def PromiseState.SettledAt (place : String → Excerpt → Prop) : PromiseState → Prop
  | .pending _ => True
  | .running => True
  | .settled (.ok _) => True
  | .settled (.error error) => error.Placed place

/-- The promises have ended at some of the given places. -/
def Graph.SettledAt (place : String → Excerpt → Prop) (graph : Graph) : Prop :=
  ∀ state ∈ graph.promises, state.SettledAt place

/-- What is laid by in a store has known places. -/
structure Store.Told (c : Chronicle) (store : Store σ) : Prop where
  /-- The run has begun. -/
  since : c.base <:+ store.journal
  /-- The requests that are meant exist. -/
  live : ∀ id, c.ours id → id.index < store.requests.size
  /-- Scopes have known places. -/
  scopes : ∀ id, c.ours id → ∀ scope,
    ∀ fragment ∈ (store.sections id).fragments scope, fragment.Told c store.journal
  /-- Slots have. -/
  slots : ∀ slot ∈ store.slots, slot.state.Told c store.journal
  /-- Promises have. -/
  graph : store.graph.SettledAt (c.place store.journal)
  /-- A template that is kept is what its file compiles to. -/
  templates : store.templates.Honest c.read

section Told

variable {c : Chronicle} {J K : List Event}

theorem Fragment.Told.later {fragment : Fragment Deferred} (h : fragment.Told c J) (hJK : J <:+ K) :
    fragment.Told c K := by
  obtain ⟨payload, priority⟩ := fragment
  cases payload with
  | literal text => trivial
  | deferred deferred => exact ⟨h.1, c.later hJK h.2⟩

theorem SlotState.Told.later {state : SlotState} (h : state.Told c J) (hJK : J <:+ K) :
    state.Told c K :=
  match state, h with
  | .pending _, h => fun fragment hmem => (h fragment hmem).later hJK
  | .running, _ => trivial
  | .settled (.ok _), _ => trivial
  | .settled (.error _), h => h.mono fun _ _ => c.later hJK

theorem PromiseState.SettledAt.mono {place place' : String → Excerpt → Prop} {state : PromiseState}
    (h : state.SettledAt place) (hplace : ∀ file excerpt, place file excerpt → place' file excerpt) :
    state.SettledAt place' :=
  match state, h with
  | .pending _, _ => trivial
  | .running, _ => trivial
  | .settled (.ok _), _ => trivial
  | .settled (.error _), h => Error.Placed.mono h hplace

namespace Graph

variable {place : String → Excerpt → Prop} {graph : Graph}

theorem SettledAt.write (h : graph.SettledAt place) (id : ObjectId) (key : String) (value : Value) :
    (graph.write id key value).SettledAt place := h

theorem SettledAt.newObject (h : graph.SettledAt place) (members : Dictionary Value) :
    (graph.newObject members).2.SettledAt place := h

theorem SettledAt.newLibrary (h : graph.SettledAt place) (callables : List (String × Callable)) :
    (graph.newLibrary callables).2.SettledAt place := by
  intro state hstate
  rw [promises_newLibrary] at hstate
  exact h state hstate

theorem SettledAt.newPromise (h : graph.SettledAt place) {state : PromiseState}
    (hstate : state.SettledAt place) : (graph.newPromise state).2.SettledAt place := by
  intro other hother
  rcases Array.mem_push.1 hother with hother | rfl
  · exact h other hother
  · exact hstate

theorem SettledAt.setPromise (h : graph.SettledAt place) (id : PromiseId) {state : PromiseState}
    (hstate : state.SettledAt place) : (graph.setPromise id state).SettledAt place := by
  intro other hother
  obtain ⟨i, hi, rfl⟩ := Array.mem_iff_getElem.1 hother
  have hi' : i < graph.promises.size := by simpa [Graph.setPromise] using hi
  have hget : (graph.setPromise id state).promises[i] =
      if id.index = i then state else graph.promises[i] := by
    simp only [Graph.setPromise, Array.getElem_modify]
  rw [hget]
  split
  · exact hstate
  · exact h _ (Array.getElem_mem hi')

end Graph

namespace Store.Told

variable {s t : Store σ}

/-- Other things may change, and the journal may grow. -/
theorem congr (h : s.Told c) (hjournal : s.journal <:+ t.journal)
    (hsize : t.requests.size = s.requests.size)
    (hsections : ∀ id, t.sections id = s.sections id) (hslots : t.slots = s.slots)
    (hgraph : t.graph.SettledAt (c.place t.journal)) (htemplates : t.templates.Honest c.read) :
    t.Told c where
  since := h.since.trans hjournal
  live id hid := by
    rw [hsize]
    exact h.live id hid
  scopes id hid scope fragment hmem := by
    rw [hsections] at hmem
    exact (h.scopes id hid scope fragment hmem).later hjournal
  slots slot hmem := by
    rw [hslots] at hmem
    exact (h.slots slot hmem).later hjournal
  graph := hgraph
  templates := htemplates

theorem noted (h : s.Told c) (event : Event) : (s.noted event).Told c :=
  have hjournal : s.journal <:+ (s.noted event).journal := List.suffix_cons event s.journal
  h.congr hjournal rfl (fun _ => rfl) rfl
    (fun state hstate => (h.graph state hstate).mono fun _ _ => c.later hjournal) h.templates

theorem asking (h : s.Told c) (id : RequestId) (target : String) : (s.asking id target).Told c :=
  h.congr (List.suffix_refl _) (requests_size_asking s id target)
    (fun other => sections_asking s id other target) rfl h.graph h.templates

theorem setGraph (h : s.Told c) {graph : Graph} (hgraph : graph.SettledAt (c.place s.journal)) :
    ({ s with graph := graph } : Store σ).Told c :=
  h.congr (List.suffix_refl _) rfl (fun _ => rfl) rfl hgraph h.templates

theorem setSections (h : s.Told c) {id : RequestId} {sections : Sections Deferred}
    (hsections : c.ours id → ∀ scope, ∀ fragment ∈ sections.fragments scope,
      fragment.Told c s.journal) :
    (s.setSections id sections).Told c where
  since := h.since
  live other hother := by
    rw [requests_size_setSections]
    exact h.live other hother
  scopes other hother := by
    by_cases hid : other = id
    · subst hid
      rw [sections_setSections_self (h.live other hother)]
      exact hsections hother
    · rw [sections_setSections_of_ne hid]
      exact h.scopes other hother
  slots := h.slots
  graph := h.graph
  templates := h.templates

theorem pushed (h : s.Told c) (id : RequestId) (name owner : String) :
    (s.pushed id name owner).Told c := by
  refine h.setSections fun hid scope fragment hmem => ?_
  rw [Sections.fragments_push] at hmem
  exact h.scopes id hid scope fragment hmem

theorem popped (h : s.Told c) (id : RequestId) (name : String) : (s.popped id name).Told c :=
  h.setSections fun hid => h.scopes id hid

theorem take (h : s.Told c) {id : RequestId} {name : String} {taken : Option ScopeId}
    {sections : Sections Deferred}
    (htake : (s.sections id).takeCurrent name = .ok (taken, sections)) :
    (s.setSections id sections).Told c := by
  refine h.setSections fun hid scope fragment hmem => ?_
  rw [(Sections.takeCurrent_cases htake).2, Sections.fragments_setStack] at hmem
  exact h.scopes id hid scope fragment hmem

theorem setSlots (h : s.Told c) {slots : Array Slot}
    (hslots : ∀ slot ∈ slots, slot.state.Told c s.journal) :
    ({ s with slots := slots } : Store σ).Told c where
  since := h.since
  live := h.live
  scopes := h.scopes
  slots := hslots
  graph := h.graph
  templates := h.templates

theorem pushSlot (h : s.Told c) {slot : Slot} (hslot : slot.state.Told c s.journal) :
    ({ s with slots := s.slots.push slot } : Store σ).Told c := by
  refine h.setSlots fun other hother => ?_
  rcases Array.mem_push.1 hother with hother | rfl
  · exact h.slots other hother
  · exact hslot

theorem modifySlot (h : s.Told c) (id : SlotId) {f : Slot → Slot}
    (hf : ∀ slot, slot.state.Told c s.journal → (f slot).state.Told c s.journal) :
    ({ s with slots := s.slots.modify id.index f } : Store σ).Told c := by
  refine h.setSlots fun other hother => ?_
  obtain ⟨i, hi, rfl⟩ := Array.mem_iff_getElem.1 hother
  have hi' : i < s.slots.size := by simpa using hi
  have hget : (s.slots.modify id.index f)[i] =
      if id.index = i then f s.slots[i] else s.slots[i] := Array.getElem_modify hi
  rw [hget]
  have hold := h.slots _ (Array.getElem_mem hi')
  split
  · exact hf _ hold
  · exact hold

end Store.Told

end Told

/-! ## Failures -/

namespace Store

variable {s t : Store σ}

/-- A balanced change only adds to the journal. -/
theorem Balanced.journal (h : s.Balanced t) : s.journal <:+ t.journal := by
  obtain ⟨events, hjournal, -⟩ := h
  exact ⟨events, hjournal.symm⟩

theorem balanced_noted (s : Store σ) (event : Event) : s.Balanced (s.noted event) :=
  .of_sections [event] rfl fun _ => rfl

end Store

namespace Chronicle

variable {c : Chronicle} {J : List Event}

/-- What a failure leaves. -/
structure Fails (c : Chronicle) (s : Store σ) (error : Error) (t : Store σ) : Prop where
  /-- Nothing was popped that had been pushed before. -/
  grown : s.Grown t
  /-- The journal has grown. -/
  journal : s.journal <:+ t.journal
  /-- The places of the error are known. -/
  placed : error.Placed (c.place t.journal)
  /-- If no body of a paired tag can fail, then every push was popped. -/
  undone : c.Shelters t.journal → s.Balanced t

namespace Fails

variable {s t u : Store σ} {error error' : Error}

theorem refl (h : error.Placed (c.place s.journal)) : c.Fails s error s :=
  ⟨.refl s, List.suffix_refl _, h, fun _ => .refl s⟩

theorem of_balanced (h : s.Balanced t) (herror : error.Placed (c.place t.journal)) :
    c.Fails s error t :=
  ⟨h.grown, h.journal, herror, fun _ => h⟩

/-- A failure after a balanced change. -/
theorem after (h : c.Fails t error u) (hst : s.Balanced t) : c.Fails s error u :=
  ⟨hst.grown.trans h.grown, hst.journal.trans h.journal, h.placed, fun hshelters =>
    hst.trans (h.undone hshelters)⟩

/-- Another error with known places. -/
theorem other (h : c.Fails s error t) (herror : error'.Placed (c.place t.journal)) :
    c.Fails s error' t :=
  ⟨h.grown, h.journal, herror, h.undone⟩

/-- What requests and journal do not show does not count. -/
theorem still (h : c.Fails s error t) (htu : t.Still u) : c.Fails s error u where
  grown := h.grown.trans (Store.Balanced.still htu).grown
  journal := htu.journal ▸ h.journal
  placed := htu.journal ▸ h.placed
  undone hshelters := (h.undone (htu.journal ▸ hshelters)).trans (.still htu)

end Fails

/-! ## Computations -/

/-- A computation keeps to the chronicle, on every store whose journal goes on from `J`, and its
value is `good` by what is known then. -/
def Meets (c : Chronicle) (J : List Event) (x : Render σ α) (good : List Event → α → Prop) : Prop :=
  ∀ s : Store σ, J <:+ s.journal → s.Told c →
    Ensures x s (fun a t => good t.journal a ∧ t.Told c ∧ s.Balanced t)
      fun stop t => OnStop (c.Fails s · t) (fun _ => True) stop

namespace Meets

variable {good good' : List Event → α → Prop} {x : Render σ α} {K : List Event}

/-! ### Sequences -/

theorem mono (h : c.Meets J x good) (hgood : ∀ K a, J <:+ K → good K a → good' K a) :
    c.Meets J x good' :=
  fun s hs hold => (h s hs hold).mono
    (fun a t ⟨ha, ht, hst⟩ => ⟨hgood t.journal a (hs.trans hst.journal) ha, ht, hst⟩) fun _ _ => id

theorem pure {a : α} (h : ∀ K, J <:+ K → good K a) : c.Meets J (Pure.pure a : Render σ α) good :=
  fun s hs hold => .pure ⟨h _ hs, hold, .refl s⟩

/-- A computation that starts after a balanced change. -/
theorem afterwards (h : c.Meets J x good) {s t : Store σ} (ht : J <:+ t.journal) (hold : t.Told c)
    (hst : s.Balanced t) :
    Ensures x t (fun a u => good u.journal a ∧ u.Told c ∧ s.Balanced u)
      fun stop u => OnStop (c.Fails s · u) (fun _ => True) stop := by
  refine (h t ht hold).mono ?_ fun stop u hstop => ?_
  · rintro a u ⟨ha, hu, htu⟩
    exact ⟨ha, hu, hst.trans htu⟩
  · cases stop with
    | raised error => exact Fails.after hstop hst
    | stalled | exhausted => exact True.intro

theorem bind {f : α → Render σ β} {good' : List Event → β → Prop} (hx : c.Meets J x good)
    (hf : ∀ K a, J <:+ K → good K a → c.Meets K (f a) good') : c.Meets J (x >>= f) good' := by
  refine fun s hs hold => (hx s hs hold).bind ?_
  rintro a t ⟨ha, ht, hst⟩
  exact (hf t.journal a (hs.trans hst.journal) ha).afterwards (List.suffix_refl _) ht hst

theorem map {f : α → β} {good : List Event → β → Prop}
    (hx : c.Meets J x fun K a => good K (f a)) : c.Meets J (f <$> x) good :=
  fun s hs hold => (hx s hs hold).map

/-! ### Stops -/

theorem raise {error : Error} (h : ∀ K, J <:+ K → error.Placed (c.place K)) :
    c.Meets J (raise error : Render σ α) good :=
  fun _ hs _ => .raise (.refl (h _ hs))

/-- A failure that the library finds. -/
theorem raise_own {error : Error} (h : error.IsOwn) :
    c.Meets J (Render.raise error : Render σ α) good :=
  raise fun _ _ => h.placed

theorem stalled : c.Meets J (throw .stalled : Render σ α) good := fun _ _ _ => .throw True.intro

theorem exhausted : c.Meets J (throw .exhausted : Render σ α) good := fun _ _ _ => .throw True.intro

theorem ofExcept {result : Except Error α} (hok : ∀ K a, J <:+ K → result = .ok a → good K a)
    (herror : ∀ K error, J <:+ K → result = .error error → error.Placed (c.place K)) :
    c.Meets J (ofExcept result : Render σ α) good := by
  cases result with
  | ok a => exact pure fun K hK => hok K a hK rfl
  | error error => exact raise fun K hK => herror K error hK rfl

theorem ofShared {result : Except Error α} (hok : ∀ K a, J <:+ K → result = .ok a → good K a)
    (herror : ∀ K error, J <:+ K → result = .error error → error.Placed (c.place K)) :
    c.Meets J (ofShared result : Render σ α) good := by
  cases result with
  | ok a => exact pure fun K hK => hok K a hK rfl
  | error error => exact raise fun K hK => Error.placed_shared.2 (herror K error hK rfl)

/-- Errors may be changed if their places stay known. -/
theorem mapError {f : Error → Error} (hx : c.Meets J x good)
    (hf : ∀ K error, J <:+ K → error.Placed (c.place K) → (f error).Placed (c.place K)) :
    c.Meets J (mapError f x) good := by
  intro s hs hold
  refine .mapError ((hx s hs hold).mono (fun _ _ => id) fun stop t hstop => ?_)
  cases stop with
  | raised error =>
    have hfails : c.Fails s error t := hstop
    exact hfails.other (hf _ error (hs.trans hfails.journal) hfails.placed)
  | stalled | exhausted => exact True.intro

/-- The result of a computation is kept for others, and its error goes on. -/
theorem remember {save : Except Error α → Store σ → Store σ} (hx : c.Meets J x good)
    (hsave : ∀ a (s : Store σ), s.Told c → (save (.ok a) s).Told c)
    (hstill : ∀ result (s : Store σ), s.Still (save result s)) :
    c.Meets J (do
      let result ← Render.attempt x
      modify (save result)
      TemplateEngine.ofShared result) good := by
  intro s hs hold
  have hattempt : Ensures (Render.attempt x) s
      (fun result t => OnResult (fun a => good t.journal a ∧ t.Told c ∧ s.Balanced t)
        (c.Fails s · t) result)
      fun stop t => OnStop (c.Fails s · t) (fun _ => True) stop := by
    refine .attempt ((hx s hs hold).mono (fun _ _ h => h) fun stop t ht => ?_)
    cases stop <;> exact ht
  refine hattempt.bind fun result t ht => .bind_ok (exec_modify _ t) ?_
  have htu := hstill result t
  cases result with
  | error error =>
    have hfails : c.Fails s error (save (.error error) t) := Fails.still ht htu
    exact .raise (hfails.other (Error.placed_shared.2 hfails.placed))
  | ok a =>
    obtain ⟨ha, ht, hst⟩ := ht
    refine .pure ⟨?_, hsave a t ht, hst.trans (.still htu)⟩
    rw [htu.journal]
    exact ha

/-! ### Operations of the store -/

/-- What an operation gives, and the store that it leaves. -/
theorem of_exec (h : ∀ s : Store σ, J <:+ s.journal → s.Told c →
    ∃ a t, exec x s = (.ok a, t) ∧ good t.journal a ∧ t.Told c ∧ s.Balanced t) :
    c.Meets J x good := by
  intro s hs hold
  obtain ⟨a, t, hx, hgood⟩ := h s hs hold
  exact .of_ok hx hgood

/-- An operation on what requests and journal do not show. -/
theorem of_still (h : ∀ s : Store σ, J <:+ s.journal → s.Told c →
    ∃ a t, exec x s = (.ok a, t) ∧ good s.journal a ∧ t.Told c ∧ s.Still t) :
    c.Meets J x good := by
  refine of_exec fun s hs hold => ?_
  obtain ⟨a, t, hx, ha, ht, hst⟩ := h s hs hold
  exact ⟨a, t, hx, hst.journal ▸ ha, ht, .still hst⟩

theorem withGraph (f : Graph → α)
    (h : ∀ K graph, J <:+ K → Graph.SettledAt (c.place K) graph → good K (f graph)) :
    c.Meets J (withGraph f : Render σ α) good :=
  of_still fun s hs hold =>
    ⟨_, s, exec_withGraph f s, h s.journal s.graph hs hold.graph, hold, rfl, rfl⟩

theorem changeGraph (f : Graph → α × Graph) (h : ∀ K graph, J <:+ K →
    Graph.SettledAt (c.place K) graph → Graph.SettledAt (c.place K) (f graph).2) :
    c.Meets J (changeGraph f : Render σ α) fun _ _ => True :=
  of_still fun s hs hold => ⟨_, _, exec_changeGraph f s, True.intro,
    hold.setGraph (h s.journal s.graph hs hold.graph), rfl, rfl⟩

/-- The fragments of a scope of a request that is meant. -/
theorem fragments {id : RequestId} (hid : c.ours id) (scope : ScopeId) :
    c.Meets J (Render.withSections id fun sections => sections.fragments scope : Render σ _)
      fun K fragments => ∀ fragment ∈ fragments, fragment.Told c K :=
  of_still fun s _ hold =>
    ⟨_, s, exec_withSections id _ s, hold.scopes id hid scope, hold, rfl, rfl⟩

theorem newSlot {state : SlotState} (h : state.Told c J) :
    c.Meets J (newSlot state : Render σ SlotId) fun _ _ => True :=
  of_still fun s hs hold => ⟨_, _, exec_newSlot state s, True.intro, hold.pushSlot (h.later hs),
    rfl, rfl⟩

theorem slot? (id : SlotId) :
    c.Meets J (slot? id : Render σ _) fun K slot => ∀ s, slot = some s → s.state.Told c K :=
  of_still fun s _ hold => ⟨_, s, exec_slot? id s,
    fun _ hfind => hold.slots _ (Array.mem_of_getElem? hfind), hold, rfl, rfl⟩

theorem changeSlot (id : SlotId) {f : Slot → Slot}
    (hf : ∀ K (slot : Slot), slot.state.Told c K → (f slot).state.Told c K) :
    c.Meets J (changeSlot id f : Render σ Unit) fun _ _ => True :=
  of_still fun s _ hold => ⟨_, _, exec_changeSlot id f s, True.intro,
    hold.modifySlot id (hf s.journal), rfl, rfl⟩

theorem consume (id : SlotId) : c.Meets J (consume id : Render σ Bool) fun _ _ => True :=
  of_still fun s _ hold =>
    ⟨_, _, exec_consume id s, True.intro, hold.modifySlot id fun _ h => h, rfl, rfl⟩

theorem programOf (source : String) :
    c.Meets J (programOf source : Render σ Program) fun _ _ => True := by
  intro s hs hold
  obtain ⟨programs, ⟨program, hx⟩ | ⟨fault, hx⟩⟩ := exec_programOf source s
  · have ht : ({ s with programs := programs } : Store σ).Told c :=
      hold.congr (List.suffix_refl _) rfl (fun _ => rfl) rfl hold.graph hold.templates
    exact .of_ok hx ⟨True.intro, ht, .still ⟨rfl, rfl⟩⟩
  · have hown : (Error.expression (.parse fault)).IsOwn := True.intro
    exact .of_error hx (.of_balanced (.still ⟨rfl, rfl⟩) hown.placed)

/-- A file that was just read, unless it is malformed; a template that is kept is the same. -/
theorem loadTemplate {path source : String} (hread : c.read path = .ok source)
    (hreading : ReadSince c.base J path) :
    c.Meets J (loadTemplate path source : Render σ CompiledTemplate) fun K template =>
      c.Knows K template ∧ template.path = path := by
  intro s hs hold
  have hexec := exec_loadTemplate path source s
  obtain ⟨hload, hafter⟩ := TemplateCache.load_of_honest hold.templates hread
  rcases h : (s.templates.load path source).1 with error | numbered
  · rw [h] at hexec
    exact .of_error hexec (.of_balanced (.still ⟨rfl, rfl⟩) (isOwn_load h).placed)
  · rw [h] at hexec hload
    have hcompile : CompiledTemplate.compile path source = .ok numbered.2 := hload.symm
    have hpath := (CompiledTemplate.parts_of_compile hcompile).1
    have ht : ({ s with templates := (s.templates.load path source).2 } : Store σ).Told c :=
      hold.congr (List.suffix_refl _) rfl (fun _ => rfl) rfl hold.graph hafter
    refine .of_ok hexec ⟨⟨⟨⟨source, ?_, ?_⟩, ?_⟩, hpath⟩, ht, .still ⟨rfl, rfl⟩⟩
    · rw [hpath]
      exact hread
    · rw [hpath]
      exact hcompile
    · rw [hpath]
      exact hreading.later hs

end Meets

end Chronicle

end TemplateEngine
