import TemplateEngine.Proofs.Render.Sound

/-!
# `Render` · Contracts

What every computation of a run may rely on and must see to.

* **`Contract`**: the stores on which a computation may start (`Ready`, and sound), the change that
  it makes if it has a value, and what may be seen if it stops. Changes add up (`trans`, `after`),
  and what lies outside of the requests and of the journal does not count (`still`, `settled`).
* **`Contract.Meets`**: a computation meets a contract. There is one rule for each way to put
  computations together, and one for each operation of the store that every contract allows.
* **`Meets.remember`** is the rule for results that are shared: the result is kept, and an error
  goes on.
-/

namespace TemplateEngine

open Render

variable {σ α β : Type}

/-- The requests and the journal are the same. -/
structure Store.Still (s t : Store σ) : Prop where
  /-- The requests. -/
  requests : t.requests = s.requests
  /-- The journal. -/
  journal : t.journal = s.journal

/-- The error of a stop is an expected one. -/
def Stop.Within (bounds : Bounds) : Stop → Prop
  | .raised error => bounds.expected error
  | .stalled => True
  | .exhausted => True

/-- What computations may rely on, and what they must see to. -/
structure Contract (σ : Type) where
  /-- The requests and errors of the run. -/
  bounds : Bounds
  /-- A computation may start. -/
  Ready : Store σ → Prop
  /-- A computation that has a value may lead from one store to the other. -/
  Changes : Store σ → Store σ → Prop
  /-- A computation may stop like this. -/
  Stops : Store σ → Stop → Store σ → Prop
  /-- Nothing may happen. -/
  refl : ∀ s, Changes s s
  /-- One change may follow another. -/
  trans : ∀ {s t u}, Changes s t → Changes t u → Changes s u
  /-- A stop may follow a change. -/
  after : ∀ {s t u stop}, Changes s t → Stops t stop u → Stops s stop u
  /-- What requests and journal do not show does not count. -/
  still : ∀ {s t}, Ready s → s.Still t → Ready t ∧ Changes s t
  /-- It does not count after a stop either. -/
  settled : ∀ {s t u stop}, Stops s stop t → t.Still u → Stops s stop u
  /-- Expected errors may be raised. -/
  raises : ∀ {s error}, Ready s → bounds.expected error → Stops s (.raised error) s
  /-- Native functions may fail. -/
  fails : ∀ {s error}, Ready s → bounds.expected error →
    Stops s (.raised error) (s.noted (.failed error))
  /-- Layers may be put around an error. -/
  wrapped : ∀ {s t a b}, Stops s (.raised a) t → Error.Similar a b → Stops s (.raised b) t
  /-- A computation may wait for itself. -/
  stalls : ∀ {s}, Ready s → Stops s .stalled s
  /-- A computation may nest too deep. -/
  exhausts : ∀ {s}, Ready s → Stops s .exhausted s

namespace Contract

variable {c : Contract σ} {good good' : α → Prop}

/-- A computation may start on a store. -/
structure Holds (c : Contract σ) (store : Store σ) : Prop where
  /-- What is laid by is within bounds. -/
  sound : store.Sound c.bounds
  /-- The contract allows it. -/
  ready : c.Ready store

/-- A computation meets a contract, and its value is `good`. -/
def Meets (c : Contract σ) (x : Render σ α) (good : α → Prop) : Prop :=
  ∀ s, c.Holds s → Ensures x s (fun a t => good a ∧ c.Holds t ∧ c.Changes s t)
    fun stop t => t.Sound c.bounds ∧ stop.Within c.bounds ∧ c.Stops s stop t

theorem Holds.still {s t : Store σ} (h : c.Holds s) (hsound : t.Sound c.bounds)
    (hst : s.Still t) : c.Holds t ∧ c.Changes s t :=
  ⟨⟨hsound, (c.still h.ready hst).1⟩, (c.still h.ready hst).2⟩

namespace Meets

/-! ## Sequences -/

theorem mono {x : Render σ α} (h : c.Meets x good) (hgood : ∀ a, good a → good' a) :
    c.Meets x good' :=
  fun s hs => (h s hs).mono (fun a _ ⟨ha, ht⟩ => ⟨hgood a ha, ht⟩) fun _ _ => id

theorem pure {a : α} (h : good a) : c.Meets (Pure.pure a) good :=
  fun s hs => .pure ⟨h, hs, c.refl s⟩

/-- A computation that starts after a change. -/
theorem afterwards {x : Render σ α} (h : c.Meets x good) {s t : Store σ} (ht : c.Holds t)
    (hst : c.Changes s t) :
    Ensures x t (fun a u => good a ∧ c.Holds u ∧ c.Changes s u)
      fun stop u => u.Sound c.bounds ∧ stop.Within c.bounds ∧ c.Stops s stop u := by
  refine (h t ht).mono ?_ ?_
  · rintro a u ⟨ha, hu, htu⟩
    exact ⟨ha, hu, c.trans hst htu⟩
  · rintro stop u ⟨hu, hstop, htu⟩
    exact ⟨hu, hstop, c.after hst htu⟩

theorem bind {x : Render σ α} {f : α → Render σ β} {good : α → Prop} {good' : β → Prop}
    (hx : c.Meets x good) (hf : ∀ a, good a → c.Meets (f a) good') : c.Meets (x >>= f) good' :=
  fun s hs => (hx s hs).bind fun a _ ⟨ha, ht, hst⟩ => (hf a ha).afterwards ht hst

theorem map {x : Render σ α} {f : α → β} {good : β → Prop} (hx : c.Meets x fun a => good (f a)) :
    c.Meets (f <$> x) good :=
  hx.bind fun _ ha => pure ha

/-! ## Stops -/

theorem raise {error : Error} (h : c.bounds.expected error) :
    c.Meets (raise error : Render σ α) good :=
  fun _ hs => .raise ⟨hs.sound, h, c.raises hs.ready h⟩

theorem stalled : c.Meets (throw .stalled : Render σ α) good :=
  fun _ hs => .throw ⟨hs.sound, True.intro, c.stalls hs.ready⟩

theorem exhausted : c.Meets (throw .exhausted : Render σ α) good :=
  fun _ hs => .throw ⟨hs.sound, True.intro, c.exhausts hs.ready⟩

theorem ofExcept {result : Except Error α} (hok : ∀ a, result = .ok a → good a)
    (herror : ∀ error, result = .error error → c.bounds.expected error) :
    c.Meets (ofExcept result) good := by
  cases result with
  | ok a => exact pure (hok a rfl)
  | error error => exact raise (herror error rfl)

theorem ofShared {result : Except Error α} (hok : ∀ a, result = .ok a → good a)
    (herror : ∀ error, result = .error error → c.bounds.expected error) :
    c.Meets (ofShared result) good := by
  cases result with
  | ok a => exact pure (hok a rfl)
  | error error => exact raise (c.bounds.similar (herror error rfl) (Error.similar_shared error))

/-- Layers that make no difference may be put around the errors. -/
theorem mapError {x : Render σ α} {f : Error → Error} (hx : c.Meets x good)
    (hf : ∀ error, Error.Similar error (f error)) : c.Meets (mapError f x) good := by
  intro s hs
  refine .mapError ((hx s hs).mono (fun _ _ => id) ?_)
  rintro stop t ⟨ht, hstop, hst⟩
  cases stop with
  | raised error => exact ⟨ht, c.bounds.similar hstop (hf error), c.wrapped hst (hf error)⟩
  | stalled | exhausted => exact ⟨ht, hstop, hst⟩

/-- An attempt after a change. -/
theorem attempt {x : Render σ α} (h : c.Meets x good) {s t : Store σ} (ht : c.Holds t)
    (hst : c.Changes s t) :
    Ensures (attempt x) t
      (fun result u => OnResult (fun a => good a ∧ c.Holds u ∧ c.Changes s u)
        (fun error => u.Sound c.bounds ∧ c.bounds.expected error ∧ c.Stops s (.raised error) u)
        result)
      fun stop u => u.Sound c.bounds ∧ stop.Within c.bounds ∧ c.Stops s stop u := by
  refine .attempt ((h.afterwards ht hst).mono (fun _ _ h => h) fun stop t ht => ?_)
  cases stop <;> exact ht

/-- The result of a computation is kept for others, and its error goes on. -/
theorem remember {x : Render σ α} {save : Except Error α → Store σ → Store σ}
    (hx : c.Meets x good)
    (hsound : ∀ result s, s.Sound c.bounds →
      (∀ error, result = .error error → c.bounds.expected error) → (save result s).Sound c.bounds)
    (hstill : ∀ result (s : Store σ), s.Still (save result s)) :
    c.Meets (do
      let result ← Render.attempt x
      modify (save result)
      TemplateEngine.ofShared result) good := by
  intro s hs
  refine (hx.attempt hs (c.refl s)).bind fun result t ht => .bind_ok (exec_modify _ t) ?_
  rcases result with error | a
  · obtain ⟨ht, herror, hst⟩ := ht
    refine .raise ⟨hsound _ t ht (by rintro _ ⟨⟩; exact herror),
      c.bounds.similar herror (Error.similar_shared error), ?_⟩
    exact c.wrapped (c.settled hst (hstill _ t)) (Error.similar_shared error)
  · obtain ⟨ha, ht, hst⟩ := ht
    obtain ⟨hu, htu⟩ := ht.still (hsound (.ok a) t ht.sound nofun) (hstill _ t)
    exact .pure ⟨ha, hu, c.trans hst htu⟩

/-! ## Operations of the store -/

/-- What an operation gives, and the store that it leaves. -/
theorem of_exec {x : Render σ α} (h : ∀ s, c.Holds s → ∃ a t, exec x s = (.ok a, t) ∧
    good a ∧ c.Holds t ∧ c.Changes s t) : c.Meets x good := by
  intro s hs
  obtain ⟨a, t, hx, hgood⟩ := h s hs
  exact .of_ok hx hgood

/-- An operation on what requests and journal do not show. -/
theorem of_still {x : Render σ α} (h : ∀ s : Store σ, s.Sound c.bounds →
    ∃ a t, exec x s = (.ok a, t) ∧ good a ∧ t.Sound c.bounds ∧ s.Still t) : c.Meets x good := by
  refine of_exec fun s hs => ?_
  obtain ⟨a, t, hx, ha, ht, hst⟩ := h s hs.sound
  exact ⟨a, t, hx, ha, hs.still ht hst⟩

theorem withGraph (f : Graph → α)
    (h : ∀ graph : Graph, graph.Sound c.bounds → good (f graph)) : c.Meets (withGraph f) good :=
  of_still fun s hs => ⟨_, s, exec_withGraph f s, h s.graph hs.graph, hs, rfl, rfl⟩

theorem changeGraph (f : Graph → α × Graph) (h : ∀ graph : Graph, graph.Sound c.bounds →
    good (f graph).1 ∧ (f graph).2.Sound c.bounds) : c.Meets (changeGraph f) good :=
  of_still fun s hs => ⟨_, _, exec_changeGraph f s, (h s.graph hs.graph).1,
    hs.congr rfl rfl (h s.graph hs.graph).2, rfl, rfl⟩

theorem withSections (id : RequestId) (f : Sections Deferred → α) :
    c.Meets (withSections id f) fun _ => True :=
  of_still fun s hs => ⟨_, s, exec_withSections id f s, True.intro, hs, rfl, rfl⟩

/-- The fragments of a scope of a request that is meant. -/
theorem fragments {id : RequestId} (hid : c.bounds.ours id) (scope : ScopeId) :
    c.Meets (Render.withSections id fun sections => sections.fragments scope : Render σ _)
      fun fragments => ∀ fragment ∈ fragments, fragment.Within c.bounds :=
  of_still fun s hs =>
    ⟨_, s, exec_withSections id _ s, hs.scopes id hid scope, hs, rfl, rfl⟩

theorem newSlot {state : SlotState} (h : state.Sound c.bounds) :
    c.Meets (newSlot state) fun _ => True :=
  of_still fun s hs => ⟨_, _, exec_newSlot state s, True.intro, hs.pushSlot h, rfl, rfl⟩

theorem slot? (id : SlotId) :
    c.Meets (slot? id) fun slot => ∀ s, slot = some s → s.state.Sound c.bounds :=
  of_still fun s hs => ⟨_, s, exec_slot? id s, fun _ => hs.slot?, hs, rfl, rfl⟩

theorem changeSlot (id : SlotId) {f : Slot → Slot}
    (hf : ∀ slot, slot.state.Sound c.bounds → (f slot).state.Sound c.bounds) :
    c.Meets (changeSlot id f) fun _ => True :=
  of_still fun s hs => ⟨_, _, exec_changeSlot id f s, True.intro, hs.modifySlot id hf, rfl, rfl⟩

theorem consume (id : SlotId) : c.Meets (consume id) fun _ => True :=
  of_still fun s hs =>
    ⟨_, _, exec_consume id s, True.intro, hs.modifySlot id fun _ h => h, rfl, rfl⟩

theorem programOf (source : String) : c.Meets (programOf source) fun _ => True := by
  intro s hs
  obtain ⟨programs, ⟨program, hx⟩ | ⟨fault, hx⟩⟩ := exec_programOf source s
  · exact .of_ok hx ⟨True.intro, hs.still (hs.sound.congr rfl rfl hs.sound.graph) ⟨rfl, rfl⟩⟩
  · have hown : (Error.expression (.parse fault)).IsOwn := True.intro
    exact .of_error hx ⟨hs.sound.congr rfl rfl hs.sound.graph, c.bounds.own hown,
      c.settled (c.raises hs.ready (c.bounds.own hown)) ⟨rfl, rfl⟩⟩

theorem loadTemplate (path source : String) :
    c.Meets (loadTemplate path source) fun _ => True := by
  intro s hs
  have hexec := exec_loadTemplate path source s
  rcases h : (s.templates.load path source).1 with error | numbered
  · rw [h] at hexec
    exact .of_error hexec ⟨hs.sound.congr rfl rfl hs.sound.graph, c.bounds.own (isOwn_load h),
      c.settled (c.raises hs.ready (c.bounds.own (isOwn_load h))) ⟨rfl, rfl⟩⟩
  · rw [h] at hexec
    exact .of_ok hexec ⟨True.intro, hs.still (hs.sound.congr rfl rfl hs.sound.graph) ⟨rfl, rfl⟩⟩

/-- A native function of a host that keeps within bounds. -/
theorem native {host : Host σ} (hhost : host.Keeps c.bounds) (id : NativeId) (args : List Value) :
    c.Meets (ofNative (host.call id args)) fun _ => True := by
  intro s hs
  have hexec := exec_ofNative (host.call id args) s
  have hgraph := hhost.leaves id args (s.graph, s.host) hs.sound.graph
  have hfails := hhost.fails id args (s.graph, s.host)
  rcases h : (host.call id args).run.run (s.graph, s.host) with ⟨error | value, graph, state⟩
  all_goals
    rw [h] at hexec hgraph hfails
    have ht : ({ s with graph := graph, host := state } : Store σ).Sound c.bounds :=
      hs.sound.congr rfl rfl hgraph
  · exact .of_error hexec ⟨ht.noted _, hfails error rfl,
      c.after (hs.still ht ⟨rfl, rfl⟩).2
        (c.fails (hs.still ht ⟨rfl, rfl⟩).1.ready (hfails error rfl))⟩
  · exact .of_ok hexec ⟨True.intro, hs.still ht ⟨rfl, rfl⟩⟩

end Meets

end Contract

end TemplateEngine
