import TemplateEngine.Proofs.Error
import TemplateEngine.Proofs.Render.Operations
import TemplateEngine.Proofs.Template.Compiled

/-!
# `Render` · Stores that are alike

Two computations on two stores that an expression cannot tell apart.

* **`Store.Alike`**: the stores agree but for their sections, what they keep of templates and their
  journals. No slot waits to be rendered, and the templates that the first one keeps are honest.
* **`Mirrors x y`**: from stores that are alike, `x` and `y` come to the same end and to stores that
  are alike, and `x` leaves the sections as they are.
* **`Follows x y s t good`**: `x` on `s` and `y` on `t` both end with values that are `good`, or
  they both stop in the same way: of two errors, only the layers may differ.
-/

namespace TemplateEngine

open Render

variable {σ α β γ δ : Type} {read : String → Except Error String}

/-- Two stores agree on what expressions can see. -/
structure Store.Alike (read : String → Except Error String) (s t : Store σ) : Prop where
  /-- They have the same values. -/
  graph : s.graph = t.graph
  /-- They keep the same programs. -/
  programs : s.programs = t.programs
  /-- The host is in the same state. -/
  host : s.host = t.host
  /-- They have as many requests. -/
  requests : s.requests.size = t.requests.size
  /-- The same redirects were asked for. -/
  redirect : ∀ id, s.redirect id = t.redirect id
  /-- The slots are as far. -/
  slots : s.slots.map Slot.state = t.slots.map Slot.state
  /-- No slot waits to be rendered. -/
  idle : ∀ slot ∈ s.slots, ∀ fragments, slot.state ≠ .pending fragments
  /-- The templates that are kept are what their sources compile to. -/
  honest : s.templates.Honest read

namespace Store.Alike

variable {s t : Store σ}

/-- A store is like itself. -/
theorem refl (hidle : ∀ slot ∈ s.slots, ∀ fragments, slot.state ≠ .pending fragments)
    (hhonest : s.templates.Honest read) : s.Alike read s :=
  ⟨rfl, rfl, rfl, rfl, fun _ => rfl, rfl, hidle, hhonest⟩

/-- Sections make no difference. -/
theorem setSections (h : s.Alike read t) (id : RequestId) (sections : Sections Deferred) :
    (s.setSections id sections).Alike read t where
  graph := h.graph
  programs := h.programs
  host := h.host
  requests := (Store.requests_size_setSections s id sections).trans h.requests
  redirect other := (Store.redirect_setSections s id other sections).trans (h.redirect other)
  slots := h.slots
  idle := h.idle
  honest := h.honest

/-- Nor does the journal. -/
theorem noted (h : s.Alike read t) (event : Event) : (s.noted event).Alike read t :=
  ⟨h.graph, h.programs, h.host, h.requests, h.redirect, h.slots, h.idle, h.honest⟩

theorem noted_right (h : s.Alike read t) (event : Event) : s.Alike read (t.noted event) :=
  ⟨h.graph, h.programs, h.host, h.requests, h.redirect, h.slots, h.idle, h.honest⟩

/-- The same change of the values. -/
theorem withGraph (h : s.Alike read t) (graph : Graph) :
    ({ s with graph := graph } : Store σ).Alike read { t with graph := graph } :=
  ⟨rfl, h.programs, h.host, h.requests, h.redirect, h.slots, h.idle, h.honest⟩

theorem withPrograms (h : s.Alike read t) (programs : Recent Program) :
    ({ s with programs := programs } : Store σ).Alike read { t with programs := programs } :=
  ⟨h.graph, rfl, h.host, h.requests, h.redirect, h.slots, h.idle, h.honest⟩

theorem withHost (h : s.Alike read t) (graph : Graph) (host : σ) :
    ({ s with graph := graph, host := host } : Store σ).Alike read
      { t with graph := graph, host := host } :=
  ⟨rfl, h.programs, rfl, h.requests, h.redirect, h.slots, h.idle, h.honest⟩

/-- What is kept of templates makes no difference as long as it is honest. -/
theorem withTemplates (h : s.Alike read t) {templates : TemplateCache}
    (hhonest : templates.Honest read) (journal : List Event) :
    ({ s with templates := templates, journal := journal } : Store σ).Alike read t :=
  ⟨h.graph, h.programs, h.host, h.requests, h.redirect, h.slots, h.idle, hhonest⟩

/-- Whether slots were printed makes no difference. -/
theorem withSlots (h : s.Alike read t) {slots : Array Slot}
    (hslots : slots.map Slot.state = s.slots.map Slot.state) :
    ({ s with slots := slots } : Store σ).Alike read t where
  graph := h.graph
  programs := h.programs
  host := h.host
  requests := h.requests
  redirect := h.redirect
  slots := hslots.trans h.slots
  idle slot hslot fragments hpending := by
    have hmem : slot.state ∈ s.slots.map Slot.state := hslots ▸ Array.mem_map_of_mem hslot
    obtain ⟨other, hother, hstate⟩ := Array.mem_map.1 hmem
    exact h.idle other hother fragments (hstate.trans hpending)
  honest := h.honest

theorem asking (h : s.Alike read t) (id : RequestId) (target : String) :
    (s.asking id target).Alike read (t.asking id target) where
  graph := h.graph
  programs := h.programs
  host := h.host
  requests := by
    rw [Store.requests_size_asking, Store.requests_size_asking]
    exact h.requests
  redirect other := by
    rw [Store.redirect_asking, Store.redirect_asking, h.requests, h.redirect, h.redirect]
  slots := h.slots
  idle := h.idle
  honest := h.honest

/-- A slot has been rendered, or is being rendered, in both stores. -/
theorem slot? (h : s.Alike read t) (id : SlotId) :
    s.slots[id.index]?.map Slot.state = t.slots[id.index]?.map Slot.state := by
  rw [← Array.getElem?_map, ← Array.getElem?_map, h.slots]

end Store.Alike

/-- The sections of all requests are left as they are. -/
structure Store.Rests (s s' : Store σ) : Prop where
  /-- There are as many requests. -/
  requests : s'.requests.size = s.requests.size
  /-- They have the same sections. -/
  sections : ∀ id, s'.sections id = s.sections id

theorem Store.Rests.refl (s : Store σ) : s.Rests s := ⟨rfl, fun _ => rfl⟩

theorem Store.Rests.trans {s s' s'' : Store σ} (h : s.Rests s') (h' : s'.Rests s'') :
    s.Rests s'' :=
  ⟨h'.requests.trans h.requests, fun id => (h'.sections id).trans (h.sections id)⟩

/-- Only a change of the requests can change sections. -/
theorem Store.Rests.of_requests {s s' : Store σ} (h : s'.requests = s.requests) : s.Rests s' := by
  refine ⟨by rw [h], fun id => ?_⟩
  unfold Store.sections
  rw [h]

/-! ## Computations that do the same -/

namespace Render

/-- On stores that are alike, two computations do the same, and nothing to the sections. -/
def Mirrors (read : String → Except Error String) (x y : Render σ α) : Prop :=
  ∀ s t, s.Alike read t → ∃ result s' t', exec x s = (result, s') ∧ exec y t = (result, t') ∧
    s'.Alike read t' ∧ s.Rests s'

namespace Mirrors

variable {x y : Render σ α} {f g : α → Render σ β}

theorem pure (a : α) : Mirrors read (pure a : Render σ α) (pure a) := fun s t h =>
  ⟨_, s, t, rfl, rfl, h, .refl s⟩

theorem throw (stop : Stop) : Mirrors read (throw stop : Render σ α) (throw stop) := fun s t h =>
  ⟨_, s, t, rfl, rfl, h, .refl s⟩

theorem raise (error : Error) : Mirrors read (raise error : Render σ α) (raise error) :=
  .throw (.raised error)

theorem bind (hx : Mirrors read x y) (hf : ∀ a, Mirrors read (f a) (g a)) :
    Mirrors read (x >>= f) (y >>= g) := by
  intro s t h
  obtain ⟨result, s', t', hs, ht, h', hrests⟩ := hx s t h
  cases result with
  | error stop => exact ⟨_, s', t', exec_bind_error hs f, exec_bind_error ht g, h', hrests⟩
  | ok a =>
    obtain ⟨result, s'', t'', hs', ht', h'', hrests'⟩ := hf a s' t' h'
    exact ⟨result, s'', t'', (exec_bind_ok hs f).trans hs', (exec_bind_ok ht g).trans ht', h'',
      hrests.trans hrests'⟩

theorem map (hx : Mirrors read x y) (f : α → β) : Mirrors read (f <$> x) (f <$> y) :=
  hx.bind fun a => .pure (f a)

theorem attempt (hx : Mirrors read x y) : Mirrors read (attempt x) (attempt y) := by
  intro s t h
  obtain ⟨result, s', t', hs, ht, h', hrests⟩ := hx s t h
  have hs' := exec_attempt x s
  have ht' := exec_attempt y t
  rw [hs] at hs'
  rw [ht] at ht'
  cases result with
  | ok a => exact ⟨_, s', t', hs', ht', h', hrests⟩
  | error stop => cases stop <;> exact ⟨_, s', t', hs', ht', h', hrests⟩

theorem ofExcept (result : Except Error α) :
    Mirrors read (ofExcept result : Render σ α) (ofExcept result) := by
  cases result with
  | ok a => exact .pure a
  | error error => exact .raise error

/-! ### Operations -/

theorem note (event : Event) : Mirrors (σ := σ) read (note event) (note event) := fun s t h =>
  ⟨_, _, _, exec_note event s, exec_note event t, (h.noted event).noted_right event,
    .of_requests rfl⟩

theorem withGraph (f : Graph → α) : Mirrors (σ := σ) read (withGraph f) (withGraph f) :=
  fun s t h => ⟨.ok (f s.graph), s, t, rfl, by rw [exec_withGraph, h.graph], h, .refl s⟩

theorem changeGraph (f : Graph → α × Graph) :
    Mirrors (σ := σ) read (changeGraph f) (changeGraph f) := fun s t h =>
  ⟨.ok (f s.graph).1, _, _, exec_changeGraph f s, by rw [exec_changeGraph, ← h.graph],
    h.withGraph _, .of_requests rfl⟩

theorem askRedirect (id : RequestId) (target : String) :
    Mirrors (σ := σ) read (askRedirect id target) (askRedirect id target) := fun s t h =>
  ⟨_, _, _, exec_askRedirect id target s, exec_askRedirect id target t,
    ((h.noted _).noted_right _).asking id target, Store.requests_size_asking _ id target,
    fun other => Store.sections_asking _ id other target⟩

theorem checkRedirect (id : RequestId) :
    Mirrors (σ := σ) read (checkRedirect id) (checkRedirect id) := by
  intro s t h
  have hs := exec_checkRedirect id s
  have ht := exec_checkRedirect id t
  rw [← h.redirect] at ht
  rcases hredirect : s.redirect id with _ | target
  · rw [hredirect] at hs ht
    exact ⟨_, s, t, hs, ht, h, .refl s⟩
  · rw [hredirect] at hs ht
    exact ⟨_, s, t, hs, ht, h, .refl s⟩

theorem ofNative (native : Native σ α) : Mirrors read (ofNative native) (ofNative native) := by
  intro s t h
  have hs := exec_ofNative native s
  have ht := exec_ofNative native t
  rw [← h.graph, ← h.host] at ht
  rcases hrun : native.run.run (s.graph, s.host) with ⟨error | value, graph, host⟩
  · rw [hrun] at hs ht
    exact ⟨_, _, _, hs, ht, ((h.withHost graph host).noted _).noted_right _, .of_requests rfl⟩
  · rw [hrun] at hs ht
    exact ⟨_, _, _, hs, ht, h.withHost graph host, .of_requests rfl⟩

theorem programOf (source : String) :
    Mirrors (σ := σ) read (programOf source) (programOf source) := by
  unfold Render.programOf
  refine bind (x := modifyGet _) (fun s t h => ?_) fun found => ?_
  · exact ⟨.ok (s.programs.get? source).1, _, _, exec_modifyGet _ s,
      by rw [exec_modifyGet, ← h.programs], h.withPrograms _, .of_requests rfl⟩
  · cases found with
    | some program => exact .pure program
    | none =>
      dsimp only
      rcases Program.parse source with fault | program
      · exact .raise _
      · refine bind (x := modify _) (fun s t h => ?_) fun _ => .pure program
        refine ⟨_, _, _, exec_modify _ s, exec_modify _ t, ?_, .of_requests rfl⟩
        rw [← h.programs]
        exact h.withPrograms _

end Mirrors

end Render

/-! ## Computations that end alike -/

/-- Two stops for the same reason. -/
def Stop.Similar : Stop → Stop → Prop
  | .raised a, .raised b => a.Similar b
  | .stalled, .stalled => True
  | .exhausted, .exhausted => True
  | _, _ => False

theorem Stop.Similar.refl (stop : Stop) : stop.Similar stop := by
  cases stop with
  | raised error => exact Error.Similar.refl error
  | stalled | exhausted => trivial

/-- A layer around the first error makes no difference. -/
theorem Stop.Similar.layer {stop : Stop} {error : Error} (h : (Stop.raised error).Similar stop)
    {layered : Error} (hlayer : error.Similar layered) : (Stop.raised layered).Similar stop := by
  cases stop with
  | raised other => exact Error.Similar.trans hlayer.symm h
  | stalled | exhausted => exact h.elim

namespace Render

/-- Two computations end alike: both with values, which are good, or both with similar stops. -/
inductive Follows (read : String → Except Error String) (x : Render σ α) (y : Render σ β)
    (s t : Store σ) (good : α → β → Store σ → Prop) : Prop where
  /-- Both have a value. -/
  | ended {a : α} {b : β} {s' t' : Store σ} (left : exec x s = (.ok a, s'))
    (right : exec y t = (.ok b, t')) (alike : s'.Alike read t') (values : good a b s')
  /-- Both stop. -/
  | stopped {stop stop' : Stop} {s' t' : Store σ} (left : exec x s = (.error stop, s'))
    (right : exec y t = (.error stop', t')) (alike : s'.Alike read t')
    (similar : stop.Similar stop')

namespace Follows

variable {x : Render σ α} {y : Render σ β} {f : α → Render σ γ} {g : β → Render σ δ}
  {s t : Store σ} {good good' : α → β → Store σ → Prop}

theorem pure {a : α} {b : β} (h : s.Alike read t) (hgood : good a b s) :
    Follows read (pure a : Render σ α) (pure b : Render σ β) s t good :=
  .ended rfl rfl h hgood

theorem raise {error error' : Error} (h : s.Alike read t) (hsimilar : error.Similar error') :
    Follows read (raise error : Render σ α) (raise error' : Render σ β) s t good :=
  .stopped rfl rfl h hsimilar

theorem throw (h : s.Alike read t) (stop : Stop) :
    Follows read (throw stop : Render σ α) (throw stop : Render σ β) s t good :=
  .stopped rfl rfl h (.refl stop)

theorem mono (h : Follows read x y s t good) (hgood : ∀ a b s', good a b s' → good' a b s') :
    Follows read x y s t good' := by
  cases h with
  | ended left right alike values => exact .ended left right alike (hgood _ _ _ values)
  | stopped left right alike similar => exact .stopped left right alike similar

/-- What the first computation ensures by itself is good too. -/
theorem and {good' : α → Store σ → Prop} {stopped : Stop → Store σ → Prop}
    (h : Follows read x y s t good) (hx : Ensures x s good' stopped) :
    Follows read x y s t fun a b s' => good a b s' ∧ good' a s' := by
  cases h with
  | ended left right alike values => exact .ended left right alike ⟨values, hx.ok left⟩
  | stopped left right alike similar => exact .stopped left right alike similar

/-- So is what the second computation ensures by itself. -/
theorem and_right {good' : β → Prop} {stopped : Stop → Store σ → Prop}
    (h : Follows read x y s t good) (hy : Ensures y t (fun b _ => good' b) stopped) :
    Follows read x y s t fun a b s' => good a b s' ∧ good' b := by
  cases h with
  | ended left right alike values => exact .ended left right alike ⟨values, hy.ok right⟩
  | stopped left right alike similar => exact .stopped left right alike similar

/-- If the first computation has a value, so has the second one. -/
theorem exec_eq_ok (h : Follows read x y s t good) {a : α} {s' : Store σ}
    (hx : exec x s = (.ok a, s')) :
    ∃ b t', exec y t = (.ok b, t') ∧ s'.Alike read t' ∧ good a b s' := by
  cases h with
  | ended left right alike values =>
    cases left.symm.trans hx
    exact ⟨_, _, right, alike, values⟩
  | stopped left right alike similar => cases left.symm.trans hx

/-- If good values are equal ones, then the values are. -/
theorem toOption_eq {y : Render σ α} {good : α → α → Store σ → Prop}
    (h : Follows read x y s t good) (hgood : ∀ a b s', good a b s' → a = b) :
    (exec x s).1.toOption = (exec y t).1.toOption := by
  cases h with
  | ended left right alike values => rw [left, right, hgood _ _ _ values]
  | stopped left right alike similar =>
    rw [left, right]
    rfl

theorem bind {good' : γ → δ → Store σ → Prop} (h : Follows read x y s t good)
    (hf : ∀ a b s' t', s'.Alike read t' → good a b s' → Follows read (f a) (g b) s' t' good') :
    Follows read (x >>= f) (y >>= g) s t good' := by
  cases h with
  | ended left right alike values =>
    cases hf _ _ _ _ alike values with
    | ended left' right' alike' values' =>
      exact .ended ((exec_bind_ok left f).trans left') ((exec_bind_ok right g).trans right')
        alike' values'
    | stopped left' right' alike' similar' =>
      exact .stopped ((exec_bind_ok left f).trans left') ((exec_bind_ok right g).trans right')
        alike' similar'
  | stopped left right alike similar =>
    exact .stopped (exec_bind_error left f) (exec_bind_error right g) alike similar

/-- A step that only the first computation makes. -/
theorem bind_left {good : γ → β → Store σ → Prop} {a : α} {s' : Store σ}
    (hx : exec x s = (.ok a, s')) (hf : Follows read (f a) y s' t good) :
    Follows read (x >>= f) y s t good := by
  have hexec := exec_bind_ok hx f
  cases hf with
  | ended left right alike values => exact .ended (hexec.trans left) right alike values
  | stopped left right alike similar => exact .stopped (hexec.trans left) right alike similar

/-- A step that only the second computation makes. -/
theorem bind_right {good : α → δ → Store σ → Prop} {b : β} {t' : Store σ}
    (hy : exec y t = (.ok b, t')) (hg : Follows read x (g b) s t' good) :
    Follows read x (y >>= g) s t good := by
  have hexec := exec_bind_ok hy g
  cases hg with
  | ended left right alike values => exact .ended left (hexec.trans right) alike values
  | stopped left right alike similar => exact .stopped left (hexec.trans right) alike similar

theorem map {f : α → γ} {g : β → δ} {good : γ → δ → Store σ → Prop}
    (h : Follows read x y s t fun a b s' => good (f a) (g b) s') :
    Follows read (do return f (← x)) (do return g (← y)) s t good :=
  h.bind fun _ _ _ _ => pure

theorem map_right {g : β → δ} {good : α → δ → Store σ → Prop}
    (h : Follows read x y s t fun a b s' => good a (g b) s') :
    Follows read x (do return g (← y)) s t good := by
  cases h with
  | ended left right alike values => exact .ended left (exec_bind_ok right _) alike values
  | stopped left right alike similar => exact .stopped left (exec_bind_error right _) alike similar

/-- The first computation may put layers around its errors. -/
theorem mapError {f : Error → Error} (h : Follows read x y s t good)
    (hf : ∀ error : Error, error.Similar (f error)) : Follows read (mapError f x) y s t good := by
  have hexec := exec_mapError f x s
  cases h with
  | ended left right alike values =>
    rw [left] at hexec
    exact .ended hexec right alike values
  | @stopped stop stop' s' t' left right alike similar =>
    rw [left] at hexec
    cases stop with
    | raised error => exact .stopped hexec right alike (similar.layer (hf error))
    | stalled => exact .stopped hexec right alike similar
    | exhausted => exact .stopped hexec right alike similar

/-- Two outcomes that are known as values are both good or both similar errors. -/
theorem attempt (h : Follows read x y s t good) :
    Follows read (attempt x) (attempt y) s t fun result result' s' =>
      (∃ a b, result = .ok a ∧ result' = .ok b ∧ good a b s') ∨
        ∃ error error', result = .error error ∧ result' = .error error' ∧ error.Similar error' := by
  have hx := exec_attempt x s
  have hy := exec_attempt y t
  cases h with
  | ended left right alike values =>
    rw [left] at hx
    rw [right] at hy
    exact .ended hx hy alike (.inl ⟨_, _, rfl, rfl, values⟩)
  | @stopped stop stop' s' t' left right alike similar =>
    rw [left] at hx
    rw [right] at hy
    cases stop <;> cases stop'
    case raised.raised error error' =>
      exact .ended hx hy alike (.inr ⟨error, error', rfl, rfl, similar⟩)
    case stalled.stalled => exact .stopped hx hy alike similar
    case exhausted.exhausted => exact .stopped hx hy alike similar
    all_goals exact similar.elim

theorem ofExcept {result : Except Error α} {good : α → α → Store σ → Prop} (h : s.Alike read t)
    (hgood : ∀ a, result = .ok a → good a a s) :
    Follows read (ofExcept result : Render σ α) (ofExcept result) s t good := by
  cases result with
  | ok a => exact pure h (hgood a rfl)
  | error error => exact raise h (.refl error)

/-- Computations that do the same end alike. -/
theorem of_mirrors {x y : Render σ α} (h : Mirrors read x y) (halike : s.Alike read t) :
    Follows read x y s t fun a b s' => a = b ∧ s.Rests s' := by
  obtain ⟨result, s', t', hs, ht, h', hrests⟩ := h s t halike
  cases result with
  | ok a => exact .ended hs ht h' ⟨rfl, hrests⟩
  | error stop => exact .stopped hs ht h' (.refl stop)

end Follows

end Render

end TemplateEngine
