import TemplateEngine.Proofs.Error
import TemplateEngine.Proofs.Render.Operations
import TemplateEngine.Proofs.Section.Corresponding
import TemplateEngine.Proofs.Template.Compiled

/-!
# `Render` · Computations that agree

Two computations that read their templates in different ways, on two stores.

* **`Comparison`**: two ways to read templates, and which root causes count as the same. Errors are
  akin (`Comparison.Akin`) if their root causes are the same and they are the same redirects.
* **`Store.Agrees c s t`**: the stores hold the same, but deferred output may name the places of its
  tokens in different templates, and each store keeps what its own way of reading gives.
* **`Store.SameData s t`**: the values, the host and the redirects are the same. This is what is
  left of an agreement after a failure, since the failure of a slot or a promise is kept in the
  store.
* **`Render.Agrees c V x y`**: on stores that agree, both computations have values that are related
  by `V` and leave stores that agree, or both stop for reasons that are akin and leave the same
  data.
* **`Agrees.attempt_bind`**: whoever catches an error has to fail too (`Render.Fails`).
-/

namespace TemplateEngine

open Render

/-! ## Errors -/

/-- Two ways to read templates, and the root causes that count as the same. -/
structure Comparison where
  /-- What is at a path in the one way. -/
  left : String → Except Error String
  /-- What is there in the other way. -/
  right : String → Except Error String
  /-- Root causes that count as the same. -/
  same : Error → Error → Prop
  /-- Each counts as the same as itself. -/
  same_refl : ∀ error, same error error

namespace Comparison

variable {c : Comparison} {a a' b b' : Error} {α β : Type}

/-- The root causes are the same, and so are the redirects. -/
structure Akin (c : Comparison) (a b : Error) : Prop where
  /-- The innermost errors count as the same. -/
  root : c.same a.rootCause b.rootCause
  /-- They are redirects to the same target, or both are none. -/
  target : a.redirectTarget? = b.redirectTarget?

theorem Akin.refl (error : Error) : c.Akin error error := ⟨c.same_refl _, rfl⟩

/-- Layers make no difference. -/
theorem Akin.layers (h : c.Akin a b) (ha : a.Similar a') (hb : b.Similar b') : c.Akin a' b' where
  root := by
    rw [← ha.root, ← hb.root]
    exact h.root
  target := by rw [← ha.target, ← hb.target, h.target]

theorem Akin.shared (h : c.Akin a b) : c.Akin (.shared a) (.shared b) :=
  h.layers (Error.similar_shared a) (Error.similar_shared b)

theorem Akin.located (h : c.Akin a b) (template template' : CompiledTemplate)
    (token token' : Nat) : c.Akin (locate template token a) (locate template' token' b) :=
  h.layers (Error.similar_locate template token a) (Error.similar_locate template' token' b)

/-- Two stops for reasons that are akin. -/
inductive Stops (c : Comparison) : Stop → Stop → Prop where
  /-- Errors. -/
  | raised {a b : Error} (h : c.Akin a b) : Stops c (.raised a) (.raised b)
  /-- Both wait for themselves. -/
  | stalled : Stops c .stalled .stalled
  /-- Both nest too deep. -/
  | exhausted : Stops c .exhausted .exhausted

theorem Stops.refl (stop : Stop) : c.Stops stop stop := by
  cases stop with
  | raised error => exact .raised (.refl error)
  | stalled => exact .stalled
  | exhausted => exact .exhausted

/-- Two results: related values, or errors that are akin. -/
inductive Results (c : Comparison) (V : α → β → Prop) : Except Error α → Except Error β → Prop where
  /-- Values. -/
  | ok {x : α} {y : β} (h : V x y) : Results c V (.ok x) (.ok y)
  /-- Errors. -/
  | error {a b : Error} (h : c.Akin a b) : Results c V (.error a) (.error b)

theorem Results.refl {V : α → α → Prop} (hV : ∀ x, V x x) (result : Except Error α) :
    c.Results V result result := by
  cases result with
  | ok x => exact .ok (hV x)
  | error error => exact .error (.refl error)

end Comparison

/-! ## Stores -/

/-- The fragments are the same, but for the tokens that asked for what is deferred. -/
inductive Fragment.Akin : Fragment Deferred → Fragment Deferred → Prop where
  /-- A text. -/
  | literal (text : String) (priority : Priority) :
      Akin ⟨.literal text, priority⟩ ⟨.literal text, priority⟩
  /-- Output that is produced later. -/
  | deferred {a b : Deferred} (h : a.task = b.task) (priority : Priority) :
      Akin ⟨.deferred a, priority⟩ ⟨.deferred b, priority⟩

theorem Fragment.Akin.refl (fragment : Fragment Deferred) : Fragment.Akin fragment fragment := by
  obtain ⟨payload, priority⟩ := fragment
  cases payload with
  | literal text => exact .literal text priority
  | deferred deferred => exact .deferred rfl priority

theorem Fragment.Akin.priority {a b : Fragment Deferred} (h : Fragment.Akin a b) :
    a.priority = b.priority := by
  cases h with
  | literal => rfl
  | deferred => rfl

/-- The slots are as far. -/
inductive SlotState.Akin : SlotState → SlotState → Prop where
  /-- Both wait to be rendered. -/
  | pending {fragments fragments' : List (Fragment Deferred)}
      (h : List.Forall₂ Fragment.Akin fragments fragments') :
      Akin (.pending fragments) (.pending fragments')
  /-- Both are being rendered. -/
  | running : Akin .running .running
  /-- Both have ended in the same way. -/
  | settled (result : Except Error String) : Akin (.settled result) (.settled result)

/-- The slots are as far, and printed or not. -/
structure Slot.Akin (a b : Slot) : Prop where
  /-- They are as far. -/
  state : a.state.Akin b.state
  /-- Both have been printed, or neither. -/
  consumed : a.consumed = b.consumed

theorem Slot.Akin.refl (slot : Slot) : slot.Akin slot := by
  refine ⟨?_, rfl⟩
  cases slot.state with
  | pending fragments =>
    exact .pending (List.forall₂_same.2 fun fragment _ => Fragment.Akin.refl fragment)
  | running => exact .running
  | settled result => exact .settled result

variable {σ : Type} {c : Comparison}

/-- The values, the host and the redirects are the same. -/
structure Store.SameData (s t : Store σ) : Prop where
  /-- They have the same objects. -/
  objects : s.graph.objects = t.graph.objects
  /-- And the same functions. -/
  functions : s.graph.functions = t.graph.functions
  /-- The host is in the same state. -/
  host : s.host = t.host
  /-- The same redirects were asked for. -/
  redirect : ∀ id, s.redirect id = t.redirect id

/-- The stores hold the same, each for its own way to read templates. -/
structure Store.Agrees (c : Comparison) (s t : Store σ) : Prop where
  /-- They have the same values. -/
  graph : s.graph = t.graph
  /-- They keep the same programs. -/
  programs : s.programs = t.programs
  /-- The host is in the same state. -/
  host : s.host = t.host
  /-- There are as many requests. -/
  requests : s.requests.size = t.requests.size
  /-- The same redirects were asked for. -/
  redirect : ∀ id, s.redirect id = t.redirect id
  /-- The requests have the same sections. -/
  sections : ∀ id, (s.sections id).Corresponds Fragment.Akin (t.sections id)
  /-- There are as many slots. -/
  size : s.slots.size = t.slots.size
  /-- They are as far. -/
  slots : ∀ i : Nat, Option.Rel Slot.Akin s.slots[i]? t.slots[i]?
  /-- What the one keeps of templates is honest. -/
  left : s.templates.Honest c.left
  /-- So is what the other keeps. -/
  right : t.templates.Honest c.right

theorem Store.sections_setSections (store : Store σ) (id other : RequestId)
    (sections : Sections Deferred) :
    (store.setSections id sections).sections other =
      if other = id ∧ id.index < store.requests.size then sections else store.sections other := by
  unfold Store.sections setSections
  rw [requests_modify]
  split <;> rfl

namespace Store.SameData

variable {s t : Store σ}

theorem noted (h : s.SameData t) (event event' : Event) :
    (s.noted event).SameData (t.noted event') :=
  ⟨h.objects, h.functions, h.host, h.redirect⟩

/-- Sections are no data. -/
theorem setSections_left (h : s.SameData t) (id : RequestId) (sections : Sections Deferred) :
    (s.setSections id sections).SameData t :=
  ⟨h.objects, h.functions, h.host, fun other => by
    rw [Store.redirect_setSections]
    exact h.redirect other⟩

theorem setSections_right (h : s.SameData t) (id : RequestId) (sections : Sections Deferred) :
    s.SameData (t.setSections id sections) :=
  ⟨h.objects, h.functions, h.host, fun other => by
    rw [Store.redirect_setSections]
    exact h.redirect other⟩

end Store.SameData

namespace Store.Agrees

variable {s t : Store σ}

/-- A store agrees with itself if what it keeps is honest for both. -/
theorem refl (hleft : s.templates.Honest c.left) (hright : s.templates.Honest c.right) :
    s.Agrees c s where
  graph := rfl
  programs := rfl
  host := rfl
  requests := rfl
  redirect _ := rfl
  sections _ := .refl Fragment.Akin.refl _
  size := rfl
  slots i := by
    cases s.slots[i]? with
    | none => exact .none
    | some slot => exact .some (Slot.Akin.refl slot)
  left := hleft
  right := hright

theorem sameData (h : s.Agrees c t) : s.SameData t :=
  ⟨congrArg Graph.objects h.graph, congrArg Graph.functions h.graph, h.host, h.redirect⟩

theorem noted (h : s.Agrees c t) (event event' : Event) :
    (s.noted event).Agrees c (t.noted event') :=
  { h with graph := h.graph }

theorem withGraph (h : s.Agrees c t) (graph : Graph) :
    ({ s with graph := graph } : Store σ).Agrees c { t with graph := graph } :=
  { h with graph := rfl }

theorem withHost (h : s.Agrees c t) (graph : Graph) (host : σ) :
    ({ s with graph := graph, host := host } : Store σ).Agrees c
      { t with graph := graph, host := host } :=
  { h with graph := rfl, host := rfl }

theorem withPrograms (h : s.Agrees c t) (programs : Recent Program) :
    ({ s with programs := programs } : Store σ).Agrees c { t with programs := programs } :=
  { h with programs := rfl }

theorem withTemplates (h : s.Agrees c t) {templates templates' : TemplateCache}
    (hleft : templates.Honest c.left) (hright : templates'.Honest c.right) :
    ({ s with templates := templates } : Store σ).Agrees c { t with templates := templates' } :=
  { h with left := hleft, right := hright }

theorem setSections (h : s.Agrees c t) (id : RequestId) {sections sections' : Sections Deferred}
    (hsections : sections.Corresponds Fragment.Akin sections') :
    (s.setSections id sections).Agrees c (t.setSections id sections') where
  graph := h.graph
  programs := h.programs
  host := h.host
  requests := by
    rw [requests_size_setSections, requests_size_setSections]
    exact h.requests
  redirect other := by
    rw [redirect_setSections, redirect_setSections]
    exact h.redirect other
  sections other := by
    rw [sections_setSections, sections_setSections, h.requests]
    split
    · exact hsections
    · exact h.sections other
  size := h.size
  slots := h.slots
  left := h.left
  right := h.right

theorem asking (h : s.Agrees c t) (id : RequestId) (target : String) :
    (s.asking id target).Agrees c (t.asking id target) where
  graph := h.graph
  programs := h.programs
  host := h.host
  requests := by
    rw [requests_size_asking, requests_size_asking]
    exact h.requests
  redirect other := by
    rw [redirect_asking, redirect_asking, h.requests, h.redirect, h.redirect]
  sections other := by
    rw [sections_asking, sections_asking]
    exact h.sections other
  size := h.size
  slots := h.slots
  left := h.left
  right := h.right

theorem pushRequest (h : s.Agrees c t) :
    ({ s with requests := s.requests.push .new } : Store σ).Agrees c
      { t with requests := t.requests.push .new } := by
  have hpush : ∀ (u : Store σ) (id : RequestId),
      ({ u with requests := u.requests.push .new } : Store σ).requests[id.index]?.getD .new =
        u.requests[id.index]?.getD .new := by
    intro u id
    dsimp only
    rw [Array.getElem?_push]
    split
    · next heq => rw [heq, Array.getElem?_eq_none (Nat.le_refl _)]; rfl
    · rfl
  refine { h with requests := ?_, redirect := fun id => ?_, sections := fun id => ?_ }
  · dsimp only
    rw [Array.size_push, Array.size_push, h.requests]
  · have hredirect := h.redirect id
    unfold Store.redirect at hredirect ⊢
    rw [hpush, hpush, hredirect]
  · have hsections := h.sections id
    unfold Store.sections at hsections ⊢
    rw [hpush, hpush]
    exact hsections

theorem pushSlot (h : s.Agrees c t) {slot slot' : Slot} (hslot : slot.Akin slot') :
    ({ s with slots := s.slots.push slot } : Store σ).Agrees c
      { t with slots := t.slots.push slot' } := by
  refine { h with size := ?_, slots := fun i => ?_ }
  · dsimp only
    rw [Array.size_push, Array.size_push, h.size]
  · dsimp only
    rw [Array.getElem?_push, Array.getElem?_push, h.size]
    split
    · exact .some hslot
    · exact h.slots i

theorem modifySlot (h : s.Agrees c t) (id : SlotId) {f g : Slot → Slot}
    (hfg : ∀ a b, a.Akin b → (f a).Akin (g b)) :
    ({ s with slots := s.slots.modify id.index f } : Store σ).Agrees c
      { t with slots := t.slots.modify id.index g } := by
  refine { h with size := ?_, slots := fun i => ?_ }
  · dsimp only
    rw [Array.size_modify, Array.size_modify, h.size]
  · have hslot := h.slots i
    dsimp only
    rw [Array.getElem?_modify, Array.getElem?_modify]
    split
    · generalize s.slots[i]? = slot at hslot ⊢
      generalize t.slots[i]? = slot' at hslot ⊢
      cases hslot with
      | none => exact .none
      | some hab => exact .some (hfg _ _ hab)
    · exact hslot

end Store.Agrees

/-! ## Computations -/

variable {α β γ δ : Type}

/-- Two computations end with related values, or for reasons that are akin. -/
inductive Comparison.Ends (c : Comparison) (V : α → β → Prop) :
    Except Stop α × Store σ → Except Stop β × Store σ → Prop where
  /-- Both have a value. -/
  | value {a : α} {b : β} {s t : Store σ} (hvalue : V a b) (hst : s.Agrees c t) :
      Ends c V (.ok a, s) (.ok b, t)
  /-- Both stop. -/
  | stop {a b : Stop} {s t : Store σ} (hstop : c.Stops a b) (hst : s.SameData t) :
      Ends c V (.error a, s) (.error b, t)

namespace Render

/-- On stores that agree, two computations end with related values, or for reasons that are akin. -/
def Agrees (c : Comparison) (V : α → β → Prop) (x : Render σ α) (y : Render σ β) : Prop :=
  ∀ s t, s.Agrees c t → c.Ends V (exec x s) (exec y t)

/-- On stores with the same data, two computations stop for reasons that are akin. -/
def Fails (c : Comparison) (x : Render σ α) (y : Render σ β) : Prop :=
  ∀ s t, s.SameData t → ∃ a b s' t', exec x s = (.error a, s') ∧ exec y t = (.error b, t') ∧
    c.Stops a b ∧ s'.SameData t'

/-- On stores with the same data, two computations have values and leave the same data. -/
def Passes (x : Render σ α) (y : Render σ β) : Prop :=
  ∀ s t, s.SameData t → ∃ a b s' t', exec x s = (.ok a, s') ∧ exec y t = (.ok b, t') ∧
    s'.SameData t'

section Calculus

variable {V : α → β → Prop} {W : γ → δ → Prop} {x : Render σ α} {y : Render σ β}
  {f : α → Render σ γ} {g : β → Render σ δ} {error error' : Error}

/-! ### After a failure -/

theorem Fails.raise (h : c.Akin error error') :
    Fails c (raise error : Render σ α) (raise error' : Render σ β) :=
  fun s t hst => ⟨_, _, s, t, rfl, rfl, .raised h, hst⟩

theorem Fails.raise_bind (h : c.Akin error error') :
    Fails c (Render.raise error >>= f) (Render.raise error' >>= g) :=
  fun s t hst => ⟨_, _, s, t, exec_bind_error rfl f, exec_bind_error rfl g, .raised h, hst⟩

theorem Fails.bind (hx : Passes x y) (hf : ∀ a b, Fails c (f a) (g b)) :
    Fails c (x >>= f) (y >>= g) := by
  intro s t hst
  obtain ⟨a, b, s', t', hs, ht, hst'⟩ := hx s t hst
  rw [exec_bind_ok hs, exec_bind_ok ht]
  exact hf a b s' t' hst'

theorem Fails.checkRedirect {f g : Unit → Render σ γ} (id : RequestId)
    (hf : Fails c (f ()) (g ())) :
    Fails c (checkRedirect id >>= f) (checkRedirect id >>= g) := by
  intro s t hst
  have hs := exec_checkRedirect id s
  have ht := exec_checkRedirect id t
  rw [← hst.redirect] at ht
  rcases hredirect : s.redirect id with _ | target
  · rw [hredirect] at hs ht
    rw [exec_bind_ok hs, exec_bind_ok ht]
    exact hf s t hst
  · rw [hredirect] at hs ht
    rw [exec_bind_error hs, exec_bind_error ht]
    exact ⟨_, _, s, t, rfl, rfl, .raised (.refl _), hst⟩

theorem Passes.pure (a : α) (b : β) :
    Passes (Pure.pure a : Render σ α) (Pure.pure b : Render σ β) :=
  fun s t hst => ⟨a, b, s, t, rfl, rfl, hst⟩

theorem Passes.note (event event' : Event) :
    Passes (note event : Render σ Unit) (Render.note event') :=
  fun s t hst => ⟨(), (), _, _, exec_note event s, exec_note event' t, hst.noted event event'⟩

theorem Passes.changeSlot (id : SlotId) (f g : Slot → Slot) :
    Passes (changeSlot id f : Render σ Unit) (Render.changeSlot id g) :=
  fun s t hst => ⟨(), (), _, _, exec_changeSlot id f s, exec_changeSlot id g t,
    ⟨hst.objects, hst.functions, hst.host, hst.redirect⟩⟩

theorem Passes.setPromise (id : PromiseId) (state state' : PromiseState) :
    Passes (changeGraph (fun graph => ((), graph.setPromise id state)) : Render σ Unit)
      (changeGraph fun graph => ((), graph.setPromise id state')) :=
  fun s t hst => ⟨(), (), _, _, exec_changeGraph _ s, exec_changeGraph _ t,
    ⟨hst.objects, hst.functions, hst.host, hst.redirect⟩⟩

theorem Passes.attemptPop (id : RequestId) (name : String) :
    Passes (attempt (popSection id name) : Render σ _) (Render.attempt (popSection id name)) := by
  have hpop : ∀ u : Store σ, ∃ result u', exec (attempt (popSection id name)) u =
      (.ok result, u') ∧ (u' = u ∨ ∃ sections, u' = u.setSections id sections) := by
    intro u
    have hexec := exec_attempt (popSection id name) u
    rw [exec_popSection] at hexec
    rcases hpop : (u.sections id).pop name with fault | ⟨popped, sections⟩
    · rw [hpop] at hexec
      exact ⟨_, u, hexec, .inl rfl⟩
    · rw [hpop] at hexec
      exact ⟨_, _, hexec, .inr ⟨sections, rfl⟩⟩
  intro s t hst
  obtain ⟨a, s', hs, hs'⟩ := hpop s
  obtain ⟨b, t', ht, ht'⟩ := hpop t
  refine ⟨a, b, s', t', hs, ht, ?_⟩
  have hleft : s'.SameData t := by
    rcases hs' with rfl | ⟨sections, rfl⟩
    · exact hst
    · exact hst.setSections_left id sections
  rcases ht' with rfl | ⟨sections, rfl⟩
  · exact hleft
  · exact hleft.setSections_right id sections

/-! ### Sequences and errors -/

namespace Agrees

theorem pure {a : α} {b : β} (h : V a b) :
    Agrees c V (pure a : Render σ α) (Pure.pure b : Render σ β) := fun _ _ hst => .value h hst

theorem throw {a b : Stop} (h : c.Stops a b) :
    Agrees c V (throw a : Render σ α) (MonadExcept.throw b : Render σ β) :=
  fun _ _ hst => .stop h hst.sameData

theorem raise (h : c.Akin error error') :
    Agrees c V (raise error : Render σ α) (Render.raise error' : Render σ β) :=
  throw (.raised h)

theorem mono {V' : α → β → Prop} (hx : Agrees c V x y) (hV : ∀ a b, V a b → V' a b) :
    Agrees c V' x y := by
  intro s t hst
  have hends := hx s t hst
  generalize exec x s = left at hends ⊢
  generalize exec y t = right at hends ⊢
  cases hends with
  | value hvalue hst' => exact .value (hV _ _ hvalue) hst'
  | stop hstop hst' => exact .stop hstop hst'

theorem bind (hx : Agrees c V x y) (hf : ∀ a b, V a b → Agrees c W (f a) (g b)) :
    Agrees c W (x >>= f) (y >>= g) := by
  intro s t hst
  have hends := hx s t hst
  rw [exec_bind, exec_bind]
  generalize exec x s = left at hends ⊢
  generalize exec y t = right at hends ⊢
  cases hends with
  | value hvalue hst' => exact hf _ _ hvalue _ _ hst'
  | stop hstop hst' => exact .stop hstop hst'

/-- A sequence whose first parts have the same value. -/
theorem andThen {x y : Render σ α} {f : α → Render σ γ} {g : α → Render σ δ}
    (hx : Agrees c Eq x y) (hf : ∀ a, Agrees c W (f a) (g a)) :
    Agrees c W (x >>= f) (y >>= g) :=
  hx.bind fun a _ h => h ▸ hf a

theorem map {x y : Render σ α} (hx : Agrees c Eq x y) (f : α → γ) :
    Agrees c Eq (f <$> x) (f <$> y) :=
  hx.andThen fun _ => .pure rfl

theorem mapError {f g : Error → Error} (hfg : ∀ a b, c.Akin a b → c.Akin (f a) (g b))
    (hx : Agrees c V x y) : Agrees c V (mapError f x) (Render.mapError g y) := by
  intro s t hst
  have hends := hx s t hst
  rw [exec_mapError, exec_mapError]
  generalize exec x s = left at hends ⊢
  generalize exec y t = right at hends ⊢
  cases hends with
  | value hvalue hst' => exact .value hvalue hst'
  | stop hstop hst' =>
    cases hstop with
    | raised h => exact .stop (.raised (hfg _ _ h)) hst'
    | stalled => exact .stop .stalled hst'
    | exhausted => exact .stop .exhausted hst'

/-- Errors may be caught by what fails because of them. -/
theorem attempt_bind {f : Except Error α → Render σ γ} {g : Except Error β → Render σ δ}
    (hx : Agrees c V x y) (hok : ∀ a b, V a b → Agrees c W (f (.ok a)) (g (.ok b)))
    (herror : ∀ a b, c.Akin a b → Fails c (f (.error a)) (g (.error b))) :
    Agrees c W (attempt x >>= f) (attempt y >>= g) := by
  intro s t hst
  have hends := hx s t hst
  rw [exec_bind, exec_bind, exec_attempt, exec_attempt]
  generalize exec x s = left at hends ⊢
  generalize exec y t = right at hends ⊢
  cases hends with
  | value hvalue hst' => exact hok _ _ hvalue _ _ hst'
  | stop hstop hst' =>
    cases hstop with
    | raised h =>
      obtain ⟨a, b, s'', t'', hs, ht, hstop, hst''⟩ := herror _ _ h _ _ hst'
      dsimp only
      rw [hs, ht]
      exact .stop hstop hst''
    | stalled => exact .stop .stalled hst'
    | exhausted => exact .stop .exhausted hst'

theorem ofExcept (result : Except Error α) :
    Agrees c Eq (ofExcept result : Render σ α) (Render.ofExcept result) := by
  cases result with
  | ok value => exact .pure rfl
  | error error => exact .raise (.refl error)

theorem ofShared (result : Except Error α) :
    Agrees c Eq (ofShared result : Render σ α) (TemplateEngine.ofShared result) := by
  cases result with
  | ok value => exact .pure rfl
  | error error => exact .raise (.refl _)

theorem forM {ι : Type} {f g : ι → Render σ Unit} (items : List ι)
    (hfg : ∀ item, Agrees c Eq (f item) (g item)) :
    Agrees c Eq (items.forM f) (items.forM g) := by
  induction items with
  | nil => exact .pure rfl
  | cons item rest ih => exact (hfg item).andThen fun _ => ih

end Agrees

end Calculus

/-! ## Operations -/

namespace Agrees

theorem note (event : Event) : Agrees c Eq (note event : Render σ Unit) (Render.note event) :=
  fun _ _ hst => .value rfl (hst.noted event event)

theorem withGraph (f : Graph → α) :
    Agrees c Eq (withGraph f : Render σ α) (Render.withGraph f) := by
  intro s t hst
  rw [exec_withGraph, exec_withGraph, hst.graph]
  exact .value rfl hst

theorem changeGraph (f : Graph → α × Graph) :
    Agrees c Eq (changeGraph f : Render σ α) (Render.changeGraph f) := by
  intro s t hst
  rw [exec_changeGraph, exec_changeGraph, hst.graph]
  exact .value rfl (hst.withGraph _)

theorem ofNative (native : Native σ α) :
    Agrees c Eq (ofNative native) (Render.ofNative native) := by
  intro s t hst
  rw [exec_ofNative, exec_ofNative, hst.graph, hst.host]
  rcases native.run.run (t.graph, t.host) with ⟨error | value, graph, host⟩
  · exact .stop (.raised (.refl error)) ((hst.withHost graph host).noted _ _).sameData
  · exact .value rfl (hst.withHost graph host)

theorem programOf (source : String) :
    Agrees c Eq (programOf source : Render σ Program) (Render.programOf source) := by
  intro s t hst
  rw [exec_programOf_eq_lookUp, exec_programOf_eq_lookUp, hst.programs]
  have hkept := hst.withPrograms (lookUp t.programs source).2
  rcases (lookUp t.programs source).1 with stop | program
  · exact .stop (.refl stop) hkept.sameData
  · exact .value rfl hkept

theorem askRedirect (id : RequestId) (target : String) :
    Agrees c Eq (askRedirect id target : Render σ Unit) (Render.askRedirect id target) :=
  fun _ _ hst => .value rfl ((hst.noted _ _).asking id target)

theorem checkRedirect (id : RequestId) :
    Agrees c Eq (checkRedirect id : Render σ Unit) (Render.checkRedirect id) := by
  intro s t hst
  rw [exec_checkRedirect, exec_checkRedirect, hst.redirect]
  rcases t.redirect id with _ | target
  · exact .value rfl hst
  · exact .stop (.raised (.refl _)) hst.sameData

theorem newRequest : Agrees c Eq (newRequest : Render σ RequestId) newRequest :=
  fun _ _ hst => .value (congrArg RequestId.mk hst.requests) hst.pushRequest

theorem withSections {V : α → β → Prop} (id : RequestId) {f : Sections Deferred → α}
    {g : Sections Deferred → β}
    (hfg : ∀ a b, a.Corresponds Fragment.Akin b → V (f a) (g b)) :
    Agrees c V (withSections id f : Render σ α) (Render.withSections id g) :=
  fun _ _ hst => .value (hfg _ _ (hst.sections id)) hst

theorem changeSections {V : α → β → Prop} (id : RequestId)
    {f : Sections Deferred → α × Sections Deferred} {g : Sections Deferred → β × Sections Deferred}
    (hfg : ∀ a b, a.Corresponds Fragment.Akin b →
      V (f a).1 (g b).1 ∧ (f a).2.Corresponds Fragment.Akin (g b).2) :
    Agrees c V (changeSections id f : Render σ α) (Render.changeSections id g) := by
  intro s t hst
  obtain ⟨hvalue, hsections⟩ := hfg _ _ (hst.sections id)
  rw [exec_changeSections, exec_changeSections]
  exact .value hvalue (hst.setSections id hsections)

theorem trySections (id : RequestId)
    {f : Sections Deferred → Except Sections.Fault (α × Sections Deferred)}
    (hf : ∀ a b, a.Corresponds Fragment.Akin b → Sections.Follows Fragment.Akin (f a) (f b)) :
    Agrees c Eq (trySections id f : Render σ _) (Render.trySections id f) := by
  intro s t hst
  have hchange := hf _ _ (hst.sections id)
  rw [exec_trySections, exec_trySections]
  rcases hs : f (s.sections id) with fault | ⟨value, sections⟩
  all_goals
    rcases ht : f (t.sections id) with fault' | ⟨value', sections'⟩
    all_goals
      rw [hs, ht] at hchange
      cases hchange
  · exact .value rfl hst
  · next h => exact .value rfl (hst.setSections id h)

theorem popSection (id : RequestId) (name : String) :
    Agrees c Eq (popSection id name : Render σ _) (TemplateEngine.popSection id name) := by
  refine (trySections id fun a b hab => hab.pop name).andThen fun result => ?_
  cases result with
  | ok popped => exact .pure rfl
  | error fault => exact .raise (.refl _)

theorem newSlot {state state' : SlotState} (h : state.Akin state') :
    Agrees c Eq (newSlot state : Render σ SlotId) (Render.newSlot state') :=
  fun _ _ hst => .value (congrArg SlotId.mk hst.size) (hst.pushSlot ⟨h, rfl⟩)

theorem slot? (id : SlotId) :
    Agrees c (Option.Rel Slot.Akin) (slot? id : Render σ _) (Render.slot? id) :=
  fun _ _ hst => .value (hst.slots id.index) hst

theorem changeSlot (id : SlotId) {f g : Slot → Slot} (hfg : ∀ a b, a.Akin b → (f a).Akin (g b)) :
    Agrees c Eq (changeSlot id f : Render σ Unit) (Render.changeSlot id g) :=
  fun _ _ hst => .value rfl (hst.modifySlot id hfg)

theorem consume (id : SlotId) :
    Agrees c Eq (consume id : Render σ Bool) (Render.consume id) := by
  refine (slot? id).bind fun slot slot' hslot => ?_
  refine andThen (changeSlot id fun a b hab => ?_) fun _ => .pure ?_
  · exact ⟨hab.state, rfl⟩
  · cases hslot with
    | none => rfl
    | some hab => exact hab.consumed

end Agrees

end Render

end TemplateEngine
