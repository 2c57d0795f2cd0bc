import TemplateEngine.Proofs.Render.Moving
import TemplateEngine.Proofs.Section.Extending

/-!
# `Render` · Computations that echo others

If the one computation has a value, so has the other.

* **`Render.Echoes x y s t good`**: a value of `x` on `s` is echoed by one of `y` on `t`. Nothing is
  said of an `x` that fails. Values on placed stores are echoed (`Echoes.of_moves`).
* **`Store.Writes`**: what becomes of a store while templates write to one section of a request.
* **`Passage`**: from stores of which one is placed in the other, both have gone on in this way.
-/

namespace TemplateEngine

open Render

variable {σ α β γ δ : Type} {s t s' t' s'' t'' : Store σ}

namespace Render

/-- If `x` has a value on `s`, then `y` has one on `t`, and both are good. -/
def Echoes (x : Render σ α) (y : Render σ β) (s t : Store σ)
    (good : α → β → Store σ → Store σ → Prop) : Prop :=
  ∀ a s', exec x s = (.ok a, s') → ∃ b t', exec y t = (.ok b, t') ∧ good a b s' t'

namespace Echoes

variable {x : Render σ α} {y : Render σ β} {good : α → β → Store σ → Store σ → Prop}

theorem mono {better : α → β → Store σ → Store σ → Prop} (h : Echoes x y s t good)
    (hgood : ∀ a b s' t', good a b s' t' → better a b s' t') : Echoes x y s t better := by
  intro a s' hx
  obtain ⟨b, t', hy, hab⟩ := h a s' hx
  exact ⟨b, t', hy, hgood a b s' t' hab⟩

theorem pure {a : α} {b : β} (h : good a b s t) : Echoes (pure a) (pure b) s t good := by
  rintro _ _ ⟨⟩
  exact ⟨b, t, rfl, h⟩

theorem bind {x' : α → Render σ γ} {y' : β → Render σ δ} {good' : γ → δ → Store σ → Store σ → Prop}
    (h : Echoes x y s t good)
    (hnext : ∀ a b s' t', good a b s' t' → Echoes (x' a) (y' b) s' t' good') :
    Echoes (x >>= x') (y >>= y') s t good' := by
  intro c s'' hx
  obtain ⟨a, s', hfirst, hrest⟩ := exec_bind_eq_ok hx
  obtain ⟨b, t', hy, hab⟩ := h a s' hfirst
  obtain ⟨d, t'', hy', hcd⟩ := hnext a b s' t' hab c s'' hrest
  exact ⟨d, t'', (exec_bind_ok hy y').trans hy', hcd⟩

/-- Steps that are known on both sides. -/
theorem step {a : α} {b : β} {x' : α → Render σ γ} {y' : β → Render σ δ}
    {good' : γ → δ → Store σ → Store σ → Prop} (hx : exec x s = (.ok a, s'))
    (hy : exec y t = (.ok b, t')) (h : Echoes (x' a) (y' b) s' t' good') :
    Echoes (x >>= x') (y >>= y') s t good' := by
  intro c s'' hc
  obtain ⟨d, t'', hd, hcd⟩ := h c s'' ((exec_bind_ok hx x').symm.trans hc)
  exact ⟨d, t'', (exec_bind_ok hy y').trans hd, hcd⟩

/-- Instead of the first steps of both computations. -/
theorem congr {x' : Render σ α} {y' : Render σ β} (hx : exec x s = exec x' s')
    (hy : exec y t = exec y' t') (h : Echoes x' y' s' t' good) : Echoes x y s t good := by
  intro a s₁ ha
  obtain ⟨b, t₁, hb, hab⟩ := h a s₁ (hx.symm.trans ha)
  exact ⟨b, t₁, hy.trans hb, hab⟩

/-- A step of the one computation alone. -/
theorem step_left {a : α} {x' : α → Render σ γ} {good' : γ → β → Store σ → Store σ → Prop}
    (hx : exec x s = (.ok a, s')) (h : Echoes (x' a) y s' t good') :
    Echoes (x >>= x') y s t good' := by
  intro c s'' hc
  exact h c s'' ((exec_bind_ok hx x').symm.trans hc)

/-- It may be used that the first computation has a value. -/
theorem of_ok (h : ∀ a s', exec x s = (.ok a, s') → Echoes x y s t good) : Echoes x y s t good :=
  fun a s' hx => h a s' hx a s' hx

/-- Errors of the one computation may get a place. -/
theorem mapError_left (h : Echoes x y s t good) (f : Error → Error) :
    Echoes (mapError f x) y s t good :=
  fun a s' hx => h a s' (exec_mapError_eq_ok hx)

theorem mapError (h : Echoes x y s t good) (f g : Error → Error) :
    Echoes (mapError f x) (mapError g y) s t good := by
  intro a s' hx
  obtain ⟨b, t', hy, hab⟩ := h a s' (exec_mapError_eq_ok hx)
  refine ⟨b, t', ?_, hab⟩
  rw [exec_mapError, hy]

/-- The echo may be turned into something else. -/
theorem map_right {better : α → γ → Store σ → Store σ → Prop} (h : Echoes x y s t good)
    (f : β → γ) (hgood : ∀ a b s' t', good a b s' t' → better a (f b) s' t') :
    Echoes x (f <$> y) s t better := by
  intro a s' hx
  obtain ⟨b, t', hy, hab⟩ := h a s' hx
  refine ⟨f b, t', ?_, hgood a b s' t' hab⟩
  rw [exec_map, hy]

/-- What is echoed may be turned into something else. -/
theorem map_left {better : γ → β → Store σ → Store σ → Prop} (h : Echoes x y s t good)
    (f : α → γ) (hgood : ∀ a b s' t', good a b s' t' → better (f a) b s' t') :
    Echoes (f <$> x) y s t better := by
  intro c s' hx
  rw [exec_map] at hx
  rcases hexec : exec x s with ⟨stop | a, s₁⟩
  · rw [hexec] at hx
    cases hx
  · rw [hexec] at hx
    cases hx
    obtain ⟨b, t', hy, hab⟩ := h a s' hexec
    exact ⟨b, t', hy, hgood a b s' t' hab⟩

/-- Both pop a section in the end, in which something was pushed. -/
theorem collected {id : RequestId} {name : String} {x y : Render σ α}
    {good better : α → α → Store σ → Store σ → Prop} (h : Echoes x y s t good)
    (hgood : ∀ a b s' t', good a b s' t' → ((t'.sections id).stack name).history ≠ [] ∧
      better a b (s'.popped id name) (t'.popped id name)) :
    Echoes (do
        let output ← attempt x
        let popped ← attempt (popSection id name)
        let value ← ofExcept output
        let _ ← ofExcept popped
        return value)
      (do
        let output ← attempt y
        let popped ← attempt (popSection id name)
        let value ← ofExcept output
        let _ ← ofExcept popped
        return value) s t better := by
  intro a s'' hok
  obtain ⟨s', hx, rfl⟩ := exec_collected_eq_ok hok
  obtain ⟨b, t', hy, hab⟩ := h a s' hx
  obtain ⟨ht, hbetter⟩ := hgood a b s' t' hab
  refine ⟨b, t'.popped id name, ?_, hbetter⟩
  rw [exec_collected, hy]
  simp only [exec_popSection_of_history ht]
  rfl

/-- A value on placed stores is echoed where these are placed. -/
theorem of_moves {m : Motion σ} {e : Extent} {r : Refs α} {x y : Render σ α}
    (h : Moves m e r x y) (hst : s.Placed m t) (he : e ≤ s.graph.extent) :
    Echoes x y s t fun a b s' t' => b = r.placed m.toPlacement a ∧ r.Within s'.graph.extent a ∧
      Advance m s t s' t' := by
  intro a s' hx
  obtain ⟨result, s₁, t', hs, ht, hadvance, hwithin⟩ := h s t hst he
  cases hs.symm.trans hx
  exact ⟨_, t', ht, rfl, hwithin a rfl, hadvance⟩

/-- A condition on the first computation alone. -/
theorem and_left {P : α → Store σ → Prop} {Q : Stop → Store σ → Prop} (h : Echoes x y s t good)
    (hx : Ensures x s P Q) : Echoes x y s t fun a b s' t' => good a b s' t' ∧ P a s' := by
  intro a s' hok
  obtain ⟨b, t', hy, hab⟩ := h a s' hok
  exact ⟨b, t', hy, hab, hx.ok hok⟩

end Echoes

end Render

/-! ## Stores -/

/-- While templates wrote to the section `home` of a request, a scope has got fragments. -/
structure Store.Writes (read : String → Except Error String) (request : RequestId) (home : String)
    (scope : ScopeId) (fragments : List (Fragment Deferred)) (s s' : Store σ) : Prop where
  /-- There are as many requests. -/
  requests : s'.requests.size = s.requests.size
  /-- What was added to the scope. -/
  sections : (s.sections request).Extends home scope fragments (s'.sections request)
  /-- The slots that there were are left as they are. -/
  slots : ∀ i < s.slots.size, s'.slots[i]? = s.slots[i]?
  /-- What is kept of templates goes on to be honest. -/
  honest : s.templates.Honest read → s'.templates.Honest read

namespace Store.Writes

variable {read : String → Except Error String} {request : RequestId} {home : String}
  {scope : ScopeId} {fragments rest : List (Fragment Deferred)}

theorem of_keeps (h : s.KeepsOutput s') : s.Writes read request home scope [] s' where
  requests := h.rests.requests
  sections := by
    rw [h.rests.sections]
    exact .refl _ _ _
  slots i _ := by rw [h.slots]
  honest hhonest := by
    rw [h.templates]
    exact hhonest

/-- Slots are never removed. -/
theorem lt_slots (h : s.Writes read request home scope fragments s') {i : Nat}
    (hi : i < s.slots.size) : i < s'.slots.size := by
  have hslot := h.slots i hi
  rw [Array.getElem?_eq_getElem hi] at hslot
  exact (Array.getElem?_eq_some_iff.1 hslot).1

theorem newSlot (h : s.Writes read request home scope fragments s') (slot : Slot) :
    s.Writes read request home scope fragments { s' with slots := s'.slots.push slot } where
  requests := h.requests
  sections := h.sections
  slots i hi := by
    have hlive := h.lt_slots hi
    rw [← h.slots i hi, Array.getElem?_push_lt hlive, Array.getElem?_eq_getElem hlive]
  honest := h.honest

theorem trans (h : s.Writes read request home scope fragments s')
    (h' : s'.Writes read request home scope rest s'') :
    s.Writes read request home scope (fragments ++ rest) s'' where
  requests := h'.requests.trans h.requests
  sections := h.sections.trans h'.sections
  slots i hi := (h'.slots i (h.lt_slots hi)).trans (h.slots i hi)
  honest hhonest := h'.honest (h.honest hhonest)

/-- A push, what is written to the new scope, and a pop. -/
theorem popped {owner : String} (hlive : request.index < s.requests.size)
    (h : (s.pushed request home owner).Writes read request home
      ⟨(s.sections request).scopes.size⟩ fragments s') (scope : ScopeId) :
    s.Writes read request home scope [] (s'.popped request home) where
  requests := by
    have hsize := Store.requests_size_setSections s request ((s.sections request).push home owner).2
    exact (Store.requests_size_setSections s' request _).trans (h.requests.trans hsize)
  sections := by
    have hlive' : request.index < s'.requests.size := by
      rw [h.requests]
      exact Nat.lt_of_lt_of_eq hlive (Store.requests_size_setSections s request _).symm
    rw [Store.sections_popped hlive']
    have hsections := h.sections
    rw [Store.sections_pushed hlive] at hsections
    exact hsections.popped scope
  slots := h.slots
  honest := h.honest

end Store.Writes

namespace Store.Placed

variable {m : Motion σ}

/-- Other sections make no difference. -/
theorem setSections (h : s.Placed m t) (id id' : RequestId)
    (sections sections' : Sections Deferred) :
    (s.setSections id sections).Placed m (t.setSections id' sections') :=
  { h with
    requests := by
      rw [Store.requests_size_setSections, Store.requests_size_setSections]
      exact h.requests
    redirect := fun other => by
      rw [Store.redirect_setSections, Store.redirect_setSections]
      exact h.redirect other }

/-- Nor do other sections on the one side. -/
theorem setSections_left (h : s.Placed m t) (id : RequestId) (sections : Sections Deferred) :
    (s.setSections id sections).Placed m t :=
  { h with
    requests := by
      rw [Store.requests_size_setSections]
      exact h.requests
    redirect := fun other => by
      rw [Store.redirect_setSections]
      exact h.redirect other }

/-- Slots to which no value refers make no difference. -/
theorem withSlots {slots slots' : Array Slot} (h : s.Placed m t)
    (hs : ∀ id : SlotId, m.slot id → slots[id.index]? = s.slots[id.index]?)
    (ht : ∀ id : SlotId, m.slot id → slots'[id.index]? = t.slots[id.index]?) :
    ({ s with slots := slots } : Store σ).Placed m { t with slots := slots' } :=
  { h with
    slot := fun id hid => by
      rw [hs id hid, ht id hid]
      exact h.slot id hid
    idle := fun id fragments hid => by
      rw [hs id hid]
      exact h.idle id fragments hid
    exists_slot := fun id hid => by
      have hslot := hs id hid
      rw [Array.getElem?_eq_getElem (h.exists_slot id hid)] at hslot
      exact (Array.getElem?_eq_some_iff.1 hslot).1 }

theorem exists_slot' (h : s.Placed m t) {id : SlotId} (hid : m.slot id) :
    id.index < t.slots.size := by
  have hslot := h.slot id hid
  rw [Array.getElem?_eq_getElem (h.exists_slot id hid), Option.map_some] at hslot
  obtain ⟨slot, hslot, -⟩ := Option.map_eq_some_iff.1 hslot
  exact (Array.getElem?_eq_some_iff.1 hslot).1

theorem newSlot_left (h : s.Placed m t) (slot : Slot) :
    ({ s with slots := s.slots.push slot } : Store σ).Placed m t := by
  refine h.withSlots (fun id hid => ?_) fun _ _ => rfl
  rw [Array.getElem?_push_lt (h.exists_slot id hid), Array.getElem?_eq_getElem (h.exists_slot id hid)]

theorem newSlots (h : s.Placed m t) (slot slot' : Slot) :
    ({ s with slots := s.slots.push slot } : Store σ).Placed m
      { t with slots := t.slots.push slot' } := by
  refine h.withSlots (fun id hid => ?_) fun id hid => ?_
  · rw [Array.getElem?_push_lt (h.exists_slot id hid),
      Array.getElem?_eq_getElem (h.exists_slot id hid)]
  · rw [Array.getElem?_push_lt (h.exists_slot' hid), Array.getElem?_eq_getElem (h.exists_slot' hid)]

end Store.Placed

/-- From stores of which one is placed in the other, the templates of both have written, and both
have gone on in the same way otherwise. -/
structure Passage (m : Motion σ) (read read' : String → Except Error String) (request : RequestId)
    (home : String) (scope scope' : ScopeId) (fragments fragments' : List (Fragment Deferred))
    (s t s' t' : Store σ) : Prop where
  /-- The one is still placed in the other. -/
  placed : s'.Placed m t'
  /-- Nothing has changed where nothing is placed. -/
  beside : Graph.Beside m.toPlacement t.graph t'.graph
  /-- Nothing was taken away. -/
  grows : s.graph.extent ≤ s'.graph.extent
  /-- What was written. -/
  left : s.Writes read request home scope fragments s'
  /-- There too. -/
  right : t.Writes read' request home scope' fragments' t'
  /-- The journals have got the same events. -/
  journal : ∃ events, s'.journal = events ++ s.journal ∧ t'.journal = events ++ t.journal

namespace Passage

variable {m : Motion σ} {read read' : String → Except Error String} {request : RequestId}
  {home : String} {scope scope' : ScopeId} {fragments fragments' rest rest' : List (Fragment Deferred)}

theorem of_advance (h : Advance m s t s' t') :
    Passage m read read' request home scope scope' [] [] s t s' t' where
  placed := h.placed
  beside := h.beside
  grows := h.grows
  left := .of_keeps h.left
  right := .of_keeps h.right
  journal := h.journal

theorem refl (h : s.Placed m t) : Passage m read read' request home scope scope' [] [] s t s t :=
  .of_advance (.refl h)

theorem trans (h : Passage m read read' request home scope scope' fragments fragments' s t s' t')
    (h' : Passage m read read' request home scope scope' rest rest' s' t' s'' t'') :
    Passage m read read' request home scope scope' (fragments ++ rest) (fragments' ++ rest') s t
      s'' t'' where
  placed := h'.placed
  beside := h.beside.trans h'.beside
  grows := Extent.le_trans h.grows h'.grows
  left := h.left.trans h'.left
  right := h.right.trans h'.right
  journal := by
    obtain ⟨events, hs, ht⟩ := h.journal
    obtain ⟨events', hs', ht'⟩ := h'.journal
    refine ⟨events' ++ events, ?_, ?_⟩
    · rw [hs', hs, List.append_assoc]
    · rw [ht', ht, List.append_assoc]

/-- Both push a scope, write to it, and pop it. -/
theorem popped {owner owner' : String} (hs : request.index < s.requests.size)
    (ht : request.index < t.requests.size)
    (h : Passage m read read' request home ⟨(s.sections request).scopes.size⟩
      ⟨(t.sections request).scopes.size⟩ fragments fragments' (s.pushed request home owner)
      (t.pushed request home owner') s' t') (scope scope' : ScopeId) :
    Passage m read read' request home scope scope' [] [] s t (s'.popped request home)
      (t'.popped request home) where
  placed := h.placed.setSections _ _ _ _
  beside := h.beside
  grows := h.grows
  left := h.left.popped hs scope
  right := h.right.popped ht scope'
  journal := h.journal

/-- What was written to the scopes of the pushes. -/
theorem fragments_pushed {owner owner' : String} (hs : request.index < s.requests.size)
    (ht : request.index < t.requests.size)
    (h : Passage m read read' request home ⟨(s.sections request).scopes.size⟩
      ⟨(t.sections request).scopes.size⟩ fragments fragments' (s.pushed request home owner)
      (t.pushed request home owner') s' t') :
    (s'.sections request).fragments ⟨(s.sections request).scopes.size⟩ = fragments ∧
      (t'.sections request).fragments ⟨(t.sections request).scopes.size⟩ = fragments' := by
  have hleft := h.left.sections
  have hright := h.right.sections
  rw [Store.sections_pushed hs] at hleft
  rw [Store.sections_pushed ht] at hright
  exact ⟨hleft.fragments_pushed, hright.fragments_pushed⟩

/-- There is something to pop. -/
theorem history_pushed {owner owner' : String} (hs : request.index < s.requests.size)
    (ht : request.index < t.requests.size)
    (h : Passage m read read' request home scope scope' fragments fragments'
      (s.pushed request home owner) (t.pushed request home owner') s' t') :
    ((s'.sections request).stack home).history ≠ [] ∧
      ((t'.sections request).stack home).history ≠ [] := by
  have hleft := h.left.sections
  have hright := h.right.sections
  rw [Store.sections_pushed hs] at hleft
  rw [Store.sections_pushed ht] at hright
  exact ⟨hleft.history_ne_nil, hright.history_ne_nil⟩

/-- Both make a slot. -/
theorem newSlots (h : Passage m read read' request home scope scope' fragments fragments' s t s' t')
    (slot slot' : Slot) :
    Passage m read read' request home scope scope' fragments fragments' s t
      { s' with slots := s'.slots.push slot } { t' with slots := t'.slots.push slot' } where
  placed := h.placed.newSlots slot slot'
  beside := h.beside
  grows := h.grows
  left := h.left.newSlot slot
  right := h.right.newSlot slot'
  journal := h.journal

end Passage

end TemplateEngine
