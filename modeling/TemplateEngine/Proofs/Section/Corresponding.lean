import Mathlib.Data.List.Forall2
import TemplateEngine.Proofs.Section.Stack

/-!
# `Section` · Corresponding sections

The sections of two requests that differ in their fragments only.

* **`Sections.Corresponds R a b`**: the same scopes are current and come back, and the fragments of
  each scope are related by `R`, one by one.
* What does not look into fragments gives the same for both, and leaves sections that correspond: a
  push, an append of related fragments, a pop, and the taking of a scope (`Follows`).
-/

namespace TemplateEngine

variable {δ δ' : Type}

/-- The sections are the same but for the fragments, which are related. -/
structure Sections.Corresponds (R : Fragment δ → Fragment δ' → Prop) (a : Sections δ)
    (b : Sections δ') : Prop where
  /-- The same scopes are current, or come back. -/
  named : a.named = b.named
  /-- There are as many scopes. -/
  size : a.scopes.size = b.scopes.size
  /-- Their fragments are related. -/
  fragments : ∀ id, List.Forall₂ R (a.fragments id) (b.fragments id)

namespace Sections.Corresponds

variable {R : Fragment δ → Fragment δ' → Prop} {a : Sections δ} {b : Sections δ'}
  {name owner : String} {f : Fragment δ} {g : Fragment δ'}

theorem empty : Corresponds R (.empty : Sections δ) .empty := ⟨rfl, rfl, fun _ => .nil⟩

/-- Related to itself. -/
theorem refl {R : Fragment δ → Fragment δ → Prop} (hrefl : ∀ fragment, R fragment fragment)
    (a : Sections δ) : a.Corresponds R a :=
  ⟨rfl, rfl, fun _ => List.forall₂_same.2 fun fragment _ => hrefl fragment⟩

theorem stack (h : a.Corresponds R b) (name : String) : a.stack name = b.stack name := by
  unfold Sections.stack
  rw [h.named]

theorem current (h : a.Corresponds R b) (name : String) : a.current name = b.current name := by
  unfold Sections.current
  rw [h.stack]

theorem peek (h : a.Corresponds R b) (name : String) : a.peek name = b.peek name := by
  unfold Sections.peek
  rw [h.stack]

theorem setStack (h : a.Corresponds R b) (name : String) (stack : Stack) :
    (a.setStack name stack).Corresponds R (b.setStack name stack) where
  named := by
    unfold Sections.setStack
    rw [h.named]
  size := h.size
  fragments := h.fragments

theorem newScope (h : a.Corresponds R b) (owner : String) :
    (a.newScope owner).2.Corresponds R (b.newScope owner).2 where
  named := h.named
  size := by rw [size_newScope, size_newScope, h.size]
  fragments id := by
    rw [fragments_newScope, fragments_newScope]
    exact h.fragments id

theorem addTo (h : a.Corresponds R b) (hfg : R f g) (id : ScopeId) :
    (a.addTo id f).2.Corresponds R (b.addTo id g).2 where
  named := h.named
  size := by rw [size_addTo, size_addTo, h.size]
  fragments other := by
    by_cases hother : other = id
    · subst hother
      rcases Nat.lt_or_ge other.index a.scopes.size with hlt | hge
      · rw [fragments_addTo_self hlt, fragments_addTo_self (h.size ▸ hlt)]
        exact List.rel_append (h.fragments other) (.cons hfg .nil)
      · rw [fragments_of_le (by rwa [size_addTo]), fragments_of_le (by rwa [size_addTo, ← h.size])]
        exact .nil
    · rw [fragments_addTo_of_ne hother, fragments_addTo_of_ne hother]
      exact h.fragments other

/-- A push makes the same scope current. -/
theorem push (h : a.Corresponds R b) (name owner : String) :
    (a.push name owner).1 = (b.push name owner).1 ∧
      (a.push name owner).2.Corresponds R (b.push name owner).2 := by
  have hid : (a.newScope owner).1 = (b.newScope owner).1 := congrArg ScopeId.mk h.size
  refine ⟨hid, ?_⟩
  unfold Sections.push
  dsimp only
  rw [stack_newScope, stack_newScope, hid, h.stack]
  exact (h.newScope owner).setStack name _

/-- An append goes to the same scope. -/
theorem add (h : a.Corresponds R b) (hfg : R f g) (name owner : String) :
    (a.add name owner f).2.Corresponds R (b.add name owner g).2 := by
  rcases hcurrent : a.current name with _ | id
  · rw [add_of_none hcurrent, add_of_none (h.current name ▸ hcurrent), h.stack, h.size]
    exact ((h.newScope owner).setStack name _).addTo hfg _
  · rw [add_of_some hcurrent, add_of_some (h.current name ▸ hcurrent), h.stack]
    exact (h.setStack name _).addTo hfg id

end Sections.Corresponds

/-- Two changes of sections that may fail: they fail with the same fault, or they give the same
value and leave sections that correspond. -/
inductive Sections.Follows {α : Type} (R : Fragment δ → Fragment δ' → Prop) :
    Except Sections.Fault (α × Sections δ) → Except Sections.Fault (α × Sections δ') → Prop where
  /-- Both fail. -/
  | failed (fault : Sections.Fault) : Follows R (.error fault) (.error fault)
  /-- Both change the sections. -/
  | changed {a : Sections δ} {b : Sections δ'} (value : α) (h : a.Corresponds R b) :
      Follows R (.ok (value, a)) (.ok (value, b))

namespace Sections.Corresponds

variable {R : Fragment δ → Fragment δ' → Prop} {a : Sections δ} {b : Sections δ'}

theorem pop (h : a.Corresponds R b) (name : String) :
    Follows R (a.pop name) (b.pop name) := by
  unfold Sections.pop
  rw [h.named]
  cases b.named.find? name with
  | none => exact .failed _
  | some stack =>
    dsimp only
    cases stack.pop? with
    | none => exact .failed _
    | some popped => exact .changed popped.1 (h.setStack name popped.2)

theorem takeCurrent (h : a.Corresponds R b) (name : String) :
    Follows R (a.takeCurrent name) (b.takeCurrent name) := by
  unfold Sections.takeCurrent
  rw [h.named]
  cases b.named.find? name with
  | none => exact .failed _
  | some stack => exact .changed stack.take.1 (h.setStack name stack.take.2)

end Sections.Corresponds

end TemplateEngine
