import TemplateEngine.Proofs.Section.Stack

/-!
# `Section` · Sections that are written to

What becomes of a section `home` and of the scopes while templates write to this section only.

* **`Sections.Extends home scope fragments`**: the section has the current scope and the history
  that it had. Of the scopes that were there, `scope` has got fragments, and the others nothing.
* An append adds to the current scope (`extends_add`). A push, what is written then, and a pop add
  nothing to the scopes that were there before (`Extends.popped`).
-/

namespace TemplateEngine

namespace Sections

variable {δ : Type} {home : String} {scope : ScopeId} {fragments rest : List (Fragment δ)}
  {a b c : Sections δ}

/-- Fragments for one scope, and none for the others. -/
def only (scope : ScopeId) (fragments : List (Fragment δ)) (id : ScopeId) : List (Fragment δ) :=
  if id = scope then fragments else []

theorem only_self (scope : ScopeId) (fragments : List (Fragment δ)) :
    only scope fragments scope = fragments := if_pos rfl

theorem only_of_ne {id : ScopeId} (h : id ≠ scope) (fragments : List (Fragment δ)) :
    only scope fragments id = [] := if_neg h

theorem only_nil (scope id : ScopeId) : only (δ := δ) scope [] id = [] := ite_self _

theorem only_append (scope : ScopeId) (fragments rest : List (Fragment δ)) (id : ScopeId) :
    only scope fragments id ++ only scope rest id = only scope (fragments ++ rest) id := by
  unfold only
  split <;> rfl

/-- While `home` was written to, a scope has got fragments, and the others that were there
nothing. -/
structure Extends (home : String) (scope : ScopeId) (fragments : List (Fragment δ))
    (a b : Sections δ) : Prop where
  /-- The scope that is written to is the same. -/
  current : b.current home = a.current home
  /-- So is the history. -/
  history : (b.stack home).history = (a.stack home).history
  /-- Scopes are never removed. -/
  size : a.scopes.size ≤ b.scopes.size
  /-- What was added to them. -/
  fragments : ∀ id : ScopeId, id.index < a.scopes.size →
    b.fragments id = a.fragments id ++ only scope fragments id

namespace Extends

theorem refl (home : String) (scope : ScopeId) (a : Sections δ) : a.Extends home scope [] a where
  current := rfl
  history := rfl
  size := Nat.le_refl _
  fragments id _ := by rw [only_nil, List.append_nil]

theorem trans (h : a.Extends home scope fragments b) (h' : b.Extends home scope rest c) :
    a.Extends home scope (fragments ++ rest) c where
  current := h'.current.trans h.current
  history := h'.history.trans h.history
  size := Nat.le_trans h.size h'.size
  fragments id hid := by
    rw [h'.fragments id (Nat.lt_of_lt_of_le hid h.size), h.fragments id hid, List.append_assoc,
      only_append]

/-- If nothing was added, then the scope does not matter. -/
theorem elsewhere (h : a.Extends home scope [] b) (other : ScopeId) :
    a.Extends home other [] b where
  current := h.current
  history := h.history
  size := h.size
  fragments id hid := by rw [h.fragments id hid, only_nil, only_nil]

end Extends

/-- An append adds to the current scope. -/
theorem extends_add (hcurrent : a.current home = some scope) (hlive : scope.index < a.scopes.size)
    (owner : String) (fragment : Fragment δ) :
    a.Extends home scope [fragment] (a.add home owner fragment).2 := by
  have htarget : a.target home = scope := by
    unfold target
    rw [hcurrent, Option.getD_some]
  refine ⟨?_, history_add a home home owner fragment, size_le_add a home owner fragment, ?_⟩
  · rw [current_add_self, htarget, hcurrent]
  · intro id hid
    by_cases hscope : id = scope
    · subst hscope
      have hadd := fragments_add_self (fun other hother => by
        cases hcurrent.symm.trans hother
        exact hlive) owner fragment
      rw [htarget] at hadd
      rw [hadd, only_self]
    · rw [fragments_add_of_ne (htarget ▸ hscope), only_of_ne hscope, List.append_nil]

/-! ## Pushes and pops -/

/-- After a push, output goes to a new scope. -/
theorem current_push (a : Sections δ) (home owner : String) :
    (a.push home owner).2.current home = some ⟨a.scopes.size⟩ := by
  unfold Sections.current
  rw [stack_push_self]
  rfl

theorem history_push (a : Sections δ) (home owner : String) :
    ((a.push home owner).2.stack home).history = a.current home :: (a.stack home).history := by
  rw [stack_push_self]
  rfl

namespace Extends

variable {owner : String}

/-- What was written to the scope of a push. -/
theorem fragments_pushed (h : (a.push home owner).2.Extends home ⟨a.scopes.size⟩ fragments b) :
    b.fragments ⟨a.scopes.size⟩ = fragments := by
  have hlive : a.scopes.size < (a.push home owner).2.scopes.size := by
    rw [size_push]
    exact Nat.lt_succ_self _
  have hnew : a.fragments ⟨a.scopes.size⟩ = [] := fragments_of_le (Nat.le_refl _)
  rw [h.fragments ⟨a.scopes.size⟩ hlive, fragments_push, hnew, only_self, List.nil_append]

/-- A push, what is written to the new scope, and a pop. -/
theorem popped (h : (a.push home owner).2.Extends home ⟨a.scopes.size⟩ fragments b)
    (scope : ScopeId) : a.Extends home scope [] (b.popped home) := by
  have hhistory := h.history
  rw [history_push] at hhistory
  have hsize := h.size
  rw [size_push] at hsize
  refine ⟨?_, ?_, Nat.le_of_succ_le hsize, fun id hid => ?_⟩
  · unfold Sections.current Sections.popped
    rw [stack_setStack_self, hhistory]
    rfl
  · unfold Sections.popped
    rw [stack_setStack_self, hhistory]
    rfl
  · have hlive : id.index < (a.push home owner).2.scopes.size := by
      rw [size_push]
      exact Nat.lt_succ_of_lt hid
    have hne : id ≠ ⟨a.scopes.size⟩ := by
      rintro rfl
      exact Nat.lt_irrefl _ hid
    unfold Sections.popped
    rw [fragments_setStack, h.fragments id hlive, fragments_push, only_of_ne hne, only_nil]

/-- After a push there is something to pop. -/
theorem history_ne_nil (h : (a.push home owner).2.Extends home scope fragments b) :
    (b.stack home).history ≠ [] := by
  rw [h.history, history_push]
  exact List.cons_ne_nil _ _

end Extends

end Sections

end TemplateEngine
