import TemplateEngine.Section.Stack

/-!
# `Section` · What the operations change

The sections and the scopes after a push, an append, a pop and a taking.

* **Sections.** Each operation changes the section that it names and no other one (`stack_push_of_ne`
  and its like); only pushes and pops change a history.
* **Scopes.** They are never removed. A push makes one, an append makes one for a section that has
  none (`target`), and only appends add fragments (`mem_fragments_add`).
-/

namespace TemplateEngine

variable {δ : Type} {sections : Sections δ} {name other owner : String}

namespace Sections

/-! ## Sections and scopes -/

@[simp] theorem scopes_setStack (sections : Sections δ) (name : String) (stack : Stack) :
    (sections.setStack name stack).scopes = sections.scopes := rfl

@[simp] theorem fragments_setStack (sections : Sections δ) (name : String) (stack : Stack)
    (id : ScopeId) : (sections.setStack name stack).fragments id = sections.fragments id := rfl

@[simp] theorem stack_setStack_self (sections : Sections δ) (name : String) (stack : Stack) :
    (sections.setStack name stack).stack name = stack := by
  simp [Sections.stack, setStack, Dictionary.find?_insert]

theorem stack_setStack_of_ne (h : other ≠ name) (sections : Sections δ) (stack : Stack) :
    (sections.setStack name stack).stack other = sections.stack other := by
  simp [Sections.stack, setStack, Dictionary.find?_insert, h]

@[simp] theorem stack_newScope (sections : Sections δ) (owner name : String) :
    (sections.newScope owner).2.stack name = sections.stack name := rfl

@[simp] theorem size_newScope (sections : Sections δ) (owner : String) :
    (sections.newScope owner).2.scopes.size = sections.scopes.size + 1 :=
  Array.size_push _

/-- A scope that does not exist has no fragments. -/
theorem fragments_of_le {id : ScopeId} (h : sections.scopes.size ≤ id.index) :
    sections.fragments id = [] := by
  unfold fragments scope?
  rw [Array.getElem?_eq_none h]

/-- A new scope is empty. -/
@[simp] theorem fragments_newScope (sections : Sections δ) (owner : String) (id : ScopeId) :
    (sections.newScope owner).2.fragments id = sections.fragments id := by
  unfold fragments scope? newScope
  rw [Array.getElem?_push]
  by_cases h : id.index = sections.scopes.size
  · rw [if_pos h, Array.getElem?_eq_none (Nat.le_of_eq h.symm)]
  · rw [if_neg h]

@[simp] theorem stack_addTo (sections : Sections δ) (id : ScopeId) (fragment : Fragment δ)
    (name : String) : (sections.addTo id fragment).2.stack name = sections.stack name := rfl

@[simp] theorem size_addTo (sections : Sections δ) (id : ScopeId) (fragment : Fragment δ) :
    (sections.addTo id fragment).2.scopes.size = sections.scopes.size :=
  Array.size_modify

/-- A fragment that is appended to a scope comes last there. -/
theorem fragments_addTo_self {id : ScopeId} (h : id.index < sections.scopes.size)
    (fragment : Fragment δ) :
    (sections.addTo id fragment).2.fragments id = sections.fragments id ++ [fragment] := by
  unfold fragments scope? addTo
  simp only [Array.getElem?_modify, if_true, Array.getElem?_eq_getElem h, Option.map_some]
  exact Array.toList_push

theorem fragments_addTo_of_ne {id place : ScopeId} (h : id ≠ place) (sections : Sections δ)
    (fragment : Fragment δ) :
    (sections.addTo place fragment).2.fragments id = sections.fragments id := by
  have hne : ¬place.index = id.index := fun hi => h (by cases id; cases place; simp_all)
  unfold fragments scope? addTo
  simp [Array.getElem?_modify, hne]

theorem mem_fragments_addTo {id place : ScopeId} {added fragment : Fragment δ}
    (h : fragment ∈ (sections.addTo place added).2.fragments id) :
    fragment = added ∨ fragment ∈ sections.fragments id := by
  by_cases hid : id = place
  · subst hid
    by_cases hlt : id.index < sections.scopes.size
    · rw [fragments_addTo_self hlt, List.mem_append, List.mem_singleton] at h
      exact h.symm
    · rw [fragments_of_le (by rw [size_addTo]; exact Nat.le_of_not_lt hlt)] at h
      cases h
  · rw [fragments_addTo_of_ne hid] at h
    exact .inr h

/-! ## Pushes -/

@[simp] theorem push_fst (sections : Sections δ) (name owner : String) :
    (sections.push name owner).1 = ⟨sections.scopes.size⟩ := rfl

@[simp] theorem size_push (sections : Sections δ) (name owner : String) :
    (sections.push name owner).2.scopes.size = sections.scopes.size + 1 :=
  Array.size_push _

@[simp] theorem fragments_push (sections : Sections δ) (name owner : String) (id : ScopeId) :
    (sections.push name owner).2.fragments id = sections.fragments id :=
  fragments_newScope sections owner id

@[simp] theorem stack_push_self (sections : Sections δ) (name owner : String) :
    (sections.push name owner).2.stack name =
      (sections.stack name).push ⟨sections.scopes.size⟩ :=
  stack_setStack_self _ _ _

theorem stack_push_of_ne (h : other ≠ name) (sections : Sections δ) (owner : String) :
    (sections.push name owner).2.stack other = sections.stack other :=
  stack_setStack_of_ne h _ _

/-! ## Appends -/

/-- The scope that an append to a section goes to: the current one, or else one that is made. -/
def target (sections : Sections δ) (name : String) : ScopeId :=
  (sections.current name).getD ⟨sections.scopes.size⟩

theorem add_of_some {id : ScopeId} (h : sections.current name = some id) (owner : String)
    (fragment : Fragment δ) :
    sections.add name owner fragment =
      (sections.setStack name (sections.stack name)).addTo id fragment := by
  have h : (sections.stack name).current = some id := h
  simp only [add, h]

theorem add_of_none (h : sections.current name = none) (owner : String) (fragment : Fragment δ) :
    sections.add name owner fragment =
      ((sections.newScope owner).2.setStack name
        { sections.stack name with current := some ⟨sections.scopes.size⟩ }).addTo
          ⟨sections.scopes.size⟩ fragment := by
  have h : (sections.stack name).current = none := h
  simp only [add, h]
  rfl

/-- The section that is appended to has a scope afterwards, and keeps its history. -/
@[simp] theorem stack_add_self (sections : Sections δ) (name owner : String)
    (fragment : Fragment δ) :
    (sections.add name owner fragment).2.stack name =
      { sections.stack name with current := some (sections.target name) } := by
  rcases h : sections.current name with _ | id
  · rw [add_of_none h, stack_addTo, stack_setStack_self, target, h]
    rfl
  · have hstack : (sections.stack name).current = some id := h
    rw [add_of_some h, stack_addTo, stack_setStack_self, target, h, Option.getD_some, ← hstack]

theorem stack_add_of_ne (hne : other ≠ name) (sections : Sections δ) (owner : String)
    (fragment : Fragment δ) :
    (sections.add name owner fragment).2.stack other = sections.stack other := by
  rcases h : sections.current name with _ | id
  · rw [add_of_none h, stack_addTo, stack_setStack_of_ne hne, stack_newScope]
  · rw [add_of_some h, stack_addTo, stack_setStack_of_ne hne]

theorem size_add_of_some {id : ScopeId} (h : sections.current name = some id) (owner : String)
    (fragment : Fragment δ) :
    (sections.add name owner fragment).2.scopes.size = sections.scopes.size := by
  rw [add_of_some h, size_addTo, scopes_setStack]

theorem size_add_of_none (h : sections.current name = none) (owner : String)
    (fragment : Fragment δ) :
    (sections.add name owner fragment).2.scopes.size = sections.scopes.size + 1 := by
  rw [add_of_none h, size_addTo, scopes_setStack, size_newScope]

theorem size_le_add (sections : Sections δ) (name owner : String) (fragment : Fragment δ) :
    sections.scopes.size ≤ (sections.add name owner fragment).2.scopes.size := by
  rcases h : sections.current name with _ | id
  · rw [size_add_of_none h]
    exact Nat.le_succ _
  · exact Nat.le_of_eq (size_add_of_some h owner fragment).symm

/-- The scope that is appended to is the current one afterwards. -/
@[simp] theorem current_add_self (sections : Sections δ) (name owner : String)
    (fragment : Fragment δ) :
    (sections.add name owner fragment).2.current name = some (sections.target name) := by
  unfold current
  rw [stack_add_self]

theorem current_add_of_ne (hne : other ≠ name) (sections : Sections δ) (owner : String)
    (fragment : Fragment δ) :
    (sections.add name owner fragment).2.current other = sections.current other := by
  unfold current
  rw [stack_add_of_ne hne]

theorem history_add (sections : Sections δ) (name other owner : String) (fragment : Fragment δ) :
    ((sections.add name owner fragment).2.stack other).history =
      (sections.stack other).history := by
  by_cases hother : other = name
  · rw [hother, stack_add_self]
  · rw [stack_add_of_ne hother]

/-- The scope that is appended to exists afterwards. -/
theorem target_lt_size_add
    (h : ∀ id, sections.current name = some id → id.index < sections.scopes.size) (owner : String)
    (fragment : Fragment δ) :
    (sections.target name).index < (sections.add name owner fragment).2.scopes.size := by
  rcases hc : sections.current name with _ | id
  · rw [size_add_of_none hc, target, hc]
    exact Nat.lt_succ_self _
  · rw [size_add_of_some hc, target, hc]
    exact h id hc

/-- The fragment that is appended comes last in its scope. -/
theorem fragments_add_self
    (h : ∀ id, sections.current name = some id → id.index < sections.scopes.size) (owner : String)
    (fragment : Fragment δ) :
    (sections.add name owner fragment).2.fragments (sections.target name) =
      sections.fragments (sections.target name) ++ [fragment] := by
  rcases hc : sections.current name with _ | id
  · rw [add_of_none hc, target, hc, Option.getD_none, fragments_addTo_self (by simp)]
    simp
  · rw [add_of_some hc, target, hc, Option.getD_some,
      fragments_addTo_self (by simpa using h id hc), fragments_setStack]

/-- Other scopes are left as they are. -/
theorem fragments_add_of_ne {id : ScopeId} (hne : id ≠ sections.target name) (owner : String)
    (fragment : Fragment δ) :
    (sections.add name owner fragment).2.fragments id = sections.fragments id := by
  unfold target at hne
  rcases hc : sections.current name with _ | place
  · rw [hc, Option.getD_none] at hne
    rw [add_of_none hc, fragments_addTo_of_ne hne, fragments_setStack, fragments_newScope]
  · rw [hc, Option.getD_some] at hne
    rw [add_of_some hc, fragments_addTo_of_ne hne, fragments_setStack]

theorem mem_fragments_add {id : ScopeId} {added fragment : Fragment δ}
    (h : fragment ∈ (sections.add name owner added).2.fragments id) :
    fragment = added ∨ fragment ∈ sections.fragments id := by
  rcases hc : sections.current name with _ | place
  · rw [add_of_none hc] at h
    simpa using mem_fragments_addTo h
  · rw [add_of_some hc] at h
    simpa using mem_fragments_addTo h

/-! ## Pops and takings -/

/-- A section with something pushed is popped, which leaves the scopes as they are. -/
theorem pop_of_history {restored : Option ScopeId} {rest : List (Option ScopeId)}
    (h : (sections.stack name).history = restored :: rest) :
    sections.pop name = .ok (sections.current name,
      sections.setStack name ⟨restored, rest, sections.current name⟩) := by
  unfold Sections.current
  unfold Sections.stack at h ⊢
  unfold pop
  rcases hfind : sections.named.find? name with _ | stack
  · rw [hfind] at h
    cases h
  · rw [hfind, Option.getD_some] at h
    simp only [Stack.pop?, h, Option.getD_some]

/-- The sections after the last push of one of them is popped. -/
def popped (sections : Sections δ) (name : String) : Sections δ :=
  sections.setStack name ⟨(sections.stack name).history.headD none,
    (sections.stack name).history.tail, sections.current name⟩

/-- A pop that succeeds had something to pop. -/
theorem history_of_pop {popped : Option ScopeId} {after : Sections δ}
    (h : sections.pop name = .ok (popped, after)) :
    ∃ restored rest, (sections.stack name).history = restored :: rest := by
  rcases hh : (sections.stack name).history with _ | ⟨restored, rest⟩
  · unfold Sections.stack at hh
    unfold pop at h
    rcases hfind : sections.named.find? name with _ | stack
    · rw [hfind] at h
      cases h
    · rw [hfind, Option.getD_some] at hh
      rw [hfind] at h
      simp only [Stack.pop?, hh] at h
      cases h
  · exact ⟨restored, rest, rfl⟩

theorem fragments_pop {popped : Option ScopeId} {after : Sections δ}
    (h : sections.pop name = .ok (popped, after)) (id : ScopeId) :
    after.fragments id = sections.fragments id := by
  obtain ⟨restored, rest, hhistory⟩ := history_of_pop h
  rw [pop_of_history hhistory] at h
  cases h
  rfl

@[simp] theorem fragments_popped (sections : Sections δ) (name : String) (id : ScopeId) :
    (sections.popped name).fragments id = sections.fragments id := rfl

/-- What taking the current scope of a section does, if the section exists. -/
theorem takeCurrent_cases {taken : Option ScopeId} {after : Sections δ}
    (h : sections.takeCurrent name = .ok (taken, after)) :
    taken = sections.current name ∧
      after = sections.setStack name ((sections.stack name).take).2 := by
  unfold takeCurrent at h
  rcases hfind : sections.named.find? name with _ | stack
  · rw [hfind] at h
    cases h
  · rw [hfind] at h
    obtain ⟨rfl, rfl⟩ : stack.take.1 = taken ∧ sections.setStack name stack.take.2 = after := by
      simpa using h
    have hstack : sections.stack name = stack := by
      unfold Sections.stack
      rw [hfind, Option.getD_some]
    rw [hstack]
    refine ⟨?_, rfl⟩
    rw [current, hstack]
    unfold Stack.take
    rcases hc : stack.current with _ | id <;> rfl

/-- A section that cannot be taken from does not exist. -/
theorem takeCurrent_error {fault : Fault} (h : sections.takeCurrent name = .error fault) :
    fault = .missing name := by
  unfold takeCurrent at h
  rcases hfind : sections.named.find? name with _ | stack
  · rw [hfind] at h
    cases h
    rfl
  · rw [hfind] at h
    cases h

end Sections

@[simp] theorem Stack.history_take (stack : Stack) : stack.take.2.history = stack.history := by
  unfold Stack.take
  rcases h : stack.current with _ | id <;> rfl

@[simp] theorem Stack.current_take (stack : Stack) : stack.take.2.current = none := by
  unfold Stack.take
  rcases h : stack.current with _ | id
  · exact h
  · rfl

end TemplateEngine
