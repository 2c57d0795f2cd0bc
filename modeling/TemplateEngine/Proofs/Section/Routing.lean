import TemplateEngine.Proofs.Section.Stack

/-!
# `Section` · Texts routed to sections

What the current scopes of the sections show while templates write to a section `home` that they
push, and texts to all the others, which nobody pushes.

* **`Sections.Routed home log`**: the current scopes of the other sections are different ones, and
  show the texts that `log` lists for them, in its order.
* **`Sections.Writing home scope log`**: in addition, output for `home` goes to `scope`, which is
  none of theirs. A push of `home` starts it (`Routed.push`); an append to `home` changes this scope
  and an append to another section the log.
-/

namespace TemplateEngine

variable {δ : Type} {sections : Sections δ} {home : String} {log : List (String × String)}

namespace Sections

/-- The fragments of the current scope of a section. -/
def shown (sections : Sections δ) (name : String) : List (Fragment δ) :=
  match sections.current name with
  | some id => sections.fragments id
  | none => []

/-- The literal with a text. -/
def literal (text : String) : Fragment δ := ⟨.literal text, .normal⟩

/-- The literals that a log has for a section; empty texts leave no trace. -/
def literalsFor (name : String) (log : List (String × String)) : List (Fragment δ) :=
  log.filterMap fun entry =>
    if entry.1 = name ∧ entry.2 ≠ "" then some (literal entry.2) else none

@[simp] theorem literalsFor_nil (name : String) : literalsFor (δ := δ) name [] = [] := rfl

theorem literalsFor_append (name : String) (log more : List (String × String)) :
    literalsFor (δ := δ) name (log ++ more) = literalsFor name log ++ literalsFor name more :=
  List.filterMap_append

theorem literalsFor_self {text : String} (h : text ≠ "") (name : String) :
    literalsFor (δ := δ) name [(name, text)] = [literal text] := by
  simp [literalsFor, h]

theorem literalsFor_of_ne {name other : String} (h : other ≠ name) (text : String) :
    literalsFor (δ := δ) name [(other, text)] = [] := by
  simp [literalsFor, h]

theorem literalsFor_empty (name other : String) :
    literalsFor (δ := δ) name [(other, "")] = [] := by
  simp [literalsFor]

/-! ## Routed texts -/

/-- The current scopes of the sections other than `home` are different ones and show the texts of a
log. -/
structure Routed (home : String) (log : List (String × String)) (sections : Sections δ) : Prop where
  /-- The scopes exist. -/
  within : ∀ name, name ≠ home → ∀ id, sections.current name = some id →
    id.index < sections.scopes.size
  /-- No two sections have one scope. -/
  apart : ∀ name other, name ≠ home → other ≠ home → name ≠ other → ∀ id,
    sections.current name = some id → sections.current other ≠ some id
  /-- They show what was routed to them. -/
  shown : ∀ name, name ≠ home → sections.shown name = literalsFor name log

/-- Sections without scopes show nothing. -/
theorem routed_empty (home : String) : (empty : Sections δ).Routed home [] where
  within _ _ _ h := by cases h
  apart _ _ _ _ _ _ h := by cases h
  shown _ _ := rfl

/-- What leaves the other sections and their scopes as they are makes no difference. -/
theorem Routed.congr {after : Sections δ} (h : sections.Routed home log)
    (hsize : sections.scopes.size ≤ after.scopes.size)
    (hcurrent : ∀ name, name ≠ home → after.current name = sections.current name)
    (hfragments : ∀ name, name ≠ home → ∀ id, sections.current name = some id →
      after.fragments id = sections.fragments id) : after.Routed home log where
  within name hname id hid := by
    rw [hcurrent name hname] at hid
    exact Nat.lt_of_lt_of_le (h.within name hname id hid) hsize
  apart name other hname hother hne id hid := by
    rw [hcurrent name hname] at hid
    rw [hcurrent other hother]
    exact h.apart name other hname hother hne id hid
  shown name hname := by
    rw [← h.shown name hname]
    unfold Sections.shown
    rw [hcurrent name hname]
    rcases hid : sections.current name with _ | id
    · rfl
    · exact hfragments name hname id hid

theorem current_setStack_of_ne {name : String} (h : name ≠ home) (stack : Stack) :
    (sections.setStack home stack).current name = sections.current name := by
  unfold current
  rw [stack_setStack_of_ne h]

/-- A change of the section `home` makes no difference. -/
theorem Routed.setStack (h : sections.Routed home log) (stack : Stack) :
    (sections.setStack home stack).Routed home log :=
  h.congr (Nat.le_refl _) (fun _ hname => current_setStack_of_ne hname stack) fun _ _ _ _ => rfl

/-! ## Takings -/

/-- What is taken from a section is what it shows. -/
theorem shown_of_takeCurrent {name : String} {taken : Option ScopeId} {after : Sections δ}
    (h : sections.takeCurrent name = .ok (taken, after)) :
    sections.shown name = (taken.map sections.fragments).getD [] := by
  obtain ⟨rfl, -⟩ := takeCurrent_cases h
  unfold Sections.shown
  rcases sections.current name with _ | id <;> rfl

/-- The other sections show the same afterwards. -/
theorem shown_takeCurrent_of_ne {name other : String} {taken : Option ScopeId}
    {after : Sections δ} (h : sections.takeCurrent name = .ok (taken, after))
    (hne : other ≠ name) : after.shown other = sections.shown other := by
  obtain ⟨-, rfl⟩ := takeCurrent_cases h
  unfold Sections.shown
  rw [current_setStack_of_ne hne]
  rcases sections.current other with _ | id <;> rfl

/-- A section that nothing was appended to shows nothing. -/
theorem shown_of_takeCurrent_error {name : String} {fault : Fault}
    (h : sections.takeCurrent name = .error fault) : sections.shown name = [] := by
  unfold takeCurrent at h
  rcases hfind : sections.named.find? name with _ | stack
  · unfold Sections.shown Sections.current Sections.stack
    rw [hfind]
    rfl
  · rw [hfind] at h
    cases h

/-! ## Writing -/

/-- Output for `home` goes to a scope of its own. -/
structure Writing (home : String) (scope : ScopeId) (log : List (String × String))
    (sections : Sections δ) : Prop extends sections.Routed home log where
  /-- The scope is the current one. -/
  current : sections.current home = some scope
  /-- It exists. -/
  live : scope.index < sections.scopes.size
  /-- It is of no other section. -/
  own : ∀ name, name ≠ home → sections.current name ≠ some scope

/-- After a push, output goes to the new scope. -/
theorem Routed.push (h : sections.Routed home log) (owner : String) :
    (sections.push home owner).2.Writing home ⟨sections.scopes.size⟩ log := by
  have hcurrent : ∀ name, name ≠ home →
      (sections.push home owner).2.current name = sections.current name := by
    intro name hname
    unfold Sections.current
    rw [stack_push_of_ne hname]
  have hrouted : (sections.push home owner).2.Routed home log := by
    refine h.congr ?_ hcurrent fun name hname id _ => fragments_push sections home owner id
    rw [size_push]
    exact Nat.le_succ _
  refine { hrouted with current := ?_, live := ?_, own := ?_ }
  · unfold Sections.current
    rw [stack_push_self]
    rfl
  · rw [size_push]
    exact Nat.lt_succ_self _
  · intro name hname hid
    rw [hcurrent name hname] at hid
    exact Nat.lt_irrefl _ (h.within name hname _ hid)

namespace Writing

variable {scope : ScopeId}

theorem target_home (h : sections.Writing home scope log) : sections.target home = scope := by
  unfold target
  rw [h.current, Option.getD_some]

/-- An append to `home` goes to its scope. -/
theorem add_home (h : sections.Writing home scope log) (owner : String) (fragment : Fragment δ) :
    (sections.add home owner fragment).2.Writing home scope log ∧
      (sections.add home owner fragment).2.fragments scope =
        sections.fragments scope ++ [fragment] := by
  have hlive : ∀ id, sections.current home = some id → id.index < sections.scopes.size := by
    intro id hid
    cases h.current.symm.trans hid
    exact h.live
  have hrouted : (sections.add home owner fragment).2.Routed home log := by
    refine h.toRouted.congr (size_le_add _ _ _ _)
      (fun name hname => current_add_of_ne hname sections owner fragment) fun name hname id hid => ?_
    have hne : id ≠ sections.target home := by
      rw [h.target_home]
      exact fun heq => h.own name hname (heq ▸ hid)
    exact fragments_add_of_ne hne owner fragment
  refine ⟨{ hrouted with current := ?_, live := ?_, own := ?_ }, ?_⟩
  · rw [current_add_self, h.target_home]
  · exact Nat.lt_of_lt_of_le h.live (size_le_add _ _ _ _)
  · intro name hname
    rw [current_add_of_ne hname]
    exact h.own name hname
  · rw [← h.target_home]
    exact fragments_add_self hlive owner fragment

/-- An empty text leaves no trace. -/
theorem add_empty (h : sections.Writing home scope log) (name : String) :
    sections.Writing home scope (log ++ [(name, "")]) := by
  refine { h with shown := fun other hother => ?_ }
  rw [literalsFor_append, literalsFor_empty, List.append_nil]
  exact h.shown other hother

/-- The scope that another section is appended to is of no third one. -/
theorem target_ne (h : sections.Writing home scope log) {name : String} (hname : name ≠ home)
    {other : String} (hother : other ≠ home) (hne : other ≠ name) {id : ScopeId}
    (hid : sections.current other = some id) : id ≠ sections.target name := by
  unfold target
  rcases hc : sections.current name with _ | place
  · intro heq
    have hlt := h.within other hother id hid
    rw [heq] at hlt
    exact Nat.lt_irrefl _ hlt
  · rintro rfl
    exact h.apart other name hother hname hne _ hid hc

/-- An append to another section shows there. -/
theorem add_other (h : sections.Writing home scope log) {name : String} (hname : name ≠ home)
    (owner : String) {text : String} (htext : text ≠ "") :
    (sections.add name owner (literal text)).2.Writing home scope (log ++ [(name, text)]) ∧
      (sections.add name owner (literal text)).2.fragments scope = sections.fragments scope := by
  have hlive : ∀ id, sections.current name = some id → id.index < sections.scopes.size :=
    h.within name hname
  have hscope : scope ≠ sections.target name := by
    unfold target
    rcases hc : sections.current name with _ | place
    · intro heq
      have hlt := h.live
      rw [heq] at hlt
      exact Nat.lt_irrefl _ hlt
    · rintro rfl
      exact h.own name hname hc
  have hhome : home ≠ name := fun heq => hname heq.symm
  refine ⟨{ within := ?_, apart := ?_, shown := ?_, current := ?_, live := ?_, own := ?_ }, ?_⟩
  · intro other hother id hid
    by_cases hne : other = name
    · subst hne
      rw [current_add_self] at hid
      cases hid
      exact target_lt_size_add hlive owner (literal text)
    · rw [current_add_of_ne hne] at hid
      exact Nat.lt_of_lt_of_le (h.within other hother id hid) (size_le_add _ _ _ _)
  · intro a b ha hb hab id hid hid'
    by_cases hane : a = name
    · subst hane
      rw [current_add_self] at hid
      rw [current_add_of_ne hab.symm] at hid'
      cases hid
      exact h.target_ne ha hb hab.symm hid' rfl
    · rw [current_add_of_ne hane] at hid
      by_cases hbne : b = name
      · subst hbne
        rw [current_add_self] at hid'
        cases hid'
        exact h.target_ne hb ha hane hid rfl
      · rw [current_add_of_ne hbne] at hid'
        exact h.apart a b ha hb hab id hid hid'
  · intro other hother
    rw [literalsFor_append, ← h.shown other hother]
    unfold Sections.shown
    by_cases hne : other = name
    · subst hne
      rw [current_add_self, literalsFor_self htext]
      dsimp only
      rw [fragments_add_self hlive]
      rcases hc : sections.current other with _ | id
      · have hnew : sections.fragments ⟨sections.scopes.size⟩ = [] :=
          fragments_of_le (Nat.le_refl _)
        rw [target, hc, Option.getD_none, hnew]
      · rw [target, hc, Option.getD_some]
    · rw [current_add_of_ne hne, literalsFor_of_ne fun heq => hne heq.symm, List.append_nil]
      rcases hc : sections.current other with _ | id
      · rfl
      · exact fragments_add_of_ne (h.target_ne hname hother hne hc) owner (literal text)
  · rw [current_add_of_ne hhome]
    exact h.current
  · exact Nat.lt_of_lt_of_le h.live (size_le_add _ _ _ _)
  · intro other hother hid
    by_cases hne : other = name
    · subst hne
      rw [current_add_self] at hid
      cases hid
      exact hscope rfl
    · rw [current_add_of_ne hne] at hid
      exact h.own other hother hid
  · exact fragments_add_of_ne hscope owner (literal text)

end Writing

end Sections

end TemplateEngine
