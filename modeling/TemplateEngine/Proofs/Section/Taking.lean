import Mathlib.Data.List.ReduceOption
import TemplateEngine.Proofs.Section.Stack

/-!
# `Section` · Where a scope is

A scope of a request is in at most one place: it is current in one section, or waits in the history
of one, once.

* **`Stack.scopes`** are the scopes that a section has in these places.
* **`Sections.Distinct gone`**: no scope is in two places, and none of those in `gone`, which were
  taken or popped before and are different from each other, is in any place.
* Pushes and appends bring in scopes that are new. A taking or a pop removes the current one, which
  then may count as gone (`Distinct.take`, `Distinct.popSome`). Hence none is removed twice.
-/

namespace TemplateEngine

variable {δ : Type} {S T : Sections δ} {gone : List ScopeId} {name : String}

/-- The scopes of a section that are current or wait in its history. -/
def Stack.scopes (stack : Stack) : List ScopeId :=
  (stack.current :: stack.history).reduceOption

/-- The scopes below the current one are those in the history. -/
theorem Stack.history_sublist_scopes (stack : Stack) :
    (stack.history.reduceOption).Sublist stack.scopes :=
  (List.sublist_cons_self _ _).filterMap _

namespace Sections

/-- No scope is in two places, and those that are gone are in none. -/
structure Distinct (gone : List ScopeId) (S : Sections δ) : Prop where
  /-- No section has a scope twice. -/
  once : ∀ name, (S.stack name).scopes.Nodup
  /-- No two sections have one scope. -/
  apart : ∀ {name other scope}, scope ∈ (S.stack name).scopes → scope ∈ (S.stack other).scopes →
    name = other
  /-- The scopes of sections were made. -/
  made : ∀ {name scope}, scope ∈ (S.stack name).scopes → scope.index < S.scopes.size
  /-- They are not gone. -/
  stays : ∀ {name scope}, scope ∈ (S.stack name).scopes → scope ∉ gone
  /-- The scopes that are gone were made. -/
  goneMade : ∀ {scope}, scope ∈ gone → scope.index < S.scopes.size
  /-- None of them went twice. -/
  goneOnce : gone.Nodup

theorem distinct_empty : (empty : Sections δ).Distinct [] where
  once _ := List.nodup_nil
  apart h := nomatch h
  made h := nomatch h
  stays h := nomatch h
  goneMade h := nomatch h
  goneOnce := List.nodup_nil

/-- One section may lose scopes and get new ones. -/
theorem Distinct.replace (h : S.Distinct gone) (name : String)
    (hsize : S.scopes.size ≤ T.scopes.size)
    (hother : ∀ other, other ≠ name → T.stack other = S.stack other)
    (honce : (T.stack name).scopes.Nodup)
    (hmem : ∀ scope ∈ (T.stack name).scopes, scope ∈ (S.stack name).scopes ∨
      S.scopes.size ≤ scope.index ∧ scope.index < T.scopes.size) : T.Distinct gone := by
  have hcases : ∀ {other scope}, scope ∈ (T.stack other).scopes →
      scope ∈ (S.stack other).scopes ∨
        other = name ∧ S.scopes.size ≤ scope.index ∧ scope.index < T.scopes.size := by
    intro other scope hscope
    by_cases hne : other = name
    · rw [hne] at hscope ⊢
      exact (hmem scope hscope).imp_right fun hnew => ⟨rfl, hnew⟩
    · rw [hother other hne] at hscope
      exact .inl hscope
  refine ⟨fun other => ?_, fun ha hb => ?_, fun ha => ?_, fun ha hgone => ?_, fun ha => ?_,
    h.goneOnce⟩
  · by_cases hne : other = name
    · exact hne ▸ honce
    · rw [hother other hne]
      exact h.once other
  · rcases hcases ha with ha | ⟨rfl, hnew, -⟩
    · rcases hcases hb with hb | ⟨-, hnew, -⟩
      · exact h.apart ha hb
      · exact absurd (h.made ha) (Nat.not_lt.2 hnew)
    · rcases hcases hb with hb | ⟨rfl, -⟩
      · exact absurd (h.made hb) (Nat.not_lt.2 hnew)
      · rfl
  · rcases hcases ha with ha | ⟨-, -, hlt⟩
    · exact Nat.lt_of_lt_of_le (h.made ha) hsize
    · exact hlt
  · rcases hcases ha with ha | ⟨-, hnew, -⟩
    · exact h.stays ha hgone
    · exact Nat.not_lt.2 hnew (h.goneMade hgone)
  · exact Nat.lt_of_lt_of_le (h.goneMade ha) hsize

/-- A section that loses scopes. -/
theorem Distinct.setStack (h : S.Distinct gone) {stack : Stack}
    (hstack : stack.scopes.Sublist (S.stack name).scopes) :
    (S.setStack name stack).Distinct gone := by
  refine h.replace name (Nat.le_refl _) (fun other hne => stack_setStack_of_ne hne S stack)
    ?_ fun scope hscope => ?_
  · rw [stack_setStack_self]
    exact hstack.nodup (h.once name)
  · rw [stack_setStack_self] at hscope
    exact .inl (hstack.subset hscope)

/-- A section that gets the next scope on top. -/
theorem Distinct.grown (h : S.Distinct gone) (name : String)
    (hsize : S.scopes.size < T.scopes.size)
    (hother : ∀ other, other ≠ name → T.stack other = S.stack other)
    (hscopes : (T.stack name).scopes = ⟨S.scopes.size⟩ :: (S.stack name).scopes) :
    T.Distinct gone := by
  refine h.replace name (Nat.le_of_lt hsize) hother ?_ fun scope hscope => ?_
  · rw [hscopes]
    exact List.nodup_cons.2 ⟨fun hmem => Nat.lt_irrefl _ (h.made hmem), h.once name⟩
  · rw [hscopes] at hscope
    rcases List.mem_cons.1 hscope with rfl | hscope
    · exact .inr ⟨Nat.le_refl _, hsize⟩
    · exact .inl hscope

theorem Distinct.push (h : S.Distinct gone) (name owner : String) :
    (S.push name owner).2.Distinct gone := by
  refine h.grown name ?_ (fun other hne => stack_push_of_ne hne S owner) ?_
  · rw [size_push]
    exact Nat.lt_succ_self _
  · rw [stack_push_self]
    rfl

theorem Distinct.add (h : S.Distinct gone) (name owner : String) (fragment : Fragment δ) :
    (S.add name owner fragment).2.Distinct gone := by
  have hother : ∀ other, other ≠ name →
      (S.add name owner fragment).2.stack other = S.stack other :=
    fun other hne => stack_add_of_ne hne S owner fragment
  have hstack := stack_add_self S name owner fragment
  rcases hc : S.current name with _ | id
  · refine h.grown name ?_ hother ?_
    · rw [size_add_of_none hc]
      exact Nat.lt_succ_self _
    · have hcurrent : (S.stack name).current = none := hc
      rw [hstack, target, hc]
      simp only [Stack.scopes, hcurrent, List.reduceOption_cons_of_none]
      rfl
  · have hsame : (S.add name owner fragment).2.stack name = S.stack name := by
      have hcurrent : (S.stack name).current = some id := hc
      rw [hstack, target, hc, Option.getD_some, ← hcurrent]
    refine h.replace name (size_le_add S name owner fragment) hother ?_ fun scope hscope => ?_
    · rw [hsame]
      exact h.once name
    · rw [hsame] at hscope
      exact .inl hscope

theorem Distinct.pop (h : S.Distinct gone) {popped : Option ScopeId} {after : Sections δ}
    (hpop : S.pop name = .ok (popped, after)) : after.Distinct gone := by
  obtain ⟨restored, rest, hhistory⟩ := history_of_pop hpop
  rw [pop_of_history hhistory] at hpop
  cases hpop
  refine h.setStack ?_
  have hsublist := (S.stack name).history_sublist_scopes
  rw [hhistory] at hsublist
  exact hsublist

theorem Distinct.takeNone (h : S.Distinct gone) {after : Sections δ}
    (htake : S.takeCurrent name = .ok (none, after)) : after.Distinct gone := by
  obtain ⟨-, rfl⟩ := takeCurrent_cases htake
  refine h.setStack ?_
  unfold Stack.scopes
  rw [Stack.current_take, Stack.history_take]
  exact (S.stack name).history_sublist_scopes

/-- The current scope of a section that is replaced by what was below it is gone, and was not
before. -/
theorem Distinct.leave (h : S.Distinct gone) {scope : ScopeId}
    (hcurrent : S.current name = some scope) {stack : Stack}
    (hstack : stack.scopes = (S.stack name).history.reduceOption) :
    (S.setStack name stack).Distinct (scope :: gone) := by
  have hcurrent : (S.stack name).current = some scope := hcurrent
  have hscopes : (S.stack name).scopes = scope :: (S.stack name).history.reduceOption := by
    unfold Stack.scopes
    rw [hcurrent, List.reduceOption_cons_of_some]
  have hmem : scope ∈ (S.stack name).scopes := by
    rw [hscopes]
    exact List.mem_cons_self
  have hleft : ((S.setStack name stack).stack name).scopes =
      (S.stack name).history.reduceOption := by
    rw [stack_setStack_self, hstack]
  have hrest : (S.setStack name stack).Distinct gone := by
    apply h.setStack
    rw [hstack]
    exact (S.stack name).history_sublist_scopes
  refine ⟨hrest.once, hrest.apart, hrest.made, fun {other found} hfound hgone => ?_,
    fun {found} hgone => ?_, List.nodup_cons.2 ⟨h.stays hmem, h.goneOnce⟩⟩
  · rcases List.mem_cons.1 hgone with rfl | hgone
    · -- What is left of the section that the scope was in does not have it a second time.
      by_cases hne : other = name
      · rw [hne, hleft] at hfound
        have honce := h.once name
        rw [hscopes] at honce
        exact (List.nodup_cons.1 honce).1 hfound
      · rw [stack_setStack_of_ne hne] at hfound
        exact hne (h.apart hfound hmem)
    · exact hrest.stays hfound hgone
  · rcases List.mem_cons.1 hgone with rfl | hgone
    · exact h.made hmem
    · exact h.goneMade hgone

/-- A scope that is taken is gone, and was not before. -/
theorem Distinct.take (h : S.Distinct gone) {scope : ScopeId} {after : Sections δ}
    (htake : S.takeCurrent name = .ok (some scope, after)) : after.Distinct (scope :: gone) := by
  obtain ⟨hscope, rfl⟩ := takeCurrent_cases htake
  apply h.leave hscope.symm
  unfold Stack.scopes
  rw [Stack.current_take, Stack.history_take, List.reduceOption_cons_of_none]

/-- A scope that is popped is gone, and was not before. -/
theorem Distinct.popSome (h : S.Distinct gone) {scope : ScopeId} {after : Sections δ}
    (hpop : S.pop name = .ok (some scope, after)) : after.Distinct (scope :: gone) := by
  obtain ⟨restored, rest, hhistory⟩ := history_of_pop hpop
  rw [pop_of_history hhistory] at hpop
  obtain ⟨hscope, rfl⟩ := Prod.mk.inj (Except.ok.inj hpop)
  apply h.leave hscope
  rw [hhistory]
  rfl

end Sections

end TemplateEngine
