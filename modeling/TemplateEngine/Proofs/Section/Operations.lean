import Mathlib.Data.List.Induction
import Mathlib.Data.List.Infix
import Mathlib.Data.List.Nodup
import TemplateEngine.Proofs.Section.Taking

/-!
# `Section` · Sequences of operations

What holds of the sections of a request after any pushes, pops, appends and takings, in any order.

* **`Operation`** is one of these. **`run`** performs a sequence of them, of which those that fail
  change nothing (`after`), and **`log`** lists what each of them gave.
* **Places.** A scope is current in one section, or waits in the history of one, or it was removed
  by a pop or a taking and is in no place ever after (`distinct_run`). Appends only reach scopes
  that are current (`fragments_after`).
* **Depths.** Only pushes and pops of a section change its history (`history_after`), so that
  between a push and its pop what the push has saved stays at the bottom (`history_run`).
-/

namespace TemplateEngine

variable {δ : Type}

namespace Sections

/-! ## Operations -/

/-- What can be done with the sections of a request. -/
inductive Operation (δ : Type) where
  /-- Makes a fresh scope current in a section. -/
  | push (name owner : String)
  /-- Gives a section back what was current at its last push. -/
  | pop (name : String)
  /-- Appends a fragment to the current scope of a section. -/
  | add (name owner : String) (fragment : Fragment δ)
  /-- Takes the current scope of a section away. -/
  | take (name : String)

namespace Operation

/-- The section that an operation is about. -/
def name : Operation δ → String
  | .push name _ => name
  | .pop name => name
  | .add name _ _ => name
  | .take name => name

/-- The operation pushes the section. -/
def isPush (name : String) : Operation δ → Bool
  | .push other _ => other == name
  | _ => false

/-- The operation pops the section. -/
def isPop (name : String) : Operation δ → Bool
  | .pop other => other == name
  | _ => false

end Operation

/-- The scope that an operation removes from its section, if it removes one, and the sections after
it. -/
def perform (S : Sections δ) : Operation δ → Except Fault (Option ScopeId × Sections δ)
  | .push name owner => .ok (none, (S.push name owner).2)
  | .pop name => S.pop name
  | .add name owner fragment => .ok (none, (S.add name owner fragment).2)
  | .take name => S.takeCurrent name

/-- The sections after an operation; one that fails changes nothing. -/
def after (S : Sections δ) (operation : Operation δ) : Sections δ :=
  match S.perform operation with
  | .ok (_, T) => T
  | .error _ => S

/-- The sections after a sequence of operations. -/
def run (S : Sections δ) (operations : List (Operation δ)) : Sections δ :=
  operations.foldl after S

/-- An operation and what it gave. -/
abbrev Entry (δ : Type) := Operation δ × Except Fault (Option ScopeId)

/-- What an operation gives. -/
def entry (S : Sections δ) (operation : Operation δ) : Entry δ :=
  (operation, (S.perform operation).map (·.1))

/-- What the operations of a sequence give, the first one first. -/
def log (S : Sections δ) : List (Operation δ) → List (Entry δ)
  | [] => []
  | operation :: rest => S.entry operation :: (S.after operation).log rest

/-- The scope that a pop or a taking gave. -/
def Entry.removed? (entry : Entry δ) : Option ScopeId :=
  match entry.2 with
  | .ok scope => scope
  | .error _ => none

/-- The scopes that pops and takings gave. -/
def removed (log : List (Entry δ)) : List ScopeId := log.filterMap Entry.removed?

/-- How often a section was pushed. -/
def pushes (name : String) (log : List (Entry δ)) : Nat := log.countP (·.1.isPush name)

/-- How often a section was popped; pops that failed do not count. -/
def pops (name : String) (log : List (Entry δ)) : Nat :=
  log.countP fun entry => entry.1.isPop name && entry.2.isOk

variable {S T : Sections δ} {gone : List ScopeId} {name other : String} {scope : ScopeId}

theorem run_append (S : Sections δ) (first rest : List (Operation δ)) :
    S.run (first ++ rest) = (S.run first).run rest :=
  List.foldl_append

theorem run_concat (S : Sections δ) (operations : List (Operation δ)) (last : Operation δ) :
    S.run (operations ++ [last]) = (S.run operations).after last :=
  run_append S operations [last]

theorem log_append (S : Sections δ) (first rest : List (Operation δ)) :
    S.log (first ++ rest) = S.log first ++ (S.run first).log rest := by
  induction first generalizing S with
  | nil => rfl
  | cons operation first ih =>
    rw [List.cons_append, log, log, ih, List.cons_append]
    rfl

theorem log_concat (S : Sections δ) (operations : List (Operation δ)) (last : Operation δ) :
    S.log (operations ++ [last]) = S.log operations ++ [(S.run operations).entry last] :=
  log_append S operations [last]

/-! ## One operation -/

theorem after_of_ok {operation : Operation δ} {removed : Option ScopeId}
    (h : S.perform operation = .ok (removed, T)) : S.after operation = T := by
  simp only [after, h]

theorem after_of_error {operation : Operation δ} {fault : Fault}
    (h : S.perform operation = .error fault) : S.after operation = S := by
  simp only [after, h]

/-- A section with nothing pushed cannot be popped. -/
theorem pop_of_nil (h : (S.stack name).history = []) : ∃ fault, S.pop name = .error fault := by
  unfold Sections.stack at h
  unfold pop
  rcases hfind : S.named.find? name with _ | stack
  · exact ⟨_, rfl⟩
  · rw [hfind, Option.getD_some] at h
    simp only [Stack.pop?, h]
    exact ⟨_, rfl⟩

/-- A section can be popped exactly if something is pushed. -/
theorem isOk_entry_pop (S : Sections δ) (name : String) :
    (S.entry (.pop name)).2.isOk = true ↔ (S.stack name).history ≠ [] := by
  rcases hhistory : (S.stack name).history with _ | ⟨restored, rest⟩
  · obtain ⟨fault, hpop⟩ := pop_of_nil hhistory
    simp [entry, perform, hpop, Except.map, Except.isOk, Except.toBool]
  · simp [entry, perform, pop_of_history hhistory, Except.map, Except.isOk, Except.toBool]

theorem after_pop_of_nil (h : (S.stack name).history = []) : S.after (.pop name) = S := by
  obtain ⟨fault, hpop⟩ := pop_of_nil h
  exact after_of_error hpop

theorem after_pop_of_history {restored : Option ScopeId} {rest : List (Option ScopeId)}
    (h : (S.stack name).history = restored :: rest) :
    S.after (.pop name) = S.setStack name ⟨restored, rest, S.current name⟩ :=
  after_of_ok (pop_of_history h)

/-- A taking changes its section only, whose history stays, if it changes anything. -/
theorem after_take (S : Sections δ) (name : String) :
    S.after (.take name) = S ∨
      S.after (.take name) = S.setStack name (S.stack name).take.2 := by
  rcases htake : S.takeCurrent name with fault | ⟨taken, T⟩
  · exact .inl (after_of_error htake)
  · have hafter : S.after (.take name) = T := after_of_ok htake
    rw [hafter]
    exact .inr (takeCurrent_cases htake).2

/-- Only pushes and pops of a section change its history. -/
theorem history_after (S : Sections δ) (operation : Operation δ) (name : String) :
    ((S.after operation).stack name).history =
      if operation.isPush name then S.current name :: (S.stack name).history
      else if operation.isPop name then (S.stack name).history.tail
      else (S.stack name).history := by
  cases operation with
  | push other owner =>
    by_cases h : other = name
    · subst h
      simp [Operation.isPush, after, perform, Stack.push, Sections.current]
    · simp [Operation.isPush, Operation.isPop, after, perform, h, stack_push_of_ne (Ne.symm h)]
  | pop other =>
    rcases hhistory : (S.stack other).history with _ | ⟨restored, rest⟩
    · rw [after_pop_of_nil hhistory]
      by_cases h : other = name
      · subst h
        simp [Operation.isPush, Operation.isPop, hhistory]
      · simp [Operation.isPush, Operation.isPop, h]
    · rw [after_pop_of_history hhistory]
      by_cases h : other = name
      · subst h
        simp [Operation.isPush, Operation.isPop, hhistory]
      · simp [Operation.isPush, Operation.isPop, h, stack_setStack_of_ne (Ne.symm h)]
  | add other owner fragment => exact history_add S other name owner fragment
  | take other =>
    rcases after_take S other with hafter | hafter
    · rw [hafter]
      rfl
    · rw [hafter]
      by_cases h : other = name
      · subst h
        simp [Operation.isPush, Operation.isPop]
      · simp [Operation.isPush, Operation.isPop, stack_setStack_of_ne (Ne.symm h)]

/-- An append reaches the scope that is current in its section, or one that is new; all others stay
as they are. -/
theorem fragments_after {operation : Operation δ} (hmade : scope.index < S.scopes.size)
    (hcurrent : S.current operation.name ≠ some scope) :
    (S.after operation).fragments scope = S.fragments scope := by
  cases operation with
  | push name owner => exact fragments_push S name owner scope
  | pop name =>
    rcases hhistory : (S.stack name).history with _ | ⟨restored, rest⟩
    · rw [after_pop_of_nil hhistory]
    · rw [after_pop_of_history hhistory, fragments_setStack]
  | add name owner fragment =>
    have hcurrent : S.current name ≠ some scope := hcurrent
    apply fragments_add_of_ne
    intro htarget
    rcases hc : S.current name with _ | id
    · rw [target, hc, Option.getD_none] at htarget
      rw [htarget] at hmade
      exact Nat.lt_irrefl _ hmade
    · rw [target, hc, Option.getD_some] at htarget
      exact hcurrent (htarget ▸ hc)
  | take name =>
    rcases after_take S name with hafter | hafter
    · rw [hafter]
    · rw [hafter, fragments_setStack]

/-- A scope exists, but is current in no section. -/
structure Dormant (S : Sections δ) (scope : ScopeId) : Prop where
  /-- It was made. -/
  made : scope.index < S.scopes.size
  /-- Appends do not find it. -/
  notCurrent : ∀ name, S.current name ≠ some scope

/-- Other sections stay as they are. -/
theorem find?_after (operation : Operation δ) (h : other ≠ operation.name) :
    (S.after operation).named.find? other = S.named.find? other := by
  have hset : ∀ (T : Sections δ) (stack : Stack),
      (T.setStack operation.name stack).named.find? other = T.named.find? other := by
    intro T stack
    unfold setStack
    rw [Dictionary.find?_insert, if_neg h]
  cases operation with
  | push name owner => exact hset _ _
  | pop name =>
    rcases hhistory : (S.stack name).history with _ | ⟨restored, rest⟩
    · rw [after_pop_of_nil hhistory]
    · rw [after_pop_of_history hhistory]
      exact hset _ _
  | add name owner fragment =>
    show (S.add name owner fragment).2.named.find? other = S.named.find? other
    rcases hc : S.current name with _ | id
    · rw [add_of_none hc]
      exact hset _ _
    · rw [add_of_some hc]
      exact hset _ _
  | take name =>
    rcases after_take S name with hafter | hafter
    · rw [hafter]
    · rw [hafter]
      exact hset _ _

/-- An operation keeps every scope in one place; the one that it removes is gone. -/
theorem Distinct.perform (h : S.Distinct gone) {operation : Operation δ}
    {removed : Option ScopeId} (hperform : S.perform operation = .ok (removed, T)) :
    T.Distinct (removed.toList ++ gone) := by
  cases operation with
  | push name owner =>
    cases hperform
    exact h.push name owner
  | add name owner fragment =>
    cases hperform
    exact h.add name owner fragment
  | pop name =>
    cases removed with
    | none => exact h.pop hperform
    | some scope => exact h.popSome hperform
  | take name =>
    cases removed with
    | none => exact h.takeNone hperform
    | some scope => exact h.take hperform

theorem Distinct.after (h : S.Distinct gone) (operation : Operation δ) :
    (S.after operation).Distinct ((S.entry operation).removed?.toList ++ gone) := by
  unfold entry
  rcases hperform : S.perform operation with fault | ⟨removed, T⟩
  · rw [after_of_error hperform]
    exact h
  · rw [after_of_ok hperform]
    exact h.perform hperform

/-! ## Sequences -/

/-- After any operations every scope is in one place at most, and those that were removed are
different and in none. -/
theorem Distinct.run (h : S.Distinct gone) (operations : List (Operation δ)) :
    (S.run operations).Distinct ((removed (S.log operations)).reverse ++ gone) := by
  induction operations using List.reverseRecOn with
  | nil => exact h
  | append_singleton operations last ih =>
    have hremoved : (removed (S.log (operations ++ [last]))).reverse =
        ((S.run operations).entry last).removed?.toList ++
          (removed (S.log operations)).reverse := by
      rw [log_concat, removed, List.filterMap_append, List.reverse_append]
      rcases hlast : ((S.run operations).entry last).removed? with _ | scope
      · rw [List.filterMap_cons_none hlast]
        rfl
      · rw [List.filterMap_cons_some hlast]
        rfl
    rw [run_concat, hremoved, List.append_assoc]
    exact ih.after last

theorem distinct_run (operations : List (Operation δ)) :
    ((empty : Sections δ).run operations).Distinct (removed (empty.log operations)).reverse := by
  simpa using distinct_empty.run operations

/-- A scope that stays dormant gets no fragment. -/
theorem fragments_run {operations : List (Operation δ)}
    (h : ∀ done, done <+: operations → (S.run done).Dormant scope) :
    (S.run operations).fragments scope = S.fragments scope := by
  induction operations using List.reverseRecOn with
  | nil => rfl
  | append_singleton operations last ih =>
    have hbefore : operations <+: operations ++ [last] := List.prefix_append _ _
    have hdormant := h operations hbefore
    rw [run_concat, fragments_after hdormant.made (hdormant.notCurrent last.name)]
    exact ih fun done hdone => h done (hdone.trans hbefore)

/-! ## Places -/

/-- A place where a scope can be. -/
inductive Place where
  /-- It is current in a section. -/
  | current (name : String)
  /-- It waits in the history of a section, below so many others. -/
  | saved (name : String) (depth : Nat)
  deriving Repr, DecidableEq

/-- The scope at a place. -/
def scopeAt (S : Sections δ) : Place → Option ScopeId
  | .current name => S.current name
  | .saved name depth => (S.stack name).history[depth]?.join

/-- The section of a place. -/
def Place.home : Place → String
  | .current name => name
  | .saved name _ => name

/-- The number of scopes above a place in its section. -/
def Place.above : Place → Nat
  | .current _ => 0
  | .saved _ depth => depth + 1

theorem Place.ext_above {p q : Place} (hname : p.home = q.home) (habove : p.above = q.above) :
    p = q := by
  cases p <;> cases q <;> simp_all [Place.home, Place.above]

/-- The places of a section are those of its current scope and its history together. -/
theorem getElem?_of_scopeAt {p : Place} (h : S.scopeAt p = some scope) :
    ((S.stack p.home).current :: (S.stack p.home).history)[p.above]? = some (some scope) := by
  cases p with
  | current name =>
    have hcurrent : (S.stack name).current = some scope := h
    simp [Place.home, Place.above, hcurrent]
  | saved name depth =>
    have hsaved : (S.stack name).history[depth]?.join = some scope := h
    simpa [Place.home, Place.above, Option.join_eq_some_iff] using hsaved

theorem mem_scopes_of_scopeAt {p : Place} (h : S.scopeAt p = some scope) :
    scope ∈ (S.stack p.home).scopes :=
  List.reduceOption_mem_iff.2 (List.mem_of_getElem? (getElem?_of_scopeAt h))

/-- A scope is at one place at most. -/
theorem Distinct.eq_of_scopeAt (h : S.Distinct gone) {p q : Place} (hp : S.scopeAt p = some scope)
    (hq : S.scopeAt q = some scope) : p = q := by
  have hname : p.home = q.home := h.apart (mem_scopes_of_scopeAt hp) (mem_scopes_of_scopeAt hq)
  apply Place.ext_above hname
  have hplace := getElem?_of_scopeAt hp
  have hother := getElem?_of_scopeAt hq
  rw [← hname] at hother
  -- Two places of one section: if one were above the other, the section would have the scope twice.
  have honce : ((S.stack p.home).current :: (S.stack p.home).history).Pairwise
      fun a b => ∀ x, a = some x → ∀ y, b = some y → x ≠ y :=
    List.pairwise_filterMap.1 (h.once p.home)
  obtain ⟨hi, hi'⟩ := List.getElem?_eq_some_iff.1 hplace
  obtain ⟨hj, hj'⟩ := List.getElem?_eq_some_iff.1 hother
  rw [List.pairwise_iff_getElem] at honce
  rcases Nat.lt_trichotomy p.above q.above with hlt | heq | hlt
  · exact absurd rfl (honce _ _ hi hj hlt scope hi' scope hj')
  · exact heq
  · exact absurd rfl (honce _ _ hj hi hlt scope hj' scope hi')

/-- A scope that is gone is dormant. -/
theorem Distinct.dormant_of_gone (h : S.Distinct gone) (hgone : scope ∈ gone) :
    S.Dormant scope where
  made := h.goneMade hgone
  notCurrent name hcurrent := by
    have hplace : S.scopeAt (.current name) = some scope := hcurrent
    exact h.stays (mem_scopes_of_scopeAt hplace) hgone

/-- A scope that waits in a history is dormant. -/
theorem Distinct.dormant_of_saved (h : S.Distinct gone)
    (hsaved : some scope ∈ (S.stack name).history) : S.Dormant scope := by
  obtain ⟨depth, hdepth⟩ := List.mem_iff_getElem?.1 hsaved
  have hplace : S.scopeAt (.saved name depth) = some scope := by
    simp [scopeAt, hdepth]
  refine ⟨h.made (mem_scopes_of_scopeAt hplace), fun other hcurrent => ?_⟩
  have hother : S.scopeAt (.current other) = some scope := hcurrent
  cases h.eq_of_scopeAt hplace hother

/-- However sections are pushed, popped, appended to and taken from, a scope is at one place at
most. No scope is removed twice, and one that was popped or taken is at no place ever after, so that
nothing is appended to it. -/
theorem scopes_in_one_place (operations : List (Operation δ)) :
    (∀ scope p q, ((empty : Sections δ).run operations).scopeAt p = some scope →
      (empty.run operations).scopeAt q = some scope → p = q) ∧
    (removed ((empty : Sections δ).log operations)).Nodup ∧
    ∀ done rest, operations = done ++ rest →
      ∀ scope ∈ removed ((empty : Sections δ).log done),
        (∀ p, ((empty : Sections δ).run operations).scopeAt p ≠ some scope) ∧
        (empty.run operations).fragments scope = (empty.run done).fragments scope := by
  have hdistinct := distinct_run operations
  refine ⟨fun scope p q hp hq => hdistinct.eq_of_scopeAt hp hq,
    List.nodup_reverse.1 hdistinct.goneOnce, ?_⟩
  rintro done rest rfl scope hscope
  have hgone : ∀ later, scope ∈ (removed ((empty : Sections δ).log (done ++ later))).reverse := by
    intro later
    rw [log_append, removed, List.filterMap_append]
    exact List.mem_reverse.2 (List.mem_append_left _ hscope)
  constructor
  · intro p hp
    exact hdistinct.stays (mem_scopes_of_scopeAt hp) (hgone rest)
  · rw [run_append]
    apply fragments_run
    intro later _
    rw [← run_append]
    exact (distinct_run (done ++ later)).dormant_of_gone (hgone later)

/-! ## Depths -/

/-- Between a push of a section and its pop: the section's pushes and pops match, and none of its
pops comes before its push. -/
structure WellNested (name : String) (operations : List (Operation δ)) : Prop where
  /-- There are as many pops as pushes. -/
  closed : operations.countP (Operation.isPop name) = operations.countP (Operation.isPush name)
  /-- At no moment have there been more. -/
  within : ∀ done, done <+: operations →
    done.countP (Operation.isPop name) ≤ done.countP (Operation.isPush name)

/-- While the pops of a section do not exceed its pushes, its history only grows. -/
theorem history_run {operations : List (Operation δ)} (S : Sections δ)
    (h : ∀ done, done <+: operations →
      done.countP (Operation.isPop name) ≤ done.countP (Operation.isPush name)) :
    ∃ added, ((S.run operations).stack name).history = added ++ (S.stack name).history ∧
      added.length + operations.countP (Operation.isPop name) =
        operations.countP (Operation.isPush name) := by
  induction operations using List.reverseRecOn with
  | nil => exact ⟨[], rfl, rfl⟩
  | append_singleton operations last ih =>
    have hbefore : operations <+: operations ++ [last] := List.prefix_append _ _
    obtain ⟨added, hhistory, hlength⟩ := ih fun done hdone => h done (hdone.trans hbefore)
    have hlast := h _ (List.prefix_refl _)
    simp only [List.countP_append, List.countP_singleton] at hlast ⊢
    rw [run_concat, history_after, hhistory]
    by_cases hpush : last.isPush name = true
    · have hpop : last.isPop name = false := by
        cases last <;> simp_all [Operation.isPush, Operation.isPop]
      refine ⟨(S.run operations).current name :: added, ?_, ?_⟩
      · rw [if_pos hpush, List.cons_append]
      · simp only [hpush, hpop, List.length_cons, if_true, Bool.false_eq_true, if_false]
        omega
    · by_cases hpop : last.isPop name = true
      · simp only [hpush, hpop, if_true, Bool.false_eq_true, if_false] at hlast ⊢
        cases added with
        | nil =>
          rw [List.length_nil] at hlength
          omega
        | cons top added =>
          refine ⟨added, rfl, ?_⟩
          rw [List.length_cons] at hlength
          omega
      · refine ⟨added, ?_, ?_⟩
        · rw [if_neg hpush, if_neg hpop]
        · simp only [hpush, hpop, Bool.false_eq_true, if_false]
          omega

theorem pushes_concat (log : List (Entry δ)) (entry : Entry δ) (name : String) :
    pushes name (log ++ [entry]) = pushes name log + if entry.1.isPush name then 1 else 0 := by
  rw [pushes, List.countP_append, List.countP_singleton]
  rfl

theorem pops_concat (log : List (Entry δ)) (entry : Entry δ) (name : String) :
    pops name (log ++ [entry]) =
      pops name log + if entry.1.isPop name && entry.2.isOk then 1 else 0 := by
  rw [pops, List.countP_append, List.countP_singleton]
  rfl

/-- The pushes of a section that are not popped yet are those in its history. -/
theorem length_history_run (operations : List (Operation δ)) (name : String) :
    (((empty : Sections δ).run operations).stack name).history.length +
      pops name ((empty : Sections δ).log operations) =
        pushes name ((empty : Sections δ).log operations) := by
  induction operations using List.reverseRecOn with
  | nil => rfl
  | append_singleton operations last ih =>
    rw [run_concat, log_concat, history_after, pushes_concat, pops_concat]
    cases last with
    | pop other =>
      by_cases h : other = name
      · subst h
        have hok := isOk_entry_pop ((empty : Sections δ).run operations) other
        rcases hhistory : (((empty : Sections δ).run operations).stack other).history with
          _ | ⟨restored, rest⟩
        · simp_all [entry, Operation.isPush, Operation.isPop]
        · simp_all [entry, Operation.isPush, Operation.isPop]
          omega
      · simpa [entry, Operation.isPush, Operation.isPop, h] using ih
    | push other owner =>
      by_cases h : other = name
      · simp [entry, Operation.isPush, Operation.isPop, h]
        omega
      · simpa [entry, Operation.isPush, Operation.isPop, h] using ih
    | add other owner fragment => simpa [entry, Operation.isPush, Operation.isPop] using ih
    | take other => simpa [entry, Operation.isPush, Operation.isPop] using ih

/-- Between a push and its pop, what the push has saved stays at the bottom of the history, and
nothing is appended to it. -/
theorem saved_run (before : List (Operation δ)) (name owner : String) {done : List (Operation δ)}
    (h : ∀ first, first <+: done →
      first.countP (Operation.isPop name) ≤ first.countP (Operation.isPush name)) :
    let S := (empty : Sections δ).run before
    let M := (S.push name owner).2.run done
    S.current name :: (S.stack name).history <:+ (M.stack name).history ∧
      ∀ scope, some scope ∈ S.current name :: (S.stack name).history →
        M.fragments scope = S.fragments scope := by
  intro S M
  have hpushed : ((S.push name owner).2.stack name).history =
      S.current name :: (S.stack name).history := by
    rw [stack_push_self]
    rfl
  have hdistinct : (S.push name owner).2.Distinct _ := (distinct_run before).push name owner
  have hsuffix : ∀ first, first <+: done → S.current name :: (S.stack name).history <:+
      (((S.push name owner).2.run first).stack name).history := by
    intro first hfirst
    obtain ⟨added, hhistory, -⟩ :=
      history_run (S.push name owner).2 fun less hless => h less (hless.trans hfirst)
    rw [hhistory, hpushed]
    exact List.suffix_append _ _
  constructor
  · exact hsuffix done (List.prefix_refl done)
  · intro scope hscope
    rw [← fragments_push S name owner scope]
    apply fragments_run
    intro first hfirst
    exact (hdistinct.run first).dormant_of_saved ((hsuffix first hfirst).subset hscope)

/-- After well-nested operations, a pop gives back what was current at the push. -/
theorem pop_run_of_wellNested (S : Sections δ) (owner : String) {inner : List (Operation δ)}
    (h : WellNested name inner) :
    ∃ popped T, ((S.push name owner).2.run inner).pop name = .ok (popped, T) ∧
      T.current name = S.current name ∧ (T.stack name).history = (S.stack name).history := by
  obtain ⟨added, hhistory, hlength⟩ := history_run (S.push name owner).2 h.within
  have hclosed := h.closed
  have hadded : added = [] := List.length_eq_zero_iff.1 (by omega)
  have hpushed : ((S.push name owner).2.stack name).history =
      S.current name :: (S.stack name).history := by
    rw [stack_push_self]
    rfl
  rw [hadded, List.nil_append, hpushed] at hhistory
  refine ⟨_, _, pop_of_history hhistory, ?_, ?_⟩
  · rw [Sections.current, stack_setStack_self]
  · rw [stack_setStack_self]

/-- A pop fails exactly if there is no push left for it, or no section. -/
theorem pop_fails_iff (operations : List (Operation δ)) (name : String) :
    (∃ fault, ((empty : Sections δ).run operations).pop name = .error fault) ↔
      (empty.run operations).named.find? name = none ∨
        pushes name ((empty : Sections δ).log operations) <
          pops name ((empty : Sections δ).log operations) + 1 := by
  have hlength := length_history_run operations name
  constructor
  · rintro ⟨fault, hfault⟩
    right
    rcases hhistory : ((empty.run operations).stack name).history with _ | ⟨restored, rest⟩
    · rw [hhistory, List.length_nil] at hlength
      omega
    · rw [pop_of_history hhistory] at hfault
      cases hfault
  · intro h
    apply pop_of_nil
    rcases h with hmissing | hfew
    · rw [Sections.stack, hmissing]
      rfl
    · exact List.length_eq_zero_iff.1 (by omega)

/-- An operation leaves the scopes of other sections alone. -/
theorem Distinct.fragments_of_ne (h : S.Distinct gone) {operation : Operation δ}
    (hother : other ≠ operation.name) (hscope : scope ∈ (S.stack other).scopes) :
    (S.after operation).fragments scope = S.fragments scope := by
  apply fragments_after (h.made hscope)
  intro hcurrent
  have hplace : S.scopeAt (.current operation.name) = some scope := hcurrent
  exact hother (h.apart hscope (mem_scopes_of_scopeAt hplace))

/-- A push and its pop leave a section as it was, whatever well-nested operations come between
them: the pop succeeds and gives back what was current at the push, and meanwhile what the push has
saved is neither moved nor appended to. A pop fails exactly if there is no push left for it, or no
section, and changes nothing then. An operation leaves other sections and their scopes alone. -/
theorem pop_undoes_push :
    (∀ (before inner : List (Operation δ)) (name owner : String), WellNested name inner →
      let S := (empty : Sections δ).run before
      let pushed := (S.push name owner).2
      (∃ popped T, (pushed.run inner).pop name = .ok (popped, T) ∧
        T.current name = S.current name ∧ (T.stack name).history = (S.stack name).history) ∧
      ∀ done, done <+: inner →
        S.current name :: (S.stack name).history <:+ ((pushed.run done).stack name).history ∧
        ∀ scope, some scope ∈ S.current name :: (S.stack name).history →
          (pushed.run done).fragments scope = S.fragments scope) ∧
    (∀ (operations : List (Operation δ)) (name : String),
      let S := (empty : Sections δ).run operations
      ((∃ fault, S.pop name = .error fault) ↔ S.named.find? name = none ∨
        pushes name ((empty : Sections δ).log operations) <
          pops name ((empty : Sections δ).log operations) + 1) ∧
      ((∃ fault, S.pop name = .error fault) → S.after (.pop name) = S)) ∧
    ∀ (operations : List (Operation δ)) (operation : Operation δ) (other : String),
      other ≠ operation.name →
      let S := (empty : Sections δ).run operations
      (S.after operation).named.find? other = S.named.find? other ∧
      ∀ scope ∈ (S.stack other).scopes,
        (S.after operation).fragments scope = S.fragments scope := by
  refine ⟨?_, ?_, ?_⟩
  · intro before inner name owner hinner S pushed
    refine ⟨pop_run_of_wellNested S owner hinner, fun done hdone => ?_⟩
    exact saved_run before name owner fun first hfirst => hinner.within first (hfirst.trans hdone)
  · intro operations name S
    refine ⟨pop_fails_iff operations name, ?_⟩
    rintro ⟨fault, hfault⟩
    exact after_of_error hfault
  · intro operations operation other hother S
    exact ⟨find?_after operation hother,
      fun scope hscope => (distinct_run operations).fragments_of_ne hother hscope⟩

/-- Operations between a push and a pop of the section of styles: it is taken from and appended to,
and a second push of it is popped while another section is pushed. -/
def betweenStyles : List (Operation Unit) :=
  [.take "css", .add "css" "/part.html" ⟨.literal "b", .normal⟩, .push "css" "/part.html",
    .push "content" "/part.html", .pop "css", .take "content", .pop "missing"]

/-- After them the pop gives back the scope that was current, which has its one fragment. -/
theorem pop_undoes_push_styles :
    let S := (empty : Sections Unit).run [.add "css" "/page.html" ⟨.literal "a", .normal⟩]
    WellNested "css" betweenStyles ∧ S.current "css" = some ⟨0⟩ ∧
      ∃ popped T, ((S.push "css" "/page.html").2.run betweenStyles).pop "css" = .ok (popped, T) ∧
        T.current "css" = some ⟨0⟩ ∧ (T.stack "css").history = [] ∧
        (((S.push "css" "/page.html").2.run betweenStyles).fragments ⟨0⟩).length = 1 := by
  intro S
  have hwithin : ∀ done ∈ betweenStyles.inits,
      done.countP (Operation.isPop "css") ≤ done.countP (Operation.isPush "css") := by decide
  have hnested : WellNested "css" betweenStyles :=
    ⟨by decide, fun done hdone => hwithin done ((List.mem_inits _ _).2 hdone)⟩
  have hcurrent : S.current "css" = some ⟨0⟩ := by decide
  obtain ⟨⟨popped, T, hpop, hrestored, hhistory⟩, hsaved⟩ :=
    pop_undoes_push.1 [.add "css" "/page.html" ⟨.literal "a", .normal⟩] betweenStyles "css"
      "/page.html" hnested
  refine ⟨hnested, hcurrent, popped, T, hpop, hrestored.trans hcurrent, hhistory, ?_⟩
  have hscope : some ⟨0⟩ ∈ S.current "css" :: (S.stack "css").history := by
    rw [hcurrent]
    exact List.mem_cons_self
  rw [(hsaved betweenStyles (List.prefix_refl _)).2 ⟨0⟩ hscope]
  decide

end Sections

end TemplateEngine
