import Mathlib.Algebra.GroupWithZero.Nat
import Mathlib.Algebra.Order.BigOperators.Group.List
import Mathlib.Algebra.Order.Group.Nat
import Mathlib.Data.List.Nodup
import TemplateEngine.Proofs.Render.Operations
import TemplateEngine.Proofs.Render.Progress
import TemplateEngine.Proofs.Section.Taking
import TemplateEngine.Proofs.Template.Compiled

/-!
# `Render` · What may still be printed

Fragments wait in scopes and in slots until these are printed. Each fragment waits at most twice: in
a scope that a section may still give away or in a slot, and in a scope that a template in progress
will print itself.

* **`Holder`** is such a place, and `Store.held` are its fragments.
* **`Store.Stock rates s loose held`** says that nothing else can be printed: what a section may give
  away, and every slot that nobody has read, is in `loose`; what templates in progress print is in
  `held`. Neither list names a place twice.
* **`Store.dues`** is what printing all of that may still cost, at the prices of the tasks that wait,
  together with what was spent so far (`Store.work`). Lists that are kept through a change of the
  store, and what the change adds to the dues, are stated together for each operation.
-/

namespace TemplateEngine

open Render

variable {σ : Type}

/-- A place with fragments that may be printed. -/
inductive Holder where
  /-- A scope of a request. -/
  | scope (request : RequestId) (id : ScopeId)
  /-- A content slot. -/
  | slot (id : SlotId)
  deriving DecidableEq

/-- A template is read, or a scope is taken away to be printed. -/
def Event.isOutput : Event → Bool
  | .reading _ => true
  | .taken .. => true
  | _ => false

/-- The fragments of a slot that nobody has read. -/
def SlotState.waiting : SlotState → List (Fragment Deferred)
  | .pending fragments => fragments
  | _ => []

namespace Store

/-- The fragments that a place gives when it is printed. -/
def held (store : Store σ) : Holder → List (Fragment Deferred)
  | .scope request id => (store.sections request).fragments id
  | .slot id => (store.slots[id.index]?.map fun slot => slot.state.waiting).getD []

/-- How many templates were read, scopes taken away and slots made so far. -/
def work (store : Store σ) : Nat := (store.journal.filter Event.isOutput).length + store.slots.size

/-- Every scope of a request is in at most one place of its sections. -/
def Tidy (store : Store σ) : Prop := ∀ id, ∃ gone, (store.sections id).Distinct gone

end Store

/-- A place is there. -/
def Holder.Made (store : Store σ) : Holder → Prop
  | .scope request id => id.index < (store.sections request).scopes.size
  | .slot id => id.index < store.slots.size

@[simp] theorem Store.held_scope (store : Store σ) (request : RequestId) (id : ScopeId) :
    store.held (.scope request id) = (store.sections request).fragments id := rfl

@[simp] theorem Store.held_slot (store : Store σ) (id : SlotId) :
    store.held (.slot id) = (store.slots[id.index]?.map fun slot => slot.state.waiting).getD [] := rfl

@[simp] theorem Holder.made_scope {store : Store σ} {request : RequestId} {id : ScopeId} :
    (Holder.scope request id).Made store ↔ id.index < (store.sections request).scopes.size := Iff.rfl

@[simp] theorem Holder.made_slot {store : Store σ} {id : SlotId} :
    (Holder.slot id).Made store ↔ id.index < store.slots.size := Iff.rfl

/-- A place that is not there has no fragments. -/
theorem Store.held_of_not_made {store : Store σ} {holder : Holder} (h : ¬holder.Made store) :
    store.held holder = [] := by
  cases holder with
  | scope request id => exact Sections.fragments_of_le (Nat.le_of_not_lt h)
  | slot id =>
    rw [Store.held_slot, Array.getElem?_eq_none (Nat.le_of_not_lt h)]
    rfl

/-! ## Prices -/

/-- What the cost of output depends on. -/
structure Rates where
  /-- How many requests there are. -/
  requests : Nat
  /-- How many parts templates have at most. -/
  parts : Nat
  /-- How deep templates may nest. -/
  depth : Nat

namespace Rates

variable (rates : Rates)

/-- What a template costs above which so many levels may nest: each part appends at most one
fragment, which may be printed twice, and makes at most one slot. -/
def level : Nat → Nat
  | 0 => 1
  | levels + 1 => 3 + rates.parts * (2 * level levels + 4) + level levels

/-- What a piece of output costs. -/
def task : Task → Nat
  | .template context => rates.level (rates.depth + 1 - context.depth)
  | .section .. => 2
  | .content .. => 1

/-- Nothing is for free. -/
theorem task_pos (task : Task) : 1 ≤ rates.task task := by
  cases task with
  | template context =>
    show 1 ≤ rates.level _
    rcases rates.depth + 1 - context.depth with _ | levels
    · exact Nat.le_refl _
    · rw [level]
      omega
  | «section» request name optional => exact Nat.le_succ 1
  | content slot optional => exact Nat.le_refl _

/-- What a payload costs. -/
def payload : Payload Deferred → Nat
  | .literal _ => 0
  | .deferred deferred => rates.task deferred.task

/-- What fragments cost. -/
def total (fragments : List (Fragment Deferred)) : Nat :=
  (fragments.map fun fragment => rates.payload fragment.payload).sum

@[simp] theorem total_nil : rates.total [] = 0 := rfl

@[simp] theorem total_cons (fragment : Fragment Deferred) (rest : List (Fragment Deferred)) :
    rates.total (fragment :: rest) = rates.payload fragment.payload + rates.total rest := by
  simp [total]

@[simp] theorem total_append (front rest : List (Fragment Deferred)) :
    rates.total (front ++ rest) = rates.total front + rates.total rest := by
  simp [total]

/-- What printing the fragments of a place costs. -/
def worth (store : Store σ) (holder : Holder) : Nat := rates.total (store.held holder)

theorem worth_of_not_made {store : Store σ} {holder : Holder} (h : ¬holder.Made store) :
    rates.worth store holder = 0 := by
  rw [worth, Store.held_of_not_made h, total_nil]

end Rates

/-- A sum over different items in which one item may gain. -/
theorem sum_map_le_of_nodup {α : Type} {items : List α} {f g : α → Nat} {item : α} {gain : Nat}
    (h : items.Nodup) (hitem : f item ≤ g item + gain)
    (hother : ∀ other, other ≠ item → f other ≤ g other) :
    (items.map f).sum ≤ (items.map g).sum + gain := by
  induction items with
  | nil => exact Nat.zero_le _
  | cons head rest ih =>
    obtain ⟨hhead, hrest⟩ := List.nodup_cons.1 h
    simp only [List.map_cons, List.sum_cons]
    by_cases hne : head = item
    · subst hne
      have hsame : (rest.map f).sum ≤ (rest.map g).sum :=
        List.sum_le_sum fun other hmem => hother other fun heq => hhead (heq ▸ hmem)
      omega
    · have := hother head hne
      have := ih hrest
      omega

/-! ## Books -/

/-- A cache keeps no template with more parts than `parts`. -/
def TemplateCache.Within (parts : Nat) (cache : TemplateCache) : Prop :=
  cache.All fun _ template => template.tokens.length ≤ parts

/-- The sections of a request that is there may be replaced; all others stay. -/
theorem Store.sections_setSections_cases (store : Store σ) (id request : RequestId)
    (after : Sections Deferred) :
    (store.setSections id after).sections request = store.sections request ∨
      request = id ∧ (store.setSections id after).sections request = after := by
  unfold Store.sections Store.setSections
  rw [Store.requests_modify]
  split
  · next h => exact .inr ⟨h.1, rfl⟩
  · exact .inl rfl

/-- A request that is not there has no sections to replace. -/
theorem Store.setSections_of_le {store : Store σ} {id : RequestId}
    (h : store.requests.size ≤ id.index) (after : Sections Deferred) :
    store.setSections id after = store := by
  have hrequests : (store.requests.modify id.index fun request =>
      { request with sections := after }) = store.requests := by
    apply Array.ext_getElem?
    intro place
    rw [Array.getElem?_modify]
    split
    · next hplace =>
      rw [← hplace, Array.getElem?_eq_none h]
      rfl
    · rfl
  unfold Store.setSections
  rw [hrequests]

namespace Rates

variable {rates : Rates} {s t : Store σ} {loose held : List Holder} {limit reserve : Nat}

/-- What may still be printed is in one of two lists. -/
structure Stock (rates : Rates) (store : Store σ) (loose held : List Holder) : Prop where
  /-- No request was started or ended. -/
  size : store.requests.size = rates.requests
  /-- Every scope is in at most one place. -/
  tidy : store.Tidy
  /-- What a section may give away is loose. -/
  scopes : ∀ {request name id}, id ∈ ((store.sections request).stack name).scopes →
    .scope request id ∈ loose
  /-- A slot that nobody has read is loose. -/
  slots : ∀ {id}, store.held (.slot id) ≠ [] → .slot id ∈ loose
  /-- No place is loose twice. -/
  looseOnce : loose.Nodup
  /-- No place is held twice. -/
  heldOnce : held.Nodup
  /-- What is loose is there. -/
  looseMade : ∀ {holder}, holder ∈ loose → holder.Made store
  /-- What is held is there. -/
  heldMade : ∀ {holder}, holder ∈ held → holder.Made store
  /-- Templates that are kept are not too long. -/
  templates : store.templates.Within rates.parts

/-- What was spent and what everything that may still be printed costs. -/
def dues (rates : Rates) (store : Store σ) (loose held : List Holder) : Nat :=
  store.work + (loose.map (rates.worth store)).sum + (held.map (rates.worth store)).sum

/-- All that may still be printed fits below a limit, with something in reserve. Of the places that
may be printed those in `held` are known. -/
def Fits (rates : Rates) (limit : Nat) (store : Store σ) (held : List Holder) (reserve : Nat) :
    Prop :=
  ∃ loose, rates.Stock store loose held ∧ rates.dues store loose held + reserve ≤ limit

/-- What a template holds of a scope that it pushed; a request that is not there has none. -/
def handles (rates : Rates) (request : RequestId) (scope : ScopeId) : List Holder :=
  if request.index < rates.requests then [.scope request scope] else []

namespace Fits

theorem mono (h : rates.Fits limit s held reserve) {limit' reserve' : Nat} (hlimit : limit ≤ limit')
    (hreserve : reserve' ≤ reserve) : rates.Fits limit' s held reserve' := by
  obtain ⟨loose, hstock, hdues⟩ := h
  exact ⟨loose, hstock, by omega⟩

theorem work_le (h : rates.Fits limit s held reserve) : s.work ≤ limit := by
  obtain ⟨loose, -, hdues⟩ := h
  unfold dues at hdues
  omega

/-- What is held need not be known. -/
theorem drop {front : List Holder} (h : rates.Fits limit s (front ++ held) reserve) :
    rates.Fits limit s held reserve := by
  obtain ⟨loose, hstock, hdues⟩ := h
  refine ⟨loose, { hstock with
    heldOnce := (List.nodup_append.1 hstock.heldOnce).2.1
    heldMade := fun hmem => hstock.heldMade (List.mem_append_right _ hmem) }, ?_⟩
  simp only [dues, List.map_append, List.sum_append] at hdues ⊢
  omega

/-- A template that prints the scope it holds need not hold it any longer. -/
theorem release {holder : Holder} (h : rates.Fits limit s (holder :: held) reserve) :
    rates.Fits limit s held (rates.worth s holder + reserve) := by
  obtain ⟨loose, hstock, hdues⟩ := h
  refine ⟨loose, { hstock with
    heldOnce := (List.nodup_cons.1 hstock.heldOnce).2
    heldMade := fun hmem => hstock.heldMade (List.mem_cons_of_mem _ hmem) }, ?_⟩
  simp only [dues, List.map_cons, List.sum_cons] at hdues ⊢
  omega

end Fits

/-! ## Changes that bring nothing to be printed -/

/-- Nothing can be printed in `t` that could not be printed in `s`; `spent` is spent. -/
structure Narrows (rates : Rates) (spent : Nat) (s t : Store σ) : Prop where
  /-- No request was started. -/
  size : t.requests.size = s.requests.size
  /-- Sections have no scopes that they did not have. -/
  scopes : ∀ {request name id}, id ∈ ((t.sections request).stack name).scopes →
    id ∈ ((s.sections request).stack name).scopes
  /-- Scopes stay in one place. -/
  tidy : s.Tidy → t.Tidy
  /-- Places have no fragments that they did not have. -/
  held : ∀ holder, t.held holder = s.held holder ∨ t.held holder = []
  /-- All places stay. -/
  made : ∀ {holder : Holder}, holder.Made s → holder.Made t
  /-- Templates that are kept are not too long. -/
  templates : s.templates.Within rates.parts → t.templates.Within rates.parts
  /-- What was spent. -/
  work : t.work ≤ s.work + spent

namespace Narrows

variable {spent : Nat}

theorem worth (h : rates.Narrows spent s t) (holder : Holder) :
    rates.worth t holder ≤ rates.worth s holder := by
  unfold Rates.worth
  rcases h.held holder with heq | hnil
  · rw [heq]
  · rw [hnil]
    exact Nat.zero_le _

theorem stock (h : rates.Narrows spent s t) (hs : rates.Stock s loose held) :
    rates.Stock t loose held where
  size := h.size.trans hs.size
  tidy := h.tidy hs.tidy
  scopes hmem := hs.scopes (h.scopes hmem)
  slots {id} hheld := by
    apply hs.slots
    rcases h.held (.slot id) with heq | hnil
    · rwa [← heq]
    · exact absurd hnil hheld
  looseOnce := hs.looseOnce
  heldOnce := hs.heldOnce
  looseMade hmem := h.made (hs.looseMade hmem)
  heldMade hmem := h.made (hs.heldMade hmem)
  templates := h.templates hs.templates

theorem dues (h : rates.Narrows spent s t) (loose held : List Holder) :
    rates.dues t loose held ≤ rates.dues s loose held + spent := by
  have hwork := h.work
  have hloose : (loose.map (rates.worth t)).sum ≤ (loose.map (rates.worth s)).sum :=
    List.sum_le_sum fun holder _ => h.worth holder
  have hheld : (held.map (rates.worth t)).sum ≤ (held.map (rates.worth s)).sum :=
    List.sum_le_sum fun holder _ => h.worth holder
  unfold Rates.dues
  omega

theorem fits (h : rates.Narrows spent s t) (hs : rates.Fits limit s held (spent + reserve)) :
    rates.Fits limit t held reserve := by
  obtain ⟨loose, hstock, hdues⟩ := hs
  have := h.dues loose held
  exact ⟨loose, h.stock hstock, by omega⟩

/-- What sections, slots and kept templates do not show brings nothing. -/
theorem of_same (hrequests : t.requests.size = s.requests.size)
    (hsections : ∀ id, t.sections id = s.sections id) (hslots : t.slots = s.slots)
    (htemplates : t.templates = s.templates) (hwork : t.work ≤ s.work + spent) :
    rates.Narrows spent s t where
  size := hrequests
  scopes {request name id} hmem := by rwa [← hsections]
  tidy htidy id := by
    rw [hsections]
    exact htidy id
  held holder := by
    left
    cases holder with
    | scope request id => exact congrArg (Sections.fragments · id) (hsections request)
    | slot id => simp only [Store.held, hslots]
  made {holder} hmade := by
    cases holder with
    | scope request id => rwa [Holder.made_scope, hsections, ← Holder.made_scope]
    | slot id => rwa [Holder.made_slot, hslots, ← Holder.made_slot]
  templates h := by rwa [htemplates]
  work := hwork

theorem refl (s : Store σ) : rates.Narrows 0 s s := of_same rfl (fun _ => rfl) rfl rfl (Nat.le_refl _)

/-- Other templates may be kept. -/
theorem keeping {cache : TemplateCache}
    (h : s.templates.Within rates.parts → cache.Within rates.parts) :
    rates.Narrows 0 s { s with templates := cache } where
  size := rfl
  scopes hmem := hmem
  tidy htidy := htidy
  held _ := .inl rfl
  made {holder} hmade := by cases holder <;> exact hmade
  templates := h
  work := Nat.le_refl _

/-- An event is spent if it is one of output. -/
theorem noted (s : Store σ) (event : Event) :
    rates.Narrows (if event.isOutput then 1 else 0) s (s.noted event) := by
  refine of_same rfl (fun _ => rfl) rfl rfl ?_
  unfold Store.work Store.noted
  cases hevent : event.isOutput with
  | true =>
    simp only [List.filter_cons_of_pos hevent, List.length_cons, if_true]
    omega
  | false =>
    simp only [List.filter_cons, hevent, Bool.false_eq_true, if_false]
    omega

/-- Other events cost nothing. -/
theorem noted_of_not_output (s : Store σ) {event : Event} (h : event.isOutput = false) :
    rates.Narrows 0 s (s.noted event) := by
  have hnoted : rates.Narrows (if event.isOutput then 1 else 0) s (s.noted event) := noted s event
  rwa [h] at hnoted

theorem asking (s : Store σ) (id : RequestId) (target : String) :
    rates.Narrows 0 s (s.asking id target) :=
  of_same (Store.requests_size_asking s id target) (fun other => Store.sections_asking s id other target)
    rfl rfl (Nat.le_refl _)

/-- A section may lose scopes. -/
theorem setSections {id : RequestId} {after : Sections Deferred}
    (hscopes : ∀ {name scope}, scope ∈ (after.stack name).scopes →
      scope ∈ ((s.sections id).stack name).scopes)
    (htidy : ∀ {gone}, (s.sections id).Distinct gone → ∃ gone, after.Distinct gone)
    (hkept : after.scopes = (s.sections id).scopes) : rates.Narrows 0 s (s.setSections id after) := by
  have hcases := fun request => s.sections_setSections_cases id request after
  refine ⟨Store.requests_size_setSections s id after, fun {request name scope} hmem => ?_,
    fun h request => ?_, fun holder => .inl ?_, fun {holder} hmade => ?_, fun h => h, Nat.le_refl _⟩
  · rcases hcases request with heq | ⟨rfl, heq⟩
    · rwa [heq] at hmem
    · rw [heq] at hmem
      exact hscopes hmem
  · rcases hcases request with heq | ⟨rfl, heq⟩
    · rw [heq]
      exact h request
    · rw [heq]
      obtain ⟨gone, hgone⟩ := h request
      exact htidy hgone
  · cases holder with
    | slot slot => rfl
    | scope request scope =>
      rcases hcases request with heq | ⟨rfl, heq⟩
      · exact congrArg (Sections.fragments · scope) heq
      · simp only [Store.held, heq, Sections.fragments, Sections.scope?, hkept]
  · cases holder with
    | slot slot => exact hmade
    | scope request scope =>
      rw [Holder.made_scope] at hmade ⊢
      rcases hcases request with heq | ⟨rfl, heq⟩
      · rwa [heq]
      · rwa [heq, hkept]

theorem pop {id : RequestId} {name : String} {popped : Option ScopeId} {after : Sections Deferred}
    (hpop : (s.sections id).pop name = .ok (popped, after)) :
    rates.Narrows 0 s (s.setSections id after) := by
  obtain ⟨restored, rest, hhistory⟩ := Sections.history_of_pop hpop
  have hafter := hpop
  rw [Sections.pop_of_history hhistory] at hafter
  cases hafter
  refine setSections (fun {other scope} hmem => ?_) (fun h => ⟨_, h.pop hpop⟩) rfl
  by_cases hne : other = name
  · subst hne
    have hsublist := ((s.sections id).stack other).history_sublist_scopes
    rw [hhistory] at hsublist
    rw [Sections.stack_setStack_self] at hmem
    exact hsublist.subset hmem
  · rwa [Sections.stack_setStack_of_ne hne] at hmem

/-- Taking the current scope away leaves a section what was pushed before. -/
theorem takeCurrent {id : RequestId} {name : String} {taken : Option ScopeId}
    {after : Sections Deferred} (htake : (s.sections id).takeCurrent name = .ok (taken, after)) :
    rates.Narrows 0 s (s.setSections id after) := by
  obtain ⟨-, hafter⟩ := Sections.takeCurrent_cases htake
  refine setSections (fun {other scope} hmem => ?_) (fun h => ?_) (by rw [hafter]; rfl)
  · rw [hafter] at hmem
    by_cases hne : other = name
    · subst hne
      rw [Sections.stack_setStack_self] at hmem
      unfold Stack.scopes at hmem
      rw [Stack.current_take, Stack.history_take] at hmem
      exact ((s.sections id).stack other).history_sublist_scopes.subset hmem
    · rwa [Sections.stack_setStack_of_ne hne] at hmem
  · cases taken with
    | none => exact ⟨_, h.takeNone htake⟩
    | some scope => exact ⟨_, h.take htake⟩

/-- A slot may change to show less. -/
theorem changeSlot (id : SlotId) {f : Slot → Slot}
    (h : ∀ slot, (f slot).state.waiting = slot.state.waiting ∨ (f slot).state.waiting = []) :
    rates.Narrows 0 s { s with slots := s.slots.modify id.index f } := by
  refine ⟨rfl, fun h => h, fun h => h, fun holder => ?_, fun {holder} hmade => ?_, fun h => h, ?_⟩
  · cases holder with
    | scope request scope => exact .inl rfl
    | slot slot =>
      simp only [Store.held_slot, Array.getElem?_modify]
      split
      · rcases s.slots[slot.index]? with _ | found
        · exact .inl rfl
        · exact h found
      · exact .inl rfl
  · cases holder with
    | scope request scope => exact hmade
    | slot slot => exact Nat.lt_of_lt_of_eq hmade Array.size_modify.symm
  · unfold Store.work
    rw [Array.size_modify]
    exact Nat.le_refl _

end Narrows

namespace Fits

/-! ## Scopes that grow -/

/-- A section of a request may get a scope, old or new, that is then worth more. -/
theorem grow {id : RequestId} {after : Sections Deferred} (scope : ScopeId) {gain : Nat}
    (h : rates.Fits limit s held (2 * gain + reserve)) (hid : id.index < s.requests.size)
    (hdistinct : ∀ {gone}, (s.sections id).Distinct gone → after.Distinct gone)
    (hsize : (s.sections id).scopes.size ≤ after.scopes.size)
    (hscope : scope.index < after.scopes.size)
    (hscopes : ∀ {name other}, other ∈ (after.stack name).scopes →
      other ∈ ((s.sections id).stack name).scopes ∨ other = scope)
    (hplace : scope.index < (s.sections id).scopes.size →
      ∃ name, scope ∈ ((s.sections id).stack name).scopes)
    (hself : rates.total (after.fragments scope) ≤
      rates.total ((s.sections id).fragments scope) + gain)
    (hother : ∀ {other}, other ≠ scope →
      after.fragments other = (s.sections id).fragments other) :
    rates.Fits limit (s.setSections id after) held reserve := by
  obtain ⟨loose, hstock, hdues⟩ := h
  have hsections := s.sections_setSections_cases id
  have hafter : (s.setSections id after).sections id = after :=
    Store.sections_setSections_self hid after
  have hmade : ∀ {holder : Holder}, holder.Made s → holder.Made (s.setSections id after) := by
    intro holder hholder
    cases holder with
    | slot slot => exact hholder
    | scope request other =>
      rw [Holder.made_scope] at hholder ⊢
      rcases hsections request after with heq | ⟨rfl, heq⟩
      · rwa [heq]
      · rw [heq]
        exact Nat.lt_of_lt_of_le hholder hsize
  have hscopeMade : (Holder.scope id scope).Made (s.setSections id after) := by
    rwa [Holder.made_scope, hafter]
  have hworthScope : rates.worth (s.setSections id after) (.scope id scope) ≤
      rates.worth s (.scope id scope) + gain := by
    unfold Rates.worth
    rwa [Store.held_scope, Store.held_scope, hafter]
  have hworth : ∀ holder, holder ≠ .scope id scope →
      rates.worth (s.setSections id after) holder ≤ rates.worth s holder := by
    intro holder hne
    cases holder with
    | slot slot => exact Nat.le_refl _
    | scope request other =>
      unfold Rates.worth
      rw [Store.held_scope, Store.held_scope]
      rcases hsections request after with heq | ⟨rfl, heq⟩
      · rw [heq]
      · rw [heq, hother fun heq' => hne (heq' ▸ rfl)]
  refine ⟨loose.insert (.scope id scope), ?_, ?_⟩
  · refine ⟨(Store.requests_size_setSections s id after).trans hstock.size, fun request => ?_,
      fun {request name other} hmem => ?_, fun {slot} hheld => ?_, List.Nodup.insert hstock.looseOnce,
      hstock.heldOnce, fun {holder} hmem => ?_, fun hmem => hmade (hstock.heldMade hmem),
      hstock.templates⟩
    · rcases hsections request after with heq | ⟨rfl, heq⟩
      · rw [heq]
        exact hstock.tidy request
      · rw [heq]
        obtain ⟨gone, hgone⟩ := hstock.tidy request
        exact ⟨gone, hdistinct hgone⟩
    · rw [List.mem_insert_iff]
      rcases hsections request after with heq | ⟨rfl, heq⟩
      · rw [heq] at hmem
        exact .inr (hstock.scopes hmem)
      · rw [heq] at hmem
        rcases hscopes hmem with hold | rfl
        · exact .inr (hstock.scopes hold)
        · exact .inl rfl
    · exact List.mem_insert_of_mem (hstock.slots hheld)
    · rcases List.mem_insert_iff.1 hmem with rfl | hmem
      · exact hscopeMade
      · exact hmade (hstock.looseMade hmem)
  · have hwork : (s.setSections id after).work = s.work := rfl
    have hheld := sum_map_le_of_nodup hstock.heldOnce hworthScope hworth
    have hloose : ((loose.insert (.scope id scope)).map
        (rates.worth (s.setSections id after))).sum ≤ (loose.map (rates.worth s)).sum + gain := by
      by_cases hmem : .scope id scope ∈ loose
      · rw [List.insert_of_mem hmem]
        exact sum_map_le_of_nodup hstock.looseOnce hworthScope hworth
      · -- A scope that no section may give away is a new one, which was worth nothing.
        have hnew : ¬(Holder.scope id scope).Made s := fun hold =>
          have ⟨_, hname⟩ := hplace hold
          hmem (hstock.scopes hname)
        have hnothing := rates.worth_of_not_made hnew
        have hrest : (loose.map (rates.worth (s.setSections id after))).sum ≤
            (loose.map (rates.worth s)).sum :=
          List.sum_le_sum fun holder hholder => hworth holder fun heq => hmem (heq ▸ hholder)
        rw [List.insert_of_not_mem hmem, List.map_cons, List.sum_cons]
        omega
    unfold Rates.dues at hdues ⊢
    omega

/-- The current scope of a section is in a place of it. -/
theorem mem_scopes_of_current {sections : Sections Deferred} {name : String} {scope : ScopeId}
    (h : sections.current name = some scope) : scope ∈ (sections.stack name).scopes := by
  unfold Stack.scopes
  rw [List.reduceOption_mem_iff]
  exact h ▸ List.mem_cons_self

/-- A fragment is appended at twice its price. -/
theorem append {id : RequestId} (name owner : String) (fragment : Fragment Deferred)
    (h : rates.Fits limit s held (2 * rates.payload fragment.payload + reserve)) :
    rates.Fits limit (s.setSections id ((s.sections id).add name owner fragment).2) held
      reserve := by
  by_cases hid : id.index < s.requests.size
  · obtain ⟨gone, hgone⟩ : ∃ gone, (s.sections id).Distinct gone := by
      obtain ⟨_, hstock, -⟩ := h
      exact hstock.tidy id
    have hcurrent : ∀ scope, (s.sections id).current name = some scope →
        scope.index < (s.sections id).scopes.size :=
      fun scope hscope => hgone.made (mem_scopes_of_current hscope)
    refine h.grow _ hid (fun h => h.add name owner fragment)
      (Sections.size_le_add _ name owner fragment) (Sections.target_lt_size_add hcurrent owner fragment)
      (fun {other scope} hmem => ?_) (fun hlt => ?_) ?_
      fun hne => Sections.fragments_add_of_ne hne owner fragment
    · by_cases hne : other = name
      · subst hne
        rw [Sections.stack_add_self] at hmem
        unfold Stack.scopes at hmem ⊢
        rw [List.reduceOption_cons_of_some, List.mem_cons] at hmem
        rcases hmem with rfl | hmem
        · exact .inr rfl
        · exact .inl (((s.sections id).stack other).history_sublist_scopes.subset hmem)
      · rw [Sections.stack_add_of_ne hne] at hmem
        exact .inl hmem
    · rcases hc : (s.sections id).current name with _ | scope
      · rw [Sections.target, hc] at hlt
        exact absurd hlt (Nat.lt_irrefl _)
      · rw [Sections.target, hc]
        exact ⟨name, mem_scopes_of_current hc⟩
    · rw [Sections.fragments_add_self hcurrent, Rates.total_append, Rates.total_cons,
        Rates.total_nil, Nat.add_zero]
  · rw [Store.setSections_of_le (Nat.le_of_not_lt hid)]
    exact h.mono (Nat.le_refl _) (Nat.le_add_left _ _)

/-- A new scope comes with nothing in it. -/
theorem pushed {id : RequestId} (hid : id.index < s.requests.size) (name owner : String)
    (h : rates.Fits limit s held reserve) :
    rates.Fits limit (s.pushed id name owner) held reserve := by
  have hcost : rates.Fits limit s held (2 * 0 + reserve) :=
    h.mono (Nat.le_refl _) (Nat.le_of_eq (Nat.zero_add _))
  refine hcost.grow ⟨(s.sections id).scopes.size⟩ hid (fun h => h.push name owner) (by simp)
    (by simp) (fun {other scope} hmem => ?_) (fun hlt => absurd hlt (Nat.lt_irrefl _)) ?_ fun _ => Sections.fragments_push _ name owner _
  · by_cases hne : other = name
    · subst hne
      rw [Sections.stack_push_self] at hmem
      exact (List.mem_cons.1 hmem).symm
    · rw [Sections.stack_push_of_ne hne] at hmem
      exact .inl hmem
  · rw [Sections.fragments_push]
    exact Nat.le_add_right _ _

/-- What pushed a scope may hold it. -/
theorem push (id : RequestId) (name owner : String) (h : rates.Fits limit s held reserve) :
    rates.Fits limit (s.pushed id name owner)
      (rates.handles id ⟨(s.sections id).scopes.size⟩ ++ held) reserve := by
  have ⟨_, hbefore, _⟩ := h
  unfold handles
  split
  · next hlt =>
    have hid : id.index < s.requests.size := hbefore.size ▸ hlt
    have hempty : (s.sections id).fragments ⟨(s.sections id).scopes.size⟩ = [] :=
      Sections.fragments_of_le (Nat.le_refl _)
    have hnothing : rates.worth (s.pushed id name owner)
        (.scope id ⟨(s.sections id).scopes.size⟩) = 0 := by
      unfold Rates.worth
      rw [Store.held_scope, Store.sections_pushed hid, Sections.fragments_push,
        hempty, Rates.total_nil]
    obtain ⟨loose, hstock, hdues⟩ := h.pushed hid name owner
    refine ⟨loose, { hstock with
      heldOnce := List.nodup_cons.2 ⟨fun hmem => ?_, hstock.heldOnce⟩
      heldMade := fun {holder} hmem => ?_ }, ?_⟩
    · exact Nat.lt_irrefl _ (Holder.made_scope.1 (hbefore.heldMade hmem))
    · rcases List.mem_cons.1 hmem with rfl | hmem
      · rw [Holder.made_scope, Store.sections_pushed hid, Sections.size_push]
        exact Nat.lt_succ_self _
      · exact hstock.heldMade hmem
    · simp only [dues, List.singleton_append, List.map_cons, List.sum_cons, hnothing] at hdues ⊢
      omega
  · next hnot =>
    have hsame : s.pushed id name owner = s :=
      Store.setSections_of_le (hbefore.size ▸ Nat.le_of_not_lt hnot) _
    rw [hsame]
    exact h

/-- A scope that is held is printed for what its fragments cost. -/
theorem handle {id : RequestId} {scope : ScopeId}
    (h : rates.Fits limit s (rates.handles id scope ++ held) reserve) :
    rates.Fits limit s held (rates.total ((s.sections id).fragments scope) + reserve) := by
  have ⟨_, hstock, _⟩ := h
  unfold handles at h
  split at h
  · exact h.release
  · next hnot =>
    rw [Store.sections_of_le (hstock.size ▸ Nat.le_of_not_lt hnot)]
    have hnone : rates.total ((Sections.empty : Sections Deferred).fragments scope) = 0 := by
      rw [Sections.fragments_of_le (Nat.zero_le _), Rates.total_nil]
    rw [hnone, Nat.zero_add]
    exact h

/-- A place from which nothing can be printed any longer is not loose, which pays for its
fragments. -/
theorem withdraw (holder : Holder) (hstock : rates.Stock s loose held)
    (hdues : rates.dues s loose held + reserve ≤ limit) (hnarrows : rates.Narrows 0 s t)
    (hloose : holder ∈ loose)
    (hscopes : ∀ {request name id}, id ∈ ((t.sections request).stack name).scopes →
      .scope request id ≠ holder)
    (hslots : ∀ {id}, t.held (.slot id) ≠ [] → .slot id ≠ holder) :
    rates.Fits limit t held (rates.worth s holder + reserve) := by
  have hafter := hnarrows.stock hstock
  refine ⟨loose.erase holder, { hafter with
    scopes := fun hmem => (List.mem_erase_of_ne (hscopes hmem)).2 (hafter.scopes hmem)
    slots := fun hheld => (List.mem_erase_of_ne (hslots hheld)).2 (hafter.slots hheld)
    looseOnce := hafter.looseOnce.erase _
    looseMade := fun hmem => hafter.looseMade (List.mem_of_mem_erase hmem) }, ?_⟩
  have hpaid : (loose.map (rates.worth s)).sum =
      rates.worth s holder + ((loose.erase holder).map (rates.worth s)).sum := by
    rw [((List.perm_cons_erase hloose).map (rates.worth s)).sum_eq, List.map_cons, List.sum_cons]
  have hrest := hnarrows.dues (loose.erase holder) held
  unfold dues at hdues hrest ⊢
  omega

/-- A scope that is taken away is not loose any longer. -/
theorem take {id : RequestId} {name : String} {scope : ScopeId} {after : Sections Deferred}
    (h : rates.Fits limit s held reserve)
    (htake : (s.sections id).takeCurrent name = .ok (some scope, after)) :
    rates.Fits limit (s.setSections id after) held
      (rates.total ((s.sections id).fragments scope) + reserve) := by
  obtain ⟨loose, hstock, hdues⟩ := h
  have hloose : .scope id scope ∈ loose :=
    hstock.scopes (mem_scopes_of_current (Sections.takeCurrent_cases htake).1.symm)
  have hid : id.index < s.requests.size := by
    apply Nat.lt_of_not_le
    intro hle
    have hmade := Holder.made_scope.1 (hstock.looseMade hloose)
    rw [Store.sections_of_le hle] at hmade
    exact Nat.not_lt_zero _ hmade
  obtain ⟨gone, hgone⟩ := hstock.tidy id
  refine withdraw (.scope id scope) hstock hdues (.takeCurrent htake) hloose
    (fun {request other found} hmem heq => ?_) fun _ => nofun
  cases heq
  rw [Store.sections_setSections_self hid] at hmem
  exact (hgone.take htake).stays hmem List.mem_cons_self

/-! ## Slots -/

/-- A slot costs what its fragments cost, and one more for itself. -/
theorem newSlot (fragments : List (Fragment Deferred))
    (h : rates.Fits limit s held (rates.total fragments + 1 + reserve)) :
    rates.Fits limit { s with slots := s.slots.push ⟨.pending fragments, false⟩ } held reserve := by
  obtain ⟨loose, hstock, hdues⟩ := h
  let t : Store σ := { s with slots := s.slots.push ⟨.pending fragments, false⟩ }
  have hnew : ¬(Holder.slot ⟨s.slots.size⟩).Made s := Nat.lt_irrefl _
  have hmade : ∀ {holder : Holder}, holder.Made s → holder.Made t := by
    intro holder hholder
    cases holder with
    | scope request scope => exact hholder
    | slot slot =>
      exact Nat.lt_of_lt_of_eq (Nat.lt_succ_of_lt hholder) (Array.size_push _).symm
  have hheld : ∀ {holder : Holder}, holder ≠ .slot ⟨s.slots.size⟩ → t.held holder = s.held holder := by
    intro holder hne
    cases holder with
    | scope request scope => rfl
    | slot slot =>
      have hplace : slot.index ≠ s.slots.size := fun heq => hne (congrArg (Holder.slot ⟨·⟩) heq)
      rw [Store.held_slot, Store.held_slot, Array.getElem?_push, if_neg hplace]
  have hslot : t.held (.slot ⟨s.slots.size⟩) = fragments := by
    rw [Store.held_slot, Array.getElem?_push_size]
    rfl
  have hworth : ∀ holders : List Holder, (∀ holder ∈ holders, holder.Made s) →
      (holders.map (rates.worth t)).sum ≤ (holders.map (rates.worth s)).sum := by
    intro holders hholders
    apply List.sum_le_sum
    intro holder hmem
    have hne : holder ≠ .slot ⟨s.slots.size⟩ := fun heq => hnew (heq ▸ hholders holder hmem)
    unfold Rates.worth
    rw [hheld hne]
  refine ⟨.slot ⟨s.slots.size⟩ :: loose, ⟨hstock.size, hstock.tidy,
    fun hmem => List.mem_cons_of_mem _ (hstock.scopes hmem), fun {slot} hwaiting => ?_,
    List.nodup_cons.2 ⟨fun hmem => hnew (hstock.looseMade hmem), hstock.looseOnce⟩,
    hstock.heldOnce, fun {holder} hmem => ?_, fun hmem => hmade (hstock.heldMade hmem),
    hstock.templates⟩, ?_⟩
  · by_cases hne : Holder.slot slot = .slot ⟨s.slots.size⟩
    · exact hne ▸ List.mem_cons_self
    · rw [hheld hne] at hwaiting
      exact List.mem_cons_of_mem _ (hstock.slots hwaiting)
  · rcases List.mem_cons.1 hmem with rfl | hmem
    · exact Nat.lt_of_lt_of_eq (Nat.lt_succ_self _) (Array.size_push _).symm
    · exact hmade (hstock.looseMade hmem)
  · have hloose := hworth loose fun _ => hstock.looseMade
    have hrest := hworth held fun _ => hstock.heldMade
    have hwork : t.work = s.work + 1 := by
      unfold Store.work
      rw [Array.size_push, Nat.add_assoc]
    have hself : rates.worth t (.slot ⟨s.slots.size⟩) = rates.total fragments := by
      unfold Rates.worth
      rw [hslot]
    show rates.dues t (.slot ⟨s.slots.size⟩ :: loose) held + reserve ≤ limit
    simp only [dues, List.map_cons, List.sum_cons, hself, hwork] at hdues ⊢
    omega

/-- A slot that is read first is not waiting any longer. -/
theorem running {id : SlotId} {fragments : List (Fragment Deferred)}
    (h : rates.Fits limit s held reserve)
    (hslot : s.slots[id.index]?.map Slot.state = some (.pending fragments)) :
    rates.Fits limit (s.setState id .running) held (rates.total fragments + reserve) := by
  have hnarrows : rates.Narrows 0 s (s.setState id .running) := .changeSlot id fun _ => .inr rfl
  obtain ⟨slot, hfind, hstate⟩ := Option.map_eq_some_iff.1 hslot
  have hheld : s.held (.slot id) = fragments := by
    rw [Store.held_slot, hfind, Option.map_some, hstate]
    rfl
  by_cases hempty : fragments = []
  · subst hempty
    rw [Rates.total_nil, Nat.zero_add]
    exact hnarrows.fits (h.mono (Nat.le_refl _) (Nat.le_of_eq (Nat.zero_add _)))
  · obtain ⟨loose, hstock, hdues⟩ := h
    have hloose : .slot id ∈ loose := hstock.slots (by rwa [hheld])
    have hpaid := withdraw _ hstock hdues hnarrows hloose (fun _ => nofun) fun {other} hother heq => by
      cases heq
      apply hother
      rw [Store.held_slot]
      unfold Store.setState
      rw [Array.getElem?_modify, if_pos rfl, hfind]
      rfl
    unfold Rates.worth at hpaid
    rwa [hheld] at hpaid

end Fits

end Rates

end TemplateEngine
