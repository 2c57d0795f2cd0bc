import TemplateEngine.Proofs.Engine.Balance
import TemplateEngine.Proofs.Engine.Stacking
import TemplateEngine.Proofs.Render.Rendering

/-!
# `Engine` · Scopes that only grow

An engine does nothing to a scope but append to it, whatever it renders and whether or not that
fails.

* **`Store.Appended`** says so of all scopes of all requests, at two moments. It is transitive, and
  only an append to a section is not trivial (`appends_add`).
* **`Contract.appending`** is met by everything that an engine does.
* **`rendering_renderScope`**: hence the renderers of a scope, which an engine runs, append to the
  scope that is rendered, and do nothing else to it.
-/

namespace TemplateEngine

open Render

variable {σ δ : Type}

namespace Sections

variable {scope : ScopeId} {S T U : Sections δ} {first rest : List (Fragment δ × Nat)}

theorem Appends.trans (h : Appends scope S first T) (h' : Appends scope T rest U) :
    Appends scope S (first ++ rest) U := by
  induction h' with
  | refl => exact (List.append_nil first).symm ▸ h
  | other _ hsame ih => exact .other ih hsame
  | append _ hscope fragment ih =>
    rw [← List.append_assoc]
    exact .append ih hscope fragment

/-- Sections in which a scope has the same fragments. -/
theorem Appends.of_eq (h : T.fragments scope = S.fragments scope) : Appends scope S [] T :=
  .other .refl h

/-- An append to a scope that does not exist does nothing. -/
theorem appends_addTo (scope : ScopeId) (S : Sections δ) (place : ScopeId)
    (fragment : Fragment δ) : ∃ appended, Appends scope S appended (S.addTo place fragment).2 := by
  by_cases hplace : scope = place
  · subst hplace
    by_cases hscope : scope.index < S.scopes.size
    · exact ⟨_, .append .refl hscope fragment⟩
    · have hle : S.scopes.size ≤ scope.index := Nat.le_of_not_lt hscope
      refine ⟨[], .of_eq ?_⟩
      rw [fragments_of_le hle, fragments_of_le ((size_addTo S scope fragment).symm ▸ hle)]
  · exact ⟨[], .of_eq (fragments_addTo_of_ne hplace S fragment)⟩

/-- An append to a section appends to its scope, which is new if the section had none. -/
theorem appends_add (scope : ScopeId) (S : Sections δ) (name owner : String)
    (fragment : Fragment δ) :
    ∃ appended, Appends scope S appended (S.add name owner fragment).2 := by
  have hafter : ∀ {T : Sections δ} {place : ScopeId}, T.fragments scope = S.fragments scope →
      ∃ appended, Appends scope S appended (T.addTo place fragment).2 := by
    intro T place hsame
    obtain ⟨appended, happended⟩ := appends_addTo scope T place fragment
    exact ⟨_, (Appends.of_eq hsame).trans happended⟩
  rcases hcurrent : S.current name with _ | place
  · rw [add_of_none hcurrent]
    exact hafter (by simp only [fragments_setStack, fragments_newScope])
  · rw [add_of_some hcurrent]
    exact hafter (fragments_setStack S name _ scope)

end Sections

namespace Store

/-- All scopes have changed by appends only. -/
def Appended (s t : Store σ) : Prop :=
  ∀ request scope, ∃ appended,
    Sections.Appends scope (s.sections request) appended (t.sections request)

variable {s t u : Store σ}

theorem Appended.of_fragments
    (h : ∀ request scope, (t.sections request).fragments scope =
      (s.sections request).fragments scope) : s.Appended t :=
  fun request scope => ⟨[], .of_eq (h request scope)⟩

theorem Appended.of_sections (h : ∀ request, t.sections request = s.sections request) :
    s.Appended t :=
  .of_fragments fun request _ => by rw [h]

theorem Appended.refl (s : Store σ) : s.Appended s := .of_sections fun _ => rfl

theorem Appended.trans (h : s.Appended t) (h' : t.Appended u) : s.Appended u := by
  intro request scope
  obtain ⟨first, hfirst⟩ := h request scope
  obtain ⟨rest, hrest⟩ := h' request scope
  exact ⟨_, hfirst.trans hrest⟩

theorem Appended.still (h : s.Still t) : s.Appended t := by
  refine .of_sections fun request => ?_
  unfold Store.sections
  rw [h.requests]

theorem appended_noted (s : Store σ) (event : Event) : s.Appended (s.noted event) :=
  .of_sections fun _ => rfl

/-- The sections of one request may change by appends. -/
theorem Appended.setSections {id : RequestId} {sections : Sections Deferred}
    (hid : id.index < s.requests.size)
    (h : ∀ scope, ∃ appended, Sections.Appends scope (s.sections id) appended sections) :
    s.Appended (s.setSections id sections) := by
  intro request scope
  by_cases hne : request = id
  · subst hne
    rw [sections_setSections_self hid]
    exact h scope
  · rw [sections_setSections_of_ne hne]
    exact ⟨[], .refl⟩

/-- A taking appends nothing. -/
theorem appended_taken {id : RequestId} {name : String} {scope : Option ScopeId}
    {after : Sections Deferred} (hid : id.index < s.requests.size)
    (htake : (s.sections id).takeCurrent name = .ok (scope, after)) :
    s.Appended (s.setSections id after) := by
  refine .setSections hid fun other => ⟨[], .of_eq ?_⟩
  rw [(Sections.takeCurrent_cases htake).2, Sections.fragments_setStack]

/-- A pop appends nothing. -/
theorem appended_pop {id : RequestId} {name : String} {popped : Option ScopeId}
    {after : Sections Deferred} (hid : id.index < s.requests.size)
    (hpop : (s.sections id).pop name = .ok (popped, after)) :
    s.Appended (s.setSections id after) :=
  .setSections hid fun other => ⟨[], .of_eq (Sections.fragments_pop hpop other)⟩

end Store

/-! ## The contract -/

/-- Scopes change by appends only, whether or not anything fails. -/
def Contract.appending (count : Nat) : Contract σ where
  bounds := .every count
  Ready _ := True
  Changes := Store.Appended
  Stops s _ t := s.Appended t
  refl := .refl
  trans := .trans
  after := .trans
  still _ h := ⟨trivial, .still h⟩
  settled h h' := h.trans (.still h')
  raises {s _} _ _ := .refl s
  fails {s _} _ _ := Store.appended_noted s _
  wrapped h _ := h
  stalls {s} _ := .refl s
  exhausts {s} _ := .refl s

theorem Contract.appending_holds {s : Store σ} {count : Nat} (h : s.Sound (.every count)) :
    (Contract.appending count).Holds s := ⟨h, trivial⟩

/-- The parts of an engine may do what they do. -/
theorem appending_stacks (config : Config) (read : String → Except Error String) (host : Host σ)
    (count : Nat) : (Contract.appending count).Stacks (Engine.interpreting config read host) where
  keeps := keeps_every _ count
  appends name owner fragment hs hid :=
    ⟨trivial, .setSections (hs.sound.live _ hid) fun scope =>
      Sections.appends_add scope _ name owner fragment⟩
  takesNone hs hid htake := ⟨trivial, Store.appended_taken (hs.sound.live _ hid) htake⟩
  takes hs hid htake :=
    ⟨trivial, (Store.appended_taken (hs.sound.live _ hid) htake).trans (Store.appended_noted _ _)⟩
  reads _ _ := ⟨trivial, Store.appended_noted _ _⟩
  evaluates source hwait _ :=
    Contract.Meets.evaluateValue (keeps_every (Engine.interpreting config read host) count).host
      (fun _ id target _ => ⟨trivial, Store.Appended.trans (Store.appended_noted _ _)
        (.of_sections fun other => Store.sections_asking _ id other target)⟩)
      (fun _ _ _ _ => ⟨trivial, Store.appended_noted _ _⟩)
      (fun _ _ _ => ⟨trivial, Store.appended_noted _ _⟩)
      (fun _ _ _ _ _ ht => Store.Appended.trans ht (Store.appended_noted _ _)) hwait _ source
  structural _ := trivial
  pushes name owner hs hid :=
    ⟨trivial, .setSections (hs.sound.live _ hid) fun scope =>
      ⟨[], .of_eq (Sections.fragments_push _ name owner scope)⟩⟩
  pops hs hid hpop := ⟨trivial, Store.appended_pop (hs.sound.live _ hid) hpop⟩
  popsAfter ht hid hst hpop :=
    Store.Appended.trans hst (Store.appended_pop (ht.live _ hid) hpop)

/-! ## Renders -/

/-- Renderers that meet the contract only append to scopes. -/
theorem Consecutive.appended {count : Nat} {run : Task → Render σ String}
    (hrun : ∀ task : Task, task.Within (.every count) →
      (Contract.appending count).Meets (run task) fun _ => True)
    {s t : Store σ} {ran : List (Ran σ Deferred)} (h : Consecutive (runDeferred run) s ran t)
    (hs : s.Sound (.every count))
    (hran : ∀ r ∈ ran, r.renderer.task.Within (.every count)) :
    ∀ r ∈ ran, r.before.Appended r.after := by
  induction h with
  | nil s => exact nofun
  | @cons first others t hexec hothers ih =>
    have hmeets := Contract.Meets.runDeferred hrun (hran first List.mem_cons_self) first.before
      (Contract.appending_holds hs)
    have hfirst : first.after.Sound (.every count) ∧ first.before.Appended first.after := by
      cases hresult : first.result with
      | ok text =>
        obtain ⟨-, hafter, hchange⟩ := hmeets.ok (hresult ▸ hexec)
        exact ⟨hafter.sound, hchange⟩
      | error stop =>
        obtain ⟨hafter, -, hstop⟩ := hmeets.error (hresult ▸ hexec)
        exact ⟨hafter, hstop⟩
    intro r hr
    rcases List.mem_cons.1 hr with rfl | hr
    · exact hfirst.2
    · exact ih hfirst.1 (fun other hother => hran other (List.mem_cons_of_mem _ hother)) r hr

/-- The renderers of a scope, which an engine runs, only append to scopes, so that the scope has
behind the render what it had and what they have appended. -/
theorem rendering_renderScope (config : Config) (read : String → Except Error String)
    (host : Host σ) (fuel : Nat) (request : RequestId) (scope : ScopeId) (store : Store σ)
    (hrequest : request.index < store.requests.size)
    (hstore : store.Sound (.every store.requests.size)) :
    let run := (Engine.interpreting config read host).produce fuel
    let outcome := exec (renderScope run request scope) store
    ∃ ran, Rendering (runDeferred run) ((store.sections request).fragments scope) store ran
        outcome ∧
      (∀ r ∈ ran, r.before.Appended r.after) ∧
        (store.sections request).fragments scope <+:
          (outcome.2.sections request).fragments scope := by
  intro run outcome
  obtain ⟨ran, hran⟩ := rendering_renderFragments (runDeferred run)
    ((store.sections request).fragments scope) store
  rw [← exec_renderScope] at hran
  have hwithin : ∀ r ∈ ran, r.renderer.task.Within (.every store.requests.size) := fun r hr =>
    hstore.scopes request hrequest scope _ (List.mem_of_getElem? (hran.present r hr))
  have happended : ∀ r ∈ ran, r.before.Appended r.after :=
    hran.consecutive.appended (fun task htask =>
      (appending_stacks config read host store.requests.size).produce fuel htask) hstore hwithin
  refine ⟨ran, hran, happended, ?_⟩
  choose! appended hall using fun r hr => happended r hr request scope
  have hfragments := congrArg (List.map Prod.fst) (hran.consecutive.zipIdx hall)
  rw [List.map_append, List.zipIdx_map_fst, List.zipIdx_map_fst] at hfragments
  exact ⟨_, hfragments.symm⟩

end TemplateEngine
