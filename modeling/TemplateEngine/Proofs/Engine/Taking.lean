import TemplateEngine.Proofs.Engine.Balance
import TemplateEngine.Proofs.Engine.Request
import TemplateEngine.Proofs.Engine.Stacking
import TemplateEngine.Proofs.Section.Taking

/-!
# `Engine` · Scopes that are printed

A directive that prints a section takes the current scope away from it. No scope is taken twice.

* **`Store.Takes`**: the scopes that a request has taken since some moment are different, and none
  of them is in a section (`Sections.Distinct`).
* **`Contract.taking`** is met by everything that an engine does, also if it fails: pushes, pops and
  appends bring back no scope that was taken.
* **`renderView_takes_once`** reads the events of a whole request.
* A template is printed from the scope that was pushed for it, whether or not that scope is still
  there. One that prints its own section prints its texts twice (`scope_printed_twice`).
-/

namespace TemplateEngine

open Render

variable {σ : Type}

/-- The scope that a request takes away. -/
def Event.taken? (request : RequestId) : Event → Option ScopeId
  | .taken id _ scope => if id = request then some scope else none
  | _ => none

/-- What a request has taken since `base` are different scopes, which are in no section. -/
def Store.Takes (base : List Event) (request : RequestId) (store : Store σ) : Prop :=
  ∃ events, store.journal = events ++ base ∧
    (store.sections request).Distinct (events.filterMap (Event.taken? request))

namespace Store.Takes

variable {base : List Event} {request : RequestId} {s t : Store σ}

theorem still (h : s.Takes base request) (hst : s.Still t) : t.Takes base request := by
  obtain ⟨events, hjournal, hdistinct⟩ := h
  refine ⟨events, hst.journal.trans hjournal, ?_⟩
  unfold Store.sections
  rw [hst.requests]
  exact hdistinct

theorem noted (h : s.Takes base request) {event : Event} (hevent : event.taken? request = none) :
    (s.noted event).Takes base request := by
  obtain ⟨events, hjournal, hdistinct⟩ := h
  refine ⟨event :: events, congrArg (event :: ·) hjournal, ?_⟩
  rw [List.filterMap_cons_none hevent]
  exact hdistinct

theorem asking (h : s.Takes base request) (id : RequestId) (target : String) :
    (s.asking id target).Takes base request := by
  obtain ⟨events, hjournal, hdistinct⟩ := h
  refine ⟨events, hjournal, ?_⟩
  rw [Store.sections_asking]
  exact hdistinct

/-- The sections of a request may change in every way that leaves scopes in one place. -/
theorem setSections (h : s.Takes base request) {id : RequestId} {sections : Sections Deferred}
    (hid : id.index < s.requests.size)
    (hsections : ∀ gone, (s.sections id).Distinct gone → sections.Distinct gone) :
    (s.setSections id sections).Takes base request := by
  obtain ⟨events, hjournal, hdistinct⟩ := h
  refine ⟨events, hjournal, ?_⟩
  by_cases hne : request = id
  · subst hne
    rw [sections_setSections_self hid]
    exact hsections _ hdistinct
  · rw [sections_setSections_of_ne hne]
    exact hdistinct

/-- A scope that is taken was not taken before. -/
theorem taken (h : s.Takes base request) {id : RequestId} {name : String} {scope : ScopeId}
    {after : Sections Deferred} (hid : id.index < s.requests.size)
    (htake : (s.sections id).takeCurrent name = .ok (some scope, after)) :
    ((s.setSections id after).noted (.taken id name scope)).Takes base request := by
  obtain ⟨events, hjournal, hdistinct⟩ := h
  refine ⟨.taken id name scope :: events, congrArg (_ :: ·) hjournal, ?_⟩
  by_cases hne : request = id
  · subst hne
    have htaken : (Event.taken request name scope).taken? request = some scope := if_pos rfl
    have hsections : ((s.setSections request after).noted (.taken request name scope)).sections
        request = after := sections_setSections_self hid after
    rw [List.filterMap_cons_some htaken, hsections]
    exact hdistinct.take htake
  · have htaken : (Event.taken id name scope).taken? request = none :=
      if_neg fun h => hne h.symm
    have hsections : ((s.setSections id after).noted (.taken id name scope)).sections request =
        s.sections request := sections_setSections_of_ne hne after
    rw [List.filterMap_cons_none htaken, hsections]
    exact hdistinct

end Store.Takes

/-! ## The contract -/

/-- No scope of a request is taken twice, whether or not anything fails. -/
def Contract.taking (base : List Event) (request : RequestId) (count : Nat) : Contract σ where
  bounds := .every count
  Ready s := s.Takes base request
  Changes _ _ := True
  Stops _ _ t := t.Takes base request
  refl _ := trivial
  trans _ _ := trivial
  after _ h := h
  still hs h := ⟨hs.still h, trivial⟩
  settled hs h := hs.still h
  raises hs _ := hs
  fails hs _ := hs.noted rfl
  wrapped h _ := h
  stalls hs := hs
  exhausts hs := hs

variable {base : List Event} {request : RequestId} {count : Nat}

/-- The parts of an engine may do what they do. -/
theorem taking_stacks (config : Config) (read : String → Except Error String) (host : Host σ) :
    (Contract.taking base request count).Stacks (Engine.interpreting config read host) where
  keeps := keeps_every _ count
  appends name owner fragment hs hid :=
    ⟨Store.Takes.setSections hs.ready (hs.sound.live _ hid) fun _ h => h.add name owner fragment,
      trivial⟩
  takesNone hs hid htake :=
    ⟨Store.Takes.setSections hs.ready (hs.sound.live _ hid) fun _ h => h.takeNone htake, trivial⟩
  takes hs hid htake := ⟨Store.Takes.taken hs.ready (hs.sound.live _ hid) htake, trivial⟩
  reads _ hs := ⟨Store.Takes.noted hs.ready rfl, trivial⟩
  evaluates source hwait _ :=
    Contract.Meets.evaluateValue (keeps_every (Engine.interpreting config read host) count).host
      (fun _ id target hs => ⟨(Store.Takes.noted hs.ready rfl).asking id target, trivial⟩)
      (fun _ _ _ hs => ⟨Store.Takes.noted hs.ready rfl, trivial⟩)
      (fun _ _ hs => ⟨Store.Takes.noted hs.ready rfl, trivial⟩)
      (fun _ _ _ _ _ ht => Store.Takes.noted ht rfl) hwait _ source
  structural _ := trivial
  pushes name owner hs hid :=
    ⟨Store.Takes.setSections hs.ready (hs.sound.live _ hid) fun _ h => h.push name owner, trivial⟩
  pops hs hid hpop :=
    ⟨Store.Takes.setSections hs.ready (hs.sound.live _ hid) fun _ h => h.pop hpop, trivial⟩
  popsAfter ht hid hst hpop :=
    Store.Takes.setSections hst (ht.live _ hid) fun _ h => h.pop hpop

/-! ## Requests -/

/-- A store with a new request is as sound as before. -/
theorem Store.sound_every_withRequest {store : Store σ} (h : store.Sound (.every store.requests.size))
    (graph : Graph) :
    (store.withRequest graph).Sound (.every (store.requests.size + 1)) where
  live id hid := Nat.lt_of_lt_of_eq hid (Array.size_push _).symm
  scopes id hid scope := by
    rcases Nat.lt_succ_iff_lt_or_eq.1 hid with hold | hnew
    · have hsections : (store.withRequest graph).sections id = store.sections id := by
        unfold Store.sections Store.withRequest
        rw [Array.getElem?_push_lt hold, Array.getElem?_eq_getElem hold]
      have hpending : SlotState.Sound (.every store.requests.size)
          (.pending ((store.sections id).fragments scope)) := h.scopes id hold scope
      rw [hsections]
      exact hpending.mono (fun _ => Nat.lt_succ_of_lt) fun _ _ => trivial
    · intro fragment hf
      obtain rfl : id = ⟨store.requests.size⟩ := congrArg RequestId.mk hnew
      rw [(sections_withRequest store graph).1, Sections.fragments_of_le (Nat.zero_le _)] at hf
      cases hf
  slots slot hslot := (h.slots slot hslot).mono (fun _ => Nat.lt_succ_of_lt) fun _ => id
  graph state _ := by rcases state with _ | _ | _ | _ <;> trivial

/-- In a request no scope is taken twice to be printed as a section, however the request ends. -/
theorem renderView_takes_once (config : Config) (read : String → Except Error String)
    (host : Host σ) (fuel : Nat) (path : String) (data : ObjectId) (store after : Store σ)
    (result : Except Stop Rendered) (hstore : store.Sound (.every store.requests.size))
    (hrun : exec ((Engine.interpreting config read host).renderView fuel path data) store =
      (result, after)) :
    ∃ events, after.journal = events ++ store.journal ∧
      (events.filterMap (Event.taken? ⟨store.requests.size⟩)).Nodup := by
  obtain ⟨context, graph, hcontext, hrequest, -, -⟩ :=
    exec_context (Engine.interpreting config read host) path data store
  have hstart : (Contract.taking store.journal context.request (store.requests.size + 1)).Holds
      (store.withRequest graph) := by
    refine ⟨Store.sound_every_withRequest hstore graph, [], rfl, ?_⟩
    rw [hrequest, (Store.sections_withRequest store graph).1]
    exact Sections.distinct_empty
  have htask : Task.Within (.every (store.requests.size + 1)) (.template context) := by
    show context.request.index < store.requests.size + 1
    rw [hrequest]
    exact Nat.lt_succ_self _
  have hattempt : Ensures (attempt ((Engine.interpreting config read host).render fuel context))
      (store.withRequest graph) (fun _ t => t.Takes store.journal context.request)
      fun _ t => t.Takes store.journal context.request := by
    refine .attempt (((taking_stacks config read host).produce fuel htask _ hstart).mono
      (fun _ _ h => h.2.1.ready) fun stop t h => ?_)
    cases stop <;> exact h.2.2
  have hrender : Ensures ((Engine.interpreting config read host).renderView fuel path data) store
      (fun _ t => t.Takes store.journal context.request)
      fun _ t => t.Takes store.journal context.request :=
    .bind_ok hcontext (hattempt.bind fun _ _ ht => .bind_ok (exec_withRequest_redirect _ _)
      (.ofExcept (fun _ _ => ht) fun _ _ => ht))
  have htakes : after.Takes store.journal context.request := by
    cases result with
    | ok rendered => exact hrender.ok hrun
    | error stop => exact hrender.error hrun
  obtain ⟨events, hjournal, hdistinct⟩ := htakes
  exact ⟨events, hjournal, hrequest ▸ hdistinct.goneOnce⟩

/-- A page that prints a section twice. -/
def printingPages : List (String × String) :=
  [("/p.html", "$\x7b#section s\x7dS$\x7b#section content\x7d$\x7b#render s\x7d$\x7b#render s?\x7d")]

/-- Of such a page the section is taken once. -/
theorem renderView_takes_once_page :
    let run := exec ((Engine.inMemory .standard printingPages).renderView 10 "/p" ⟨0⟩)
      (Store.fresh .nothing ())
    run.1.toOption = some (.html "S") ∧
      run.2.journal.filterMap (Event.taken? ⟨0⟩) = [⟨1⟩] ∧
      ∃ events, run.2.journal = events ++ [] ∧ (events.filterMap (Event.taken? ⟨0⟩)).Nodup := by
  intro run
  have hdecided : run.1.toOption = some (.html "S") ∧
      run.2.journal.filterMap (Event.taken? ⟨0⟩) = [⟨1⟩] := by
    decide +kernel
  have hfresh : (Store.fresh .nothing () : Store Unit).Sound (.every 0) :=
    Store.sound_fresh .nothing () fun _ => Nat.not_lt_zero _
  rcases hrun : run with ⟨result, after⟩
  rw [hrun] at hdecided
  exact ⟨hdecided.1, hdecided.2, renderView_takes_once { Config.standard with cacheSize := 0 } _
    Host.none 10 "/p" ⟨0⟩ (Store.fresh .nothing ()) after result hfresh hrun⟩

/-- A page that prints its own section. -/
def echoingPages : List (String × String) := [("/p.html", "A$\x7b#render content?\x7d")]

/-- The scope of such a page is printed twice: for the page, and by the directive in it. -/
theorem scope_printed_twice :
    let run := exec ((Engine.inMemory .standard echoingPages).renderView 10 "/p" ⟨0⟩)
      (Store.fresh .nothing ())
    run.1.toOption = some (.html "AA") ∧
      run.2.journal.filterMap (Event.taken? ⟨0⟩) = [⟨0⟩] ∧
      ((run.2.sections ⟨0⟩).fragments ⟨0⟩).length = 2 := by
  decide +kernel

end TemplateEngine
