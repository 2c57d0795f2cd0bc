import TemplateEngine.Proofs.Engine.Contract
import TemplateEngine.Proofs.Engine.Request
import TemplateEngine.Proofs.Engine.Stacking
import TemplateEngine.Proofs.Expr.Acceptance
import TemplateEngine.Proofs.Expr.Evaluation
import TemplateEngine.Proofs.Signal

/-!
# `Engine` · Redirects

A redirect wins over every other outcome of a request, and the first one counts.

* **`Contract.inside`** is met inside of expressions: a redirect may be asked for there, and the
  expression goes on.
* **`Contract.outside`** is met by everything else: what has a value has not asked for a redirect,
  and what fails after one was asked for fails with it. An evaluation meets it because it checks the
  redirect of its request in the end (`outside_evaluateValue`).
* **`renderView_redirects`** reads the events of a whole request.
-/

namespace TemplateEngine

open Render TemplateEngine.Template

variable {σ : Type}

/-- Some requests, and all errors that do not hide a redirect. -/
def Bounds.clear (ours : RequestId → Prop) : Bounds where
  ours := ours
  expected := Error.IsClear
  own := Error.IsOwn.isClear
  redirect := Error.isClear_redirect
  similar := Error.IsClear.similar

/-! ## Contracts -/

section Contracts

variable {base : List Event} {request : RequestId}

/-- What has happened since `base` and the redirect of the request match. -/
def Store.Watched (base : List Event) (request : RequestId) (store : Store σ) : Prop :=
  base <:+ store.journal ∧ (store.signal base request).Matches (store.redirect request)

/-- A computation stops as the signal has it. -/
def Store.Left (base : List Event) (request : RequestId) (store : Store σ) (stop : Stop) : Prop :=
  base <:+ store.journal ∧
    match stop with
    | .raised error => (store.signal base request).Agrees (store.redirect request) error
    | .stalled => store.signal base request ≠ .broken
    | .exhausted => store.signal base request ≠ .broken

variable {s t : Store σ}

theorem Store.Still.signal (h : s.Still t) : t.signal base request = s.signal base request := by
  unfold Store.signal
  rw [h.journal]

theorem Store.Still.redirect (h : s.Still t) : t.redirect request = s.redirect request := by
  unfold Store.redirect
  rw [h.requests]

theorem Store.Watched.still (hs : s.Watched base request) (h : s.Still t) :
    t.Watched base request := by
  unfold Watched
  rw [h.journal, h.signal, h.redirect]
  exact hs

theorem Store.Left.still {stop : Stop} (hs : s.Left base request stop) (h : s.Still t) :
    t.Left base request stop := by
  unfold Left
  rw [h.journal, h.signal, h.redirect]
  exact hs

theorem Store.Watched.left (hs : s.Watched base request) (stop : Stop) :
    s.Left base request stop := by
  refine ⟨hs.1, ?_⟩
  cases stop with
  | raised error => exact .inl hs.2
  | stalled | exhausted => exact hs.2.ne_broken

/-- A failure of a native function is a redirect on its way out, unless one was asked for before. -/
theorem Store.Watched.failed (hs : s.Watched base request) (error : Error) :
    (s.noted (.failed error)).Left base request (.raised error) ∧
      (s.signal base request).Reaches ((s.noted (.failed error)).signal base request) ∧
      (s.signal base request = .clear →
        (s.noted (.failed error)).signal base request = .clear ∨
          ∃ target, (s.noted (.failed error)).signal base request = .leaving target ∧
            error.redirectTarget? = some target) := by
  obtain ⟨hbase, hmatches⟩ := hs
  have hredirect : (s.noted (.failed error)).redirect request = s.redirect request := rfl
  have hleaving : ∀ target, Signal.leaving target ≠ .broken := fun _ h => by cases h
  unfold Left
  simp only [signal_noted hbase, hredirect]
  rcases hmatches with ⟨hsignal, hnone⟩ | ⟨target, hsignal, hsome⟩
  · rw [hsignal, hnone]
    rcases htarget : error.redirectTarget? with _ | target
    · have hnext : Signal.next request .clear (.failed error) = .clear := by
        simp only [Signal.next, htarget, Option.map_none, Option.getD_none]
      rw [hnext]
      exact ⟨⟨suffix_noted hbase _, .inl (.inl ⟨rfl, rfl⟩)⟩, .refl _, fun _ => .inl rfl⟩
    · have hnext : Signal.next request .clear (.failed error) = .leaving target := by
        simp only [Signal.next, htarget, Option.map_some, Option.getD_some]
      rw [hnext]
      exact ⟨⟨suffix_noted hbase _, .inr ⟨target, rfl, .inr ⟨rfl, htarget⟩⟩⟩,
        .inr (.inl ⟨rfl, hleaving _⟩), fun _ => .inr ⟨target, rfl, rfl⟩⟩
  · rw [hsignal, hsome]
    exact ⟨⟨suffix_noted hbase _, .inl (.inr ⟨target, rfl, rfl⟩)⟩, .refl _, fun h => by cases h⟩

/-- Inside of an expression a redirect may be asked for. -/
def Contract.inside (base : List Event) (request : RequestId) : Contract σ where
  bounds := .clear (· = request)
  Ready s := s.Watched base request
  Changes s t := (s.signal base request).Reaches (t.signal base request)
  Stops s stop t :=
    t.Left base request stop ∧ (s.signal base request).Reaches (t.signal base request)
  refl _ := .refl _
  trans h h' := h.trans h'
  after h h' := ⟨h'.1, h.trans h'.2⟩
  still hs h := ⟨hs.still h, by rw [h.signal]; exact .refl _⟩
  settled hs h := ⟨hs.1.still h, by rw [h.signal]; exact hs.2⟩
  raises hs _ := ⟨hs.left _, .refl _⟩
  fails hs _ := ⟨(hs.failed _).1, (hs.failed _).2.1⟩
  wrapped h hab := ⟨⟨h.1.1, h.1.2.similar hab⟩, h.2⟩
  stalls hs := ⟨hs.left _, .refl _⟩
  exhausts hs := ⟨hs.left _, .refl _⟩

/-- Outside of expressions no redirect is asked for, and one on its way out is the error. -/
def Contract.outside (base : List Event) (request : RequestId) : Contract σ where
  bounds := .clear (· = request)
  Ready s := s.Watched base request
  Changes s t := t.signal base request = s.signal base request
  Stops s stop t := t.Left base request stop ∧
    (s.signal base request).Reaches (t.signal base request) ∧
      ∀ error, stop = .raised error → s.signal base request = .clear →
        t.signal base request = .clear ∨
          ∃ target, t.signal base request = .leaving target ∧ error.redirectTarget? = some target
  refl _ := rfl
  trans h h' := h'.trans h
  after h h' := by
    rw [← h]
    exact h'
  still hs h := ⟨hs.still h, h.signal⟩
  settled hs h := by
    rw [h.signal]
    exact ⟨hs.1.still h, hs.2⟩
  raises hs _ := ⟨hs.left _, .refl _, fun _ _ h => .inl h⟩
  fails hs _ := by
    refine ⟨(hs.failed _).1, (hs.failed _).2.1, ?_⟩
    rintro _ ⟨⟩
    exact (hs.failed _).2.2
  wrapped {s t a b} h hab := by
    refine ⟨⟨h.1.1, h.1.2.similar hab⟩, h.2.1, ?_⟩
    rintro _ ⟨⟩ hclear
    rw [← hab.target]
    exact h.2.2 a rfl hclear
  stalls hs := ⟨hs.left _, .refl _, nofun⟩
  exhausts hs := ⟨hs.left _, .refl _, nofun⟩

/-- What meets the contract outside of expressions also does inside. -/
theorem Contract.Meets.inside {α : Type} {x : Render σ α} {good : α → Prop}
    (h : (Contract.outside base request).Meets x good) :
    (Contract.inside base request).Meets x good := by
  intro s hs
  refine (h s ⟨hs.sound, hs.ready⟩).mono ?_ ?_
  · rintro a t ⟨ha, ht, hst⟩
    have hst : t.signal base request = s.signal base request := hst
    refine ⟨ha, ⟨ht.sound, ht.ready⟩, ?_⟩
    show (s.signal base request).Reaches (t.signal base request)
    rw [hst]
    exact .refl _
  · rintro stop t ⟨ht, hstop, hleft, hreaches, -⟩
    exact ⟨ht, hstop, hleft, hreaches⟩

/-! ## Expressions -/

/-- An expression may ask for a redirect; the first one counts. -/
theorem inside_asks (s : Store σ) (id : RequestId) (target : String)
    (hs : (Contract.inside base request).Holds s) :
    ((s.noted (.asked id target)).asking id target).Watched base request ∧
      (s.signal base request).Reaches
        (((s.noted (.asked id target)).asking id target).signal base request) := by
  obtain ⟨hbase, hmatches⟩ : s.Watched base request := hs.ready
  have hlive : request.index < (s.noted (.asked id target)).requests.size :=
    hs.sound.live request rfl
  have hsignal : ((s.noted (.asked id target)).asking id target).signal base request =
      (s.signal base request).next request (.asked id target) := Store.signal_noted hbase _
  unfold Store.Watched
  rw [hsignal]
  by_cases hid : id = request
  · subst hid
    have hredirect : ((s.noted (.asked id target)).asking id target).redirect id =
        (s.redirect id).or (some target) := Store.redirect_asking_self hlive target
    rw [hredirect]
    rcases hmatches with ⟨hclear, hnone⟩ | ⟨first, hasked, hsome⟩
    · have hnext : Signal.next id .clear (.asked id target) = .asked target := if_pos rfl
      rw [hclear, hnone, hnext]
      exact ⟨⟨Store.suffix_noted hbase _, .inr ⟨target, rfl, rfl⟩⟩, .inr (.inl ⟨rfl, nofun⟩)⟩
    · rw [hasked, hsome]
      exact ⟨⟨Store.suffix_noted hbase _, .inr ⟨first, rfl, rfl⟩⟩, .refl _⟩
  · have hredirect : ((s.noted (.asked id target)).asking id target).redirect request =
        s.redirect request := Store.redirect_asking_of_ne (fun h => hid h.symm) target
    rw [hredirect]
    rcases hmatches with ⟨hclear, hnone⟩ | ⟨first, hasked, hsome⟩
    · have hnext : Signal.next request .clear (.asked id target) = .clear := if_neg hid
      rw [hclear, hnone, hnext]
      exact ⟨⟨Store.suffix_noted hbase _, .inl ⟨rfl, rfl⟩⟩, .refl _⟩
    · rw [hasked, hsome]
      exact ⟨⟨Store.suffix_noted hbase _, .inr ⟨first, rfl, rfl⟩⟩, .refl _⟩

/-- The end of an evaluation whose request has asked for a redirect: the redirect goes out. -/
theorem outside_ended_some {s t : Store σ} {target : String} (hbase : base <:+ t.journal)
    (hst : (s.signal base request).Reaches (t.signal base request))
    (hsignal : t.signal base request = .asked target ∨ t.signal base request = .leaving target)
    (hredirect : t.redirect request = some target) :
    (Contract.outside base request).Stops s (.raised (.redirect target))
      (t.noted (.ended request)) := by
  have hended : (t.noted (.ended request)).signal base request = .leaving target := by
    rw [Store.signal_noted hbase]
    rcases hsignal with h | h <;> rw [h] <;> rfl
  refine ⟨⟨Store.suffix_noted hbase _, .inr ⟨target, hended, .inl hredirect⟩⟩, ?_, ?_⟩
  · rw [hended]
    refine hst.trans ?_
    rcases hsignal with h | h
    · exact .inr (.inr ⟨target, h, rfl⟩)
    · rw [h]
      exact .refl _
  · rintro _ ⟨⟩ _
    exact .inr ⟨target, hended, rfl⟩

/-- The end of an evaluation with an error, if its request has not asked for a redirect. -/
theorem outside_ended_none {s t : Store σ} {error error' : Error} (hbase : base <:+ t.journal)
    (hst : (s.signal base request).Reaches (t.signal base request))
    (hsignal : (t.signal base request).Agrees (t.redirect request) error)
    (hredirect : t.redirect request = none) (hsimilar : Error.Similar error error') :
    (Contract.outside base request).Stops s (.raised error') (t.noted (.ended request)) := by
  rw [hredirect] at hsignal
  have hended : (t.noted (.ended request)).signal base request = t.signal base request := by
    rw [Store.signal_noted hbase]
    rcases hsignal.of_none with h | ⟨target, h, -⟩ <;> rw [h] <;> rfl
  refine ⟨⟨Store.suffix_noted hbase _, ?_⟩, ?_, ?_⟩
  · have hsame : (t.noted (.ended request)).redirect request = none := hredirect
    rw [hended, hsame]
    exact hsignal.similar hsimilar
  · rw [hended]
    exact hst
  · rintro _ ⟨⟩ _
    rw [hended, ← hsimilar.target]
    exact hsignal.of_none

variable {host : Host σ}

/-- An evaluation has a value only if no redirect was asked for, and otherwise fails with it. -/
theorem outside_evaluateValue (hhost : host.Keeps (.clear (· = request)))
    {wait : PromiseId → Render σ Value}
    (hwait : ∀ id, (Contract.outside base request).Meets (wait id) fun _ => True) {scope : Scope}
    (hscope : scope.request = request) (source : String) :
    (Contract.outside base request).Meets
      (evaluateValue host (.interpreter host) wait scope source) fun _ => True := by
  subst hscope
  have hrun := Contract.Meets.runRooted hhost inside_asks (fun id => (hwait id).inside) scope
    (RootPath.writeRoots source)
  intro s hs
  obtain ⟨hbase, hmatches⟩ : s.Watched base scope.request := hs.ready
  have hstarted : (s.noted (.started scope.request source)).signal base scope.request =
      s.signal base scope.request := by
    rw [Store.signal_noted hbase]
    rcases hmatches with ⟨h, -⟩ | ⟨target, h, -⟩ <;> rw [h] <;> rfl
  have hready : (s.noted (.started scope.request source)).Watched base scope.request := by
    refine ⟨Store.suffix_noted hbase _, ?_⟩
    rw [hstarted]
    exact hmatches
  refine ensures_evaluateValue ((hrun _ ⟨hs.sound.noted _, hready⟩).mono ?_ ?_)
  · rintro value t ⟨-, ht, hst⟩
    obtain ⟨htbase, htmatches⟩ : t.Watched base scope.request := ht.ready
    have hst : (s.signal base scope.request).Reaches (t.signal base scope.request) := by
      rw [← hstarted]
      exact hst
    refine ⟨fun target hsome => ?_, fun hnone => ?_⟩
    · rw [hsome] at htmatches
      exact ⟨ht.sound.noted _, Error.isClear_redirect target,
        outside_ended_some htbase hst (.inl htmatches.of_some) hsome⟩
    · rw [hnone] at htmatches
      have hended : (t.noted (.ended scope.request)).signal base scope.request = .clear := by
        rw [Store.signal_noted htbase, htmatches.of_none]
        rfl
      rw [htmatches.of_none] at hst
      exact ⟨trivial, ⟨ht.sound.noted _, Store.suffix_noted htbase _, .inl ⟨hended, hnone⟩⟩,
        hended.trans hst.clear.symm⟩
  · rintro stop t ⟨ht, hstop, ⟨htbase, hleft⟩, hst⟩
    rw [hstarted] at hst
    cases stop with
    | stalled | exhausted => exact ⟨ht, hstop, ⟨htbase, hleft⟩, hst, nofun⟩
    | raised error =>
      refine ⟨fun target hsome => ?_, fun hnone => ?_⟩
      · rw [hsome] at hleft
        exact ⟨ht.noted _, Error.isClear_redirect target,
          outside_ended_some htbase hst hleft.of_some hsome⟩
      · have hsimilar := Error.similar_evaluationError source (RootPath.writeRoots source) error
        exact ⟨ht.noted _, Error.IsClear.similar hstop hsimilar,
          outside_ended_none htbase hst hleft hnone hsimilar⟩

/-! ## Walks -/

/-- An event that says nothing of redirects. -/
theorem Store.Watched.noted {s : Store σ} (hs : s.Watched base request) {event : Event}
    (hclear : Signal.next request .clear event = .clear)
    (hasked : ∀ target, Signal.next request (.asked target) event = .asked target) :
    (s.noted event).Watched base request ∧
      (s.noted event).signal base request = s.signal base request := by
  obtain ⟨hbase, hmatches⟩ := hs
  have hsignal : (s.noted event).signal base request = s.signal base request := by
    rw [signal_noted hbase]
    rcases hmatches with ⟨h, -⟩ | ⟨target, h, -⟩
    · rw [h, hclear]
    · rw [h, hasked]
  refine ⟨⟨suffix_noted hbase _, ?_⟩, hsignal⟩
  rw [hsignal]
  exact hmatches

/-- Sections say nothing of redirects. -/
theorem Store.Watched.setSections {s : Store σ} (hs : s.Watched base request) (id : RequestId)
    (sections : Sections Deferred) : (s.setSections id sections).Watched base request := by
  unfold Watched
  rw [redirect_setSections]
  exact hs

variable {config : Config} {read : String → Except Error String}

/-- The parts of an engine do not ask for redirects, except in expressions, and pushes and pops say
nothing of them. -/
theorem outside_stacks
    (hkeeps : (Engine.interpreting config read host).Keeps (.clear (· = request))) :
    (Contract.outside base request).Stacks (Engine.interpreting config read host) where
  keeps := hkeeps
  appends _ _ _ hs _ := ⟨Store.Watched.setSections hs.ready _ _, rfl⟩
  takesNone hs _ _ := ⟨Store.Watched.setSections hs.ready _ _, rfl⟩
  takes hs _ _ := (Store.Watched.setSections hs.ready _ _).noted rfl fun _ => rfl
  reads _ hs := Store.Watched.noted hs.ready rfl fun _ => rfl
  evaluates source hwait hscope := outside_evaluateValue hkeeps.host hwait hscope source
  structural _ := nofun
  pushes _ _ hs _ := ⟨Store.Watched.setSections hs.ready _ _, rfl⟩
  pops hs _ _ := ⟨Store.Watched.setSections hs.ready _ _, rfl⟩
  popsAfter := by
    rintro s t stop id name popped after - - ⟨⟨hbase, hleft⟩, hst⟩ -
    refine ⟨⟨hbase, ?_⟩, hst⟩
    rw [Store.redirect_setSections]
    exact hleft

end Contracts

/-! ## Requests -/

/-- Native functions do not care which requests are meant. -/
theorem Host.Keeps.clear {host : Host σ} {ours : RequestId → Prop} (h : host.Keeps (.clear ours))
    (others : RequestId → Prop) : host.Keeps (.clear others) := by
  have hpromise : ∀ {ours ours' : RequestId → Prop} {graph : Graph},
      graph.Sound (.clear ours) → graph.Sound (.clear ours') := by
    intro ours ours' graph hgraph state hmem
    have hstate := hgraph state hmem
    match state, hstate with
    | .pending _, _ => trivial
    | .running, _ => trivial
    | .settled (.ok _), _ => trivial
    | .settled (.error _), hstate => exact hstate
  exact ⟨h.fails, fun id args state hstate => hpromise (h.leaves id args state (hpromise hstate))⟩

/-- What is laid by for earlier requests is none of the new one's. -/
theorem Store.sound_withRequest {store : Store σ} {graph : Graph}
    (h : store.Sound (.clear fun _ => False)) (hgraph : graph.promises = store.graph.promises) :
    (store.withRequest graph).Sound (.clear (· = ⟨store.requests.size⟩)) where
  live id hid := by
    cases hid
    exact Nat.lt_of_lt_of_eq (Nat.lt_succ_self _) (Array.size_push _).symm
  scopes id hid scope fragment hf := by
    cases hid
    rw [(sections_withRequest store graph).1, Sections.fragments_of_le (Nat.zero_le _)] at hf
    cases hf
  slots slot hslot := (h.slots slot hslot).mono nofun fun _ => id
  graph state hstate := by
    rw [Store.withRequest, hgraph] at hstate
    have hold := h.graph state hstate
    match state, hold with
    | .pending _, _ => trivial
    | .running, _ => trivial
    | .settled (.ok _), _ => trivial
    | .settled (.error _), hold => exact hold

/-- A request that has stopped: an error is no redirect at its root, and no redirect was asked for
or on its way out. -/
def Store.Stopped (base : List Event) (request : RequestId) (stop : Stop) (store : Store σ) :
    Prop :=
  base <:+ store.journal ∧
    OnStop (fun error => store.signal base request = .clear ∧
        ∀ target, error.rootCause ≠ .redirect target)
      (fun _ => store.signal base request ≠ .broken) stop

/-- How the rendering of a request ends, of which its outcome is made, is told by the signal. -/
theorem ensures_attempt_render {engine : Engine σ} {base : List Event} {context : Context}
    {store : Store σ} (hstacks : (Contract.outside base context.request).Stacks engine)
    (hstart : (Contract.outside base context.request).Holds store)
    (hclear : store.signal base context.request = .clear) (fuel : Nat) :
    Ensures (attempt (engine.render fuel context)) store
      (fun result t => base <:+ t.journal ∧
        OnResult (fun _ => t.signal base context.request = .clear ∧
            t.redirect context.request = none)
          (fun error => error.IsClear ∧ (t.signal base context.request = .clear ∨
            ∃ target, t.signal base context.request = .leaving target ∧
              error.redirectTarget? = some target)) result)
      fun stop t => t.Stopped base context.request stop := by
  have htask : Task.Within (.clear (· = context.request)) (.template context) := rfl
  refine .attempt ((hstacks.produce fuel htask _ hstart).mono ?_ ?_)
  · rintro html t ⟨-, ht, hst⟩
    obtain ⟨hbase, hmatches⟩ : t.Watched base context.request := ht.ready
    have hafter : t.signal base context.request = .clear := hst.trans hclear
    rw [hafter] at hmatches
    exact ⟨hbase, hafter, hmatches.redirect_of_clear⟩
  · rintro stop t ⟨-, hstop, ⟨hbase, hleft⟩, -, hleaves⟩
    cases stop with
    | raised error => exact ⟨hbase, hstop, hleaves error rfl hclear⟩
    | stalled | exhausted => exact ⟨hbase, hleft⟩

/-- How a request ends is told by the signal. -/
theorem ensures_renderView {config : Config} {read : String → Except Error String} {host : Host σ}
    (hhost : host.Keeps (.clear fun _ => False))
    (hread : ∀ path error, read path = .error error → error.IsClear) (fuel : Nat) (path : String)
    (data : ObjectId) {store : Store σ} (hstore : store.Sound (.clear fun _ => False)) :
    Ensures ((Engine.interpreting config read host).renderView fuel path data) store
      (fun rendered after => store.journal <:+ after.journal ∧
        (after.signal store.journal ⟨store.requests.size⟩ = .clear ∨
          ∃ target, after.signal store.journal ⟨store.requests.size⟩ = .leaving target ∧
            rendered = .redirect target))
      fun stop after => after.Stopped store.journal ⟨store.requests.size⟩ stop := by
  obtain ⟨context, graph, hcontext, hrequest, -, hgraph⟩ :=
    exec_context (Engine.interpreting config read host) path data store
  have hkeeps : (Engine.interpreting config read host).Keeps (.clear (· = context.request)) :=
    ⟨hhost.clear _, hread⟩
  have hsignal : (store.withRequest graph).signal store.journal context.request = .clear :=
    Store.signal_of_append (List.nil_append _).symm
  have hstart : (Contract.outside store.journal context.request).Holds
      (store.withRequest graph) := by
    refine ⟨?_, List.suffix_refl _, .inl ⟨hsignal, ?_⟩⟩
    · rw [hrequest]
      exact Store.sound_withRequest hstore hgraph
    · rw [hrequest]
      exact (Store.sections_withRequest store graph).2
  have hrender := ensures_attempt_render (outside_stacks hkeeps) hstart hsignal fuel
  rw [← hrequest]
  unfold Engine.renderView
  refine .bind_ok hcontext (hrender.bind fun result t h =>
    .bind_ok (exec_withRequest_redirect _ _) ?_)
  obtain ⟨hbase, hresult⟩ := h
  cases result with
  | ok html =>
    obtain ⟨hclear, hnone⟩ := hresult
    rw [hnone]
    exact .pure ⟨hbase, .inl hclear⟩
  | error error =>
    obtain ⟨herror, hsignal⟩ := hresult
    unfold Engine.outcome
    dsimp only
    rcases htarget : error.redirectTarget? with _ | target
    · rw [htarget] at hsignal
      refine .raise ⟨hbase, ?_, fun target hroot => ?_⟩
      · rcases hsignal with hclear | ⟨_, -, hsome⟩
        · exact hclear
        · cases hsome
      · have hredirect := herror target hroot
        unfold Error.isRedirect at hredirect
        rw [htarget] at hredirect
        cases hredirect
    · rw [htarget] at hsignal
      refine .pure ⟨hbase, hsignal.imp_right ?_⟩
      rintro ⟨_, hleaving, ⟨⟩⟩
      exact ⟨target, hleaving, rfl⟩

/-- The request came to an end: its result is a page, a redirect or an error. -/
def Finished (result : Except Stop Rendered) : Prop :=
  ∀ stop, result = .error stop → ∃ error, stop = .raised error

/-- A request that asks for a redirect, if it ends, ends with the first one asked for, whatever
else fails; so does one that asks for none and in which a native function fails with a redirect. No
error of a request is a redirect at its root. Once an expression that has asked for a redirect ends,
nothing happens but the ends of the expressions around it: no expression starts, and no template is
read. -/
theorem renderView_redirects (config : Config) (read : String → Except Error String)
    (host : Host σ) (fuel : Nat) (path : String) (data : ObjectId) (store after : Store σ)
    (result : Except Stop Rendered)
    (hhost : host.Keeps (.clear fun _ => False))
    (hread : ∀ path error, read path = .error error → error.IsClear)
    (hstore : store.Sound (.clear fun _ => False))
    (hrun : exec ((Engine.interpreting config read host).renderView fuel path data) store =
      (result, after)) :
    ∃ events, after.journal = events.reverse ++ store.journal ∧
      (∀ target, Signal.firstAsked ⟨store.requests.size⟩ events = some target → Finished result →
        result = .ok (.redirect target)) ∧
      (∀ error target, Signal.firstAsked ⟨store.requests.size⟩ events = none →
        .failed error ∈ events → error.redirectTarget? = some target → Finished result →
          result = .ok (.redirect target)) ∧
      (∀ error target, result = .error (.raised error) → error.rootCause ≠ .redirect target) ∧
      ∀ before middle rest target id,
        events = before ++ .asked ⟨store.requests.size⟩ target :: middle ++ .ended id :: rest →
          ∀ event ∈ rest, Signal.IsEnd event := by
  have hensures : Ensures ((Engine.interpreting config read host).renderView fuel path data) store
      _ _ := ensures_renderView hhost hread fuel path data hstore
  -- How the signal ends, for every kind of result.
  obtain ⟨hbase, hbroken, hfinished⟩ : store.journal <:+ after.journal ∧
      after.signal store.journal ⟨store.requests.size⟩ ≠ .broken ∧
        (Finished result → after.signal store.journal ⟨store.requests.size⟩ = .clear ∨
          ∃ target, after.signal store.journal ⟨store.requests.size⟩ = .leaving target ∧
            result = .ok (.redirect target)) := by
    cases result with
    | ok rendered =>
      obtain ⟨hbase, hclear | ⟨target, hleaving, rfl⟩⟩ := hensures.ok hrun
      · exact ⟨hbase, by rw [hclear]; exact nofun, fun _ => .inl hclear⟩
      · exact ⟨hbase, by rw [hleaving]; exact nofun, fun _ => .inr ⟨target, hleaving, rfl⟩⟩
    | error stop =>
      obtain ⟨hbase, hstop⟩ := hensures.error hrun
      cases stop with
      | raised error => exact ⟨hbase, by rw [hstop.1]; exact nofun, fun _ => .inl hstop.1⟩
      | stalled | exhausted =>
        exact ⟨hbase, hstop, fun h => by obtain ⟨_, ⟨⟩⟩ := h _ rfl⟩
  obtain ⟨gained, hgained⟩ := hbase
  have hsignal : after.signal store.journal ⟨store.requests.size⟩ = _ :=
    Store.signal_of_append hgained.symm
  rw [hsignal] at hbroken hfinished
  refine ⟨gained.reverse, by rw [List.reverse_reverse, hgained], ?_, ?_, ?_, ?_⟩
  · intro target hfirst hend
    rcases Signal.foldl_next_of_firstAsked hbroken hfirst with hasked | hleaving
    · rw [hasked] at hfinished
      rcases hfinished hend with h | ⟨_, h, -⟩ <;> cases h
    · rw [hleaving] at hfinished
      rcases hfinished hend with h | ⟨_, h, hresult⟩ <;> cases h
      exact hresult
  · intro error target hfirst herror htarget hend
    rw [Signal.foldl_next_of_failed hbroken hfirst herror htarget] at hfinished
    rcases hfinished hend with h | ⟨_, h, hresult⟩ <;> cases h
    exact hresult
  · rintro error target rfl
    exact (hensures.error hrun).2.2 target
  · intro before middle rest target id hevents
    rw [hevents] at hbroken
    exact Signal.isEnd_of_asked hbroken

/-- The program of an expression that asks for a redirect and then fails. -/
def leavingProgram : Program :=
  [.binary .add (.call (.ident "redirect") [.string "/login"] false)
    (.member (.ident "missing") "x" false)]

theorem parse_leaving : Program.parse "redirect('/login') + missing.x" = .ok leavingProgram := by
  have hopened : ∀ rest, Lexeme.Splits "redirect".toList [.word "redirect"] ('(' :: rest) :=
    fun _ => Lexeme.splits_word (.of_text rfl) fun _ hd => Option.mem_some.1 hd ▸ rfl
  have hdotted : ∀ rest, Lexeme.Splits "missing".toList [.word "missing"] ('.' :: rest) :=
    fun _ => Lexeme.splits_word (.of_text rfl) fun _ hd => Option.mem_some.1 hd ▸ rfl
  have hlast : Lexeme.Splits "x".toList [.word "x"] [] := Lexeme.splits_word (.of_text rfl) nofun
  have hcall : Lexeme.Splits "redirect('/login')".toList
      [.word "redirect", .punct "(", .string "/login", .punct ")"] " + missing.x".toList :=
    (hopened _).append (.sign (p := "(") rfl rfl rfl rfl
      ((Lexeme.splits_quoted "/login").append (.sign (p := ")") rfl rfl rfl rfl .nil)))
  have hmember : Lexeme.Splits "missing.x".toList [.word "missing", .punct ".", .word "x"] [] :=
    (hdotted _).append (.sign (p := ".") rfl rfl rfl rfl hlast)
  have hsum := hcall.append
    (.space ((Lexeme.splits_operator (.binary .add)).append (.space hmember)))
  have hleft : Grammar.Derives .chain [.word "redirect", .punct "(", .string "/login", .punct ")"]
      (.call (.ident "redirect") [.string "/login"] false) :=
    .call false (.operand (.ident (by decide))) (.someArguments (.lastArgument
      (Grammar.Derives.unjoined (.operand (.string "/login")) (Nat.zero_le 7)).stated))
  have hright : Grammar.Derives .chain [.word "missing", .punct ".", .word "x"]
      (.member (.ident "missing") "x" false) :=
    .member false (.operand (.ident (by decide)))
  have hwhole := Grammar.Derives.joined (.binary .add) (hleft.unjoined (by decide))
    (hright.unjoined (by decide))
  exact Grammar.parse_of_splits hsum (.last hwhole.stated)

/-- A page whose included template leaves with that expression. -/
def leavingPages : List (String × String) :=
  [("/page.html", "$\x7b#layout /main\x7d$\x7b#include inner\x7d"),
   ("/main.html", "<$\x7b#render content\x7d>"),
   ("/inner.html", "$\x7bredirect('/login') + missing.x\x7d$\x7bother()\x7d")]

/-- An included template asks for a redirect in an expression that fails, while the layout prints
the page: the request ends with the redirect. -/
theorem renderView_redirects_page :
    Program.parse "redirect('/login') + missing.x" = .ok leavingProgram ∧
    let run := exec ((Engine.inMemory .standard leavingPages).renderView 10 "/page" ⟨0⟩)
      (.knowing "redirect('/login') + missing.x" leavingProgram)
    Signal.firstAsked ⟨0⟩ run.2.journal.reverse = some "/login" ∧
      run.1 = .ok (.redirect "/login") := by
  refine ⟨parse_leaving, ?_⟩
  intro run
  have hdecided : Signal.firstAsked ⟨0⟩ run.2.journal.reverse = some "/login" ∧
      run.1.toOption.isSome = true := by
    decide +kernel
  rcases hrun : run with ⟨result, after⟩
  rw [hrun] at hdecided
  obtain ⟨hfirst, hsome⟩ := hdecided
  have hkeeps := Engine.keeps_inMemory (.clear fun _ => False) .standard leavingPages
  obtain ⟨events, hjournal, hredirects, -⟩ := renderView_redirects
    { Config.standard with cacheSize := 0 } _ Host.none 10 "/page" ⟨0⟩
    (.knowing "redirect('/login') + missing.x" leavingProgram) after result
    hkeeps.host hkeeps.read (Store.sound_knowing (fun _ h => h) _ _) hrun
  have hevents : after.journal.reverse = events := by
    rw [hjournal]
    exact (List.reverse_append ..).trans (List.reverse_reverse events)
  refine ⟨hfirst, hredirects _ (hevents ▸ hfirst) fun stop hstop => ?_⟩
  rw [hstop] at hsome
  cases hsome

end TemplateEngine
