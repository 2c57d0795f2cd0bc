import TemplateEngine.Proofs.Expr.Programs
import TemplateEngine.Proofs.Graph.Json
import TemplateEngine.Proofs.Render.Alike

/-!
# `Render` · Computations on placed stores

What a computation does on a store is done, at other places, on a store in which the values of the
first one stand.

* **`Store.Placed m s t`**: the graph of `s` stands in that of `t`, and everything else that an
  expression can see is the same. The sections, the templates that are kept and the journals may
  differ, and so may slots to which no value refers.
* **`Advance m s t s' t'`**: from there, both stores have gone on in the same way. What output is
  made of was not touched, nor were values of `t` at places where nothing of `s` stands, and the
  journals have got the same events.
* **`Moves m e r x y`**: if one store is placed in another, and there is at least as much as `e`
  says, then `x` on the one and `y` on the other come to the same end, and both stores go on in the
  same way. The values are the same except for the places of what they refer to, which `r` tells.
* **`Host.Parametric`**: native functions cannot see where values stand.
-/

namespace TemplateEngine

open Render

variable {σ α β γ δ ι : Type}

/-- How the programs that two stores keep are related. -/
structure ProgramLink where
  /-- They may be kept side by side. -/
  Linked : Recent Program → Recent Program → Prop
  /-- A text has the same program in both, and the programs kept then are again related. -/
  lookUp : ∀ {a b}, Linked a b → ∀ source,
    (Render.lookUp b source).1 = (Render.lookUp a source).1 ∧
      Linked (Render.lookUp a source).2 (Render.lookUp b source).2

/-- The same programs are kept. -/
def ProgramLink.same : ProgramLink where
  Linked a b := a = b
  lookUp := by
    rintro a _ rfl source
    exact ⟨rfl, rfl⟩

/-- All programs that are kept are those of their texts. -/
def ProgramLink.parsed : ProgramLink where
  Linked a b := a.Parsed ∧ b.Parsed
  lookUp h source := by
    obtain ⟨ha, ha'⟩ := lookUp_of_parsed h.1 source
    obtain ⟨hb, hb'⟩ := lookUp_of_parsed h.2 source
    exact ⟨hb.trans ha.symm, ha', hb'⟩

/-- How a store stands in another one: where its values are, how the host refers to them, and how
the programs that are kept are related. -/
structure Motion (σ : Type) extends Placement where
  /-- The references of the state of the host. -/
  host : Refs σ
  /-- The programs that are kept. -/
  programs : ProgramLink

/-- All that expressions can see in `s` is, at other places, in `t`. -/
structure Store.Placed (m : Motion σ) (s t : Store σ) : Prop where
  /-- The values. -/
  graph : s.graph.Placed m.toPlacement t.graph
  /-- The programs that are kept. -/
  programs : m.programs.Linked s.programs t.programs
  /-- The states of the host. -/
  host : t.host = m.host.placed m.toPlacement s.host
  /-- The host refers to what is there. -/
  within : m.host.Within s.graph.extent s.host
  /-- There are as many requests. -/
  requests : t.requests.size = s.requests.size
  /-- The same redirects were asked for. -/
  redirect : ∀ id, t.redirect id = s.redirect id
  /-- The slots to which values refer are as far. -/
  slot : ∀ id, m.slot id → t.slots[id.index]?.map Slot.state = s.slots[id.index]?.map Slot.state
  /-- None of them waits to be rendered. -/
  idle : ∀ id fragments, m.slot id → s.slots[id.index]?.map Slot.state ≠ some (.pending fragments)
  /-- They exist. -/
  exists_slot : ∀ id, m.slot id → id.index < s.slots.size

/-- What output is made of is left as it is. -/
structure Store.KeepsOutput (s s' : Store σ) : Prop where
  /-- The sections. -/
  rests : s.Rests s'
  /-- The slots. -/
  slots : s'.slots = s.slots
  /-- The templates. -/
  templates : s'.templates = s.templates

theorem Store.KeepsOutput.refl (s : Store σ) : s.KeepsOutput s := ⟨.refl s, rfl, rfl⟩

theorem Store.KeepsOutput.trans {s s' s'' : Store σ} (h : s.KeepsOutput s')
    (h' : s'.KeepsOutput s'') : s.KeepsOutput s'' :=
  ⟨h.rests.trans h'.rests, h'.slots.trans h.slots, h'.templates.trans h.templates⟩

/-- From stores of which one is placed in the other, both have gone on in the same way. -/
structure Advance (m : Motion σ) (s t s' t' : Store σ) : Prop where
  /-- The one is still placed in the other. -/
  placed : s'.Placed m t'
  /-- Nothing has changed where nothing is placed. -/
  beside : Graph.Beside m.toPlacement t.graph t'.graph
  /-- Nothing was taken away. -/
  grows : s.graph.extent ≤ s'.graph.extent
  /-- Output is left alone. -/
  left : s.KeepsOutput s'
  /-- There too. -/
  right : t.KeepsOutput t'
  /-- The journals have got the same events. -/
  journal : ∃ events, s'.journal = events ++ s.journal ∧ t'.journal = events ++ t.journal

namespace Advance

variable {m : Motion σ} {s t s' t' s'' t'' : Store σ}

theorem refl (h : s.Placed m t) : Advance m s t s t :=
  ⟨h, .refl _ _, Extent.le_refl _, .refl s, .refl t, [], rfl, rfl⟩

theorem trans (h : Advance m s t s' t') (h' : Advance m s' t' s'' t'') : Advance m s t s'' t'' := by
  refine ⟨h'.placed, h.beside.trans h'.beside, Extent.le_trans h.grows h'.grows,
    h.left.trans h'.left, h.right.trans h'.right, ?_⟩
  obtain ⟨events, hs, ht⟩ := h.journal
  obtain ⟨events', hs', ht'⟩ := h'.journal
  refine ⟨events' ++ events, ?_, ?_⟩
  · rw [hs', hs, List.append_assoc]
  · rw [ht', ht, List.append_assoc]

/-- One more event. -/
theorem noted (h : s.Placed m t) (event : Event) :
    Advance m s t (s.noted event) (t.noted event) where
  placed := { h with }
  beside := .refl _ _
  grows := Extent.le_refl _
  left := ⟨.of_requests rfl, rfl, rfl⟩
  right := ⟨.of_requests rfl, rfl, rfl⟩
  journal := ⟨[event], rfl, rfl⟩

/-- Other values, and another state of the host. -/
theorem withHost {g h : Graph} {state : σ} (hst : s.Placed m t)
    (hplaced : g.Placed m.toPlacement h) (hbeside : Graph.Beside m.toPlacement t.graph h)
    (hgrows : s.graph.extent ≤ g.extent) (hstate : m.host.Within g.extent state) :
    Advance m s t { s with graph := g, host := state }
      { t with graph := h, host := m.host.placed m.toPlacement state } where
  placed := { hst with graph := hplaced, host := rfl, within := hstate }
  beside := hbeside
  grows := hgrows
  left := ⟨.of_requests rfl, rfl, rfl⟩
  right := ⟨.of_requests rfl, rfl, rfl⟩
  journal := ⟨[], rfl, rfl⟩

theorem changed {r : Refs α} {x y : α × Graph} (hst : s.Placed m t)
    (h : Graph.Changed m.toPlacement r s.graph t.graph x y) :
    Advance m s t { s with graph := x.2 } { t with graph := y.2 } := by
  have hadvance := withHost hst h.placed h.beside h.grows (m.host.mono h.grows hst.within)
  rwa [← hst.host] at hadvance

theorem withPrograms (h : s.Placed m t) {a b : Recent Program} (hab : m.programs.Linked a b) :
    Advance m s t { s with programs := a } { t with programs := b } where
  placed := { h with programs := hab }
  beside := .refl _ _
  grows := Extent.le_refl _
  left := ⟨.of_requests rfl, rfl, rfl⟩
  right := ⟨.of_requests rfl, rfl, rfl⟩
  journal := ⟨[], rfl, rfl⟩

theorem asking (h : s.Placed m t) (id : RequestId) (target : String) :
    Advance m s t (s.asking id target) (t.asking id target) where
  placed := { h with
    requests := by
      rw [Store.requests_size_asking, Store.requests_size_asking]
      exact h.requests
    redirect := fun other => by
      rw [Store.redirect_asking, Store.redirect_asking, h.requests, h.redirect, h.redirect] }
  beside := .refl _ _
  grows := Extent.le_refl _
  left := ⟨⟨Store.requests_size_asking s id target, fun other =>
    Store.sections_asking s id other target⟩, rfl, rfl⟩
  right := ⟨⟨Store.requests_size_asking t id target, fun other =>
    Store.sections_asking t id other target⟩, rfl, rfl⟩
  journal := ⟨[], rfl, rfl⟩

end Advance

namespace Render

/-- On stores of which one is placed in the other, two computations do the same; their values refer
to what corresponds. -/
def Moves (m : Motion σ) (e : Extent) (r : Refs α) (x y : Render σ α) : Prop :=
  ∀ s t, s.Placed m t → e ≤ s.graph.extent → ∃ result s' t', exec x s = (result, s') ∧
    exec y t = (result.map (r.placed m.toPlacement), t') ∧ Advance m s t s' t' ∧
      ∀ a, result = .ok a → r.Within s'.graph.extent a

namespace Moves

variable {m : Motion σ} {e : Extent} {r : Refs α} {r' : Refs β} {x y : Render σ α}

/-- There may be more than is needed. -/
theorem mono {e' : Extent} (h : Moves m e r x y) (he : e ≤ e') : Moves m e' r x y :=
  fun s t hst he' => h s t hst (Extent.le_trans he he')

theorem pure {a b : α} (h : b = r.placed m.toPlacement a) (ha : r.Within e a) :
    Moves m e r (pure a) (pure b) := by
  subst h
  intro s t hst he
  refine ⟨_, s, t, rfl, rfl, .refl hst, ?_⟩
  rintro _ ⟨⟩
  exact r.mono he ha

/-- A value without references. -/
theorem free (a : α) : Moves m e .free (Pure.pure a) (Pure.pure a) := pure rfl trivial

theorem throw (stop : Stop) : Moves m e r (throw stop) (throw stop) := fun s t hst _ =>
  ⟨_, s, t, rfl, rfl, .refl hst, nofun⟩

theorem raise (error : Error) : Moves m e r (raise error) (raise error) := throw (.raised error)

/-- The second part may rely on what the value of the first part refers to. -/
theorem bind {x' y' : α → Render σ β} (hx : Moves m e r x y)
    (hnext : ∀ e' a, e ≤ e' → r.Within e' a →
      Moves m e' r' (x' a) (y' (r.placed m.toPlacement a))) :
    Moves m e r' (x >>= x') (y >>= y') := by
  intro s t hst he
  obtain ⟨result, s', t', hs, ht, hadvance, hresult⟩ := hx s t hst he
  cases result with
  | error stop => exact ⟨_, s', t', exec_bind_error hs x', exec_bind_error ht y', hadvance, nofun⟩
  | ok a =>
    obtain ⟨result, s'', t'', hs', ht', hadvance', hresult'⟩ :=
      hnext s'.graph.extent a (Extent.le_trans he hadvance.grows) (hresult a rfl) s' t'
        hadvance.placed (Extent.le_refl _)
    exact ⟨result, s'', t'', (exec_bind_ok hs x').trans hs', (exec_bind_ok ht y').trans ht',
      hadvance.trans hadvance', hresult'⟩

theorem map {F F' : α → β} (hx : Moves m e r x y)
    (h : ∀ a, F' (r.placed m.toPlacement a) = r'.placed m.toPlacement (F a))
    (hwithin : ∀ e a, r.Within e a → r'.Within e (F a)) : Moves m e r' (F <$> x) (F' <$> y) :=
  hx.bind fun e' a _ ha => pure (h a) (hwithin e' a ha)

theorem attempt (hx : Moves m e r x y) : Moves m e r.result (attempt x) (attempt y) := by
  intro s t hst he
  obtain ⟨result, s', t', hs, ht, hadvance, hresult⟩ := hx s t hst he
  have hs' := exec_attempt x s
  have ht' := exec_attempt y t
  rw [hs] at hs'
  rw [ht] at ht'
  cases result with
  | ok a =>
    refine ⟨_, s', t', hs', ht', hadvance, ?_⟩
    rintro _ ⟨⟩ _ ⟨⟩
    exact hresult a rfl
  | error stop =>
    cases stop with
    | raised error =>
      refine ⟨_, s', t', hs', ht', hadvance, ?_⟩
      rintro _ ⟨⟩ _ ⟨⟩
    | stalled | exhausted => exact ⟨_, s', t', hs', ht', hadvance, nofun⟩

theorem ofExcept {result result' : Except Error α}
    (h : result' = r.result.placed m.toPlacement result) (hwithin : r.result.Within e result) :
    Moves m e r (ofExcept result) (ofExcept result') := by
  subst h
  cases result with
  | ok a => exact pure rfl (hwithin a rfl)
  | error error => exact raise error

/-- A result without references. -/
theorem ofResult (result : Except Error α) :
    Moves (σ := σ) m e .free (Render.ofExcept result) (Render.ofExcept result) :=
  ofExcept (congrFun Except.map_id result).symm fun _ _ => trivial

theorem ofShared {result result' : Except Error α}
    (h : result' = r.result.placed m.toPlacement result) (hwithin : r.result.Within e result) :
    Moves m e r (ofShared result) (ofShared result') := by
  subst h
  cases result with
  | ok a => exact pure rfl (hwithin a rfl)
  | error error => exact raise _

theorem forM {x y : ι → Render σ Unit} (items : List ι) (h : ∀ item, Moves m e .free (x item) (y item)) :
    Moves m e .free (items.forM x) (items.forM y) := by
  induction items with
  | nil => exact free ()
  | cons item rest ih => exact (h item).bind fun _ _ he _ => ih.mono he

theorem mapM {x y : ι → Render σ α} (items : List ι) (h : ∀ item, Moves m e r (x item) (y item)) :
    Moves m e r.list (items.mapM x) (items.mapM y) := by
  induction items with
  | nil => exact pure rfl nofun
  | cons item rest ih =>
    rw [List.mapM_cons, List.mapM_cons]
    refine (h item).bind fun e₁ a h₁ ha => (ih.mono h₁).bind fun e₂ values h₂ hvalues =>
      pure rfl ?_
    exact List.forall_mem_cons.2 ⟨r.mono h₂ ha, hvalues⟩

/-! ### Operations -/

theorem note (event : Event) : Moves m e .free (note event) (note event) := fun s t hst _ =>
  ⟨_, _, _, exec_note event s, exec_note event t, .noted hst event, fun _ _ => trivial⟩

theorem ofGraph {F F' : Graph → α}
    (h : ∀ g g', g.Placed m.toPlacement g' → e ≤ g.extent →
      F' g' = r.placed m.toPlacement (F g) ∧ r.Within g.extent (F g)) :
    Moves m e r (Render.withGraph F) (Render.withGraph F') := by
  intro s t hst he
  obtain ⟨hvalue, hwithin⟩ := h _ _ hst.graph he
  refine ⟨.ok (F s.graph), s, t, rfl, ?_, .refl hst, ?_⟩
  · rw [exec_withGraph, hvalue]
    rfl
  · rintro _ ⟨⟩
    exact hwithin

/-- Reading a graph, and going on with what was read. -/
theorem withGraph {F F' : Graph → γ} {x y : γ → Render σ α}
    (h : ∀ g g', g.Placed m.toPlacement g' → e ≤ g.extent →
      Moves m g.extent r (x (F g)) (y (F' g'))) :
    Moves m e r (Render.withGraph F >>= x) (Render.withGraph F' >>= y) := by
  intro s t hst he
  obtain ⟨result, s', t', hs, ht, hadvance⟩ := h _ _ hst.graph he s t hst (Extent.le_refl _)
  exact ⟨result, s', t', (exec_bind_ok (exec_withGraph F s) x).trans hs,
    (exec_bind_ok (exec_withGraph F' t) y).trans ht, hadvance⟩

theorem changeGraph {F F' : Graph → α × Graph}
    (h : ∀ g g', g.Placed m.toPlacement g' → e ≤ g.extent →
      Graph.Changed m.toPlacement r g g' (F g) (F' g')) :
    Moves m e r (changeGraph F) (changeGraph F') := by
  intro s t hst he
  have hchanged := h _ _ hst.graph he
  refine ⟨_, _, _, exec_changeGraph F s, ?_, .changed hst hchanged, ?_⟩
  · rw [exec_changeGraph, hchanged.value]
    rfl
  · rintro _ ⟨⟩
    exact hchanged.within

theorem write (id : ObjectId) (key : String) {value : Value} (hvalue : value.Within e) :
    Moves m e .free (Render.changeGraph fun graph => ((), graph.write id key value))
      (Render.changeGraph fun graph =>
        ((), graph.write (m.objectId id) key (value.placed m.toPlacement))) :=
  changeGraph fun _ _ hg he => hg.write id key (hvalue.mono he)

theorem newObject {members : Dictionary Value} (hmembers : Refs.members.Within e members) :
    Moves m e .object (Render.changeGraph fun graph => graph.newObject members)
      (Render.changeGraph fun graph =>
        graph.newObject (Refs.members.placed m.toPlacement members)) :=
  changeGraph fun _ _ hg he => hg.newObject (Refs.members.mono he hmembers)

theorem newPromise {work : Work} (hknown : work.Known m.toPlacement)
    (hwork : Refs.work.Within e work) :
    Moves m e .promise (Render.changeGraph fun graph => graph.newPromise (.pending work))
      (Render.changeGraph fun graph =>
        graph.newPromise (.pending (Refs.work.placed m.toPlacement work))) :=
  changeGraph fun _ _ hg he => by
    have hstate : Refs.state.Within _ (.pending work) := Refs.work.mono he hwork
    exact hg.newPromise hknown hstate

theorem setPromise (id : PromiseId) {state : PromiseState} (hknown : state.Known m.toPlacement)
    (hstate : Refs.state.Within e state) :
    Moves m e .free (Render.changeGraph fun graph => ((), graph.setPromise id state))
      (Render.changeGraph fun graph =>
        ((), graph.setPromise (m.promiseId id) (Refs.state.placed m.toPlacement state))) :=
  changeGraph fun _ _ hg he => hg.setPromise id hknown (Refs.state.mono he hstate)

theorem askRedirect (id : RequestId) (target : String) :
    Moves (σ := σ) m e .free (askRedirect id target) (askRedirect id target) := by
  intro s t hst _
  have hnoted := Advance.noted hst (.asked id target)
  exact ⟨_, _, _, exec_askRedirect id target s, exec_askRedirect id target t,
    hnoted.trans (.asking hnoted.placed id target), fun _ _ => trivial⟩

theorem checkRedirect (id : RequestId) :
    Moves (σ := σ) m e .free (checkRedirect id) (checkRedirect id) := by
  intro s t hst _
  have hs := exec_checkRedirect id s
  have ht := exec_checkRedirect id t
  rw [hst.redirect] at ht
  rcases hredirect : s.redirect id with _ | target
  · rw [hredirect] at hs ht
    exact ⟨_, s, t, hs, ht, .refl hst, fun _ _ => trivial⟩
  · rw [hredirect] at hs ht
    exact ⟨_, s, t, hs, ht, .refl hst, nofun⟩

theorem programOf (source : String) :
    Moves (σ := σ) m e .free (programOf source) (programOf source) := by
  intro s t hst _
  obtain ⟨hresult, hlinked⟩ := m.programs.lookUp hst.programs source
  refine ⟨_, _, _, exec_programOf_eq_lookUp source s, ?_, .withPrograms hst hlinked,
    fun _ _ => trivial⟩
  rw [exec_programOf_eq_lookUp, hresult]
  exact congrArg (·, _) (congrFun Except.map_id _).symm

end Moves

end Render

/-- Native functions that may be called cannot see where values stand: with other places, they do
the same at those. They refer to nothing that is not there. -/
def Host.Parametric (host : Host σ) (refs : Refs σ) (p : Placement) : Prop :=
  ∀ id, p.native id → ∀ args g g' state, g.Placed p g' → Refs.value.list.Within g.extent args →
    refs.Within g.extent state →
    ∃ result h h' after, (host.call id args).run.run (g, state) = (result, h, after) ∧
      (host.call id (Refs.value.list.placed p args)).run.run (g', refs.placed p state) =
        (Refs.value.result.placed p result, h', refs.placed p after) ∧
      Refs.value.result.Within h.extent result ∧ refs.Within h.extent after ∧
      h.Placed p h' ∧ Graph.Beside p g' h' ∧ g.extent ≤ h.extent

theorem Render.Moves.ofNative {m : Motion σ} {e : Extent} {host : Host σ}
    (hhost : host.Parametric m.host m.toPlacement) {id : NativeId} (hid : m.native id)
    {args : List Value} (hargs : Refs.value.list.Within e args) :
    Moves m e .value (ofNative (host.call id args))
      (ofNative (host.call id (Refs.value.list.placed m.toPlacement args))) := by
  intro s t hst he
  have hs := exec_ofNative (host.call id args) s
  have ht := exec_ofNative (host.call id (Refs.value.list.placed m.toPlacement args)) t
  obtain ⟨result, g, h, after, hrun, hrun', hresult, hafter, hplaced, hbeside, hgrows⟩ :=
    hhost id hid args s.graph t.graph s.host hst.graph (Refs.value.list.mono he hargs) hst.within
  rw [hrun] at hs
  rw [hst.host, hrun'] at ht
  have hadvance := Advance.withHost hst hplaced hbeside hgrows hafter
  cases result with
  | ok value =>
    refine ⟨_, _, _, hs, ht, hadvance, ?_⟩
    rintro _ ⟨⟩
    exact hresult value rfl
  | error error =>
    exact ⟨_, _, _, hs, ht, hadvance.trans (.noted hadvance.placed _), nofun⟩

end TemplateEngine
