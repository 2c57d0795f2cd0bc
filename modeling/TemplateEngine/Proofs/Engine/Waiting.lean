import TemplateEngine.Proofs.Engine.Contract
import TemplateEngine.Proofs.Engine.Respects
import TemplateEngine.Proofs.Expr.Acceptance
import TemplateEngine.Proofs.Render.Progress

/-!
# `Engine` · Requests that wait for themselves

A computation that reads a slot or a promise in progress waits for itself.

* **`Orderly x`**: if `x` ends, then what is in progress after it is what was before it. If it waits
  for itself, then an expression is waiting, unless a slot was being rendered that is not marked as
  printed.
* **Slots and promises**: a directive marks a slot as printed before it reads it
  (`orderly_renderContent`), and an expression that reads one is waiting (`orderly_waitFor`).
* Hence every rendering is orderly (`Engine.sustains_orderly`), and a request waits for itself
  exactly if it leaves an expression waiting for a promise (`renderView_stalled_iff`).
-/

namespace TemplateEngine

open Render

variable {σ α β : Type}

/-! ## Orderly computations -/

/-- What is in progress when a computation waits for itself, given what is known of the store in
which it started. -/
structure Store.Stalls (guarded occupied : Prop) (s t : Store σ) : Prop where
  /-- Expressions that waited before still do. -/
  keeps : ∀ id, s.Awaits id → t.Awaits id
  /-- An expression waits. -/
  awaits : guarded → ∃ id, t.Awaits id
  /-- A slot is being rendered. -/
  renders : occupied → ∃ slot, t.Renders slot

/-- What a stop leaves. -/
def Stop.Leaves (guarded occupied : Prop) (s t : Store σ) : Stop → Prop
  | .raised _ => s.Resumes t
  | .stalled => s.Stalls guarded occupied t
  | .exhausted => True

/-- A computation that ends what it starts to read; `guarded` and `occupied` are what is known of
the store before. -/
def OrderlyFrom (guarded occupied : Prop) (x : Render σ α) (s : Store σ) : Prop :=
  Ensures x s (fun _ t => s.Resumes t) fun stop t => stop.Leaves guarded occupied s t

/-- A computation that ends what it starts to read, in whatever store. -/
def Orderly (x : Render σ α) : Prop := ∀ s : Store σ, OrderlyFrom s.Guarded s.Occupied x s

theorem Stop.Leaves.after {guarded occupied guarded' occupied' : Prop} {s t u : Store σ}
    {stop : Stop} (h : stop.Leaves guarded occupied t u) (hst : s.Resumes t)
    (hguarded : guarded' → guarded) (hoccupied : occupied' → occupied) :
    stop.Leaves guarded' occupied' s u := by
  cases stop with
  | raised error => exact hst.trans h
  | stalled =>
    exact ⟨fun id hid => h.keeps id ((hst.awaits id).2 hid), fun hs => h.awaits (hguarded hs),
      fun hs => h.renders (hoccupied hs)⟩
  | exhausted => trivial

/-- An attempt in a store `m` in which more is in progress than in `s`. If an expression waits
there, then `s` need not be guarded. -/
theorem OrderlyFrom.attempt {guarded occupied guarded' occupied' : Prop} {x : Render σ α}
    {s m : Store σ} (hx : OrderlyFrom guarded' occupied' x m)
    (hkeeps : ∀ id, s.Awaits id → m.Awaits id)
    (hguarded : guarded → guarded' ∨ ∃ id, m.Awaits id) (hoccupied : occupied → occupied') :
    Ensures (attempt x) m (fun _ t => m.Resumes t)
      fun stop t => stop.Leaves guarded occupied s t := by
  refine .attempt (hx.mono (fun _ _ h => h) fun stop t h => ?_)
  cases stop with
  | raised error => exact h
  | stalled =>
    refine ⟨fun id hid => h.keeps id (hkeeps id hid), fun hs => ?_,
      fun hs => h.renders (hoccupied hs)⟩
    rcases hguarded hs with hm | ⟨id, hid⟩
    · exact h.awaits hm
    · exact ⟨id, h.keeps id hid⟩
  | exhausted => trivial

namespace Orderly

/-! ### Sequences -/

/-- An orderly computation that starts after a change. -/
theorem afterwards {x : Render σ α} (h : Orderly x) {s t : Store σ} (hst : s.Resumes t) :
    Ensures x t (fun _ u => s.Resumes u) fun stop u => stop.Leaves s.Guarded s.Occupied s u :=
  (h t).mono (fun _ _ htu => hst.trans htu) fun _ _ htu => htu.after hst hst.guarded hst.occupied

theorem pure (a : α) : Orderly (pure a : Render σ α) := fun s => .pure (.refl s)

theorem bind {x : Render σ α} {f : α → Render σ β} (hx : Orderly x) (hf : ∀ a, Orderly (f a)) :
    Orderly (x >>= f) :=
  fun s => (hx s).bind fun a _ hst => (hf a).afterwards hst

theorem raise (error : Error) : Orderly (raise error : Render σ α) := fun s => .raise (.refl s)

theorem exhausted : Orderly (throw .exhausted : Render σ α) := fun _ => .throw trivial

theorem attempt {x : Render σ α} (hx : Orderly x) : Orderly (attempt x) := by
  intro s
  refine Ensures.attempt ((hx s).mono (fun _ _ h => h) fun stop t h => ?_)
  cases stop <;> exact h

theorem mapError (f : Error → Error) {x : Render σ α} (hx : Orderly x) :
    Orderly (mapError f x) := by
  intro s
  refine .mapError ((hx s).mono (fun _ _ h => h) fun stop t h => ?_)
  cases stop <;> exact h

theorem ofShared (result : Except Error α) : Orderly (σ := σ) (ofShared result) := by
  cases result with
  | ok a => exact pure a
  | error error => exact raise _

/-! ### Operations of the store -/

/-- An operation that starts nothing. -/
theorem of_exec {x : Render σ α} (h : ∀ s, ∃ a t, exec x s = (.ok a, t) ∧ s.Resumes t) :
    Orderly x := by
  intro s
  obtain ⟨a, t, hexec, hst⟩ := h s
  exact .of_ok hexec hst

theorem withGraph (f : Graph → α) : Orderly (σ := σ) (withGraph f) :=
  of_exec fun s => ⟨_, s, exec_withGraph f s, .refl s⟩

theorem changeGraph {f : Graph → α × Graph} (h : ∀ graph, (f graph).2.promises = graph.promises) :
    Orderly (σ := σ) (changeGraph f) :=
  of_exec fun s => ⟨_, _, exec_changeGraph f s, .of_promises rfl (h s.graph)⟩

theorem newPromise (work : Work) :
    Orderly (σ := σ) (Render.changeGraph fun graph => graph.newPromise (.pending work)) := by
  refine of_exec fun s => ⟨_, _, exec_changeGraph _ s, .of_slots rfl fun id => ?_⟩
  unfold Store.Awaits Graph.newPromise Graph.promise?
  dsimp only
  rw [Array.getElem?_push]
  split
  · next h =>
    rw [h, Array.getElem?_eq_none (Nat.le_refl _)]
    simp
  · rfl

theorem newSlot (fragments : List (Fragment Deferred)) :
    Orderly (σ := σ) (newSlot (.pending fragments)) := by
  refine of_exec fun s => ⟨_, _, exec_newSlot _ s, fun _ => Iff.rfl, fun id => ?_, fun id hid => ?_⟩
  · unfold Store.Renders
    dsimp only
    rw [Array.getElem?_push]
    split
    · next h =>
      rw [h, Array.getElem?_eq_none (Nat.le_refl _)]
      simp
    · rfl
  · unfold Store.Printed at hid ⊢
    obtain ⟨slot, hslot, -⟩ := Option.map_eq_some_iff.1 hid
    have hlt : id.index < s.slots.size := (Array.getElem?_eq_some_iff.1 hslot).1
    rw [Array.getElem?_push, if_neg (Nat.ne_of_lt hlt)]
    exact hid

theorem changeRequest (id : RequestId) (f : Request → Request) :
    Orderly (σ := σ) (changeRequest id f) :=
  of_exec fun _ => ⟨_, _, rfl, .of_promises rfl rfl⟩

theorem programOf (source : String) : Orderly (σ := σ) (programOf source) := by
  intro s
  obtain ⟨programs, ⟨program, hexec⟩ | ⟨fault, hexec⟩⟩ := exec_programOf source s
  · exact .of_ok hexec (.of_promises rfl rfl)
  · exact .of_error hexec (.of_promises rfl rfl)

theorem loadTemplate (path source : String) : Orderly (σ := σ) (loadTemplate path source) := by
  intro s
  have hexec := exec_loadTemplate path source s
  rcases h : (s.templates.load path source).1 with error | numbered
  · rw [h] at hexec
    exact .of_error hexec (.of_promises rfl rfl)
  · rw [h] at hexec
    exact .of_ok hexec (.of_promises rfl rfl)

end Orderly

/-- Native functions start to compute no promise, and end computing none. -/
def Host.Steady (host : Host σ) : Prop :=
  ∀ id args state promise,
    ((host.call id args).run.run state).2.1.promise? promise = some .running ↔
      state.1.promise? promise = some .running

/-- A native function is orderly, and never waits for itself. -/
theorem OrderlyFrom.native {host : Host σ} (hhost : host.Steady) (guarded occupied : Prop)
    (id : NativeId) (args : List Value) (s : Store σ) :
    OrderlyFrom guarded occupied (ofNative (host.call id args)) s := by
  have hexec := exec_ofNative (host.call id args) s
  have hgraph := hhost id args (s.graph, s.host)
  rcases h : (host.call id args).run.run (s.graph, s.host) with ⟨error | value, graph, state⟩
  all_goals rw [h] at hexec hgraph
  · exact .of_error hexec (.of_slots rfl hgraph)
  · exact .of_ok hexec (.of_slots rfl hgraph)

/-! ## Renderings -/

/-- Apart from slots and promises, every step of a rendering is orderly. -/
theorem Engine.passes_orderly {engine : Engine σ} (hhost : engine.host.Steady) :
    engine.Passes fun _ x _ => Orderly x where
  pure := .pure
  bind := .bind
  read := .withGraph
  write _ _ _ := .changeGraph fun _ => rfl
  newObject _ := .changeGraph fun _ => rfl
  newPromise := .newPromise
  fault _ := .raise _
  exhausted := .exhausted
  ask _ _ := .of_exec fun _ => ⟨_, _, exec_askRedirect _ _ _, .of_promises rfl rfl⟩
  native id args s := .native hhost _ _ id args s
  program := .programOf
  raise := .raise
  attempt := .attempt
  mapError f := .mapError f
  note _ := .of_exec fun _ => ⟨_, _, exec_note _ _, .of_promises rfl rfl⟩
  library callables := .changeGraph fun graph => graph.promises_newLibrary callables
  builtins attributes request := .changeGraph fun graph =>
    Graph.promises_newLibrary (graph.newObject (textMembers attributes)).2
      (standardCallables ++ [("attr", .attribute attributes), ("redirect", .redirect request)])
  newRequest := .of_exec fun _ => ⟨_, _, rfl, .of_promises rfl rfl⟩
  withRequest _ _ := .of_exec fun s => ⟨_, s, rfl, .refl s⟩
  changeRequest := .changeRequest
  newSlot := .newSlot
  load path source _ := .loadTemplate path source

section Reading

variable {engine : Engine σ} (hhost : engine.host.Steady) {run : Task → Render σ String}
  (hrun : ∀ task, Orderly (run task))

include hhost hrun

/-- Reading a slot is orderly if it is marked as printed and not being rendered. -/
theorem orderlyFrom_readSlot (id : SlotId) (s : Store σ) :
    OrderlyFrom (s.Guarded ∧ s.Printable id) True (readSlot run id) s := by
  unfold readSlot
  refine .bind_ok (exec_slot? id s) ?_
  rcases hslot : s.slots[id.index]? with _ | ⟨fragments | _ | result, consumed⟩
  · exact .pure (.refl s)
  · have hrendered : Orderly (renderFragments (runDeferred run) fragments) :=
      @Engine.Passes.renderFragments _ _ _ run run (Engine.passes_orderly hhost) hrun fragments
    have hidle : ¬s.Renders id := by
      unfold Store.Renders
      rw [hslot]
      nofun
    have hguarded : s.Guarded ∧ s.Printable id → (s.setState id .running).Guarded := by
      rintro ⟨hs, hid⟩
      refine hs.rendering ?_
      unfold Store.Printed
      rw [hslot, Option.map_some, (hid _ hslot).1]
    have hoccupied : (s.setState id .running).Occupied :=
      fun _ _ => ⟨id, Store.renders_running hslot⟩
    have hattempt := (hrendered (s.setState id .running)).attempt (s := s)
      (fun _ hawaits => hawaits) (fun h => .inl (hguarded h)) fun _ : True => hoccupied
    refine .bind_ok (exec_changeSlot id _ s) (hattempt.bind fun result t ht => ?_)
    refine .bind_ok (exec_changeSlot id _ t) ?_
    cases result with
    | ok text => exact .pure (ht.settled hidle)
    | error error => exact .raise (ht.settled hidle)
  · have hrenders : s.Renders id := by
      unfold Store.Renders
      rw [hslot]
      rfl
    exact .throw ⟨fun _ hawaits => hawaits, fun h => absurd rfl (h.2 _ hslot).2,
      fun _ => ⟨id, hrenders⟩⟩
  · cases result with
    | ok text => exact .pure (.refl s)
    | error error => exact .raise (.refl s)

/-- Waiting for a promise is orderly: it is an expression that waits. -/
theorem orderly_waitFor (id : PromiseId) : Orderly (waitFor engine run id) := by
  intro s
  unfold waitFor
  refine .bind_ok (exec_withGraph _ s) ?_
  rcases hpromise : s.graph.promise? id with _ | work | _ | result
  · exact .pure (.refl s)
  · have hstarted : (s.setPromise id .running).Awaits id := Store.awaits_running hpromise
    have hidle : ¬s.Awaits id := by
      unfold Store.Awaits
      rw [hpromise]
      nofun
    have hkeeps : ∀ other, s.Awaits other → (s.setPromise id .running).Awaits other := by
      intro other hother
      have hne : other ≠ id := fun heq => hidle (heq ▸ hother)
      exact (Store.awaits_setPromise_of_ne hne _).2 hother
    have hwork : ∃ guarded, OrderlyFrom guarded True (runWork engine run work)
        (s.setPromise id .running) := by
      cases work with
      | native function args => exact ⟨True, .native hhost _ _ function args _⟩
      | content slot => exact ⟨_, Ensures.map (orderlyFrom_readSlot hhost hrun slot _)⟩
    obtain ⟨guarded, hwork⟩ := hwork
    have hattempt := hwork.attempt (s := s) hkeeps
      (fun _ : s.Guarded => .inr ⟨id, hstarted⟩) fun _ : s.Occupied => trivial
    refine .bind_ok (exec_changeGraph _ s) (hattempt.bind fun result t ht => ?_)
    refine .bind_ok (exec_changeGraph _ t) ?_
    cases result with
    | ok value => exact .pure (ht.answered hidle)
    | error error => exact .raise (ht.answered hidle)
  · exact .throw ⟨fun _ hawaits => hawaits, fun _ => ⟨id, hpromise⟩, fun hs => hs id hpromise⟩
  · exact Orderly.ofShared result s

/-- Printing a slot is orderly: what it renders has been marked as printed. -/
theorem orderly_renderContent (slot : SlotId) (optional : Bool) :
    Orderly (Engine.renderContent run slot optional) := by
  intro s
  have hmarked := s.resumes_marked slot
  unfold Engine.renderContent
  refine .bind_ok (exec_consume slot s) ?_
  split
  · have hconsumed : Orderly (Engine.consumedText Config.content optional) :=
      (Engine.passes_orderly hhost).consumedText _ optional
    exact hconsumed.afterwards hmarked
  · next hnew =>
    refine (orderlyFrom_readSlot hhost hrun slot _).mono (fun _ _ h => hmarked.trans h) ?_
    intro stop t h
    exact h.after hmarked (fun hs => ⟨hmarked.guarded hs, hs.printable hnew⟩) fun _ => trivial

end Reading

/-- Every step of a rendering is orderly. -/
theorem Engine.sustains_orderly {engine : Engine σ} (hhost : engine.host.Steady) :
    engine.Sustains fun _ x _ => Orderly x where
  toPasses := passes_orderly hhost
  print := orderly_renderContent hhost
  wait := orderly_waitFor hhost

/-! ## Requests -/

/-- A request that begins when nothing is in progress waits for itself exactly if it leaves an
expression waiting for a promise; directives that print slots do not suffice. Then a slot is being
rendered, and otherwise nothing is in progress. -/
theorem renderView_stalled_iff (config : Config) (read : String → Except Error String)
    {host : Host σ} (hhost : host.Steady) (fuel : Nat) (path : String) (data : ObjectId)
    {store after : Store σ} {result : Except Stop Rendered} (hstore : store.Quiet)
    (hrun : exec ((Engine.interpreting config read host).renderView fuel path data) store =
      (result, after)) (hends : result ≠ .error .exhausted) :
    (result = .error .stalled ↔ ∃ id, after.Awaits id) ∧
      (result = .error .stalled → ∃ slot, after.Renders slot) ∧
      (result ≠ .error .stalled → after.Quiet) := by
  have hinterprets : (Engine.interpreting config read host).Interprets := rfl
  have horderly : Orderly ((Engine.interpreting config read host).renderView fuel path data) :=
    (Engine.sustains_orderly hhost).renderView hinterprets fuel path data
  have hquiet : store.Resumes after → result ≠ .error .stalled →
      (result = .error .stalled ↔ ∃ id, after.Awaits id) ∧
        (result = .error .stalled → ∃ slot, after.Renders slot) ∧
        (result ≠ .error .stalled → after.Quiet) := by
    intro hresumes hresult
    have hafter : after.Quiet := hresumes.quiet hstore
    exact ⟨iff_of_false hresult fun ⟨id, hid⟩ => hafter.promises id hid,
      fun h => absurd h hresult, fun _ => hafter⟩
  rcases result with (error | _ | _) | rendered
  · exact hquiet ((horderly store).error hrun) nofun
  · have hstalls : store.Stalls store.Guarded store.Occupied after := (horderly store).error hrun
    exact ⟨iff_of_true rfl (hstalls.awaits hstore.guarded),
      fun _ => hstalls.renders hstore.occupied, fun h => absurd rfl h⟩
  · exact absurd rfl hends
  · exact hquiet ((horderly store).ok hrun) nofun

/-- A computation has found that it waits for itself. -/
def IsStalled : Except Stop α → Bool
  | .error .stalled => true
  | _ => false

theorem isStalled_iff {result : Except Stop α} :
    IsStalled result = true ↔ result = .error .stalled := by
  rcases result with (_ | _ | _) | _
  all_goals simp [IsStalled]

/-- A page that prints a section of its layout, where an included template has an expression. -/
def recurringPages (expression : String) : List (String × String) :=
  [("/page.html", "$\x7b#layout\x7dP$\x7b#render css\x7d"),
    ("/layout.html", "$\x7b#section css\x7d$\x7b#include x\x7d$\x7b#section content\x7d" ++
      "<slot>$\x7b#render content\x7d</slot>"),
    ("/x.html", "$\x7b" ++ expression ++ "\x7d")]

/-- A store with an empty object for the data and with the program of a text. -/
def Store.serving (source : String) (program : Program) : Store Unit :=
  { Store.knowing source program with graph := (Graph.empty.newObject .empty).2 }

theorem Store.quiet_serving (source : String) (program : Program) :
    (Store.serving source program).Quiet where
  promises id h := by simp [Store.Awaits, Store.serving, Graph.promise?, Graph.newObject,
    Graph.empty] at h
  slots id h := by simp [Store.Renders, Store.serving, Store.knowing, Store.fresh] at h

/-- The request for such a page, whose expression has been parsed before. -/
def recurringRun (expression : String) (program : Program) : Except Stop Rendered × Store Unit :=
  exec ((Engine.inMemory .standard (recurringPages expression)).renderView 10 "/page" ⟨0⟩)
    (Store.serving expression program)

theorem parse_content : Program.parse "content" = .ok [.ident "content"] := by
  have hword : Lexeme.Splits "content".toList [.word "content"] [] :=
    Lexeme.splits_word (.of_text rfl) nofun
  have hname : Grammar.Derives .chain [.word "content"] (.ident "content") :=
    .operand (.ident (by decide))
  exact Grammar.parse_of_splits hword (.last (hname.unjoined (Nat.zero_le 7)).stated)

/-- An expression that calls the content of the layout and waits for nothing. -/
def callingProgram : Program := [.unary .typeOf (.call (.ident "content") [] false)]

theorem parse_calling : Program.parse "typeof content()" = .ok callingProgram := by
  have hopened : ∀ rest, Lexeme.Splits "content".toList [.word "content"] ('(' :: rest) :=
    fun _ => Lexeme.splits_word (.of_text rfl) fun _ hd => Option.mem_some.1 hd ▸ rfl
  have hcalled : Lexeme.Splits "content()".toList [.word "content", .punct "(", .punct ")"] [] :=
    (hopened _).append (.sign (p := "(") rfl rfl rfl rfl (.sign (p := ")") rfl rfl rfl rfl .nil))
  have hcall : Grammar.Derives .chain [.word "content", .punct "(", .punct ")"]
      (.call (.ident "content") [] false) :=
    .call false (.operand (.ident (by decide))) .noArguments
  have hwhole : Grammar.Derives (.operation 7) _ _ := .prefixed (.unary .typeOf (.chain hcall))
  exact Grammar.parse_of_splits ((Lexeme.splits_unary .typeOf).append (.space hcalled))
    (.last (hwhole.loosened (Nat.zero_le 7)).stated)

/-- If the expression reads the content of the layout, then the request waits for itself, and leaves
the expression waiting. -/
theorem renderView_stalled_recurring :
    Program.parse "content" = .ok [.ident "content"] ∧
    let run := recurringRun "content" [.ident "content"]
    run.1 = .error .stalled ∧ (∃ id, run.2.Awaits id) ∧ ∃ slot, run.2.Renders slot := by
  refine ⟨parse_content, ?_⟩
  intro run
  have hstalled : IsStalled run.1 = true := by decide +kernel
  rcases hrun : run with ⟨result, after⟩
  rw [hrun, isStalled_iff] at hstalled
  dsimp only at hstalled
  subst hstalled
  have hsteady : (Host.none : Host Unit).Steady := fun _ _ _ _ => Iff.rfl
  obtain ⟨hiff, hrenders, -⟩ := renderView_stalled_iff { Config.standard with cacheSize := 0 } _
    hsteady 10 "/page" ⟨0⟩ (Store.quiet_serving _ _) hrun nofun
  exact ⟨rfl, hiff.1 rfl, hrenders rfl⟩

/-- The content of the layout is called while it is being rendered: what the expression gives stands
inside of it. If the expression waits for what it called, then the request waits for itself. -/
theorem content_called_while_rendered :
    (Program.parse "typeof content()" = .ok callingProgram ∧
      (recurringRun "typeof content()" callingProgram).1.toOption =
        some (.html "<slot>Pobject</slot>")) ∧
    Program.parse "content" = .ok [.ident "content"] ∧
    (recurringRun "content" [.ident "content"]).1 = .error .stalled :=
  ⟨⟨parse_calling, by decide +kernel⟩, parse_content, isStalled_iff.1 (by decide +kernel)⟩

end TemplateEngine
