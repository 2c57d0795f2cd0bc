import TemplateEngine.Proofs.Engine.Locating
import TemplateEngine.Proofs.Engine.Request
import TemplateEngine.Proofs.Engine.Tree

/-!
# `Engine` · Truthful failures

A failure says where it happened, however many templates, slots and layouts it came through.

* **`Locates`**: whatever fails in a walk, or in what a walk has left, gets a place on its way out.
* **`Chronicle.Breaks`** says what the failure of a template leaves. The scope of the template is
  popped also then (`ensures_rendered`), so that every piece of output keeps to the chronicle
  (`Meets.produce`).
* **`Chronicle.reading`**: the parts of the files that a request has read, literals apart, are the
  places of the request. It begins with none, if natives and reader name none
  (`Store.Unplaced.told`).
* **`renderView_located`** reads the error of a whole request.
-/

namespace TemplateEngine

open Render TemplateEngine.Text TemplateEngine.Template

variable {σ : Type}

/-! ## Outermost places -/

/-- A redirect, or an error with a place. -/
def Error.IsLocated (error : Error) : Prop :=
  error.isRedirect ∨ ∃ file excerpt cause, error = .template file excerpt cause

theorem Error.isLocated_locate (template : CompiledTemplate) (token : Nat) (error : Error) :
    (locate template token error).IsLocated := by
  unfold locate
  split
  · next h => exact .inl h
  · exact .inr ⟨_, _, _, rfl⟩

theorem Error.isLocated_locateLayout (template : CompiledTemplate) (token : Nat) (error : Error) :
    (locateLayout template token error).IsLocated := by
  unfold locateLayout
  split
  · exact .inr ⟨_, _, _, rfl⟩
  · exact isLocated_locate template token error

/-- Whatever fails in a computation has a place. -/
def Locates {α : Type} (x : Render σ α) : Prop :=
  ∀ s, Ensures x s (fun _ _ => True) fun stop _ => OnStop Error.IsLocated (fun _ => True) stop

namespace Locates

variable {α β : Type} {x : Render σ α}

theorem pure (a : α) : Locates (Pure.pure a : Render σ α) := fun _ => .pure trivial

theorem bind {f : α → Render σ β} (hx : Locates x) (hf : ∀ a, Locates (f a)) :
    Locates (x >>= f) :=
  fun s => (hx s).bind fun a t _ => hf a t

theorem mapError {f : Error → Error} (hf : ∀ error, (f error).IsLocated) (x : Render σ α) :
    Locates (mapError f x) := by
  refine fun s => .mapError ((Ensures.any x s).mono (fun _ _ => id) fun stop _ _ => ?_)
  cases stop with
  | raised error => exact hf error
  | stalled | exhausted => exact trivial

theorem withSections (id : RequestId) (f : Sections Deferred → α) :
    Locates (withSections id f : Render σ α) :=
  fun s => .of_ok (exec_withSections id f s) trivial

theorem steps (engine : Engine σ) (wait : PromiseId → Render σ Value) (template : CompiledTemplate)
    (parts : List Token) (walk : Walk) (token : Nat) :
    Locates (walk.steps engine wait template token parts) := by
  induction parts generalizing walk token with
  | nil => exact pure walk
  | cons part rest ih =>
    exact (mapError (Error.isLocated_locate _ _) _).bind fun walk => ih walk (token + 1)

/-- A walk fails at one of its parts. -/
theorem run (engine : Engine σ) (wait : PromiseId → Render σ Value) (template : CompiledTemplate)
    (context : Context) : Locates (Walk.run engine wait template context) := by
  refine (steps engine wait template _ _ 0).bind fun walk => ?_
  split
  · exact pure walk
  · exact fun s => .raise (Error.isLocated_locate _ _ _)

theorem produceAll (run : Task → Render σ String) (pieces : List (Fragment Deferred × Nat)) :
    Locates (produceAll (runDeferred run) pieces) := by
  induction pieces with
  | nil => exact pure []
  | cons piece rest ih =>
    obtain ⟨⟨payload, priority⟩, place⟩ := piece
    unfold TemplateEngine.produceAll
    cases payload with
    | literal text => exact (pure text).bind fun _ => ih.bind fun _ => pure _
    | deferred deferred =>
      exact (mapError (Error.isLocated_locate _ _) _).bind fun _ => ih.bind fun _ => pure _

/-- What a walk has left fails at a fragment, or at the directive of the layout. -/
theorem renderWalked (engine : Engine σ) (run : Task → Render σ String)
    (template : CompiledTemplate) (scope : ScopeId) (walk : Walk) :
    Locates (engine.renderWalked run template scope walk) := by
  unfold Engine.renderWalked
  split
  · exact mapError (Error.isLocated_locateLayout _ _) _
  · exact (withSections _ _).bind fun _ => (produceAll run _).bind fun _ => pure _

end Locates

/-! ## Templates -/

/-- What the failure of a template leaves: beside what every failure leaves, it has a place, and the
section of the template has its scope back if every push was popped. -/
structure Chronicle.Breaks (c : Chronicle) (s : Store σ) (context : Context) (error : Error)
    (t : Store σ) : Prop where
  /-- What every failure leaves. -/
  fails : c.Fails s error t
  /-- The error has a place. -/
  located : error.IsLocated
  /-- The section has its scope back. -/
  restored : c.Shelters t.journal → (t.sections context.request).current context.defaultSection =
    (s.sections context.request).current context.defaultSection

section Templates

variable {c : Chronicle} {engine : Engine σ} {run : Task → Render σ String}

/-- A failure since a push leaves the same with the pop. -/
theorem Chronicle.Fails.breaks {s t : Store σ} {context : Context} {error : Error} {owner : String}
    (hs : context.request.index < s.requests.size)
    (h : c.Fails (s.pushed context.request context.defaultSection owner) error t)
    (hlocated : error.IsLocated) :
    c.Breaks s context error (t.popped context.request context.defaultSection) where
  fails := {
    grown := h.grown.popped hs (h.grown.live hs)
    journal := h.journal
    placed := h.placed
    undone := fun hshelters => (h.undone hshelters).popped hs (h.grown.live hs) }
  located := hlocated
  restored hshelters := by
    obtain ⟨_, hreturned⟩ := (h.undone hshelters).returned hs (h.grown.live hs)
    exact hreturned.current

variable (hengine : engine.Tells c)
  (hrun : ∀ task : Task, task.Within c.bounds → ∀ J, c.Meets J (run task) fun _ _ => True)

include hengine hrun

/-- A template that was read is rendered in a scope of its own, which is popped in the end. -/
theorem ensures_rendered {template : CompiledTemplate} {context : Context}
    (hours : c.ours context.request) {s : Store σ} (hs : s.Told c)
    (hknown : c.Knows s.journal template) :
    Ensures (do
        let scope ← changeSections context.request fun sections =>
          sections.push context.defaultSection context.viewPath
        let output ← attempt do
          let walk ← Walk.run engine (waitFor engine run) template context
          engine.renderWalked run template scope walk
        let popped ← attempt (popSection context.request context.defaultSection)
        let text ← ofExcept output
        let _ ← ofExcept popped
        return text) s
      (fun _ t => t.Told c ∧ s.Balanced t)
      fun stop t => OnStop (c.Breaks s context · t) (fun _ => True) stop := by
  have hlive := hs.live context.request hours
  have hwait : ∀ id J, c.Meets J (waitFor engine run id) fun _ _ => True :=
    fun id J => .waitFor hrun hengine id
  have hpushed := hs.pushed context.request context.defaultSection context.viewPath
  have hbody : Ensures (do
      let walk ← Walk.run engine (waitFor engine run) template context
      engine.renderWalked run template ⟨(s.sections context.request).scopes.size⟩ walk)
      (s.pushed context.request context.defaultSection context.viewPath)
      (fun _ t => t.Told c ∧
        (s.pushed context.request context.defaultSection context.viewPath).Balanced t)
      fun stop t => OnStop
        (c.Fails (s.pushed context.request context.defaultSection context.viewPath) · t)
        (fun _ => True) stop := by
    have hknown' : c.Knows (s.pushed context.request context.defaultSection
      context.viewPath).journal template := hknown
    refine (ensures_run_places hengine hwait hours hknown' hpushed).bind ?_
    rintro walk t ⟨-, hwalk, ht, hst⟩
    have hwalked : c.Meets t.journal (engine.renderWalked run template
        ⟨(s.sections context.request).scopes.size⟩ walk) fun _ _ => True :=
      .renderWalked hrun hwalk _
    exact (hwalked.afterwards (List.suffix_refl _) ht hst).mono (fun _ _ h => h.2) fun _ _ => id
  have hlocates := (Locates.run engine (waitFor engine run) template context).bind fun walk =>
    Locates.renderWalked engine run template ⟨(s.sections context.request).scopes.size⟩ walk
  refine .bind_ok (exec_changeSections _ _ _) (ensures_popped hlive _ _ _ _ _ ?_)
  refine (hbody.and (hlocates _)).mono ?_ fun stop t hstop => ?_
  · rintro _ t ⟨⟨ht, hst⟩, -⟩
    exact ⟨hst.grown, ht.popped _ _, hst.popped hlive (hst.grown.live hlive)⟩
  · cases stop with
    | raised error =>
      have hfails : c.Fails _ error t := hstop.1
      exact ⟨hfails.grown, hfails.breaks hlive hstop.2⟩
    | stalled | exhausted => exact trivial

theorem Chronicle.Meets.renderTemplate {J : List Event} {context : Context}
    (hours : c.ours context.request) :
    c.Meets J (engine.renderTemplate run context) fun _ _ => True := by
  refine (Chronicle.Meets.fetch hengine context).bind fun K template _ hknown => ?_
  intro s hs hold
  refine (ensures_rendered hengine hrun hours hold (hknown.later hs)).mono ?_ fun stop t hstop => ?_
  · rintro _ t ⟨ht, hst⟩
    exact ⟨True.intro, ht, hst⟩
  · cases stop with
    | raised error => exact hstop.fails
    | stalled | exhausted => exact True.intro

theorem Chronicle.Meets.perform {J : List Event} {task : Task} (htask : task.Within c.bounds) :
    c.Meets J (engine.perform run task) fun _ _ => True := by
  match task, htask with
  | .template context, htask => exact renderTemplate hengine hrun htask
  | .section _ name optional, htask => exact renderSection hrun htask name optional
  | .content slot optional, _ => exact renderContent hrun slot optional

omit hrun in
/-- Whatever an engine produces keeps to the chronicle. -/
theorem Chronicle.Meets.produce (fuel : Nat) {task : Task} (htask : task.Within c.bounds)
    (J : List Event) : c.Meets J (engine.produce fuel task) fun _ _ => True := by
  induction fuel generalizing task J with
  | zero => exact exhausted
  | succ fuel ih => exact perform hengine (fun task htask => ih htask) htask

end Templates

/-! ## Requests -/

/-- No place is in the chain of an error. -/
def Error.Unplaced (error : Error) : Prop := error.Placed fun _ _ => False

/-- Native functions raise no errors with places, and put none into promises. -/
structure Host.Unplaced (host : Host σ) : Prop where
  /-- A function fails without a place. -/
  fails : ∀ id args state error, ((host.call id args).run.run state).1 = .error error →
    error.Unplaced
  /-- The promises that it leaves have no places but those that it found. -/
  leaves : ∀ place id args state, Graph.SettledAt place state.1 →
    Graph.SettledAt place ((host.call id args).run.run state).2.1

/-- Nothing waits in a slot, and it has not ended with an error that has a place. -/
def SlotState.Unplaced : SlotState → Prop
  | .pending fragments => ∀ fragment ∈ fragments, ∃ text, fragment.payload = .literal text
  | .running => True
  | .settled (.ok _) => True
  | .settled (.error error) => error.Unplaced

/-- What is laid by in a store has no places. -/
structure Store.Unplaced (store : Store σ) : Prop where
  /-- Slots have none. -/
  slots : ∀ slot ∈ store.slots, slot.state.Unplaced
  /-- Promises have none. -/
  graph : store.graph.SettledAt fun _ _ => False

/-- The places of a request: the parts, other than literals, of the files that it has read. -/
def Chronicle.reading (read : String → Except Error String) (base : List Event)
    (request : RequestId) : Chronicle where
  read := read
  base := base
  ours := (· = request)
  place J file excerpt := ∃ template token part, CompiledTemplate.KnownBy read base J template ∧
    template.tokens[token]? = some part ∧ part.kind ≠ .literal ∧ template.path = file ∧
      template.excerpt token = excerpt
  later := by
    rintro J K _ _ hJK ⟨template, token, part, hknown, hpart⟩
    exact ⟨template, token, part, ⟨hknown.compiled, hknown.reading.later hJK⟩, hpart⟩
  here hknown hpart hkind := ⟨_, _, _, hknown, hpart, hkind, rfl, rfl⟩

theorem tells_interpreting {config : Config} {read : String → Except Error String} {host : Host σ}
    (hhost : host.Unplaced)
    (hread : ∀ path error, read path = .error error → error.Unplaced) (base : List Event)
    (request : RequestId) :
    (Engine.interpreting config read host).Tells (.reading read base request) where
  read := rfl
  interprets := rfl
  unread _ path error h := (hread path error h).mono fun _ _ => False.elim
  fails _ id args state error h := (hhost.fails id args state error h).mono fun _ _ => False.elim
  leaves _ := hhost.leaves _

/-- No native functions, and templates in memory, fail without places. -/
theorem Host.unplaced_none : Host.none.Unplaced where
  fails _ _ _ _ h := nomatch h
  leaves _ _ _ _ h := h

theorem MemorySource.unplaced_read (source : MemorySource) {path : String} {error : Error}
    (h : source.read path = .error error) : error.Unplaced := by
  unfold MemorySource.read at h
  dsimp only at h
  split at h
  · cases h
  · cases h
    exact Error.IsOwn.placed trivial

/-- What is laid by at the start of a request has known places. -/
theorem Store.Unplaced.told {store : Store σ} {graph : Graph}
    {read : String → Except Error String} (h : store.Unplaced)
    (htemplates : store.templates.Honest read) (hgraph : graph.promises = store.graph.promises) :
    (store.withRequest graph).Told (.reading read store.journal ⟨store.requests.size⟩) where
  since := List.suffix_refl _
  live id hid := by
    cases hid
    exact Nat.lt_of_lt_of_eq (Nat.lt_succ_self _) (Array.size_push _).symm
  scopes id hid scope fragment hmem := by
    cases hid
    rw [(sections_withRequest store graph).1, Sections.fragments_of_le (Nat.zero_le _)] at hmem
    cases hmem
  slots slot hslot := by
    have hold := h.slots slot hslot
    match slot.state, hold with
    | .pending fragments, hold =>
      intro fragment hmem
      obtain ⟨text, htext⟩ := hold fragment hmem
      unfold Fragment.Told
      rw [htext]
      trivial
    | .running, _ => trivial
    | .settled (.ok _), _ => trivial
    | .settled (.error _), hold => exact Error.Placed.mono hold fun _ _ => False.elim
  graph state hstate := by
    rw [Store.withRequest, hgraph] at hstate
    exact (h.graph state hstate).mono fun _ _ => False.elim
  templates := htemplates

/-- A template that can be opened fails with a place, and all places of the failure are known. -/
theorem ensures_render_located {c : Chronicle} {engine : Engine σ} (hengine : engine.Tells c)
    {context : Context} {template : CompiledTemplate} (hours : c.ours context.request)
    (hopened : engine.opened context = .ok template) {s : Store σ} (hs : s.Told c) (fuel : Nat) :
    Ensures (engine.render fuel context) s (fun _ _ => True)
      fun stop t => OnStop (fun error => s.journal <:+ t.journal ∧
        error.Placed (c.place t.journal) ∧ error.IsLocated) (fun _ => True) stop := by
  cases fuel with
  | zero => exact .throw trivial
  | succ fuel =>
    have hhonest : s.templates.Honest engine.read := by
      rw [hengine.read]
      exact hs.templates
    obtain ⟨templates, -, hfetch⟩ := exec_fetch_of_opened hhonest hopened
    obtain ⟨hknown, ht, hst⟩ := (Chronicle.Meets.fetch hengine context s
      (List.suffix_refl s.journal) hs).ok hfetch
    have hrun : ∀ task : Task, task.Within c.bounds → ∀ J,
        c.Meets J (engine.produce fuel task) fun _ _ => True :=
      fun task htask J => .produce hengine fuel htask J
    show Ensures (engine.renderTemplate (engine.produce fuel) context) s _ _
    unfold Engine.renderTemplate
    refine .bind_ok hfetch ((ensures_rendered hengine hrun hours ht hknown).mono
      (fun _ _ _ => trivial) fun stop t hstop => ?_)
    cases stop with
    | raised error =>
      exact ⟨hst.journal.trans hstop.fails.journal, hstop.fails.placed, hstop.located⟩
    | stalled | exhausted => trivial

/-- How a request fails. -/
theorem ensures_renderView_located {config : Config} {read : String → Except Error String}
    {host : Host σ} (hhost : host.Unplaced)
    (hread : ∀ path error, read path = .error error → error.Unplaced) (fuel : Nat) {path : String}
    (data : ObjectId) {store : Store σ} (hstore : store.Unplaced)
    (htemplates : store.templates.Honest read) {source : String} {tokens : List Token}
    (hsource : read (Path.withExtension config.extension (Path.combine "/" (trimString path))) =
      .ok source)
    (htokens : tokenize source = .ok tokens) :
    Ensures ((Engine.interpreting config read host).renderView fuel path data) store
      (fun _ _ => True)
      fun stop t => OnStop (fun error => store.journal <:+ t.journal ∧
        error.Placed ((Chronicle.reading read store.journal ⟨store.requests.size⟩).place t.journal) ∧
          ∃ file excerpt cause, error = .template file excerpt cause) (fun _ => True) stop := by
  have hengine : (Engine.interpreting config read host).Tells
      (.reading read store.journal ⟨store.requests.size⟩) := tells_interpreting hhost hread _ _
  obtain ⟨context, graph, hcontext, hrequest, htop, hgraph⟩ :=
    exec_context (Engine.interpreting config read host) path data store
  have hcompiled : (Engine.interpreting config read host).compiled context.filePath =
      .ok ⟨context.filePath, source, tokens, Digest.digest source⟩ := by
    have hfile : (Engine.interpreting config read host).read context.filePath = .ok source := by
      rw [htop.filePath]
      exact hsource
    unfold Engine.compiled CompiledTemplate.compile
    rw [hfile]
    simp only [bind, Except.bind, htokens]
  have hopened := Engine.opened_of_compiled (htop.depth ▸ Nat.zero_le _) hcompiled
  have hrender := ensures_render_located hengine hrequest hopened
    (hstore.told htemplates hgraph) fuel
  have hattempt : Ensures (attempt ((Engine.interpreting config read host).render fuel context))
      (store.withRequest graph)
      (fun result t => OnResult (fun _ => True) (fun error => store.journal <:+ t.journal ∧
        error.Placed ((Chronicle.reading read store.journal ⟨store.requests.size⟩).place t.journal) ∧
          error.IsLocated) result)
      fun stop _ => OnStop (fun _ => False) (fun _ => True) stop := by
    refine .attempt (hrender.mono (fun _ _ => id) fun stop t hstop => ?_)
    cases stop <;> exact hstop
  unfold Engine.renderView
  refine .bind_ok hcontext ((hattempt.mono (fun _ _ => id) ?_).bind fun result t hresult =>
    .bind_ok (exec_withRequest_redirect _ _) ?_)
  · intro stop t hstop
    cases stop with
    | raised error => exact hstop.elim
    | stalled | exhausted => trivial
  · unfold Engine.outcome
    cases result with
    | ok html =>
      dsimp only
      split <;> exact .ofExcept (fun _ _ => trivial) nofun
    | error error =>
      obtain ⟨hjournal, hplaced, hlocated⟩ := hresult
      dsimp only
      split
      · exact .ofExcept (fun _ _ => trivial) nofun
      · next hnone =>
        refine .raise ⟨hjournal, hplaced, hlocated.resolve_left ?_⟩
        unfold Error.isRedirect
        rw [hnone]
        exact nofun

/-- Every place in the chain of an error is a part, other than a literal, of a file that was read,
and shows the text and the position of that part. -/
def Error.Truthful (read : String → Except Error String) (events : List Event) (error : Error) :
    Prop :=
  ∀ file excerpt cause, .template file excerpt cause ∈ error.layers →
    .reading file ∈ events ∧ ∃ source tokens index part, read file = .ok source ∧
      tokenize source = .ok tokens ∧ tokens[index]? = some part ∧ part.kind ≠ .literal ∧
        excerpt = Excerpt.at source tokens index ∧ excerpt.token = part.text ∧
          excerpt.position = Position.ofOffset source part.offset

/-- A request whose template can be read and cut into tokens, and that ends with an error, says
truthfully where it happened: the outermost error has a place, and all places in its chain are
parts of files that the request has read. -/
theorem renderView_located (config : Config) (read : String → Except Error String)
    (host : Host σ) (fuel : Nat) (path : String) (data : ObjectId) (store after : Store σ)
    (error : Error) (source : String) (tokens : List Token) (hhost : host.Unplaced)
    (hread : ∀ path error, read path = .error error → error.Unplaced)
    (hstore : store.Unplaced) (htemplates : store.templates.Honest read)
    (hsource : read (Path.withExtension config.extension (Path.combine "/" (trimString path))) =
      .ok source)
    (htokens : tokenize source = .ok tokens)
    (hrun : exec ((Engine.interpreting config read host).renderView fuel path data) store =
      (.error (.raised error), after)) :
    ∃ events, after.journal = events ++ store.journal ∧
      (∃ file excerpt cause, error = .template file excerpt cause) ∧
        error.Truthful read events := by
  obtain ⟨⟨events, hevents⟩, hplaced, houtermost⟩ :=
    (ensures_renderView_located hhost hread fuel data hstore htemplates hsource htokens).error hrun
  refine ⟨events, hevents.symm, houtermost, fun file excerpt cause hmem => ?_⟩
  obtain ⟨template, index, part, hknown, hpart, hkind, rfl, rfl⟩ :=
    hplaced file excerpt cause hmem
  obtain ⟨others, hothers, hreading⟩ := hknown.reading
  obtain ⟨text, htext, hcompile⟩ := hknown.compiled
  obtain ⟨-, rfl, hparts⟩ := CompiledTemplate.parts_of_compile hcompile
  have hsame : others = events := List.append_cancel_right (hothers.symm.trans hevents.symm)
  subst hsame
  refine ⟨hreading, template.source, template.tokens, index, part, htext, hparts, hpart, hkind, rfl,
    ?_, ?_⟩
  all_goals
    unfold CompiledTemplate.excerpt Excerpt.at
    rw [hpart]

/-- An error that ends a computation. -/
def Stop.error? {α : Type} : Except Stop α → Option Error
  | .error (.raised error) => some error
  | _ => none

theorem exec_of_error? {α : Type} {x : Render σ α} {s : Store σ}
    (h : (Stop.error? (exec x s).1).isSome) :
    ∃ error, exec x s = (.error (.raised error), (exec x s).2) := by
  rcases hx : exec x s with ⟨(error | _ | _) | a, t⟩
  · exact ⟨error, rfl⟩
  all_goals
    rw [hx] at h
    cases h

/-- A page with a layout and a paired tag whose body includes a template. -/
def nestedPage : String :=
  "$\x7b#layout /main\x7d<$:view $path=\"/box\">$\x7b#include part\x7d</$:view>"

/-- The templates of such a page, of which the last includes one that does not exist. -/
def nestedPages : List (String × String) :=
  [("/page.html", nestedPage),
   ("/main.html", "[$\x7b#render content\x7d]"),
   ("/box.html", "($\x7b#render content\x7d)"),
   ("/part.html", "$\x7b#include gone\x7d")]

/-- The file and the token at the place of an error. -/
def Error.spot? : Error → Option (String × String)
  | .template file excerpt _ => some (file, excerpt.token)
  | _ => none

/-- The failure of such a page names all five tokens through which the missing template was to be
rendered. -/
theorem renderView_located_page :
    let run := exec ((Engine.inMemory .standard nestedPages).renderView 20 "/page" ⟨0⟩)
      (Store.fresh .nothing ())
    ∃ error, run.1 = .error (.raised error) ∧
      error.layers.filterMap Error.spot? =
        [("/main.html", "$\x7b#render content\x7d"), ("/page.html", "<$:view $path=\"/box\">"),
          ("/box.html", "$\x7b#render content\x7d"), ("/page.html", "$\x7b#include part\x7d"),
          ("/part.html", "$\x7b#include gone\x7d")] ∧
      ∃ events, run.2.journal = events ++ [] ∧
        (∃ file excerpt cause, error = .template file excerpt cause) ∧
          error.Truthful (MemorySource.ofList nestedPages).read events := by
  intro run
  have hspots : (Stop.error? run.1).map (fun error => error.layers.filterMap Error.spot?) =
      some [("/main.html", "$\x7b#render content\x7d"), ("/page.html", "<$:view $path=\"/box\">"),
        ("/box.html", "$\x7b#render content\x7d"), ("/page.html", "$\x7b#include part\x7d"),
        ("/part.html", "$\x7b#include gone\x7d")] := by
    decide +kernel
  rcases hrun : run with ⟨(_ | _ | _) | rendered, after⟩
  all_goals rw [hrun] at hspots
  case error.raised error =>
    have hsource : (MemorySource.ofList nestedPages).read "/page.html" = .ok nestedPage := rfl
    have hcut : (tokenize nestedPage).toOption.isSome := by decide +kernel
    obtain ⟨tokens, htokens⟩ : ∃ tokens, tokenize nestedPage = .ok tokens := by
      rcases htokens : tokenize nestedPage with fault | tokens
      · rw [htokens] at hcut
        cases hcut
      · exact ⟨tokens, rfl⟩
    exact ⟨error, rfl, Option.some.inj hspots, renderView_located { Config.standard with cacheSize := 0 } _ Host.none
      20 "/page" ⟨0⟩ (Store.fresh .nothing ()) after error _ tokens Host.unplaced_none
      (fun _ _ => MemorySource.unplaced_read _) ⟨fun _ hslot => absurd hslot (Array.not_mem_empty _),
        fun _ hstate => absurd hstate (Array.not_mem_empty _)⟩ TemplateCache.honest_nothing hsource
      htokens hrun⟩
  all_goals cases hspots

end TemplateEngine
