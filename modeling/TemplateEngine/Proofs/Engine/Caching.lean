import TemplateEngine.Proofs.Engine.Contract
import TemplateEngine.Proofs.Engine.Respects
import TemplateEngine.Proofs.Expr.Programs
import TemplateEngine.Source.Memory

/-!
# `Engine` · What is kept makes no difference

An engine keeps compiled templates by path and parsed programs by text, from one rendering to the
next and across every change of the templates. Nothing of it can be seen.

* **`TemplateCache.Genuine`**: what is kept under a path was compiled for that path, from a text
  that was there once. It need not be the text that is there now.
* **`Digest.Separates`**: no two of the texts have one digest. Then a template that passes for that
  of a source was compiled from this source, and a genuine cache is an honest one.
* **`Unaware`**: a computation ends alike on two stores that differ in what they keep (`Twin`), and
  leaves such stores. Every step of a rendering is like that, hence (`Engine.Respects`) every
  rendering.
* **`Session`**: an engine on templates in memory that is used again and again. What it keeps is
  genuine after every step (`Session.Sound.step`), and so after every run.
* **`renderView_uncached`**: a rendering in a session gives what it gives where nothing is kept.
-/

namespace TemplateEngine

open Render

variable {σ : Type}

/-- No two of the texts have one digest. -/
def Digest.Separates (texts : List String) : Prop :=
  ∀ a ∈ texts, ∀ b ∈ texts, Digest.digest a = Digest.digest b → a = b

/-! ## Templates -/

theorem CompiledTemplate.of_compile {path source : String} {template : CompiledTemplate}
    (h : compile path source = .ok template) :
    template.source = source ∧ template.hash = Digest.digest source := by
  unfold compile at h
  split at h
  · cases h
    exact ⟨rfl, rfl⟩
  · cases h

namespace TemplateCache

variable {texts : List String} {cache : TemplateCache} {path key source : String}
  {template : CompiledTemplate}

/-- A template is kept under a path. -/
def Keeps (cache : TemplateCache) (path : String) (template : CompiledTemplate) : Prop :=
  ∃ store number, cache.store = some store ∧ (path, number, template) ∈ store.entries

/-- What is kept under a path was compiled for it, from one of the texts. -/
def Genuine (texts : List String) (cache : TemplateCache) : Prop :=
  ∀ path template, cache.Keeps path template →
    template.source ∈ texts ∧ CompiledTemplate.compile path template.source = .ok template

/-! ### Operations keep what was kept, and what they compile -/

theorem keeps_of_get? (h : (cache.get? key).2.Keeps path template) : cache.Keeps path template := by
  unfold get? at h
  rcases hstore : cache.store with _ | store
  · rw [hstore] at h
    exact h
  · rw [hstore] at h
    obtain ⟨after, number, hafter, hmem⟩ := h
    cases hafter
    exact ⟨store, number, hstore, Recent.mem_of_mem_get? hmem⟩

theorem keeps_of_put {kept : Nat × CompiledTemplate} (h : (cache.put key kept).Keeps path template) :
    cache.Keeps path template ∨ path = key ∧ template = kept.2 := by
  obtain ⟨after, number, hafter, hmem⟩ := h
  obtain ⟨store, hstore, rfl⟩ := Option.map_eq_some_iff.1 hafter
  rcases Recent.mem_of_mem_put hmem with hnew | hold
  · cases hnew
    exact .inr ⟨rfl, rfl⟩
  · exact .inl ⟨store, number, hstore, hold⟩

theorem keeps_of_compile (h : (cache.compile key key source).2.Keeps path template) :
    cache.Keeps path template ∨
      path = key ∧ CompiledTemplate.compile key source = .ok template := by
  unfold compile at h
  rcases hcompile : CompiledTemplate.compile key source with error | compiled
  · rw [hcompile] at h
    exact .inl h
  · rw [hcompile] at h
    rcases keeps_of_put h with hold | ⟨hpath, rfl⟩
    · exact .inl hold
    · exact .inr ⟨hpath, rfl⟩

theorem keeps_of_load (h : (cache.load key source).2.Keeps path template) :
    cache.Keeps path template ∨
      path = key ∧ CompiledTemplate.compile key source = .ok template := by
  have hcompiled : ∀ {after : TemplateCache}, (∀ {path template}, after.Keeps path template →
      cache.Keeps path template) → (after.compile key key source).2.Keeps path template →
      cache.Keeps path template ∨
        path = key ∧ CompiledTemplate.compile key source = .ok template :=
    fun hafter h => (keeps_of_compile h).imp_left hafter
  have hget : ∀ {path template}, (cache.get? key).2.Keeps path template →
      cache.Keeps path template := keeps_of_get?
  unfold load at h
  rcases hfound : cache.get? key with ⟨_ | found, after⟩
  · rw [hfound] at h hget
    exact hcompiled hget h
  · rw [hfound] at h hget
    dsimp only at h
    split at h
    · exact .inl (hget h)
    · exact hcompiled hget h

theorem keeps_of_clear (h : cache.clear.Keeps path template) : False := by
  obtain ⟨after, number, hafter, hmem⟩ := h
  obtain ⟨store, -, rfl⟩ := Option.map_eq_some_iff.1 hafter
  cases hmem

/-! ### Genuine caches -/

theorem genuine_nothing : nothing.Genuine texts := fun _ _ ⟨_, _, h, _⟩ => nomatch h

theorem genuine_newCache (config : Config) : (Engine.newCache config).Genuine texts := by
  unfold Engine.newCache
  split
  · exact genuine_nothing
  · rintro path template ⟨store, number, hstore, hmem⟩
    cases hstore
    cases hmem

theorem genuine_clear : cache.clear.Genuine texts := fun _ _ h => (keeps_of_clear h).elim

/-- Loading a template keeps at most what one of the texts compiles to. -/
theorem Genuine.load (h : cache.Genuine texts) (path : String) (hsource : source ∈ texts) :
    (cache.load path source).2.Genuine texts := by
  intro other template hkept
  rcases keeps_of_load hkept with hold | ⟨rfl, hcompile⟩
  · exact h other template hold
  · rw [(CompiledTemplate.of_compile hcompile).1]
    exact ⟨hsource, hcompile⟩

/-- A template that has the digest of a source was compiled from it. -/
theorem Genuine.honest (h : cache.Genuine texts) (hdigest : Digest.Separates texts)
    (hsource : source ∈ texts) : cache.Honest fun _ => .ok source := by
  rintro store hstore path ⟨number, template⟩ hmem other hread hfor
  cases hread
  obtain ⟨htext, hcompile⟩ := h path template ⟨store, number, hstore, hmem⟩
  have hhash : template.hash = Digest.digest source := by simpa [CompiledTemplate.isFor] using hfor
  rw [(CompiledTemplate.of_compile hcompile).2] at hhash
  rwa [hdigest _ htext _ hsource hhash] at hcompile

/-- A genuine cache hands out what the source compiles to. -/
theorem Genuine.load_eq (h : cache.Genuine texts) (hdigest : Digest.Separates texts) (path : String)
    (hsource : source ∈ texts) :
    (cache.load path source).1.map Prod.snd = CompiledTemplate.compile path source :=
  (load_of_honest (h.honest hdigest hsource) rfl).1

end TemplateCache

/-! ## Stores -/

/-- What a store keeps is right. -/
structure Store.Recalls (texts : List String) (store : Store σ) : Prop where
  /-- Templates were compiled from texts. -/
  templates : store.templates.Genuine texts
  /-- Programs were parsed from the texts that they are kept under. -/
  programs : store.programs.Parsed

/-- The store, keeping something else. -/
def Store.keeping (store : Store σ) (templates : TemplateCache) (programs : Recent Program) :
    Store σ :=
  { store with templates := templates, programs := programs }

/-- Two stores keep what is right, and are the same otherwise. -/
structure Store.Twin (texts : List String) (s t : Store σ) : Prop where
  /-- They are the same otherwise. -/
  same : t = s.keeping t.templates t.programs
  /-- What the one keeps is right. -/
  left : s.Recalls texts
  /-- What the other keeps is right. -/
  right : t.Recalls texts

theorem Store.Twin.keeping {texts : List String} {s t : Store σ} (h : s.Twin texts t)
    (templates : TemplateCache) (programs : Recent Program) :
    s.keeping templates programs = t.keeping templates programs := by
  rw [h.same]
  rfl

namespace Store.Twin

variable {texts : List String} {s t u : Store σ}

theorem refl (h : s.Recalls texts) : s.Twin texts s := ⟨rfl, h, h⟩

theorem symm (h : s.Twin texts t) : t.Twin texts s := by
  refine ⟨?_, h.right, h.left⟩
  rw [h.same]
  rfl

theorem trans (h : s.Twin texts t) (h' : t.Twin texts u) : s.Twin texts u := by
  refine ⟨?_, h.left, h'.right⟩
  rw [h.keeping]
  exact h'.same

end Store.Twin

namespace Render

/-! ## Computations that are unaware of what is kept -/

/-- On stores that are the same but for what they keep, computations end alike. -/
def Unaware (texts : List String) (α : Type) (x y : Render σ α) : Prop :=
  ∀ s t, s.Twin texts t → (exec x s).1 = (exec y t).1 ∧ (exec x s).2.Twin texts (exec y t).2

namespace Unaware

variable {texts : List String} {α β : Type}

/-- A computation that neither reads nor changes what is kept. -/
theorem of_exec {x : Render σ α} (h : ∀ s : Store σ, ∀ templates programs,
    exec x (s.keeping templates programs) =
      ((exec x s).1, (exec x s).2.keeping templates programs)) : Unaware texts α x x := by
  intro s t hst
  have hleft : (exec x s).2 = (exec x s).2.keeping s.templates s.programs :=
    congrArg Prod.snd (h s s.templates s.programs)
  have hright : exec x t = ((exec x s).1, (exec x s).2.keeping t.templates t.programs) := by
    conv_lhs => rw [hst.same]
    exact h s t.templates t.programs
  rw [hright]
  refine ⟨rfl, rfl, ?_, hst.right.templates, hst.right.programs⟩
  rw [hleft]
  exact ⟨hst.left.templates, hst.left.programs⟩

theorem bind {x y : Render σ α} {f g : α → Render σ β} (hxy : Unaware texts α x y)
    (hfg : ∀ a, Unaware texts β (f a) (g a)) : Unaware texts β (x >>= f) (y >>= g) := by
  intro s t hst
  have hends := hxy s t hst
  rw [exec_bind, exec_bind]
  rcases hx : exec x s with ⟨result, after⟩
  rcases hy : exec y t with ⟨result', after'⟩
  rw [hx, hy] at hends
  obtain ⟨rfl, hafter⟩ := hends
  rcases result with stop | a
  · exact ⟨rfl, hafter⟩
  · exact hfg a after after' hafter

theorem tryCatch {x y : Render σ α} {f g : Stop → Render σ α} (hxy : Unaware texts α x y)
    (hfg : ∀ stop, Unaware texts α (f stop) (g stop)) :
    Unaware texts α (tryCatch x f) (MonadExcept.tryCatch y g) := by
  intro s t hst
  have hends := hxy s t hst
  rw [exec_tryCatch, exec_tryCatch]
  rcases hx : exec x s with ⟨result, after⟩
  rcases hy : exec y t with ⟨result', after'⟩
  rw [hx, hy] at hends
  obtain ⟨rfl, hafter⟩ := hends
  rcases result with stop | a
  · exact hfg stop after after' hafter
  · exact ⟨rfl, hafter⟩

theorem pure (a : α) : Unaware texts α (pure a : Render σ α) (Pure.pure a) :=
  of_exec fun _ _ _ => rfl

theorem throw (stop : Stop) : Unaware texts α (throw stop : Render σ α) (MonadExcept.throw stop) :=
  of_exec fun _ _ _ => rfl

theorem attempt {x y : Render σ α} (hxy : Unaware texts α x y) :
    Unaware texts _ (attempt x) (Render.attempt y) := by
  refine (hxy.bind fun a => .pure (Except.ok a)).tryCatch fun stop => ?_
  cases stop with
  | raised error => exact .pure _
  | stalled | exhausted => exact .throw _

theorem mapError (f : Error → Error) {x y : Render σ α} (hxy : Unaware texts α x y) :
    Unaware texts α (mapError f x) (Render.mapError f y) := by
  refine hxy.tryCatch fun stop => ?_
  cases stop with
  | raised error => exact .throw _
  | stalled | exhausted => exact .throw _

theorem changeGraph (f : Graph → α × Graph) :
    Unaware texts α (changeGraph f : Render σ α) (Render.changeGraph f) :=
  of_exec fun _ _ _ => rfl

theorem ofNative (x : Native σ α) : Unaware texts α (ofNative x) (Render.ofNative x) := by
  refine of_exec fun s templates programs => ?_
  rw [exec_ofNative, exec_ofNative]
  have hgraph : (s.keeping templates programs).graph = s.graph := rfl
  have hhost : (s.keeping templates programs).host = s.host := rfl
  rw [hgraph, hhost]
  rcases x.run.run (s.graph, s.host) with ⟨_ | _, _, _⟩ <;> rfl

/-- A program is the same whether it was kept or not. -/
theorem programOf (source : String) :
    Unaware texts Program (programOf source : Render σ Program) (Render.programOf source) := by
  intro s t hst
  obtain ⟨programs, hparsed, hs⟩ := exec_programOf_parsed hst.left.programs source
  obtain ⟨programs', hparsed', ht⟩ := exec_programOf_parsed hst.right.programs source
  rw [hs, ht]
  refine ⟨rfl, ?_, ⟨hst.left.templates, hparsed⟩, ⟨hst.right.templates, hparsed'⟩⟩
  rw [hst.same]
  rfl

/-- So is a template whose source was just read. -/
theorem loadTemplate (hdigest : Digest.Separates texts) (path : String) {source : String}
    (hsource : source ∈ texts) :
    Unaware texts CompiledTemplate (loadTemplate path source : Render σ _)
      (Render.loadTemplate path source) := by
  intro s t hst
  rw [exec_loadTemplate, exec_loadTemplate, hst.left.templates.load_eq hdigest path hsource,
    hst.right.templates.load_eq hdigest path hsource]
  refine ⟨rfl, ?_, ⟨hst.left.templates.load path hsource, hst.left.programs⟩,
    ⟨hst.right.templates.load path hsource, hst.right.programs⟩⟩
  rw [hst.same]
  rfl

end Unaware

end Render

/-- Evaluations are unaware of what is kept. -/
theorem Render.Unaware.respects (host : Host σ) (texts : List String) :
    Respects host (Unaware texts) where
  pure := .pure
  bind := .bind
  read _ := .of_exec fun _ _ _ => rfl
  write _ _ _ := .changeGraph _
  newObject _ := .changeGraph _
  newPromise _ := .changeGraph _
  fault _ := .throw _
  exhausted := .throw _
  ask _ _ := .of_exec fun _ _ _ => rfl
  native _ _ := .ofNative _
  program := .programOf

/-- An engine that reads only texts with different digests is unaware of what is kept. -/
theorem Engine.respects_unaware {engine : Engine σ} {texts : List String}
    (hdigest : Digest.Separates texts)
    (hread : ∀ path source, engine.read path = .ok source → source ∈ texts) :
    engine.Respects (Unaware texts) where
  toRespects := Unaware.respects engine.host texts
  raise _ := .throw _
  attempt := .attempt
  mapError f := .mapError f
  note _ := .of_exec fun _ _ _ => rfl
  library _ := .changeGraph _
  builtins _ _ := .changeGraph _
  newRequest := .of_exec fun _ _ _ => rfl
  withRequest _ _ := .of_exec fun _ _ _ => rfl
  changeRequest _ _ := .of_exec fun _ _ _ => rfl
  newSlot _ := .of_exec fun _ _ _ => rfl
  load path _ h := .loadTemplate hdigest path (hread path _ h)
  stalled := .throw _
  slot _ := .of_exec fun _ _ _ => rfl
  changeSlot _ _ := .of_exec fun _ _ _ => rfl
  setPromise _ _ := .changeGraph _

/-! ## Sessions -/

/-- One thing that is done with an engine on templates in memory. -/
inductive Session.Step (σ : Type) where
  /-- A template is added, or replaced. -/
  | add (path text : String)
  /-- A template is removed. -/
  | remove (path : String)
  /-- All templates are removed. -/
  | removeAll
  /-- Compiled templates are forgotten. -/
  | clearCache
  /-- Data and the state of the host are changed from outside. -/
  | revise (f : Graph × σ → Graph × σ)
  /-- A view is rendered. -/
  | render (fuel : Nat) (path : String) (data : ObjectId)

/-- An engine on templates in memory, in use. -/
structure Session (σ : Type) where
  /-- The templates. -/
  source : MemorySource
  /-- The store. -/
  store : Store σ

/-- The texts that steps add. -/
def Session.Step.texts : Step σ → List String
  | .add _ text => [text]
  | _ => []

namespace Session

/-- An engine that was not used so far, with room for `size` programs. -/
def opened (config : Config) (size : Nat) (host : σ) : Session σ :=
  ⟨.empty, { Store.fresh (Engine.newCache config) host with programs := .empty size }⟩

/-- The engine with the templates of now. -/
def engine (session : Session σ) (config : Config) (host : Host σ) : Engine σ :=
  .interpreting config session.source.read host

/-- The session after a step. A rendering that stops leaves what it has changed. -/
def step (config : Config) (host : Host σ) (session : Session σ) : Step σ → Session σ
  | .add path text => { session with source := session.source.add path text }
  | .remove path => { session with source := session.source.remove path }
  | .removeAll => { session with source := .empty }
  | .clearCache =>
    { session with store := { session.store with templates := session.store.templates.clear } }
  | .revise f =>
    let (graph, host) := f (session.store.graph, session.store.host)
    { session with store := { session.store with graph := graph, host := host } }
  | .render fuel path data =>
    let rendering := (session.engine config host).renderView fuel path data
    { session with store := (exec rendering session.store).2 }

/-- The session after some steps. -/
def run (config : Config) (host : Host σ) (session : Session σ) (steps : List (Step σ)) :
    Session σ :=
  steps.foldl (step config host) session

/-- Only some texts can be read, and what is kept is right. -/
structure Sound (texts : List String) (session : Session σ) : Prop where
  /-- What is read is one of the texts. -/
  read : ∀ path text, session.source.read path = .ok text → text ∈ texts
  /-- What is kept is right. -/
  recalls : session.store.Recalls texts

variable {texts : List String} {session : Session σ}

theorem sound_opened (config : Config) (size : Nat) (host : σ) :
    (opened config size host).Sound texts where
  read _ _ h := nomatch h
  recalls := ⟨TemplateCache.genuine_newCache config, Recent.parsed_empty size⟩

/-- A rendering is unaware of what a session keeps. -/
theorem Sound.unaware (h : session.Sound texts) (hdigest : Digest.Separates texts)
    (config : Config) (host : Host σ) (fuel : Nat) (path : String) (data : ObjectId) :
    Unaware texts Rendered ((session.engine config host).renderView fuel path data)
      ((session.engine config host).renderView fuel path data) :=
  (Engine.respects_unaware hdigest h.read).sustains.renderView
    (Engine.interprets_interpreting config session.source.read host) fuel path data

/-- A step that adds none but the texts leaves what is right. -/
theorem Sound.step (h : session.Sound texts) (hdigest : Digest.Separates texts) (config : Config)
    (host : Host σ) (step : Step σ) (hstep : step.texts ⊆ texts) :
    (session.step config host step).Sound texts := by
  cases step with
  | add path text =>
    refine ⟨fun other found hread => ?_, h.recalls⟩
    change (session.source.add path text).read other = .ok found at hread
    rw [MemorySource.read_add] at hread
    split at hread
    · cases hread
      exact hstep (List.mem_singleton_self text)
    · exact h.read other found hread
  | remove path =>
    refine ⟨fun other found hread => ?_, h.recalls⟩
    change (session.source.remove path).read other = .ok found at hread
    rw [MemorySource.read_remove] at hread
    split at hread
    · cases hread
    · exact h.read other found hread
  | removeAll => exact ⟨fun _ _ hread => (nomatch hread), h.recalls⟩
  | clearCache => exact ⟨h.read, TemplateCache.genuine_clear, h.recalls.programs⟩
  | revise f => exact ⟨h.read, h.recalls.templates, h.recalls.programs⟩
  | render fuel path data =>
    have htwin : session.store.Twin texts session.store := ⟨rfl, h.recalls, h.recalls⟩
    exact ⟨h.read, (h.unaware hdigest config host fuel path data _ _ htwin).2.left⟩

/-- So do steps one after the other. -/
theorem Sound.run (h : session.Sound texts) (hdigest : Digest.Separates texts) (config : Config)
    (host : Host σ) (steps : List (Step σ)) (hsteps : steps.flatMap Step.texts ⊆ texts) :
    (session.run config host steps).Sound texts := by
  induction steps generalizing session with
  | nil => exact h
  | cons step rest ih =>
    rw [List.flatMap_cons, List.append_subset] at hsteps
    exact ih (h.step hdigest config host step hsteps.1) hsteps.2

end Session

/-- The store of an engine that keeps no templates, and no programs so far. -/
def Store.uncached (store : Store σ) (size : Nat) : Store σ :=
  store.keeping .nothing (.empty size)

/-- **What is kept makes no difference.** Whatever was rendered, added, replaced, removed, cleared
and changed before, a rendering has the outcome that it has on an engine that keeps nothing, and
leaves the same data, host and requests. -/
theorem renderView_uncached (config : Config) (native : Host σ) (host : σ) (size size' : Nat)
    (steps : List (Session.Step σ)) (fuel : Nat) (path : String) (data : ObjectId)
    (hdigest : Digest.Separates (steps.flatMap Session.Step.texts)) :
    let session := (Session.opened config size host).run config native steps
    let rendering := (session.engine config native).renderView fuel path data
    (exec rendering session.store).1 = (exec rendering (session.store.uncached size')).1 ∧
      (exec rendering session.store).2.uncached size' =
        (exec rendering (session.store.uncached size')).2.uncached size' := by
  intro session rendering
  have hsound : session.Sound (steps.flatMap Session.Step.texts) :=
    (Session.sound_opened config size host).run hdigest config native steps (List.Subset.refl _)
  have htwin : session.store.Twin (steps.flatMap Session.Step.texts)
      (session.store.uncached size') :=
    ⟨rfl, hsound.recalls, TemplateCache.genuine_nothing, Recent.parsed_empty size'⟩
  obtain ⟨hresult, hafter⟩ := hsound.unaware hdigest config native fuel path data _ _ htwin
  exact ⟨hresult, hafter.keeping _ _⟩

/-- Steps after which an outdated template is kept. -/
def replacingSteps : List (Session.Step Unit) :=
  [.add "/page.html" "old", .render 10 "/page" ⟨0⟩, .add "/page.html" "new"]

/-- After a page was rendered and replaced, its new text is rendered, as on an engine that keeps
nothing. -/
theorem renderView_uncached_replaced :
    let session := (Session.opened .standard 2 ()).run .standard Host.none replacingSteps
    let rendering := (session.engine .standard Host.none).renderView 10 "/page" ⟨0⟩
    (session.store.templates.get? "/page.html").1.map (·.2.source) = some "old" ∧
      (exec rendering session.store).1.toOption = some (.html "new") ∧
      (exec rendering (session.store.uncached 1)).1.toOption = some (.html "new") := by
  intro session rendering
  have hdigest : Digest.Separates (replacingSteps.flatMap Session.Step.texts) := by
    unfold Digest.Separates
    decide +kernel
  have hkept : (session.store.templates.get? "/page.html").1.map (·.2.source) = some "old" := by
    decide +kernel
  have hrendered : (exec rendering session.store).1.toOption = some (.html "new") := by
    decide +kernel
  have hsame := (renderView_uncached .standard Host.none () 2 1 replacingSteps 10 "/page" ⟨0⟩
    hdigest).1
  exact ⟨hkept, hrendered, hsame ▸ hrendered⟩

end TemplateEngine
