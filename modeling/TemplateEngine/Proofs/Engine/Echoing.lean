import TemplateEngine.Proofs.Engine.Echo
import TemplateEngine.Proofs.Engine.Tree

/-!
# `Engine` · Simple templates on placed stores

Templates that consist of texts, expressions and nested templates have the same text wherever the
values stand, and whatever else there is in the sections.

* **`Abreast`**: a store that is placed in another one, both with honest templates.
* **`EchoedFamily`**: contexts whose templates are simple, and the same for both engines.
* **`echoes_fragments`**: corresponding fragments are produced one by one, in the same order.
* **`echoes_renderTemplate`** is one template, and **`echoes_produce`** follows by induction on the
  fuel.
-/

namespace TemplateEngine

open Render TemplateEngine.Text TemplateEngine.Template

variable {σ α : Type} {m : Motion σ} {engine : Engine σ} {read read' : String → Except Error String}
  {request : RequestId} {home : String} {known : Context → Prop} {s t s' t' s'' t'' : Store σ}
  {run run' : Task → Render σ String} {slot : Option SlotId}

/-! ## Stores -/

/-- A store is placed in another one, both keep honest templates, and a request exists. -/
structure Abreast (m : Motion σ) (read read' : String → Except Error String) (request : RequestId)
    (s t : Store σ) : Prop where
  /-- The one is placed in the other. -/
  placed : s.Placed m t
  /-- The request exists. -/
  live : request.index < s.requests.size
  /-- The templates are honest. -/
  honest : s.templates.Honest read
  /-- There too. -/
  honest' : t.templates.Honest read'

theorem Abreast.live' (h : Abreast m read read' request s t) : request.index < t.requests.size :=
  Nat.lt_of_lt_of_eq h.live h.placed.requests.symm

/-- Both push a scope. -/
theorem Abreast.pushed (h : Abreast m read read' request s t) (home owner : String) :
    Abreast m read read' request (s.pushed request home owner) (t.pushed request home owner) where
  placed := h.placed.setSections _ _ _ _
  live := Nat.lt_of_lt_of_eq h.live (Store.requests_size_setSections s request _).symm
  honest := h.honest
  honest' := h.honest'

/-- The same was produced, and nothing was written to the scopes that there were. -/
def SameEcho (m : Motion σ) (read read' : String → Except Error String) (request : RequestId)
    (home : String) (s t : Store σ) (a a' : α) (s' t' : Store σ) : Prop :=
  a' = a ∧ ∀ scope scope', Passage m read read' request home scope scope' [] [] s t s' t'

theorem Abreast.after {scope scope' : ScopeId} {fragments fragments' : List (Fragment Deferred)}
    (h : Abreast m read read' request s t)
    (hpassage : Passage m read read' request home scope scope' fragments fragments' s t s' t') :
    Abreast m read read' request s' t' where
  placed := hpassage.placed
  live := Nat.lt_of_lt_of_eq h.live hpassage.left.requests.symm
  honest := hpassage.left.honest h.honest
  honest' := hpassage.right.honest h.honest'

/-- Both have read a template. -/
theorem Abreast.fetched (h : Abreast m read read' request s t) {templates templates' : TemplateCache}
    (hhonest : templates.Honest read) (hhonest' : templates'.Honest read') (path : String)
    (home : String) (scope scope' : ScopeId) :
    Passage m read read' request home scope scope' [] [] s t
      (s.fetched path templates) (t.fetched path templates') where
  placed := { h.placed with }
  beside := .refl _ _
  grows := Extent.le_refl _
  left := ⟨rfl, .refl _ _ _, fun _ _ => rfl, fun _ => hhonest⟩
  right := ⟨rfl, .refl _ _ _, fun _ _ => rfl, fun _ => hhonest'⟩
  journal := ⟨[.reading path], rfl, rfl⟩

/-! ## Fragments -/

/-- Two ways to produce nested templates, which have the same texts. -/
def EchoedRuns (m : Motion σ) (read read' : String → Except Error String) (request : RequestId)
    (home : String) (known : Context → Prop) (run run' : Task → Render σ String) : Prop :=
  ∀ child slot s t, known child → Abreast m read read' request s t →
    Refs.context.Within s.graph.extent child →
      Echoes (run (.template child)) (run' (.template (child.echo m.toPlacement slot))) s t
        (SameEcho m read read' request home s t)

theorem echoes_produceAll (hrun : EchoedRuns m read read' request home known run run') {e : Extent}
    {placed placed' : List (Fragment Deferred × Nat)}
    (hplaced : List.Forall₂ (fun a b => a.1.Echoed m.toPlacement e known b.1 ∧ a.2 = b.2)
      placed placed')
    (he : e ≤ s.graph.extent) (habreast : Abreast m read read' request s t) :
    Echoes (produceAll (runDeferred run) placed) (produceAll (runDeferred run') placed') s t
      (SameEcho m read read' request home s t) := by
  induction hplaced generalizing s t with
  | nil => exact .pure ⟨rfl, fun _ _ => .refl habreast.placed⟩
  | @cons piece piece' rest rest' hpiece _ ih =>
    obtain ⟨fragment, place⟩ := piece
    obtain ⟨fragment', _⟩ := piece'
    obtain ⟨hechoed, rfl⟩ := hpiece
    cases hechoed with
    | literal text =>
      refine (ih he habreast).bind ?_
      rintro texts _ s' t' ⟨rfl, hpassage⟩
      exact .pure ⟨rfl, hpassage⟩
    | nested hknown hwithin slot template template' token token' =>
      refine ((hrun _ slot s t hknown habreast (Refs.context.mono he hwithin)).mapError _ _).bind ?_
      rintro text _ s₁ t₁ ⟨rfl, hfirst⟩
      have hpassage := hfirst ⟨0⟩ ⟨0⟩
      refine (ih (Extent.le_trans he hpassage.grows) (habreast.after hpassage)).bind ?_
      rintro texts _ s' t' ⟨rfl, hrest⟩
      exact .pure ⟨rfl, fun scope scope' => (hfirst scope scope').trans (hrest scope scope')⟩

/-- Corresponding fragments have the same text. -/
theorem echoes_fragments (hrun : EchoedRuns m read read' request home known run run') {e : Extent}
    {fragments fragments' : List (Fragment Deferred)}
    (hfragments : EchoedFragments m.toPlacement e known fragments fragments')
    (he : e ≤ s.graph.extent) (habreast : Abreast m read read' request s t) :
    Echoes (renderFragments (runDeferred run) fragments)
      (renderFragments (runDeferred run') fragments') s t
      (SameEcho m read read' request home s t) := by
  have hpriority : ∀ a b, Fragment.Echoed m.toPlacement e known a b → a.priority = b.priority := by
    rintro _ _ (⟨_⟩ | ⟨_, _, _, _, _, _, _⟩) <;> rfl
  refine (echoes_produceAll hrun (productionOrder_rel hpriority hfragments) he habreast).bind ?_
  rintro texts _ s' t' ⟨rfl, hpassage⟩
  exact .pure ⟨rfl, hpassage⟩

/-! ## Templates -/

/-- Contexts of a request that write to the section `home`. Their templates are simple, and the same
for both engines. -/
structure EchoedFamily (engine : Engine σ) (read' : String → Except Error String)
    (request : RequestId) (home : String) (known : Context → Prop) : Prop where
  /-- They are of the request. -/
  ofRequest : ∀ context, known context → context.request = request
  /-- They write to the section. -/
  ofSection : ∀ context, known context → context.defaultSection = home
  /-- Their templates are the same for both engines. -/
  opened : ∀ context template, known context → engine.opened context = .ok template →
    (engine.withRead read').opened context = .ok template
  /-- Their templates are simple. -/
  simple : ∀ context template, known context → engine.opened context = .ok template →
    ∀ part ∈ template.tokens, (template.reading part).isSimple
  /-- What they nest is known. -/
  nest : ∀ context template, known context → engine.opened context = .ok template →
    ∀ part ∈ template.tokens, ∀ invocation, template.Invokes part invocation →
      ∀ child, Nested engine context home invocation child → known child

theorem Reading.layout?_of_isSimple {reading : Reading} (h : reading.isSimple) :
    reading.layout? engine = none := by
  cases reading with
  | layout path => cases h
  | _ => rfl

/-- The tokens of a simple template correspond to themselves. -/
theorem EchoedFamily.tokens (hfamily : EchoedFamily engine read' request home known)
    {context : Context} {template : CompiledTemplate} (hknown : known context)
    (hopened : engine.opened context = .ok template) :
    ∃ pairs : List (Token × Token), template.tokens = pairs.map Prod.fst ∧
      template.tokens = pairs.map Prod.snd ∧
      (∀ pair ∈ pairs, EchoedTokens engine home known context template template pair) ∧
      pairs.flatMap (askedBy engine template) = (none : Option String).toList := by
  refine ⟨template.tokens.map fun part => (part, part), ?_, ?_, ?_, ?_⟩
  · rw [List.map_map]
    exact (List.map_id _).symm
  · rw [List.map_map]
    exact (List.map_id _).symm
  · intro pair hpair
    obtain ⟨part, hpart, rfl⟩ := List.mem_map.1 hpair
    exact ⟨.same (hfamily.simple context template hknown hopened part hpart) rfl rfl,
      hfamily.nest context template hknown hopened part hpart⟩
  · refine List.flatMap_eq_nil_iff.2 fun pair hpair => ?_
    obtain ⟨part, hpart, rfl⟩ := List.mem_map.1 hpair
    unfold askedBy
    rw [Reading.layout?_of_isSimple (hfamily.simple context template hknown hopened part hpart)]
    rfl

/-- Both engines read a template. -/
theorem echoes_fetch {context : Context} (habreast : Abreast m engine.read read' request s t)
    {template' : CompiledTemplate} (hopened' : (engine.withRead read').opened context = .ok template')
    (home : String) :
    Echoes (engine.fetch context) ((engine.withRead read').fetch (context.echo m.toPlacement slot))
      s t fun template other s' t' => engine.opened context = .ok template ∧ other = template' ∧
        ∀ scope scope', Passage m engine.read read' request home scope scope' [] [] s t s' t' := by
  have hread : t.templates.Honest (engine.withRead read').read := habreast.honest'
  obtain ⟨templates', hhonest', hfetch'⟩ := exec_fetch_of_opened hread
    (hopened' : (engine.withRead read').opened (context.echo m.toPlacement slot) = .ok template')
  intro template s' hfetch
  have hopened := opened_of_fetch habreast.honest hfetch
  obtain ⟨templates, hhonest, hfetched⟩ := exec_fetch_of_opened habreast.honest hopened
  cases hfetch.symm.trans hfetched
  exact ⟨template', _, hfetch', hopened, rfl,
    habreast.fetched hhonest hhonest' context.filePath home⟩

/-- From stores on which a scope was pushed, both have written to it. -/
def PushedPassage (m : Motion σ) (read read' : String → Except Error String) (context : Context)
    (fragments fragments' : List (Fragment Deferred)) (s t s' t' : Store σ) : Prop :=
  Passage m read read' context.request context.defaultSection
    ⟨(s.sections context.request).scopes.size⟩ ⟨(t.sections context.request).scopes.size⟩
    fragments fragments' (s.pushed context.request context.defaultSection context.viewPath)
    (t.pushed context.request context.defaultSection context.viewPath) s' t'

/-- A scope that both have written to is rendered. -/
theorem echoes_renderScope {context : Context}
    (hrun : EchoedRuns m read read' context.request context.defaultSection known run run')
    {fragments fragments' : List (Fragment Deferred)} (habreast : Abreast m read read' context.request s t)
    (hfragments : EchoedFragments m.toPlacement s'.graph.extent known fragments fragments')
    (hpassage : PushedPassage m read read' context fragments fragments' s t s' t')
    (habreast' : Abreast m read read' context.request s' t') :
    Echoes (renderScope run context.request ⟨(s.sections context.request).scopes.size⟩)
      (renderScope run' context.request ⟨(t.sections context.request).scopes.size⟩) s' t'
      fun text text' s'' t'' => text' = text ∧
        PushedPassage m read read' context fragments fragments' s t s'' t'' := by
  obtain ⟨hleft, hright⟩ := hpassage.fragments_pushed habreast.live habreast.live'
  unfold renderScope
  refine .step (exec_withSections _ _ _) (exec_withSections _ _ _) ?_
  rw [hleft, hright]
  refine (echoes_fragments hrun hfragments (Extent.le_refl _) habreast').mono ?_
  rintro text text' s'' t'' ⟨rfl, hrest⟩
  have hwhole := hpassage.trans (hrest ⟨(s.sections context.request).scopes.size⟩
    ⟨(t.sections context.request).scopes.size⟩)
  rw [List.append_nil, List.append_nil] at hwhole
  exact ⟨rfl, hwhole⟩

/-- The walk of a simple template, and the rendering of what it has left. -/
theorem echoes_body (hengine : engine.Interprets)
    (hhost : engine.host.Parametric m.host m.toPlacement) {context : Context}
    (hfamily : EchoedFamily engine read' context.request context.defaultSection known)
    (hrun : EchoedRuns m engine.read read' context.request context.defaultSection known run run')
    (hknown : known context) {template : CompiledTemplate}
    (hopened : engine.opened context = .ok template)
    (habreast : Abreast m engine.read read' context.request s t)
    (hcontext : Refs.context.Within s.graph.extent context) :
    Echoes
      (do
        let walk ← Walk.run engine (waitFor engine run) template context
        engine.renderWalked run template ⟨(s.sections context.request).scopes.size⟩ walk)
      (do
        let walk ← Walk.run (engine.withRead read') (waitFor (engine.withRead read') run') template
          (context.echo m.toPlacement slot)
        (engine.withRead read').renderWalked run' template
          ⟨(t.sections context.request).scopes.size⟩ walk)
      (s.pushed context.request context.defaultSection context.viewPath)
      (t.pushed context.request context.defaultSection context.viewPath)
      fun text text' s' t' => text' = text ∧ ∃ fragments fragments',
        PushedPassage m engine.read read' context fragments fragments' s t s' t' := by
  have hwait : Moves.Waits m (waitFor engine run) (waitFor (engine.withRead read') run') :=
    Moves.waitFor hhost
  obtain ⟨pairs, htokens, htokens', hpairs, hasked⟩ := hfamily.tokens hknown hopened
  refine (echoes_run hengine hhost hwait htokens htokens' rfl hpairs
    (habreast.placed.setSections _ _ _ _) (.pushed habreast.live _) (.pushed habreast.live' _)
    hcontext hasked).bind ?_
  rintro _ _ s' t' ⟨layout, strip, ⟨rfl, rfl, fragments, fragments', hfragments, hpassage⟩, hlayout⟩
  obtain rfl : layout = none := by
    cases layout with
    | none => rfl
    | some asked => cases hlayout
  have hpushed := habreast.pushed context.defaultSection context.viewPath
  refine (echoes_renderScope hrun habreast hfragments hpassage (hpushed.after hpassage)).mono ?_
  rintro text text' s'' t'' ⟨rfl, hpassage'⟩
  exact ⟨rfl, fragments, fragments', hpassage'⟩

/-- A simple template has the same text. -/
theorem echoes_renderTemplate (hengine : engine.Interprets)
    (hhost : engine.host.Parametric m.host m.toPlacement)
    (hfamily : EchoedFamily engine read' request home known)
    (hrun : EchoedRuns m engine.read read' request home known run run') {context : Context}
    (hknown : known context) (habreast : Abreast m engine.read read' request s t)
    (hcontext : Refs.context.Within s.graph.extent context) :
    Echoes (engine.renderTemplate run context)
      ((engine.withRead read').renderTemplate run' (context.echo m.toPlacement slot)) s t
      (SameEcho m engine.read read' request home s t) := by
  refine .of_ok fun text s' hok => ?_
  obtain ⟨template, _, _, _, _, hfetch, -⟩ := exec_renderTemplate_eq_ok hok
  have hopened := opened_of_fetch habreast.honest hfetch
  have hopened' := hfamily.opened context template hknown hopened
  obtain rfl := hfamily.ofRequest context hknown
  obtain rfl := hfamily.ofSection context hknown
  unfold Engine.renderTemplate
  refine (echoes_fetch habreast hopened' context.defaultSection).bind ?_
  rintro other _ s₁ t₁ ⟨hother, rfl, hfetched⟩
  cases hother.symm.trans hopened
  have hfetched₁ := hfetched ⟨0⟩ ⟨0⟩
  have habreast₁ := habreast.after hfetched₁
  refine .step (exec_changeSections _ _ _) (exec_changeSections _ _ _) ?_
  refine (echoes_body hengine hhost hfamily hrun hknown hopened habreast₁
    (Refs.context.mono hfetched₁.grows hcontext)).collected ?_
  rintro text text' s' t' ⟨rfl, fragments, fragments', hpassage⟩
  obtain ⟨-, hright⟩ := hpassage.history_pushed habreast₁.live habreast₁.live'
  exact ⟨hright, rfl, fun scope scope' =>
    (hfetched scope scope').trans (hpassage.popped habreast₁.live habreast₁.live' scope scope')⟩

/-- Simple templates have the same texts, however much fuel is left; by induction on the fuel. -/
theorem echoes_produce (hengine : engine.Interprets)
    (hhost : engine.host.Parametric m.host m.toPlacement)
    (hfamily : EchoedFamily engine read' request home known) (fuel fuel' : Nat)
    (hfuel : fuel ≤ fuel') :
    EchoedRuns m engine.read read' request home known (engine.produce fuel)
      ((engine.withRead read').produce fuel') := by
  induction fuel generalizing fuel' with
  | zero => exact fun _ _ _ _ _ _ _ => nofun
  | succ fuel ih =>
    obtain ⟨fuel', rfl⟩ : ∃ lower, fuel' = lower + 1 := ⟨fuel' - 1, by omega⟩
    intro child slot s t hknown habreast hwithin
    exact echoes_renderTemplate hengine hhost hfamily (ih fuel' (Nat.le_of_succ_le_succ hfuel))
      hknown habreast hwithin

end TemplateEngine
