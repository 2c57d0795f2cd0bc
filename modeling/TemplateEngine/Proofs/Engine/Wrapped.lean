import TemplateEngine.Proofs.Engine.Layouts

/-!
# `Engine` · Pages in their layouts

A page that asks for a layout, next to the same page without one.

* **`Store.Wraps`**: what a layout is from its page to its end. Its content is rendered as the page is
  by itself, at other places (`exec_renderLayout_wraps`).
* **`Store.WrapsPage`**: the same for the whole page, from before it is read.
* **`exec_renderTemplate_wraps`**: the page has the text that the layout makes of its content.
-/

namespace TemplateEngine

open Render TemplateEngine.Text TemplateEngine.Template

variable {σ : Type} {engine : Engine σ} {refs : Refs σ} {read' : String → Except Error String}
  {known : Context → Prop} {slots : SlotId → Prop} {frame : Frame} {context : Context}
  {written target text : String} {fuel fuel' : Nat} {s s' t w : Store σ}

/-- The values that a layout has made are left alone while its content is rendered. -/
theorem Graph.Provides.of_beside {g h h' : Graph} {data : ObjectId} {id : FunctionId} {slot : SlotId}
    (hprovides : h.Provides data id slot)
    (hbeside : Graph.Beside (.past slots g.extent h.extent) h h')
    (hdata : g.objects.size ≤ data.index) (hid : g.functions.size ≤ id.index) :
    h'.Provides data id slot := by
  obtain ⟨members, hmembers, -⟩ := Option.bind_eq_some_iff.1 hprovides.member
  have hdata' : data.index < h.objects.size := (Array.getElem?_eq_some_iff.1 hmembers).1
  have hid' : id.index < h.functions.size := (Array.getElem?_eq_some_iff.1 hprovides.function).1
  refine hprovides.congr (hbeside.objects _ fun i => ?_) (hbeside.functions _ fun i => ?_)
  · exact past_ne hdata (by unfold Graph.extent; dsimp only; omega) i
  · exact past_ne hid (by unfold Graph.extent; dsimp only; omega) i

/-- What a layout is from its page to its end: the values of the page are those that it would have
without a layout, and only the layout itself has done something before and after its content. -/
structure Store.Wraps (refs : Refs σ) (request : RequestId) (home target : String)
    (s s' t w : Store σ) : Prop where
  /-- The values of the page, at their places. -/
  embedded : ∃ p : Placement, p.Fixes s.graph.extent ∧ s'.graph.Embedded p w.graph ∧
    w.host = refs.placed p s'.host
  /-- The same redirects were asked for. -/
  redirect : ∀ id, w.redirect id = s'.redirect id
  /-- The sections are as they were. -/
  sections : ∀ scope, (t.sections request).Extends home scope [] (w.sections request)
  /-- What was done. -/
  journal : ∃ before produced after, s'.journal = produced ++ s.journal ∧
    w.journal = after ++ (produced ++ (before ++ t.journal)) ∧
    ∀ event ∈ before ++ after, event.ofLayout request target

/-- A layout that has come to its end, after its content was rendered in the same way. -/
theorem Store.Ends.wraps {read : String → Except Error String} {layout : Context}
    {u t' : Store σ} {before : List Event} {scope scope' : ScopeId} {home home' : String}
    {request : RequestId} (hends : t.Ends layout u t' w) (hgrown : s.graph.IsPrefix t.graph)
    (hpassage : Passage (.past refs slots s.graph.extent u.graph.extent) read read' request home
      scope scope' [] [] s u s' t')
    (hbefore : u.journal = before ++ t.journal)
    (hof : ∀ event ∈ before, event.ofLayout layout.request layout.filePath)
    (hrequest : layout.request = request) (hsection : layout.defaultSection = home')
    (hfile : layout.filePath = target) : Store.Wraps refs request home' target s s' t w := by
  subst hrequest hsection hfile
  refine ⟨⟨_, Placement.fixes_past _ _ _, hends.graph _ _ (fun i j hj hj' => ?_)
    hpassage.placed.graph.embedded, hends.host.trans hpassage.placed.host⟩,
    fun id => (hends.redirect id).trans (hpassage.placed.redirect id), hends.sections, ?_⟩
  · have hle := size_le_of_isPrefix hgrown.promises
    exact past_ne (Nat.le_trans hle hj) (by unfold Graph.extent; dsimp only; omega) i
  · obtain ⟨after, hafter, hofAfter⟩ := hends.journal
    obtain ⟨produced, hs, ht⟩ := hpassage.journal
    refine ⟨before, produced, after, hs, ?_, fun event hevent => ?_⟩
    · rw [hafter, ht, hbefore]
    · exact (List.mem_append.1 hevent).elim (hof event) (hofAfter event)

/-- The content of a page is rendered within its layout as it would be by itself. -/
theorem exec_renderLayout_wraps (hengine : engine.Interprets)
    (hhost : ∀ p, engine.host.Parametric refs p)
    (hfamily : EchoedFamily engine read' context.request context.defaultSection known)
    (hst : s.Placed (.still refs slots) t) (hlive : context.request.index < s.requests.size)
    (hhonest : s.templates.Honest engine.read) (hhonest' : t.templates.Honest read')
    {fragments fragments' : List (Fragment Deferred)} {scope : ScopeId}
    (hfragments : EchoedFragments (.still slots) s.graph.extent known fragments fragments')
    (hscope : (t.sections context.request).fragments scope = fragments')
    (hdefault : context.defaultSection = engine.config.defaultSection)
    (hpath : engine.resolvePath context written = .ok target)
    (hsource : read' target = .ok frame.source) (hliteral : frame.Literal)
    (hdepth : context.depth < engine.config.maxDepth)
    (hcontent : exec (renderFragments (runDeferred (engine.produce fuel)) fragments) s =
      (.ok text, s'))
    (hredirect : s'.redirect context.request = none) (hfuel : fuel ≤ fuel') :
    ∃ w, exec ((engine.withRead read').renderLayout ((engine.withRead read').produce (fuel' + 2))
        context written scope) t = (.ok (frame.fill text), w) ∧
      Store.Wraps refs context.request context.defaultSection target s s' t w := by
  have hpath' : (engine.withRead read').resolvePath context written = .ok target := hpath
  obtain ⟨layout, graph, id, henter, hgrown, hprovides, hdata, hid, hfile, hrequest, hsection, hslot,
    hdepth'⟩ := exec_enterLayout_provides hpath' (.pending fragments') t
  let entered : Store σ :=
    { t with slots := t.slots.push ⟨.pending fragments', false⟩, graph := graph }
  have hsource' : (engine.withRead read').read target = .ok frame.source := hsource
  obtain ⟨template, hcompiled, hshaped⟩ := Engine.compiled_of_source hliteral hsource'
  rw [← hfile] at hcompiled
  have hbounded : layout.depth ≤ (engine.withRead read').config.maxDepth := by
    rw [hdepth']
    exact hdepth
  have hopened := Engine.opened_of_compiled hbounded hcompiled
  have hresembles : s.Resembles slots entered :=
    hst.resembles.trans (.entered (fun _ hid => hst.exists_slot' hid) hgrown (.pending fragments'))
  have hlive' : layout.request.index < entered.requests.size := by
    rw [hrequest, hresembles.requests]
    exact hlive
  have hwaits : entered.slots[t.slots.size]? = some ⟨.pending fragments', false⟩ :=
    Array.getElem?_push_size
  have hengine' : (engine.withRead read').Interprets := hengine
  have hentered : entered.templates.Honest (engine.withRead read').read := hhonest'
  have hparsed : entered.programs.Parsed := hresembles.programs hst.programs.1
  obtain ⟨lower, u, written₁, before, hlower, hreaches, hbefore, hofBefore, hrest⟩ :=
    exec_produce_frame hengine' hentered hlive' hopened hshaped hslot hparsed hprovides hwaits fuel'
  -- The content is rendered at `u`, in which the store of the page is placed.
  have hfresh : ∀ id : SlotId, slots id → id.index ≠ t.slots.size := fun _ hid =>
    Nat.ne_of_lt (hst.exists_slot' hid)
  let m : Motion σ := .past refs slots s.graph.extent u.graph.extent
  have hplaced : s.Placed m u := hst.past (hresembles.trans (hreaches.resembles hfresh))
  have hhost' : engine.host.Parametric m.host m.toPlacement := hhost _
  have hrun : EchoedRuns m engine.read read' context.request context.defaultSection known
      (engine.produce fuel) ((engine.withRead read').produce lower) :=
    echoes_produce hengine hhost' hfamily fuel lower (Nat.le_trans hfuel hlower)
  obtain ⟨_, t', hcontent', rfl, hpassages⟩ :=
    echoes_fragments hrun hfragments.past (Extent.le_refl _)
      ⟨hplaced, hlive, hhonest, hreaches.honest⟩ text s' hcontent
  have hpassage := hpassages ⟨0⟩ ⟨(entered.sections layout.request).scopes.size⟩
  have hwrites : u.Writes read' layout.request layout.defaultSection
      ⟨(entered.sections layout.request).scopes.size⟩ [] t' := by
    rw [hrequest, hsection]
    exact hdefault ▸ hrequest ▸ hpassage.right
  have hgraph : t.graph = s.graph := hst.graph_eq
  rw [hgraph] at hdata hid
  have hprovides' : t'.graph.Provides layout.data id ⟨t.slots.size⟩ :=
    (hprovides.of_isPrefix hreaches.graph).of_beside hpassage.beside (Nat.le_of_eq hdata.symm)
      (Nat.le_of_eq hid.symm)
  have hredirect' : t'.redirect layout.request = none := by
    rw [hrequest]
    exact (hpassage.placed.redirect _).trans hredirect
  obtain ⟨w, hproduce, hends⟩ :=
    hrest _ t' hcontent' hwrites hprovides' hpassage.placed.programs.2 hredirect'
  refine ⟨w, ?_, ?_⟩
  · have hfragments' : exec (withSections context.request fun sections => sections.fragments scope) t =
        (.ok fragments', t) := (exec_withSections _ _ _).trans (congrArg (Except.ok ·, t) hscope)
    unfold Engine.renderLayout
    rw [exec_bind_ok hfragments', exec_bind_ok henter]
    exact hproduce
  · have hpassage' := hpassages ⟨0⟩ ⟨0⟩
    have hwraps := hends.wraps hresembles.graph hpassage' hbefore hofBefore hrequest
      (hsection.trans hdefault.symm) hfile
    exact { hwraps with }

/-! ## Pages -/

/-- While everything stays where it is, a context is its own echo. -/
theorem Context.echo_still {e : Extent} (h : Refs.context.Within e context) :
    context.echo (.still slots) context.slot = context := by
  have hfixed : Refs.context.placed (.still slots) context = context :=
    Refs.context.fixed (Placement.fixes_still slots e) h
  unfold echo
  rw [hfixed]

/-- A page in its layout ends as the layout makes of what it is by itself. -/
structure Store.WrapsPage (refs : Refs σ) (request : RequestId) (target : String)
    (s s' t w : Store σ) : Prop where
  /-- The values of the page, at their places. -/
  embedded : ∃ p : Placement, p.Fixes s.graph.extent ∧ s'.graph.Embedded p w.graph ∧
    w.host = refs.placed p s'.host
  /-- The same redirects were asked for. -/
  redirect : ∀ id, w.redirect id = s'.redirect id
  /-- What was done. -/
  journal : ∃ walked before produced after, s'.journal = produced ++ (walked ++ s.journal) ∧
    w.journal = after ++ (produced ++ (before ++ (walked ++ t.journal))) ∧
    ∀ event ∈ before ++ after, event.ofLayout request target

/-- Both pages are read and walked, and then the layout is rendered around the one of them, before
their scopes are popped. -/
theorem Store.Wraps.page {m : Motion σ} {read : String → Except Error String} {request : RequestId}
    {home owner owner' : String} {scope₁ scope₁' scope₂ scope₂' : ScopeId}
    {fragments₁ fragments₁' fragments₂ fragments₂' : List (Fragment Deferred)}
    {s₁ s₂ s₃ t₁ t₂ : Store σ}
    (hread : Passage m read read' request home scope₁ scope₁' fragments₁ fragments₁' s t s₁ t₁)
    (hwalked : Passage m read read' request home scope₂ scope₂' fragments₂ fragments₂'
      (s₁.pushed request home owner) (t₁.pushed request home owner') s₂ t₂)
    (h : Store.Wraps refs request home target s₂ s₃ t₂ w) :
    Store.WrapsPage refs request target s (s₃.popped request home) t (w.popped request home) where
  embedded := by
    obtain ⟨p, hfixes, hembedded⟩ := h.embedded
    exact ⟨p, .mono (Extent.le_trans hread.grows hwalked.grows) hfixes, hembedded⟩
  redirect id := (Store.redirect_setSections _ _ _ _).trans
    ((h.redirect id).trans (Store.redirect_setSections _ _ _ _).symm)
  journal := by
    obtain ⟨before, produced, after, hjournal, hjournal', hof⟩ := h.journal
    obtain ⟨first, hfirst, hfirst'⟩ := hread.journal
    obtain ⟨walked, hevents, hevents'⟩ := hwalked.journal
    have hbefore : s₂.journal = (walked ++ first) ++ s.journal := by
      rw [List.append_assoc, ← hfirst]
      exact hevents
    have hbefore' : t₂.journal = (walked ++ first) ++ t.journal := by
      rw [List.append_assoc, ← hfirst']
      exact hevents'
    refine ⟨walked ++ first, before, produced, after, ?_, ?_, hof⟩
    · rw [← hbefore]
      exact hjournal
    · rw [← hbefore']
      exact hjournal'

/-- A page that asks for a layout has the text that the layout makes of the text that it has where it
goes on in its section instead. -/
theorem exec_renderTemplate_wraps (hengine : engine.Interprets)
    (hhost : ∀ p, engine.host.Parametric refs p)
    (hfamily : EchoedFamily engine read' context.request context.defaultSection known)
    (hst : s.Placed (.still refs slots) t) (hlive : context.request.index < s.requests.size)
    (hhonest : s.templates.Honest engine.read) (hhonest' : t.templates.Honest read')
    (hcontext : Refs.context.Within s.graph.extent context)
    (hdefault : context.defaultSection = engine.config.defaultSection)
    (hdepth : context.depth < engine.config.maxDepth) {plain page : CompiledTemplate}
    (hplain : engine.opened context = .ok plain)
    (hpage : (engine.withRead read').opened context = .ok page) {pairs : List (Token × Token)}
    (htokens : plain.tokens = pairs.map Prod.fst) (htokens' : page.tokens = pairs.map Prod.snd)
    (hpairs : ∀ pair ∈ pairs,
      EchoedTokens engine context.defaultSection known context plain page pair)
    (hasked : pairs.flatMap (askedBy engine page) = [written])
    (hpath : engine.resolvePath context written = .ok target)
    (hsource : read' target = .ok frame.source) (hliteral : frame.Literal) (hfuel : fuel ≤ fuel')
    (hredirect : s'.redirect context.request = none)
    (h : exec (engine.renderTemplate (engine.produce fuel) context) s = (.ok text, s')) :
    ∃ w, exec ((engine.withRead read').renderTemplate ((engine.withRead read').produce (fuel' + 2))
        context) t = (.ok (frame.fill text), w) ∧
      Store.WrapsPage refs context.request target s s' t w := by
  obtain ⟨template, s₁, walk, s₂, s₃, hfetch, hwalk, hrender, rfl⟩ := exec_renderTemplate_eq_ok h
  cases (opened_of_fetch hhonest hfetch).symm.trans hplain
  let m : Motion σ := .still refs slots
  have habreast : Abreast m engine.read read' context.request s t := ⟨hst, hlive, hhonest, hhonest'⟩
  have hecho : context.echo m.toPlacement context.slot = context := Context.echo_still hcontext
  -- Both templates are read and walked.
  obtain ⟨fetched, t₁, hfetch', -, hsame, hfetched⟩ :=
    echoes_fetch habreast hpage context.defaultSection plain s₁ hfetch
  rw [hecho, hsame] at hfetch'
  have hfetched₁ := hfetched ⟨0⟩ ⟨0⟩
  have habreast₁ := habreast.after hfetched₁
  have habreast₁' := habreast₁.pushed context.defaultSection context.viewPath
  have hwait : Moves.Waits m (waitFor engine (engine.produce fuel))
      (waitFor (engine.withRead read') ((engine.withRead read').produce (fuel' + 2))) :=
    Moves.waitFor (hhost _)
  have hasked' : pairs.flatMap (askedBy engine page) = (some written).toList := hasked
  obtain ⟨_, t₂, hwalk', layout, strip, ⟨rfl, rfl, fragments, fragments', hfragments, hpassage⟩,
    hlayout⟩ := echoes_run hengine (hhost _) hwait htokens htokens' rfl hpairs
      habreast₁'.placed (.pushed habreast₁.live _) (.pushed habreast₁.live' _)
      (Refs.context.mono hfetched₁.grows hcontext) hasked' walk s₂ hwalk
  obtain ⟨token, rfl⟩ : ∃ token, layout = some ⟨written, token⟩ := by
    cases layout with
    | none => cases hlayout
    | some asked => exact ⟨asked.token, by rw [← (List.cons.inj hlayout).1]⟩
  rw [hecho] at hwalk'
  -- The fragments of the page are rendered as the content of its layout.
  have habreast₂ := habreast₁'.after hpassage
  obtain ⟨hscope, hscope'⟩ := hpassage.fragments_pushed habreast₁.live habreast₁.live'
  have hcontent : exec (renderFragments (runDeferred (engine.produce fuel)) fragments) s₂ =
      (.ok text, s₃) := by
    have hread : exec (withSections context.request fun sections =>
        sections.fragments ⟨(s₁.sections context.request).scopes.size⟩) s₂ = (.ok fragments, s₂) :=
      (exec_withSections _ _ _).trans (congrArg (Except.ok ·, s₂) hscope)
    exact (exec_bind_ok hread _).symm.trans hrender
  have hredirect₃ : s₃.redirect context.request = none :=
    (Store.redirect_setSections _ _ _ _).symm.trans hredirect
  obtain ⟨w, hlayout', hwraps⟩ := exec_renderLayout_wraps hengine hhost hfamily habreast₂.placed
    habreast₂.live habreast₂.honest habreast₂.honest' hfragments hscope' hdefault hpath hsource
    hliteral hdepth hcontent hredirect₃ hfuel
  have hrender' : exec ((engine.withRead read').renderWalked
      ((engine.withRead read').produce (fuel' + 2)) page
      ⟨(t₁.sections context.request).scopes.size⟩
      (.simple context context.defaultSection (some ⟨written, token⟩) [] strip)) t₂ =
        (.ok (frame.fill text), w) := by
    refine (exec_mapError _ _ _).trans ?_
    dsimp only [Walk.simple]
    rw [hlayout']
  have hhistory : ((w.sections context.request).stack context.defaultSection).history ≠ [] := by
    have hsections := hpassage.right.sections.trans (hwraps.sections _)
    rw [Store.sections_pushed habreast₁.live'] at hsections
    exact hsections.history_ne_nil
  exact ⟨_, exec_renderTemplate_ok hfetch' hwalk' hrender' hhistory,
    hwraps.page hfetched₁ hpassage⟩

end TemplateEngine
