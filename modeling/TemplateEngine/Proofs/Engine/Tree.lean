import TemplateEngine.Proofs.Engine.Tracking
import TemplateEngine.Proofs.Section.Production

/-!
# `Engine` · Trees of templates

A template that neither prints sections nor has a body or a layout, and all templates below it, are
rendered as they are expanded.

* **`Store.Collects`**: the sections between two templates. Nothing is known of the section that the
  templates push, and the others show the texts routed to them.
* **`follows_nested`**: nested templates are produced before the texts around them, and the pieces
  are put together in their places.
* **`follows_produce`**: by induction on the fuel, the production of a template follows its
  expansion.
-/

namespace TemplateEngine

open Render TemplateEngine.Text TemplateEngine.Template

variable {σ : Type} {engine : Engine σ} {request : RequestId} {home : String}
  {log : List (String × String)} {history : List (Option ScopeId)} {here known : Context → Prop}
  {s t : Store σ}

/-- The sections of a request between two templates that write to `home`. -/
structure Store.Collects (request : RequestId) (home : String) (log : List (String × String))
    (history : List (Option ScopeId)) (s : Store σ) : Prop where
  /-- The request exists. -/
  live : request.index < s.requests.size
  /-- The other sections show what was routed to them. -/
  routed : (s.sections request).Routed home log
  /-- So much was pushed. -/
  history : ((s.sections request).stack home).history = history

theorem Store.Collects.rests {s' : Store σ} (h : s.Collects request home log history)
    (hrests : s.Rests s') : s'.Collects request home log history where
  live := Nat.lt_of_lt_of_eq h.live hrests.requests.symm
  routed := by
    rw [hrests.sections]
    exact h.routed
  history := by
    rw [hrests.sections]
    exact h.history

theorem Store.Tracks.collects {scope : ScopeId} {plan : Plan}
    (h : s.Tracks request home scope log history plan) :
    s.Collects request home (log ++ TemplateEngine.routed home plan.pieces) history :=
  ⟨h.live, h.writing.toRouted, h.history⟩

/-- The text of a template is that of its expansion, and its routed texts were collected. -/
def Gives (request : RequestId) (home : String) (log : List (String × String))
    (history : List (Option ScopeId)) (text : String) (output : Output) (s : Store σ) : Prop :=
  text = output.text ∧ s.Collects request home (log ++ output.routed) history

/-- A template is rendered as it is expanded. -/
def Agrees (engine : Engine σ) (request : RequestId) (home : String)
    (history : List (Option ScopeId)) (run : Context → Render σ String)
    (expand : Context → Render σ Output) (context : Context) : Prop :=
  ∀ log s t, s.Alike engine.read t → s.Collects request home log history →
    Follows engine.read (run context) (expand context) s t (Gives request home log history)

/-! ## Pieces -/

/-- The texts of the nested templates among fragments, with the literals around them, are an output
in its places. -/
def Fills (request : RequestId) (home : String) (log : List (String × String))
    (history : List (Option ScopeId)) (place : Nat) (fragments : List (Fragment Deferred))
    (texts : List (String × Nat)) (output : Output) (s : Store σ) : Prop :=
  s.Collects request home (log ++ output.routed) history ∧
    Places place (texts ++ literalTexts (ranked .normal (fragments.zipIdx place))) output.text

/-- A literal is a piece in its place. -/
theorem Fills.literal {place : Nat} {fragments : List (Fragment Deferred)}
    {texts : List (String × Nat)} {output : Output}
    (h : Fills request home log history (place + 1) fragments texts output s) (text : String) :
    Fills request home log history place (⟨.literal text, .normal⟩ :: fragments) texts
      { output with text := text ++ output.text } s := by
  refine ⟨h.1, h.2.cons text ?_⟩
  exact List.perm_middle

/-- So is a nested template. -/
theorem Fills.nested {place : Nat} {fragments : List (Fragment Deferred)}
    {texts : List (String × Nat)} {first output : Output}
    (h : Fills request home (log ++ first.routed) history (place + 1) fragments texts output s)
    (deferred : Deferred) :
    Fills request home log history place (⟨.deferred deferred, .nestedView⟩ :: fragments)
      ((first.text, place) :: texts)
      ⟨first.text ++ output.text, first.routed ++ output.routed⟩ s := by
  refine ⟨?_, h.2.cons first.text (.refl _)⟩
  rw [← List.append_assoc]
  exact h.1

/-- Nested templates are produced in the order of their pieces. The induction is on the pieces; the
places of the fragments start at `place`. -/
theorem follows_nested {run : Task → Render σ String} {expand : Context → Render σ Output}
    {pieces : List Piece}
    (hrun : ∀ child, .nested child ∈ pieces → Agrees engine request home history
      (fun context => run (.template context)) expand child)
    {fragments : List (Fragment Deferred)} (hshows : Shows home fragments pieces) (place : Nat)
    (halike : s.Alike engine.read t) (hcollects : s.Collects request home log history) :
    Follows engine.read
      (produceAll (runDeferred run) (ranked .nestedView (fragments.zipIdx place)))
      (expandPieces expand home pieces) s t
      (Fills request home log history place fragments) := by
  induction pieces generalizing fragments place log s t with
  | nil =>
    obtain rfl : fragments = [] := List.map_eq_nil_iff.1 hshows
    refine .pure halike ⟨?_, .nil place⟩
    rw [List.append_nil]
    exact hcollects
  | cons piece pieces ih =>
    have hrest := fun child hchild => hrun child (List.mem_cons_of_mem piece hchild)
    rcases hshows.cons_cases with ⟨hnone, hmore⟩ | ⟨fragment, more, rfl, hsome, hmore⟩
    · cases piece with
      | nested child => cases hnone
      | text name text =>
        refine .map_right ((ih hrest hmore place halike hcollects).mono fun texts output s' h => ?_)
        have htext : (if name = home then text ++ output.text else output.text) = output.text := by
          by_cases hname : name = home
          · have hempty : text = "" := by simpa [Piece.sketch?, hname] using hnone
            rw [if_pos hname, hempty, String.empty_append]
          · rw [if_neg hname]
        rw [htext]
        exact h
    · cases piece with
      | nested child =>
        obtain ⟨template, token, rfl⟩ :=
          Fragment.eq_of_sketch_deferred (Option.some.inj hsome).symm
        have hchild := (hrun child (List.mem_cons_self ..) log s t halike hcollects).mapError
          fun error => Error.similar_locate template token error
        refine hchild.bind fun text first s' t' halike' hgives => ?_
        obtain ⟨rfl, hcollects'⟩ := hgives
        exact .map ((ih hrest hmore (place + 1) halike' hcollects').mono
          fun texts output s' h => h.nested ⟨.template child, template, token⟩)
      | text name text =>
        obtain ⟨hname, hpair⟩ : name = home ∧ (.literal text, .normal) = fragment.sketch := by
          by_cases h : name = home ∧ text ≠ ""
          · exact ⟨h.1, by simpa [Piece.sketch?, h] using hsome⟩
          · simp [Piece.sketch?, h] at hsome
        obtain rfl := Fragment.eq_of_sketch_literal hpair.symm
        refine .map_right ((ih hrest hmore (place + 1) halike hcollects).mono
          fun texts output s' h => ?_)
        rw [if_pos hname]
        exact h.literal text

/-- The fragments that show pieces are literals and nested templates. -/
theorem Shows.isPlain {fragments : List (Fragment Deferred)} {pieces : List Piece}
    (h : Shows home fragments pieces) {fragment : Fragment Deferred} (hmem : fragment ∈ fragments) :
    fragment.IsPlain := by
  have hsketch : fragment.sketch ∈ pieces.filterMap (Piece.sketch? home) := by
    rw [← h]
    exact List.mem_map_of_mem hmem
  obtain ⟨piece, -, hpiece⟩ := List.mem_filterMap.1 hsketch
  cases piece with
  | nested child =>
    obtain ⟨template, token, rfl⟩ :=
      Fragment.eq_of_sketch_deferred (Option.some.inj hpiece).symm
    exact .inr ⟨_, rfl⟩
  | text name text =>
    by_cases hname : name = home ∧ text ≠ ""
    · have hliteral : (.literal text, .normal) = fragment.sketch := by
        simpa [Piece.sketch?, hname] using hpiece
      exact .inl ⟨text, Fragment.eq_of_sketch_literal hliteral.symm⟩
    · simp [Piece.sketch?, hname] at hpiece

/-- The fragments of a scope are rendered as the pieces that it shows are expanded. -/
theorem follows_fragments {run : Task → Render σ String} {expand : Context → Render σ Output}
    {pieces : List Piece}
    (hrun : ∀ child, .nested child ∈ pieces → Agrees engine request home history
      (fun context => run (.template context)) expand child)
    {fragments : List (Fragment Deferred)} (hshows : Shows home fragments pieces)
    (halike : s.Alike engine.read t) (hcollects : s.Collects request home log history) :
    Follows engine.read (renderFragments (runDeferred run) fragments)
      (expandPieces expand home pieces) s t (Gives request home log history) := by
  rw [renderFragments_plain fun _ => hshows.isPlain, ← bind_pure (expandPieces expand home pieces)]
  refine (follows_nested hrun hshows 0 halike hcollects).bind fun texts output s' t' halike' h => ?_
  exact .pure halike' ⟨h.2.assemble_eq, h.1⟩

/-! ## Templates -/

/-- The template of a context is the one that is read and compiled, whether it was kept or not. -/
theorem exec_fetch (hhonest : s.templates.Honest engine.read) (context : Context) :
    ∃ templates journal, templates.Honest engine.read ∧
      exec (engine.fetch context) s = ((engine.opened context).mapError Stop.raised,
        { s with templates := templates, journal := journal }) := by
  unfold Engine.fetch
  rcases hdepth : engine.checkDepth context with error | a
  · refine ⟨s.templates, s.journal, hhonest, ?_⟩
    unfold Engine.opened
    rw [hdepth]
    rfl
  · rw [exec_bind_ok (exec_ofExcept _ s), exec_bind_ok (exec_note _ s)]
    unfold Engine.opened Engine.compiled
    rw [hdepth]
    rcases hread : engine.read context.filePath with error | source
    · exact ⟨s.templates, _, hhonest, rfl⟩
    · obtain ⟨hload, hhonest'⟩ := TemplateCache.load_of_honest hhonest hread
      refine ⟨_, (s.noted (.reading context.filePath)).journal, hhonest', ?_⟩
      rw [exec_bind_ok (exec_ofExcept _ _), exec_loadTemplate]
      exact Prod.ext (congrArg (Except.mapError Stop.raised) hload) rfl

/-- The store after a template was read. -/
def Store.fetched (s : Store σ) (path : String) (templates : TemplateCache) : Store σ :=
  { s.noted (.reading path) with templates := templates }

/-- A template that can be opened is read. -/
theorem exec_fetch_of_opened (hhonest : s.templates.Honest engine.read) {context : Context}
    {template : CompiledTemplate} (hopened : engine.opened context = .ok template) :
    ∃ templates, templates.Honest engine.read ∧
      exec (engine.fetch context) s = (.ok template, s.fetched context.filePath templates) := by
  unfold Engine.opened Engine.compiled at hopened
  rcases hdepth : engine.checkDepth context with error | a
  · rw [hdepth] at hopened
    cases hopened
  rw [hdepth] at hopened
  rcases hread : engine.read context.filePath with error | source
  · rw [hread] at hopened
    cases hopened
  rw [hread] at hopened
  obtain ⟨hload, hhonest'⟩ := TemplateCache.load_of_honest hhonest hread
  refine ⟨_, hhonest', ?_⟩
  unfold Engine.fetch
  rw [hdepth, exec_bind_ok (exec_ofExcept _ s), exec_bind_ok (exec_note _ s), hread,
    exec_bind_ok (exec_ofExcept _ _), exec_loadTemplate]
  have hvalue : ((s.templates.load context.filePath source).1.map Prod.snd).mapError Stop.raised =
      .ok template := by
    rw [hload]
    exact congrArg (Except.mapError Stop.raised) hopened
  exact Prod.ext hvalue rfl

/-- A template that was fetched can be opened. -/
theorem opened_of_fetch (hhonest : s.templates.Honest engine.read) {context : Context}
    {template : CompiledTemplate} {s' : Store σ}
    (h : exec (engine.fetch context) s = (.ok template, s')) :
    engine.opened context = .ok template := by
  obtain ⟨_, _, -, hexec⟩ := exec_fetch hhonest context
  rw [h] at hexec
  rcases hopened : engine.opened context with error | opened
  · rw [hopened] at hexec
    cases hexec
  · rw [hopened] at hexec
    exact congrArg Except.ok (Except.ok.inj (congrArg Prod.fst hexec)).symm

/-- A template that has a text was fetched, walked and rendered. -/
theorem exec_renderTemplate_eq_ok {context : Context}
    (h : exec (engine.renderTemplate run context) s = (.ok text, s')) :
    ∃ template s₁ walk s₂ s₃, exec (engine.fetch context) s = (.ok template, s₁) ∧
      exec (Walk.run engine (waitFor engine run) template context)
        (s₁.pushed context.request context.defaultSection context.viewPath) = (.ok walk, s₂) ∧
      exec (engine.renderWalked run template
        ⟨(s₁.sections context.request).scopes.size⟩ walk) s₂ = (.ok text, s₃) ∧
      s' = s₃.popped context.request context.defaultSection := by
  unfold Engine.renderTemplate at h
  obtain ⟨template, s₁, hfetch, hrest⟩ := exec_bind_eq_ok h
  rw [exec_bind_ok (exec_changeSections _ _ _)] at hrest
  obtain ⟨s₃, hbody, hpopped⟩ := exec_collected_eq_ok hrest
  obtain ⟨walk, s₂, hwalk, hrender⟩ := exec_bind_eq_ok hbody
  exact ⟨template, s₁, walk, s₂, s₃, hfetch, hwalk, hrender, hpopped⟩

/-- A template that is fetched, walked and rendered has its text, and its scope is popped. -/
theorem exec_renderTemplate_ok {context : Context} {template : CompiledTemplate} {walk : Walk}
    {s₁ s₂ s₃ : Store σ} (hfetch : exec (engine.fetch context) s = (.ok template, s₁))
    (hwalk : exec (Walk.run engine (waitFor engine run) template context)
      (s₁.pushed context.request context.defaultSection context.viewPath) = (.ok walk, s₂))
    (hrender : exec (engine.renderWalked run template
      ⟨(s₁.sections context.request).scopes.size⟩ walk) s₂ = (.ok text, s₃))
    (hhistory : ((s₃.sections context.request).stack context.defaultSection).history ≠ []) :
    exec (engine.renderTemplate run context) s =
      (.ok text, s₃.popped context.request context.defaultSection) := by
  have hpush : exec (changeSections context.request fun sections =>
      sections.push context.defaultSection context.viewPath) s₁ =
      (.ok ⟨(s₁.sections context.request).scopes.size⟩,
        s₁.pushed context.request context.defaultSection context.viewPath) := rfl
  have hbody := (exec_bind_ok hwalk fun walk => engine.renderWalked run template
    ⟨(s₁.sections context.request).scopes.size⟩ walk).trans hrender
  unfold Engine.renderTemplate
  rw [exec_bind_ok hfetch, exec_bind_ok hpush, exec_collected, hbody]
  simp only [exec_popSection_of_history hhistory]
  rfl

theorem follows_fetch (halike : s.Alike engine.read t) (context : Context) :
    Follows engine.read (engine.fetch context) (ofExcept (engine.opened context)) s t
      fun template template' s' => template = template' ∧
        engine.opened context = .ok template ∧ s.Rests s' := by
  obtain ⟨templates, journal, hhonest, hexec⟩ := exec_fetch halike.honest context
  have hexec' := exec_ofExcept (engine.opened context) t
  have halike' := halike.withTemplates hhonest journal
  rcases hopened : engine.opened context with error | template
  · rw [hopened] at hexec
    exact .stopped hexec rfl halike' (.refl _)
  · rw [hopened] at hexec
    exact .ended hexec rfl halike' ⟨rfl, rfl, .of_requests rfl⟩

theorem Store.Collects.popped {restored : Option ScopeId}
    (h : s.Collects request home log (restored :: history)) :
    (s.popped request home).Collects request home log history where
  live := Nat.lt_of_lt_of_eq h.live (requests_size_setSections s request _).symm
  routed := by
    rw [sections_popped h.live]
    exact h.routed.setStack _
  history := by
    rw [sections_popped h.live]
    unfold Sections.popped
    rw [Sections.stack_setStack_self, h.history]
    rfl

/-- The output of a template is collected in a scope that is popped in the end. -/
theorem follows_collected (restored : Option ScopeId) {body : Render σ String}
    {expand : Render σ Output}
    (h : Follows engine.read body expand s t (Gives request home log (restored :: history))) :
    Follows engine.read (do
        let output ← attempt body
        let popped ← attempt (popSection request home)
        let text ← ofExcept output
        let _ ← ofExcept popped
        return text) expand s t (Gives request home log history) := by
  have hexec := exec_collected body request home s
  have hpop : ∀ u v : Store σ, u.Alike engine.read v →
      (exec (popSection request home) u).2.Alike engine.read v := by
    intro u v halike
    rw [exec_popSection]
    rcases (u.sections request).pop home with fault | ⟨popped, sections⟩
    · exact halike
    · exact halike.setSections _ _
  cases h with
  | @ended text output s' t' left right alike values =>
    obtain ⟨htext, hcollects⟩ := values
    have hhistory : ((s'.sections request).stack home).history ≠ [] := by
      rw [hcollects.history]
      exact List.cons_ne_nil _ _
    rw [left] at hexec
    dsimp only at hexec
    rw [exec_popSection_of_history hhistory] at hexec
    exact .ended hexec right (alike.setSections _ _) ⟨htext, hcollects.popped⟩
  | @stopped stop stop' s' t' left right alike similar =>
    rw [left] at hexec
    cases stop with
    | raised error => exact .stopped hexec right (hpop s' t' alike) similar
    | stalled => exact .stopped hexec right alike similar
    | exhausted => exact .stopped hexec right alike similar

/-! ## Trees -/

/-- The contexts of a tree of templates: every template of the tree is at home and has no layout,
and what it nests is in the tree. -/
structure Family (engine : Engine σ) (home : String) (known : Context → Prop) : Prop where
  /-- Nested templates are invoked only while the section of their template is active. -/
  atHome : ∀ context template, known context → engine.opened context = .ok template →
    Reading.AtHome home home template.readings
  /-- No layout is asked for. -/
  plain : ∀ context template path, known context → engine.opened context = .ok template →
    .layout path ∉ template.readings
  /-- A new name for a directory changes nothing. -/
  base : ∀ context template name path directory, known context →
    engine.opened context = .ok template → .base name path ∈ template.readings →
      Engine.resolveDirectory context path = .ok directory →
        known { context with basePaths := context.basePaths.insert name directory }
  /-- What is nested is in the tree. -/
  nest : ∀ context template invocation child, known context →
    engine.opened context = .ok template → .nest invocation ∈ template.readings →
      Nested engine context home invocation child → known child

/-- A template that is opened is the one at the path of the context. -/
theorem Engine.compiled_of_opened {context : Context} {template : CompiledTemplate}
    (h : engine.opened context = .ok template) : engine.compiled context.filePath = .ok template := by
  unfold Engine.opened at h
  rcases hdepth : engine.checkDepth context with error | a
  · rw [hdepth] at h
    cases h
  · rw [hdepth] at h
    exact h

/-- A context that is not too deep has the template at its file. -/
theorem Engine.opened_of_compiled {context : Context} {template : CompiledTemplate}
    (hdepth : context.depth ≤ engine.config.maxDepth)
    (hcompiled : engine.compiled context.filePath = .ok template) :
    engine.opened context = .ok template := by
  have hchecked : engine.checkDepth context = .ok () := if_neg (Nat.not_lt_of_le hdepth)
  unfold Engine.opened
  rw [hchecked]
  exact hcompiled

theorem Family.guides (h : Family engine home known) (template : CompiledTemplate) :
    Guides engine home
      (fun context => known context ∧ engine.opened context = .ok template) known
      template.readings where
  base context name path directory := fun ⟨hknown, hopened⟩ hmem hdirectory =>
    ⟨h.base context template name path directory hknown hopened hmem hdirectory, hopened⟩
  nest context invocation child := fun ⟨hknown, hopened⟩ hmem hnested =>
    h.nest context template invocation child hknown hopened hmem hnested

/-- The walk of a template that writes to a new scope of its section. -/
theorem follows_walk (hengine : engine.Interprets) {template : CompiledTemplate}
    {context : Context} (hguides : Guides engine home here known template.readings)
    (hhome : Reading.AtHome home home template.readings)
    (hfits : context.Fits engine request home) (hhere : here context)
    (hcollects : s.Collects request home log history) (halike : s.Alike engine.read t)
    (run : Task → Render σ String) :
    Follows engine.read (Walk.run engine (waitFor engine run) template context)
      (engine.plan context template) (s.pushed request home context.viewPath) t
      fun walk plan s' =>
        Along engine request home ⟨(s.sections request).scopes.size⟩ log
          ((s.sections request).current home :: history) context.depth here known walk plan s' ∧
        plan.layout = template.readings.findSome? (·.layout? engine) := by
  have hsections := Store.sections_pushed hcollects.live home context.viewPath
  have hwriting := hcollects.routed.push context.viewPath
  have hlive : request.index < (s.pushed request home context.viewPath).requests.size :=
    Nat.lt_of_lt_of_eq hcollects.live (Store.requests_size_setSections s request _).symm
  refine follows_run hengine hguides (fun id => Mirrors.waitFor run _ id) hhome hfits hhere ?_ ?_ ?_
    hlive (halike.setSections _ _)
  · rw [hsections]
    exact hwriting
  · rw [hsections, Sections.fragments_push]
    exact Sections.fragments_of_le (Nat.le_refl _)
  · rw [hsections, Sections.stack_push_self, ← hcollects.history]
    rfl

/-- A template is rendered as it is expanded if those that it nests are. -/
theorem agrees_renderTemplate (hengine : engine.Interprets) (hfamily : Family engine home known)
    {run : Task → Render σ String} {expand : Context → Render σ Output} {context : Context}
    (hknown : known context) (hfits : context.Fits engine request home)
    (hrun : ∀ child : Context, known child → child.Fits engine request home →
      child.depth = context.depth + 1 → ∀ history, Agrees engine request home history
        (fun context => run (.template context)) expand child) :
    Agrees engine request home history (engine.renderTemplate run)
      (fun context => do
        let template ← ofExcept (engine.opened context)
        let plan ← engine.plan context template
        let output ← expandPieces expand context.defaultSection plan.pieces
        return { output with routed := routed context.defaultSection plan.pieces ++ output.routed })
      context := by
  intro log s t halike hcollects
  obtain ⟨hrequest, hsection, -⟩ := id hfits
  subst hrequest hsection
  unfold Engine.renderTemplate
  refine (follows_fetch halike context).bind fun template _ s t halike ⟨hsame, hopened, hrests⟩ => ?_
  subst hsame
  have hcollects := hcollects.rests hrests
  refine .bind_left (exec_changeSections _ _ _) (follows_collected
    ((s.sections context.request).current context.defaultSection) ?_)
  refine (follows_walk hengine (hfamily.guides template)
    (hfamily.atHome context template hknown hopened) hfits ⟨hknown, hopened⟩ hcollects halike
    run).bind fun walk plan s' t' halike' ⟨halong, hplan⟩ => ?_
  obtain ⟨hwalk, hkeeps, htracks⟩ := halong
  have hlayout : walk.layout = none := by
    rw [← Option.map_eq_none_iff, hwalk.layout, hplan]
    exact Reading.findSome?_layout?_eq_none.2 fun path =>
      hfamily.plain context template path hknown hopened
  unfold Engine.renderWalked renderScope
  rw [hlayout, hwalk.context, hkeeps.fits.ofRequest]
  refine .map_right ?_
  have hpieces : ∀ child, .nested child ∈ plan.pieces → ∀ history,
      Agrees engine context.request context.defaultSection history
        (fun context => run (.template context)) expand child := by
    intro child hchild history
    obtain ⟨hchildFits, hchildKnown, hdepth⟩ := hkeeps.nested child hchild
    exact hrun child hchildKnown hchildFits hdepth history
  refine .bind_left (exec_withSections _ _ _) ((follows_fragments
    (fun child hchild => hpieces child hchild _) htracks.shows halike' htracks.collects).mono fun text output s'' h => ⟨h.1, ?_⟩)
  rw [← List.append_assoc]
  exact h.2

/-- The production of a template of a tree follows its expansion. The fuel and the levels are more
than can be nested. -/
theorem agrees_produce (hengine : engine.Interprets) (hfamily : Family engine home known)
    (fuel levels : Nat) {context : Context} (hknown : known context)
    (hfits : context.Fits engine request home)
    (hfuel : engine.config.maxDepth < fuel + context.depth)
    (hlevels : engine.config.maxDepth < levels + context.depth) :
    Agrees engine request home history
      (fun context => engine.produce fuel (.template context)) (engine.expand levels) context := by
  induction fuel generalizing levels context history with
  | zero =>
    rw [Nat.zero_add] at hfuel
    exact absurd hfits.bounded (Nat.not_le_of_lt hfuel)
  | succ fuel ih =>
    cases levels with
    | zero =>
      rw [Nat.zero_add] at hlevels
      exact absurd hfits.bounded (Nat.not_le_of_lt hlevels)
    | succ levels =>
      refine agrees_renderTemplate hengine hfamily hknown hfits fun child hchild hfits' hdepth _ => ?_
      exact ih levels hchild hfits' (by omega) (by omega)

end TemplateEngine
