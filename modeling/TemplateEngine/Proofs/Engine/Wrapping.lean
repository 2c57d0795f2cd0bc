import TemplateEngine.Proofs.Engine.Content
import TemplateEngine.Proofs.Engine.Echo
import TemplateEngine.Proofs.Engine.Printing

/-!
# `Engine` · Templates around a content

A template that prints the content between two texts, as layouts and the templates of paired tags do.

* **`Store.Wrote`**: only the sections of a request have changed, in which a scope has got fragments.
* **`exec_run_prints`**: the walk of the template leaves the texts and what prints the content.
* **`exec_renderTemplate_prints`**: the text of the template is that of the content between the two
  texts. The content is rendered while the scope of the template is the current one of its section.
-/

namespace TemplateEngine

open Render TemplateEngine.Text TemplateEngine.Template

variable {σ : Type} {engine : Engine σ} {request : RequestId} {home : String} {scope : ScopeId}
  {slot : SlotId} {run : Task → Render σ String} {wait : PromiseId → Render σ Value}
  {context : Context} {template : CompiledTemplate} {s s' s'' t : Store σ}
  {before after text : String}

/-! ## What is written -/

theorem Store.setSections_setSections (s : Store σ) (id : RequestId)
    (sections sections' : Sections Deferred) :
    (s.setSections id sections).setSections id sections' = s.setSections id sections' := by
  unfold setSections
  congr 1
  refine Array.ext_getElem? fun i => ?_
  rw [Array.getElem?_modify, Array.getElem?_modify, Array.getElem?_modify]
  split
  · rw [Option.map_map]
    rfl
  · rfl

/-- A scope has got fragments, and only the sections of the request have changed. -/
structure Store.Wrote (request : RequestId) (home : String) (scope : ScopeId)
    (fragments : List (Fragment Deferred)) (s s' : Store σ) : Prop where
  /-- Everything else is as before. -/
  same : ∃ sections, s' = s.setSections request sections
  /-- What was added. -/
  sections : (s.sections request).Extends home scope fragments (s'.sections request)

namespace Store.Wrote

variable {fragments rest : List (Fragment Deferred)}

theorem refl (hlive : request.index < s.requests.size) : s.Wrote request home scope [] s where
  same := by
    refine ⟨s.sections request, ?_⟩
    obtain ⟨graph, requests, slots, templates, programs, host, journal⟩ := s
    unfold Store.setSections
    congr 1
    refine Array.ext_getElem? fun i => ?_
    rw [Array.getElem?_modify]
    split
    · next hi =>
      subst hi
      unfold Store.sections
      dsimp only at hlive ⊢
      rw [Array.getElem?_eq_getElem hlive]
      rfl
    · rfl
  sections := .refl _ _ _

theorem trans (h : s.Wrote request home scope fragments s')
    (h' : s'.Wrote request home scope rest s'') :
    s.Wrote request home scope (fragments ++ rest) s'' where
  same := by
    obtain ⟨sections, rfl⟩ := h.same
    obtain ⟨sections', rfl⟩ := h'.same
    exact ⟨sections', Store.setSections_setSections s request sections sections'⟩
  sections := h.sections.trans h'.sections

theorem appended (h : s.WritesTo request home scope) (owner : String)
    (fragment : Fragment Deferred) :
    s.Wrote request home scope [fragment] (s.appended request home owner fragment) where
  same := ⟨_, rfl⟩
  sections := (h.appended (fun _ => .ok "") owner fragment).sections

theorem writesTo (hwrote : s.Wrote request home scope fragments s')
    (h : s.WritesTo request home scope) : s'.WritesTo request home scope where
  live := by
    obtain ⟨sections, rfl⟩ := hwrote.same
    exact Nat.lt_of_lt_of_eq h.live (Store.requests_size_setSections s request sections).symm
  current := hwrote.sections.current.trans h.current
  within := Nat.lt_of_lt_of_le h.within hwrote.sections.size

end Store.Wrote

/-- What a text leaves in a scope. -/
def literals (text : String) : List (Fragment Deferred) :=
  if text.isEmpty then [] else [⟨.literal text, .normal⟩]

theorem payload_of_mem_literals {fragment : Fragment Deferred} (h : fragment ∈ literals text) :
    fragment.payload = .literal fragment.literalText := by
  unfold literals at h
  split at h
  · cases h
  · rw [List.mem_singleton.1 h]
    rfl

theorem join_literals (text : String) :
    String.join ((literals text).map Fragment.literalText) = text := by
  unfold literals
  split
  · next hempty =>
    rw [String.isEmpty_iff.1 hempty]
    rfl
  · exact String.empty_append

/-- Texts are rendered as they are. -/
theorem renderFragments_literals_flatMap (texts : List String) :
    renderFragments (runDeferred run) (texts.flatMap literals) =
      (pure (String.join texts) : Render σ String) := by
  have hjoin : String.join ((texts.flatMap literals).map Fragment.literalText) =
      String.join texts := by
    induction texts with
    | nil => rfl
    | cons text texts ih =>
      rw [List.flatMap_cons, List.map_append, String.join_append, ih, join_literals,
        String.join_cons]
  rw [← hjoin]
  refine renderFragments_literals fun fragment hfragment => ?_
  obtain ⟨text, -, hfragment⟩ := List.mem_flatMap.1 hfragment
  exact payload_of_mem_literals hfragment

theorem Walk.exec_appendText (walk : Walk) (h : s.WritesTo walk.context.request walk.active scope)
    (text : String) :
    ∃ s', exec (walk.appendText text) s = (.ok (), s') ∧
      s.Wrote walk.context.request walk.active scope (literals text) s' := by
  unfold appendText literals
  split
  · exact ⟨s, rfl, .refl h.live⟩
  · exact ⟨_, exec_append walk (.literal text) .normal s, .appended h _ _⟩

/-- One more token. -/
theorem Walk.exec_steps_cons {walk walk' : Walk} {token : Nat} {part : Token} {rest : List Token}
    (hpaired : template.reading part ≠ .paired)
    (h : exec (walk.act engine wait template token (template.reading part)) s = (.ok walk', s')) :
    exec (steps engine wait template walk token (part :: rest)) s =
      exec (steps engine wait template walk' (token + 1) rest) s' := by
  rw [← step_eq_act walk token hpaired] at h
  have hstep : exec (mapError (locate template token) (walk.step engine wait template token part)) s =
      (.ok walk', s') := by
    rw [exec_mapError, h]
  rw [steps, exec_bind_ok hstep]

/-! ## Printing the content -/

/-- What prints the content. -/
def printing (template : CompiledTemplate) (slot : SlotId) : Fragment Deferred :=
  ⟨.deferred ⟨.content slot false, template, 1⟩, .printedContent⟩

/-- The template prints the content between two texts. -/
def CompiledTemplate.Prints (template : CompiledTemplate) (before after : String) : Prop :=
  template.readings = [.text before, .render Config.content false, .text after]

/-- The walk of a template that prints the content. -/
theorem exec_run_prints (engine : Engine σ) (wait : PromiseId → Render σ Value)
    (hprints : template.Prints before after) (hslot : context.slot = some slot)
    (hs : s.WritesTo context.request context.defaultSection scope) :
    ∃ strip s', exec (Walk.run engine wait template context) s =
        (.ok (.simple context context.defaultSection none [] strip), s') ∧
      s.Wrote context.request context.defaultSection scope
        (literals before ++ ([printing template slot] ++ literals (stripLineEnd after))) s' := by
  obtain ⟨first, _, htokens, hfirst, hrest⟩ := List.map_eq_cons_iff.1 hprints
  obtain ⟨second, _, rfl, hsecond, hrest⟩ := List.map_eq_cons_iff.1 hrest
  obtain ⟨third, _, rfl, hthird, hrest⟩ := List.map_eq_cons_iff.1 hrest
  obtain rfl := List.map_eq_nil_iff.1 hrest
  let start : Walk := .simple context context.defaultSection none [] false
  obtain ⟨s₁, hbefore, hwrote₁⟩ := start.exec_appendText hs before
  have hs₁ := hwrote₁.writesTo hs
  let printed : Walk := .simple context context.defaultSection none [] true
  have hprint : exec (printed.appendSection template 1 Config.content false) s₁ =
      (.ok (), s₁.appended context.request context.defaultSection context.viewPath
        (printing template slot)) := by
    have hprinted : printed.context.slot = some slot := hslot
    unfold Walk.appendSection
    rw [if_pos rfl, hprinted]
    exact printed.exec_append _ .printedContent s₁
  have hwrote₂ := Store.Wrote.appended hs₁ context.viewPath (printing template slot)
  obtain ⟨s₃, hafter, hwrote₃⟩ := printed.exec_appendText (hwrote₂.writesTo hs₁) (stripLineEnd after)
  refine ⟨false, s₃, ?_, hwrote₁.trans (hwrote₂.trans hwrote₃)⟩
  unfold Walk.run
  rw [htokens]
  have hsteps : exec (Walk.steps engine wait template start 0 [first, second, third]) s =
      (.ok start, s₃) := by
    have hacts₁ : exec (start.act engine wait template 0 (.text before)) s = (.ok start, s₁) :=
      exec_bind_ok hbefore _
    have hacts₂ : exec (start.act engine wait template 1 (.render Config.content false)) s₁ =
        (.ok printed, _) := exec_bind_ok hprint _
    have hacts₃ : exec (printed.act engine wait template 2 (.text after)) _ = (.ok start, s₃) :=
      exec_bind_ok hafter _
    rw [Walk.exec_steps_cons (by rw [hfirst]; exact nofun) (hfirst ▸ hacts₁),
      Walk.exec_steps_cons (by rw [hsecond]; exact nofun) (hsecond ▸ hacts₂),
      Walk.exec_steps_cons (by rw [hthird]; exact nofun) (hthird ▸ hacts₃)]
    rfl
  exact (exec_bind_ok hsteps _).trans rfl

/-- The content is rendered, and its text is put between the two texts. -/
theorem exec_renderFragments_prints (hrun : exec (run (.content slot false)) s = (.ok text, s')) :
    exec (renderFragments (runDeferred run)
      (literals before ++ ([printing template slot] ++ literals after))) s =
        (.ok (before ++ (text ++ after)), s') := by
  have hdeferred : exec (runDeferred run ⟨.content slot false, template, 1⟩) s = (.ok text, s') := by
    unfold runDeferred
    rw [exec_mapError, hrun]
  -- The content is produced first, and both texts then.
  have hproduced : ∃ texts, exec (produceAll (runDeferred run)
      (productionOrder (literals before ++ ([printing template slot] ++ literals after)))) s =
        (.ok texts, s') ∧ assemble texts = before ++ (text ++ after) := by
    unfold literals
    by_cases hbefore : before.isEmpty = true <;> by_cases hafter : after.isEmpty = true
    · refine ⟨[(text, 0)], ?_, ?_⟩
      · rw [if_pos hbefore, if_pos hafter]
        exact exec_bind_ok hdeferred _
      · rw [String.isEmpty_iff.1 hbefore, String.isEmpty_iff.1 hafter]
        show String.join [text] = _
        simp
    · refine ⟨[(text, 0), (after, 1)], ?_, ?_⟩
      · rw [if_pos hbefore, if_neg hafter]
        exact exec_bind_ok hdeferred _
      · rw [String.isEmpty_iff.1 hbefore]
        show String.join [text, after] = _
        simp
    · refine ⟨[(text, 1), (before, 0)], ?_, ?_⟩
      · rw [if_neg hbefore, if_pos hafter]
        exact exec_bind_ok hdeferred _
      · rw [String.isEmpty_iff.1 hafter]
        show String.join [before, text] = _
        simp
    · refine ⟨[(text, 1), (before, 0), (after, 2)], ?_, ?_⟩
      · rw [if_neg hbefore, if_neg hafter]
        exact exec_bind_ok hdeferred _
      · show String.join [before, text, after] = _
        simp
  obtain ⟨texts, hexec, htext⟩ := hproduced
  rw [renderFragments, exec_bind_ok hexec, htext]
  rfl

/-! ## The template -/

/-- A template was entered at the store `s` and has come to its content, which is rendered at `u`.
By then the template has written to its scope. -/
structure Store.Reaches (read : String → Except Error String) (context : Context) (slot : SlotId)
    (fragments : List (Fragment Deferred)) (s u : Store σ) : Prop where
  /-- All values are there, at the same places. -/
  graph : s.graph.IsPrefix u.graph
  /-- Programs are kept as they are parsed. -/
  programs : s.programs.Parsed → u.programs.Parsed
  /-- The state of the host is the same. -/
  host : u.host = s.host
  /-- There are as many requests. -/
  requests : u.requests.size = s.requests.size
  /-- The same redirects were asked for. -/
  redirect : ∀ id, u.redirect id = s.redirect id
  /-- All other slots are as they were. -/
  slots : ∀ i, i ≠ slot.index → u.slots[i]? = s.slots[i]?
  /-- The templates are honest. -/
  honest : u.templates.Honest read
  /-- What was written. -/
  sections : ((s.sections context.request).push context.defaultSection context.viewPath).2.Extends
    context.defaultSection ⟨(s.sections context.request).scopes.size⟩ fragments
    (u.sections context.request)

namespace Store.Reaches

variable {read : String → Except Error String} {fragments : List (Fragment Deferred)}
  {u : Store σ}

/-- The template was read and has written to its scope. -/
theorem entered (hlive : context.request.index < s.requests.size) {templates : TemplateCache}
    (hhonest : templates.Honest read) (path : String)
    (hwrote : ((s.fetched path templates).pushed context.request context.defaultSection
      context.viewPath).Wrote context.request context.defaultSection
        ⟨(s.sections context.request).scopes.size⟩ fragments u) :
    s.Reaches read context slot fragments u := by
  have hsections := hwrote.sections
  obtain ⟨sections, rfl⟩ := hwrote.same
  exact {
    graph := .refl _
    programs := id
    host := rfl
    requests := (Store.requests_size_setSections _ _ _).trans (Store.requests_size_setSections _ _ _)
    redirect := fun id =>
      (Store.redirect_setSections _ _ _ _).trans (Store.redirect_setSections _ _ _ _)
    slots := fun _ _ => rfl
    honest := hhonest
    sections := by
      have hlive' : context.request.index < (s.fetched path templates).requests.size := hlive
      rw [Store.sections_pushed hlive'] at hsections
      exact hsections }

/-- The slot itself may change. -/
theorem modified (h : s.Reaches read context slot fragments u) (f : Slot → Slot) :
    s.Reaches read context slot fragments { u with slots := u.slots.modify slot.index f } where
  graph := h.graph
  programs := h.programs
  host := h.host
  requests := h.requests
  redirect := h.redirect
  slots i hi := by
    rw [← h.slots i hi, Array.getElem?_modify, if_neg hi.symm]
  honest := h.honest
  sections := h.sections

end Store.Reaches

/-- The content is rendered while the scope of the template is the current one, and then the
template has its own text. -/
theorem exec_renderTemplate_prints (run : Task → Render σ String) {content : List (Fragment Deferred)}
    (hhonest : s.templates.Honest engine.read) (hlive : context.request.index < s.requests.size)
    (hopened : engine.opened context = .ok template) (hprints : template.Prints before after)
    (hslot : context.slot = some slot)
    (hwaits : s.slots[slot.index]? = some ⟨.pending content, false⟩) :
    ∃ u fragments, s.Reaches engine.read context slot fragments u ∧ u.graph = s.graph ∧
      u.journal = .reading context.filePath :: s.journal ∧
      ∀ text t, exec (renderFragments (runDeferred run) content) u = (.ok text, t) →
        ((t.sections context.request).stack context.defaultSection).history ≠ [] →
        exec (engine.renderTemplate (engine.perform run) context) s =
          (.ok (before ++ (text ++ stripLineEnd after)),
            (t.settled slot text).popped context.request context.defaultSection) := by
  obtain ⟨templates, hhonest', hfetch⟩ := exec_fetch_of_opened hhonest hopened
  have hlive' : context.request.index < (s.fetched context.filePath templates).requests.size := hlive
  obtain ⟨strip, s₂, hwalk, hwrote⟩ := exec_run_prints engine
    (waitFor engine (engine.perform run)) hprints hslot (.pushed hlive' context.viewPath)
  have hreaches : s.Reaches engine.read context slot _ s₂ :=
    .entered hlive hhonest' context.filePath hwrote
  have hsections := hreaches.sections.fragments_pushed
  have hwaits₂ : s₂.slots[slot.index]? = some ⟨.pending content, false⟩ := by
    obtain ⟨sections, rfl⟩ := hwrote.same
    exact hwaits
  refine ⟨(s₂.marked slot).running slot, _, (hreaches.modified _).modified _, ?_, ?_, ?_⟩
  · obtain ⟨sections, rfl⟩ := hwrote.same
    rfl
  · obtain ⟨sections, rfl⟩ := hwrote.same
    rfl
  · intro text t hcontent hhistory
    refine exec_renderTemplate_ok hfetch hwalk ?_ hhistory
    have hprinted := exec_renderContent_pending hwaits₂ hcontent false
    have hfragments : exec (withSections context.request fun sections => sections.fragments
        ⟨((s.fetched context.filePath templates).sections context.request).scopes.size⟩) s₂ =
          (.ok _, s₂) := (exec_withSections _ _ _).trans (congrArg (Except.ok ·, s₂) hsections)
    unfold Engine.renderWalked renderScope
    exact (exec_bind_ok hfragments _).trans (exec_renderFragments_prints hprinted)

end TemplateEngine
