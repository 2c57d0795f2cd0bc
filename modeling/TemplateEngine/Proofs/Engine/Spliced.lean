import TemplateEngine.Proofs.Engine.Laid
import TemplateEngine.Proofs.Engine.Splicing

/-!
# `Engine` · Walks over paired tags

The walk of a template of texts, expressions and paired tags does what the direct recursion over its
tree does, with the same events, and leaves fragments with the text of the tree.

* **`Spliced`**: from a store on which a walk goes on, and one for the recursion, both have gone on in
  this way.
* **`echoes_splice_close`**: a closing tag. The fragments of the body are off the section, and wait in
  a slot for the template that the tag invokes.
* **`echoes_splice_steps`**: all steps of the walk, by induction on the tree.
* **`renderView_splices`**: a page is rendered to the text of its tree.
-/

namespace TemplateEngine

open Render TemplateEngine.Text TemplateEngine.Template

variable {σ : Type} {engine : Engine σ} {refs : Refs σ} {slots : SlotId → Prop}
  {request : RequestId} {home : String} {scope : ScopeId} {context : Context}
  {texts : String → String × String} {count count' : Nat} {text more : String}
  {s s' s'' t t' t'' : Store σ}

/-! ## Stores -/

/-- A walk has written fragments with a text to a scope, and `count` bodies wait in new slots. What
else it has done was done on the other side as well. -/
structure Spliced (m : Motion σ) (engine : Engine σ) (request : RequestId) (home : String)
    (scope : ScopeId) (count : Nat) (text : String) (s t s' t' : Store σ) : Prop where
  /-- The one store is placed in the other. -/
  placed : s'.Placed m t'
  /-- Nothing was taken away. -/
  grows : s.graph.extent ≤ s'.graph.extent
  /-- What was written. -/
  written : ∃ fragments, s.Writes engine.read request home scope fragments s' ∧
    Filled engine request home s' s.slots.size s'.slots.size fragments text
  /-- There is a slot for each body. -/
  slots : s'.slots.size = s.slots.size + count
  /-- The journals have got the same events. -/
  journal : ∃ events, s'.journal = events ++ s.journal ∧ t'.journal = events ++ t.journal

namespace Spliced

variable {m : Motion σ}

theorem of_advance (h : Advance m s t s' t') :
    Spliced m engine request home scope 0 "" s t s' t' where
  placed := h.placed
  grows := h.grows
  written := ⟨[], .of_keeps h.left, .nil (Nat.le_of_eq (by rw [h.left.slots]))⟩
  slots := by rw [h.left.slots, Nat.add_zero]
  journal := h.journal

theorem refl (h : s.Placed m t) : Spliced m engine request home scope 0 "" s t s t :=
  .of_advance (.refl h)

theorem trans (h : Spliced m engine request home scope count text s t s' t')
    (h' : Spliced m engine request home scope count' more s' t' s'' t'') :
    Spliced m engine request home scope (count + count') (text ++ more) s t s'' t'' where
  placed := h'.placed
  grows := Extent.le_trans h.grows h'.grows
  written := by
    obtain ⟨fragments, hwrites, hfilled⟩ := h.written
    obtain ⟨rest, hwrites', hfilled'⟩ := h'.written
    refine ⟨fragments ++ rest, hwrites.trans hwrites', ?_⟩
    exact (hfilled.congr fun i _ hi => hwrites'.slots i hi).append hfilled'
  slots := by rw [h'.slots, h.slots, Nat.add_assoc]
  journal := by
    obtain ⟨events, hs, ht⟩ := h.journal
    obtain ⟨events', hs', ht'⟩ := h'.journal
    refine ⟨events' ++ events, ?_, ?_⟩
    · rw [hs', hs, List.append_assoc]
    · rw [ht', ht, List.append_assoc]

/-- Output still goes to the scope. -/
theorem writesTo (h : Spliced m engine request home scope count text s t s' t')
    (hs : s.WritesTo request home scope) : s'.WritesTo request home scope := by
  obtain ⟨_, hwrites, -⟩ := h.written
  exact hs.writes hwrites

/-- A text is appended on the one side. -/
theorem literal (hst : s.Placed m t) (hs : s.WritesTo request home scope) (owner text : String) :
    Spliced m engine request home scope 0 text s t
      (s.appended request home owner ⟨.literal text, .normal⟩) t where
  placed := hst.setSections_left _ _
  grows := Extent.le_refl _
  written := by
    refine ⟨_, hs.appended _ owner _, ?_⟩
    have hfilled : Filled engine request home
        (s.appended request home owner ⟨.literal text, .normal⟩) s.slots.size s.slots.size
        [⟨.literal text, .normal⟩] (text ++ "") := .literal text (.nil (Nat.le_refl _))
    rw [String.append_empty] at hfilled
    exact hfilled
  slots := rfl
  journal := ⟨[], rfl, rfl⟩

end Spliced

/-! ## Tags -/

/-- The fragments of a body that was closed wait in a new slot. -/
theorem Store.slot_closed {owner : String} {fragments : List (Fragment Deferred)}
    (hlive : request.index < s.requests.size)
    (h : (s.pushed request home owner).Writes engine.read request home
      ⟨(s.sections request).scopes.size⟩ fragments s') :
    (s'.closed request home ⟨(s.sections request).scopes.size⟩).slots[s'.slots.size]? =
      some ⟨.pending fragments, false⟩ := by
  have hlive' : request.index < s'.requests.size := by
    rw [h.requests]
    exact Nat.lt_of_lt_of_eq hlive (Store.requests_size_setSections s request _).symm
  have hsections := h.sections
  rw [Store.sections_pushed hlive] at hsections
  unfold Store.closed
  rw [Store.sections_popped hlive', Sections.fragments_popped, hsections.fragments_pushed]
  exact Array.getElem?_push_size

/-- The preparation of a nested template with a body does what that of its tag does. -/
theorem echoes_prepare_body {wait : PromiseId → Render σ Value} (hengine : engine.Interprets)
    (hhost : engine.host.Parametric refs (.still slots))
    (hwait : Moves.Waits (.still refs slots) wait engine.settle)
    (hst : s.Placed (.still refs slots) t) (hcontext : Refs.context.Within s.graph.extent context)
    {walk : Walk} (hwalk : walk.context = context) (hactive : walk.active = context.defaultSection)
    {invocation : Invocation} (hnone : invocation.withBody none = invocation) (slot : SlotId) :
    Echoes (walk.prepare engine wait (invocation.withBody (some slot)))
      ((Walk.start context).prepare engine engine.settle invocation) s t
      fun child child' s' t' => child = { child' with slot := some slot } ∧
        Nested engine context context.defaultSection invocation child ∧
        Advance (.still refs slots) s t s' t' := by
  have hstill : ∀ {e : Extent} {c : Context}, Refs.context.Within e c →
      Refs.context.placed (.still slots) c = c :=
    fun hwithin => Refs.context.fixed (Placement.fixes_still slots _) hwithin
  have hprepare := Moves.prepare hengine hhost hwait (.start context) (.start context)
    (hstill hcontext).symm rfl invocation fun _ => hcontext.1
  have hsame : walk.context = { (Walk.start context).context with slot := context.slot } := hwalk
  have hactive' : walk.active = (Walk.start context).active := hactive
  have hbody : walk.prepare engine wait (invocation.withBody (some slot)) =
      (fun child => { child with slot := some slot }) <$>
        (Walk.start context).prepare engine wait (invocation.withBody none) :=
    Walk.prepare_withBody context.slot hsame hactive' invocation none (some slot)
  rw [hbody, hnone]
  refine ((Echoes.of_moves hprepare hst (Extent.le_refl _)).and_left
    (ensures_prepare wait _ invocation s)).map_left _ ?_
  rintro child _ s' t' ⟨⟨rfl, hwithin, hadvance⟩, hnested⟩
  refine ⟨?_, ⟨hnested.request, hnested.defaultSection, hnested.basePaths, hnested.depth,
    hnested.bounded, hnested.filePath⟩, hadvance⟩
  exact congrArg (fun child : Context => { child with slot := some slot }) (hstill hwithin).symm

/-- The template at a file has two texts around its content. -/
def Engine.PrintsAt (engine : Engine σ) (texts : String → String × String) (file : String) : Prop :=
  ∃ template, engine.compiled file = .ok template ∧
    template.Prints (texts file).1 (texts file).2

/-- A nested template that prints the body of its tag has the text of the body between its own two. -/
theorem Filled.tag {child : Context} {nested : CompiledTemplate} {before after : String}
    {body : List (Fragment Deferred)} {a k : Nat} (hrequest : child.request = request)
    (hsection : child.defaultSection = home) (hopened : engine.opened child = .ok nested)
    (hprints : nested.Prints before after) (hslot : child.slot = some ⟨k⟩)
    (hwaits : s.slots[k]? = some ⟨.pending body, false⟩)
    (hbody : Filled engine request home s a k body text) (hsize : s.slots.size = k + 1)
    (outer : CompiledTemplate) (token : Nat) :
    Filled engine request home s a s.slots.size
      [⟨.deferred ⟨.template child, outer, token⟩, .nestedView⟩]
      (before ++ (text ++ stripLineEnd after)) := by
  have hfilled := Filled.nested hrequest hsection hopened hprints hslot hwaits hbody
    (.nil (Nat.le_of_eq hsize.symm)) outer token
  rw [String.append_empty] at hfilled
  exact hfilled

/-- A walk is behind one step, of which the text is known. -/
def SplicedStep (refs : Refs σ) (slots : SlotId → Prop) (engine : Engine σ) (context : Context)
    (scope : ScopeId) (openTags : List OpenTag) (strip : Bool) (count : Nat) (s t : Store σ)
    (walk : Walk) (text : String) (s' t' : Store σ) : Prop :=
  walk = .simple context context.defaultSection none openTags strip ∧
    Spliced (.still refs slots) engine context.request context.defaultSection scope count text s t
      s' t'

/-- A body is closed. It waits in a slot for the template of its tag, which is invoked where the tag
was opened. -/
theorem echoes_splice_close {wait : PromiseId → Render σ Value} (hengine : engine.Interprets)
    (hhost : engine.host.Parametric refs (.still slots))
    (hwait : Moves.Waits (.still refs slots) wait engine.settle)
    (hs : s.WritesTo context.request context.defaultSection scope)
    (hcontext : Refs.context.Within s'.graph.extent context) {template : CompiledTemplate}
    {part : Token} {tag : ServerTag} {invocation : Invocation}
    (hinvokes : Invocation.ofTag tag none = .ok invocation) (hclose : part.kind = .closeTag)
    (htexts : ∀ target, engine.resolvePath context invocation.path = .ok target →
      engine.PrintsAt texts target) {openTags : List OpenTag} {strip : Bool} {opener : Nat}
    (hbody : Spliced (.still refs slots) engine context.request context.defaultSection
      ⟨(s.sections context.request).scopes.size⟩ count text
      (context.opened context.defaultSection s) t s' t') (token : Nat) :
    Echoes (Walk.step engine wait template (.simple context context.defaultSection none
        (.of tag opener context.defaultSection context.request scope s :: openTags) strip) token part)
      ((Walk.start context).prepare engine engine.settle invocation) s' t'
      fun walk child => SplicedStep refs slots engine context scope openTags true (count + 1) s t walk
        ((texts child.filePath).1 ++ (text ++ stripLineEnd (texts child.filePath).2)) := by
  refine .of_ok fun walk s₁ hok => ?_
  obtain ⟨opened, hopened, hname, -⟩ := Walk.openTags_of_closes hclose hok
  obtain ⟨rfl, -⟩ := List.cons.inj hopened
  have hnone : invocation.withBody none = invocation :=
    Except.ok.inj ((Invocation.ofTag_withBody hinvokes none).symm.trans hinvokes)
  obtain ⟨fragments, hwrites, hfilled⟩ := hbody.written
  have hhistory := hwrites.sections.history
  unfold Context.opened at hhistory
  rw [Store.sections_pushed hs.live, Sections.history_push, hs.current] at hhistory
  have htags : (Walk.simple context context.defaultSection none (.of tag opener
      context.defaultSection context.request scope s :: openTags) strip).openTags = _ := rfl
  refine .congr (Walk.exec_step_closes hclose htags hname hinvokes hhistory token) rfl ?_
  have hslot := Store.slot_closed hs.live hwrites
  have hclosed : (s'.closed context.request context.defaultSection
      ⟨(s.sections context.request).scopes.size⟩).Placed (.still refs slots) t' :=
    (hbody.placed.setSections_left _ _).newSlot_left _
  have hkept : s.Writes engine.read context.request context.defaultSection scope []
      (s'.closed context.request context.defaultSection
        ⟨(s.sections context.request).scopes.size⟩) := (hwrites.popped hs.live scope).newSlot _
  rw [← bind_pure ((Walk.start context).prepare _ _ _)]
  unfold Walk.invoke
  rw [bind_assoc]
  refine (echoes_prepare_body hengine hhost hwait hclosed hcontext rfl rfl hnone _).bind ?_
  rintro _ child s₂ t₂ ⟨rfl, hnested, hadvance⟩
  refine .step_left (Walk.exec_append _ _ _ s₂) (.pure ⟨rfl, ?_⟩)
  obtain ⟨nested, hcompiled, hprints⟩ := htexts _ hnested.filePath
  have hopened := Engine.opened_of_compiled hnested.bounded hcompiled
  have hkeeps := hadvance.left.slots
  have hsize : s₂.slots.size = s'.slots.size + 1 := by
    rw [hkeeps]
    exact Array.size_push _
  have hfilled' : Filled engine context.request context.defaultSection s₂ s.slots.size
      s'.slots.size fragments text := by
    refine hfilled.congr fun i _ hi => ?_
    rw [hkeeps]
    exact (Array.getElem?_push_lt hi).trans (Array.getElem?_eq_getElem hi).symm
  have hs₂ := (hs.writes hkept).keeps hadvance.left
  obtain ⟨events, hevents, hevents'⟩ := hbody.journal
  obtain ⟨later, hlater, hlater'⟩ := hadvance.journal
  exact {
    placed := hadvance.placed.setSections_left _ _
    grows := Extent.le_trans hbody.grows hadvance.grows
    written := ⟨_, (hkept.trans (.of_keeps hadvance.left)).trans (hs₂.appended _ _ _),
      (hfilled'.tag hnested.request hnested.defaultSection hopened hprints rfl (hkeeps ▸ hslot)
        hsize template opener).congr fun _ _ _ => rfl⟩
    slots := hsize.trans (congrArg Nat.succ hbody.slots)
    journal := by
      refine ⟨later ++ events, hlater.trans ?_, ?_⟩
      · rw [List.append_assoc]
        exact congrArg (later ++ ·) hevents
      · rw [hlater', hevents', List.append_assoc] }

/-! ## Walks -/

/-- A walk is behind some tokens, of which the text is known. -/
def SplicedWalks (refs : Refs σ) (slots : SlotId → Prop) (engine : Engine σ) (context : Context)
    (scope : ScopeId) (openTags : List OpenTag) (count : Nat) (s t : Store σ) (walk : Walk)
    (text : String) (s' t' : Store σ) : Prop :=
  (∃ strip, walk = .simple context context.defaultSection none openTags strip) ∧
    Spliced (.still refs slots) engine context.request context.defaultSection scope count text s t
      s' t'

section Steps

variable {wait : PromiseId → Render σ Value} {template : CompiledTemplate} {openTags : List OpenTag}

/-- A text is appended. -/
theorem echoes_splice_text (engine : Engine σ) (hst : s.Placed (.still refs slots) t)
    (hs : s.WritesTo context.request context.defaultSection scope) (strip : Bool) (text : String) :
    Echoes (do
        (Walk.simple context context.defaultSection none openTags strip).appendText text
        return Walk.simple context context.defaultSection none openTags false) (pure text) s t
      (SplicedStep refs slots engine context scope openTags false 0 s t) := by
  unfold Walk.appendText
  by_cases hempty : text.isEmpty
  · rw [if_pos hempty, String.isEmpty_iff.1 hempty]
    exact .step_left rfl (.pure ⟨rfl, .refl hst⟩)
  · rw [if_neg hempty]
    exact .step_left (Walk.exec_append _ _ _ s) (.pure ⟨rfl, .literal hst hs _ text⟩)

/-- The text of an expression is appended. -/
theorem echoes_splice_expression (hengine : engine.Interprets)
    (hhost : engine.host.Parametric refs (.still slots))
    (hwait : Moves.Waits (.still refs slots) wait engine.settle)
    (hst : s.Placed (.still refs slots) t)
    (hs : s.WritesTo context.request context.defaultSection scope)
    (hcontext : Refs.context.Within s.graph.extent context) (strip : Bool) (token : Nat)
    (source : String) :
    Echoes (Walk.act engine wait template
        (.simple context context.defaultSection none openTags strip) token (.expression source))
      (engine.evaluate engine.settle context.scope source) s t
      (SplicedStep refs slots engine context scope openTags false 0 s t) := by
  have hscope : Refs.scope.placed (.still slots) context.scope = context.scope :=
    Refs.scope.fixed (Placement.fixes_still slots _) hcontext
  have hevaluate := Moves.evaluate hengine hhost hwait hcontext source
  rw [← bind_pure (engine.evaluate engine.settle context.scope source), ← hscope]
  refine (Echoes.of_moves hevaluate hst (Extent.le_refl _)).bind ?_
  rintro text text' s₁ t₁ ⟨htext, -, hadvance⟩
  obtain rfl : text' = text := htext
  refine (echoes_splice_text engine hadvance.placed (hs.keeps hadvance.left) strip text').mono ?_
  rintro _ _ s' t' ⟨rfl, hspliced⟩
  have hstep := (Spliced.of_advance hadvance).trans hspliced
  rw [String.empty_append] at hstep
  exact ⟨rfl, hstep⟩

/-- The rest of a walk, behind tokens whose text is known. -/
theorem echoes_splice_rest {x : Render σ Walk} {y : Render σ String}
    (hfirst : Spliced (.still refs slots) engine context.request context.defaultSection scope count
      text s t s' t')
    (h : Echoes x y s' t' (SplicedWalks refs slots engine context scope openTags count' s' t')) :
    Echoes x (do
        let more ← y
        return text ++ more) s' t'
      (SplicedWalks refs slots engine context scope openTags (count + count') s t) := by
  rw [bind_pure_comp]
  exact h.map_right _ fun walk more s'' t'' ⟨hwalk, hrest⟩ => ⟨hwalk, hfirst.trans hrest⟩

/-- A token that is no tag, and those behind it. -/
theorem echoes_splice_cons {part : Token} {parts : List Token} {strip : Bool} {token : Nat}
    {first y : Render σ String} (hpaired : template.reading part ≠ .paired)
    (hfirst : Echoes (Walk.act engine wait template
        (.simple context context.defaultSection none openTags strip) token (template.reading part))
      first s t (SplicedStep refs slots engine context scope openTags false 0 s t))
    (hs : s.WritesTo context.request context.defaultSection scope)
    (hcontext : Refs.context.Within s.graph.extent context)
    (hrest : ∀ s₁ t₁ : Store σ, s₁.Placed (.still refs slots) t₁ →
      s₁.WritesTo context.request context.defaultSection scope →
      Refs.context.Within s₁.graph.extent context →
      Echoes (Walk.steps engine wait template
          (.simple context context.defaultSection none openTags false) (token + 1) parts) y s₁ t₁
        (SplicedWalks refs slots engine context scope openTags count s₁ t₁)) :
    Echoes (Walk.steps engine wait template
        (.simple context context.defaultSection none openTags strip) token (part :: parts))
      (do
        let text ← first
        let more ← y
        return text ++ more) s t
      (SplicedWalks refs slots engine context scope openTags count s t) := by
  rw [Walk.steps, Walk.step_eq_act _ _ hpaired]
  refine (hfirst.mapError_left _).bind ?_
  rintro _ text s₁ t₁ ⟨rfl, hspliced⟩
  have hlast := echoes_splice_rest hspliced (hrest s₁ t₁ hspliced.placed (hspliced.writesTo hs)
    (Refs.context.mono hspliced.grows hcontext))
  rw [Nat.zero_add] at hlast
  exact hlast

/-- All steps of the walk, by induction on the tree. -/
theorem echoes_splice_steps (hengine : engine.Interprets)
    (hhost : engine.host.Parametric refs (.still slots))
    (hwait : Moves.Waits (.still refs slots) wait engine.settle) {parts : List Token}
    {markup : Markup} (hmarkup : markup.IsOf template parts)
    (htexts : ∀ part ∈ parts, ∀ tag invocation, part.Opens tag invocation →
      ∀ target, engine.resolvePath context invocation.path = .ok target →
        engine.PrintsAt texts target)
    (hst : s.Placed (.still refs slots) t)
    (hs : s.WritesTo context.request context.defaultSection scope)
    (hcontext : Refs.context.Within s.graph.extent context) (strip : Bool) (token : Nat) :
    Echoes (Walk.steps engine wait template
        (.simple context context.defaultSection none openTags strip) token parts)
      (markup.splice engine texts context strip) s t
      (SplicedWalks refs slots engine context scope openTags markup.tags s t) := by
  induction hmarkup generalizing s t scope openTags strip token with
  | nil => exact .pure ⟨⟨strip, rfl⟩, .refl hst⟩
  | @text part parts text rest hreading _ ih =>
    have hpaired : template.reading part ≠ .paired := by
      rw [hreading]
      exact nofun
    have hhead : Echoes (Walk.act engine wait template
        (.simple context context.defaultSection none openTags strip) token (template.reading part))
        (pure (if strip then stripLineEnd text else text)) s t
        (SplicedStep refs slots engine context scope openTags false 0 s t) := by
      rw [hreading]
      exact echoes_splice_text engine hst hs strip _
    exact echoes_splice_cons hpaired hhead hs hcontext fun s₁ t₁ hst₁ hs₁ hcontext₁ =>
      ih (fun other hother => htexts other (List.mem_cons_of_mem part hother)) hst₁ hs₁ hcontext₁
        false (token + 1)
  | @expression part parts source rest hreading _ ih =>
    have hpaired : template.reading part ≠ .paired := by
      rw [hreading]
      exact nofun
    have hhead : Echoes (Walk.act engine wait template
        (.simple context context.defaultSection none openTags strip) token (template.reading part))
        (engine.evaluate engine.settle context.scope source) s t
        (SplicedStep refs slots engine context scope openTags false 0 s t) := by
      rw [hreading]
      exact echoes_splice_expression hengine hhost hwait hst hs hcontext strip token source
    exact echoes_splice_cons hpaired hhead hs hcontext fun s₁ t₁ hst₁ hs₁ hcontext₁ =>
      ih (fun other hother => htexts other (List.mem_cons_of_mem part hother)) hst₁ hs₁ hcontext₁
        false (token + 1)
  | @paired opener closer inner parts tag invocation body rest hopens _ hcloses _ ihBody ihRest =>
    have hopener := htexts opener (List.mem_append_left _ (List.mem_cons_self ..)) tag invocation
      hopens
    have hinner := fun other hother =>
      htexts other (List.mem_append_left _ (List.mem_cons_of_mem opener hother))
    have hrest := fun other hother =>
      htexts other (List.mem_append_right _ (List.mem_cons_of_mem closer hother))
    have hopening : exec (mapError (locate template token) (Walk.step engine wait template
        (.simple context context.defaultSection none openTags strip) token opener)) s =
        (.ok (.simple context context.defaultSection none
          (.of tag token context.defaultSection context.request scope s :: openTags) true),
          context.opened context.defaultSection s) := by
      rw [exec_mapError, Walk.exec_step_opens hopens]
      unfold Walk.opening Walk.simple OpenTag.of
      dsimp only
      rw [hs.current]
      rfl
    rw [List.cons_append, Walk.steps, Markup.splice]
    refine .step_left hopening ?_
    rw [Walk.steps_append]
    refine (ihBody hinner (hst.setSections_left _ _) (.pushed hs.live _) hcontext true
      (token + 1)).bind ?_
    rintro _ text s₁ t₁ ⟨⟨strip₁, rfl⟩, hbody⟩
    rw [Walk.steps]
    refine ((echoes_splice_close hengine hhost hwait hs (Refs.context.mono hbody.grows hcontext)
      hopens.invokes hcloses hopener hbody _).mapError_left _).bind ?_
    rintro _ child s₂ t₂ ⟨rfl, hclosed⟩
    exact echoes_splice_rest hclosed (ihRest hrest hclosed.placed (hclosed.writesTo hs)
      (Refs.context.mono hclosed.grows hcontext) true _)

/-- The whole walk. -/
theorem echoes_splice_run (hengine : engine.Interprets)
    (hhost : engine.host.Parametric refs (.still slots))
    (hwait : Moves.Waits (.still refs slots) wait engine.settle) {markup : Markup}
    (hmarkup : markup.IsOf template template.tokens)
    (htexts : ∀ part ∈ template.tokens, ∀ tag invocation, part.Opens tag invocation →
      ∀ target, engine.resolvePath context invocation.path = .ok target →
        engine.PrintsAt texts target)
    (hst : s.Placed (.still refs slots) t)
    (hs : s.WritesTo context.request context.defaultSection scope)
    (hcontext : Refs.context.Within s.graph.extent context) :
    Echoes (Walk.run engine wait template context) (markup.splice engine texts context false) s t
      (SplicedWalks refs slots engine context scope [] markup.tags s t) := by
  have hsteps : Echoes (Walk.steps engine wait template (.start context) 0 template.tokens)
      (markup.splice engine texts context false) s t
      (SplicedWalks refs slots engine context scope [] markup.tags s t) :=
    echoes_splice_steps hengine hhost hwait hmarkup htexts hst hs hcontext false 0
  rw [← bind_pure (markup.splice engine texts context false)]
  unfold Walk.run
  refine hsteps.bind ?_
  rintro _ text s' t' ⟨⟨strip, rfl⟩, hspliced⟩
  exact .pure ⟨⟨strip, rfl⟩, hspliced⟩

end Steps

/-! ## Pages -/

/-- What a template with paired tags does from `s` to `s'` is what the evaluation of its text does
from `s` to `t`; besides, templates are read. -/
structure Store.Retraces (file : String) (sources : List String) (s s' t : Store σ) : Prop where
  /-- All values are the same. -/
  graph : s'.graph = t.graph
  /-- So is the state of the host. -/
  host : s'.host = t.host
  /-- The same redirects were asked for. -/
  redirect : ∀ id, s'.redirect id = t.redirect id
  /-- The template is read first, the ones that it nests are read last. In between, each expression is
  evaluated once, in the order of the source. -/
  journal : ∃ events readings, t.journal = events ++ s.journal ∧
    s'.journal = readings ++ (events ++ .reading file :: s.journal) ∧
    (∀ event ∈ readings, ∃ path, event = .reading path) ∧
    events.reverse.filterMap Event.source? = sources

/-- The walk of a template, which was read and pushed its scope, and then its fragments, which were
rendered before the scope was popped. -/
theorem Store.Retraces.of_replays {file owner : String} {templates : TemplateCache}
    {sources : List String} {s₂ s₃ : Store σ} {a b : Nat} {events : List Event}
    (hspliced : Spliced (.still refs slots) engine request home scope count text
      ((s.fetched file templates).pushed request home owner) s s₂ t)
    (hreplays : s₂.Replays engine.read request home a b s₃)
    (hevents : t.journal = events ++ s.journal)
    (hsources : events.reverse.filterMap Event.source? = sources) :
    s.Retraces file sources (s₃.popped request home) t where
  graph := hreplays.graph.trans hspliced.placed.graph_eq.symm
  host := hreplays.host.trans (hspliced.placed.host.trans
    (refs.fixed (Placement.fixes_still slots _) hspliced.placed.within)).symm
  redirect id := (Store.redirect_setSections _ _ _ _).trans
    ((hreplays.redirect id).trans (hspliced.placed.redirect id).symm)
  journal := by
    obtain ⟨walked, hwalked, hwalked'⟩ := hspliced.journal
    obtain ⟨readings, hreadings, hreading⟩ := hreplays.journal
    obtain rfl : walked = events := List.append_cancel_right (hwalked'.symm.trans hevents)
    refine ⟨walked, readings, hevents, hreadings.trans ?_, hreading, hsources⟩
    exact congrArg (readings ++ ·) hwalked

/-- A template of texts, expressions and paired tags has the text of its tree, if those that the tags
invoke print their content. -/
theorem exec_render_splices (hengine : engine.Interprets)
    (hhost : engine.host.Parametric refs (.still slots)) {page : CompiledTemplate}
    (hopened : engine.opened context = .ok page)
    (hmarkup : ∀ part ∈ page.tokens, (page.reading part).isMarkup)
    (htexts : ∀ part ∈ page.tokens, ∀ tag invocation, part.Opens tag invocation →
      ∀ target, engine.resolvePath context invocation.path = .ok target →
        engine.PrintsAt texts target)
    (hst : s.Placed (.still refs slots) s) (hlive : context.request.index < s.requests.size)
    (hhonest : s.templates.Honest engine.read)
    (hcontext : Refs.context.Within s.graph.extent context) {fuel : Nat}
    (hfuel : page.tokens.length < fuel)
    (h : exec (engine.render fuel context) s = (.ok text, s')) :
    ∃ (markup : Markup) (t : Store σ), markup.IsOf page page.tokens ∧
      exec (markup.splice engine texts context false) s = (.ok text, t) ∧
      s.Retraces context.filePath markup.sources s' t := by
  obtain ⟨fuel, rfl⟩ : ∃ lower, fuel = lower + 1 := ⟨fuel - 1, by omega⟩
  obtain ⟨template, s₁, walk, s₂, s₃, hfetch, hwalk, hrender, rfl⟩ := exec_renderTemplate_eq_ok h
  obtain ⟨templates, hhonest', hfetch'⟩ := exec_fetch_of_opened hhonest hopened
  cases hfetch.symm.trans hfetch'
  have hbracketed := Walk.bracketed_of_run id (List.map_id _).symm hwalk
  obtain ⟨markup, hof⟩ := Markup.exists_of_bracketed hbracketed hmarkup
  have hfetched : (s.fetched context.filePath templates).Placed (.still refs slots) s :=
    { hst with }
  have hpushed : ((s.fetched context.filePath templates).pushed context.request
      context.defaultSection context.viewPath).Placed (.still refs slots) s :=
    hfetched.setSections_left _ _
  have hlive₁ : context.request.index < (s.fetched context.filePath templates).requests.size := hlive
  obtain ⟨_, t, hsplice, ⟨strip, rfl⟩, hspliced⟩ := echoes_splice_run hengine hhost
    (Moves.waitFor hhost) hof htexts hpushed (.pushed hlive₁ _) hcontext _ _
    hwalk
  obtain ⟨fragments, hwrites, hfilled⟩ := hspliced.written
  have hsections := hwrites.sections
  rw [Store.sections_pushed hlive₁] at hsections
  have hslots : 2 * (s₂.slots.size - s.slots.size) ≤ fuel := by
    have hsize : s₂.slots.size = s.slots.size + markup.tags := hspliced.slots
    have htags := hof.tags_le
    omega
  have hlive₂ : context.request.index < s₂.requests.size :=
    (hspliced.writesTo (.pushed hlive₁ _)).live
  obtain ⟨s₃', hrender', hreplays⟩ :=
    exec_filled hfilled hslots (hwrites.honest hhonest') hlive₂
  have hscope : exec (renderScope (engine.produce fuel) context.request
      ⟨((s.fetched context.filePath templates).sections context.request).scopes.size⟩) s₂ =
      (.ok text, s₃) := hrender
  unfold renderScope at hscope
  rw [exec_bind_ok (exec_withSections _ _ _), hsections.fragments_pushed, hrender'] at hscope
  cases hscope
  obtain ⟨events, hevents, hsources⟩ :=
    evaluates_splice hengine texts context false markup _ _ _ hsplice
  exact ⟨markup, t, hof, hsplice, .of_replays hspliced hreplays hevents hsources⟩

/-! ## Requests -/

/-- The template at `file` consists of texts, expressions and paired tags, and the templates that the
tags invoke consist of two texts around their content. -/
structure Engine.Pairs (engine : Engine σ) (texts : String → String × String) (file : String)
    (page : CompiledTemplate) : Prop where
  /-- It is the template at the file. -/
  compiled : engine.compiled file = .ok page
  /-- There is nothing else in it. -/
  markup : ∀ part ∈ page.tokens, (page.reading part).isMarkup
  /-- What the tags invoke prints its content. -/
  source : ∀ part ∈ page.tokens, ∀ tag invocation, part.Opens tag invocation →
    ∀ target, engine.fileFrom file invocation.path = .ok target →
      engine.read target = .ok (Frame.prints (texts target).1 (texts target).2).source
  /-- The two texts have no openers. -/
  literal : ∀ part ∈ page.tokens, ∀ tag invocation, part.Opens tag invocation →
    ∀ target, engine.fileFrom file invocation.path = .ok target →
      (Frame.prints (texts target).1 (texts target).2).Literal

/-- What the tags of a context at the file invoke prints its content. -/
theorem Engine.Pairs.printsAt {page : CompiledTemplate} {file : String}
    (h : engine.Pairs texts file page) (hfile : context.filePath = file)
    (hbase : context.basePaths = .empty) :
    ∀ part ∈ page.tokens, ∀ tag invocation, part.Opens tag invocation →
      ∀ target, engine.resolvePath context invocation.path = .ok target →
        engine.PrintsAt texts target := by
  intro part hpart tag invocation hopens target htarget
  rw [Engine.resolvePath_eq_fileFrom hbase, hfile] at htarget
  exact Engine.compiled_of_source (h.literal part hpart tag invocation hopens target htarget)
    (h.source part hpart tag invocation hopens target htarget)

/-- Bodies of paired tags stand where their tags are. A page of texts, expressions and paired tags
whose templates print their content has the text of its tree; its expressions are evaluated once
each, in the order of the source and with the data of the page, and else templates are read only.
Values of the store refer to what is there, and to slots only that are not waiting; what was kept of
templates has to be honest. -/
theorem renderView_splices (config : Config) (read : String → Except Error String) (host : Host σ)
    (refs : Refs σ) (slots : SlotId → Prop) (hhost : host.Parametric refs (.still slots))
    (texts : String → String × String) (path : String) (page : CompiledTemplate)
    (hpairs : (Engine.interpreting config read host).Pairs texts
      ((Engine.interpreting config read host).fileOf path) page)
    (s : Store σ) (hst : s.Placed (.still refs slots) s) (hhonest : s.templates.Honest read)
    (data : ObjectId) (hdata : data.index < s.graph.objects.size) (fuel : Nat)
    (hfuel : page.tokens.length < fuel) (text : String) (s' : Store σ)
    (h : exec ((Engine.interpreting config read host).renderView fuel path data) s =
      (.ok (.html text), s')) :
    ∃ (context : Context) (graph : Graph) (markup : Markup) (t : Store σ),
      exec ((Engine.interpreting config read host).context path data) s =
        (.ok context, s.withRequest graph) ∧
      context.data = data ∧ markup.IsOf page page.tokens ∧
      exec (markup.splice (Engine.interpreting config read host) texts context false)
        (s.withRequest graph) = (.ok text, t) ∧
      (s.withRequest graph).Retraces ((Engine.interpreting config read host).fileOf path)
        markup.sources s' t := by
  obtain ⟨context, graph, graph', hcontext, hcontext', hrequest, htop, hplaced, hwithin, -⟩ :=
    exec_context_still (Engine.interpreting config read host) path hdata hst
  have hgraph : s.withRequest graph = s.withRequest graph' :=
    congrArg Prod.snd (hcontext.symm.trans hcontext')
  rw [← hgraph] at hplaced
  obtain ⟨hrender, -⟩ := exec_renderView_eq_html hcontext h
  have hlive : context.request.index < (s.withRequest graph).requests.size := by
    rw [hrequest]
    exact Nat.lt_of_lt_of_eq (Nat.lt_succ_self _) (Array.size_push _).symm
  have hcompiled := hpairs.compiled
  have hfile : context.filePath = (Engine.interpreting config read host).fileOf path := htop.filePath
  rw [← hfile] at hcompiled ⊢
  have hopened := Engine.opened_of_compiled (htop.depth ▸ Nat.zero_le _) hcompiled
  obtain ⟨markup, t, hof, hsplice, hretraces⟩ :=
    exec_render_splices (Engine.interprets_interpreting config read host) hhost hopened
      hpairs.markup (hpairs.printsAt hfile htop.basePaths) hplaced hlive hhonest hwithin hfuel hrender
  exact ⟨context, graph, markup, t, hcontext, data_of_context hcontext, hof, hsplice, hretraces⟩

/-! ## A page -/

/-- A page with a tag in the body of another one, and the templates that they invoke. -/
def splicedPages : List (String × String) :=
  [("/page.html", "<$:view $path=\"outer\">\n$\x7b'a' + 'b'\x7d" ++
      "<$:include $path=\"inner\">x</$:include>\n!</$:view>\n."),
   ("/outer.html", "[$\x7b#render content\x7d\n]"), ("/inner.html", "($\x7b#render content\x7d)")]

/-- The engine of these templates. -/
def splicedEngine : Engine Unit := .inMemory .standard splicedPages

/-- The texts of the templates that are invoked. -/
def splicedTexts (file : String) : String × String :=
  if file = "/outer.html" then ("[", "\n]") else ("(", ")")

theorem literal_splicedTexts (file : String) :
    (Frame.prints (splicedTexts file).1 (splicedTexts file).2).Literal := by
  unfold splicedTexts
  split
  · rintro text (_ | ⟨_, _ | ⟨_, ⟨⟩⟩⟩)
    · exact (literal_spec "[".toList).2.1
    · exact (literal_spec "\n]".toList).2.1
  · rintro text (_ | ⟨_, _ | ⟨_, ⟨⟩⟩⟩)
    · exact (literal_spec "(".toList).2.1
    · exact (literal_spec ")".toList).2.1

/-- The bodies of such a page stand between the texts of the templates. -/
theorem renderView_splices_page :
    ∃ (page : CompiledTemplate) (s' : Store Unit) (context : Context) (graph : Graph)
      (markup : Markup) (t : Store Unit),
      splicedEngine.compiled (splicedEngine.fileOf "/page") = .ok page ∧
      exec (splicedEngine.renderView 100 "/page" ⟨0⟩) .withData = (.ok (.html "[ab(x)!]."), s') ∧
      context.data = ⟨0⟩ ∧ markup.IsOf page page.tokens ∧
      exec (markup.splice splicedEngine splicedTexts context false)
        (Store.withData.withRequest graph) = (.ok "[ab(x)!].", t) ∧
      (Store.withData.withRequest graph).Retraces (splicedEngine.fileOf "/page") markup.sources
        s' t := by
  have hrendered : (exec (splicedEngine.renderView 100 "/page" ⟨0⟩) .withData).1.toOption =
      some (.html "[ab(x)!].") := by
    decide +kernel
  have hcompiled : (splicedEngine.compiled (splicedEngine.fileOf "/page")).toOption.isSome := by
    decide +kernel
  have hcheck : splicedEngine.checks (splicedEngine.fileOf "/page") fun page =>
      decide (page.tokens.length < 100) &&
        (page.tokens.all (fun part => (page.reading part).isMarkup) &&
          splicedEngine.invokesIn ["/outer.html", "/inner.html"] (splicedEngine.fileOf "/page")
            page) := by
    decide +kernel
  rcases hpage : splicedEngine.compiled (splicedEngine.fileOf "/page") with error | page
  · rw [hpage] at hcompiled
    cases hcompiled
  rcases h : exec (splicedEngine.renderView 100 "/page" ⟨0⟩) .withData with ⟨stop | rendered, s'⟩
  · rw [h] at hrendered
    cases hrendered
  rw [h] at hrendered
  cases hrendered
  obtain ⟨hlength, hrest⟩ := Bool.and_eq_true_iff.1 (Engine.check_of_checks hcheck hpage)
  obtain ⟨hmarkup, hinvokes⟩ := Bool.and_eq_true_iff.1 hrest
  have hsource : ∀ target ∈ ["/outer.html", "/inner.html"], splicedEngine.read target =
      .ok (Frame.prints (splicedTexts target).1 (splicedTexts target).2).source := by
    rintro target (_ | ⟨_, _ | ⟨_, ⟨⟩⟩⟩) <;> rfl
  have hpairs : splicedEngine.Pairs splicedTexts (splicedEngine.fileOf "/page") page := {
    compiled := hpage
    markup := List.all_eq_true.1 hmarkup
    source := fun part hpart tag invocation hopens target htarget =>
      hsource target (Engine.mem_of_invokesIn hinvokes hpart (.inr ⟨tag, hopens⟩) htarget)
    literal := fun _ _ _ _ _ target _ => literal_splicedTexts target }
  obtain ⟨context, graph, markup, t, -, hdata, hof, hsplice, hretraces⟩ :=
    renderView_splices { Config.standard with cacheSize := 0 } _ Host.none .free (fun _ => False)
      (Host.parametric_none _) splicedTexts "/page" page hpairs .withData
      (Store.placed_withData (Grammar.parse_sum "a" "b")) TemplateCache.honest_nothing ⟨0⟩
      (by decide) 100 (of_decide_eq_true hlength) _ s' h
  exact ⟨page, s', context, graph, markup, t, rfl, rfl, hdata, hof, hsplice, hretraces⟩

end TemplateEngine
