import TemplateEngine.Proofs.Engine.Moving
import TemplateEngine.Proofs.Engine.Page
import TemplateEngine.Proofs.Engine.Pairing
import TemplateEngine.Proofs.Engine.Tracking
import TemplateEngine.Proofs.Render.Echo

/-!
# `Engine` · Simple walks on placed stores

Templates that consist of texts, expressions and nested templates are walked wherever the values
stand, and whatever else there is in the sections.

* **`Context.echo`**: a context on the other store.
* **`Fragment.Echoed`**: a fragment, and the one that is written to the other store for it.
* **`echoes_act`** is one reading of a walk, **`echoes_steps`** all of them, by induction on the
  pairs of tags, and **`echoes_run`** the whole walk of a template. One of the two templates may ask
  for a layout where the other one goes on in its own section.
-/

namespace TemplateEngine

open Render TemplateEngine.Text TemplateEngine.Template

variable {σ : Type}

/-- An engine that reads other templates. -/
def Engine.withRead (engine : Engine σ) (read : String → Except Error String) : Engine σ :=
  { engine with read := read }

/-- A context on another store: its data and its names are at their places there. What it could
print may be something else. -/
def Context.echo (p : Placement) (slot : Option SlotId) (context : Context) : Context :=
  { Refs.context.placed p context with slot := slot }

variable {m : Motion σ} {engine : Engine σ} {read' : String → Except Error String}
  {request : RequestId} {home : String} {scope scope' : ScopeId} {known : Context → Prop}
  {s t s' t' : Store σ}

/-! ## Stores -/

/-- Output for a section of a request goes to a scope. -/
structure Store.WritesTo (request : RequestId) (home : String) (scope : ScopeId) (s : Store σ) :
    Prop where
  /-- The request exists. -/
  live : request.index < s.requests.size
  /-- The scope is the current one. -/
  current : (s.sections request).current home = some scope
  /-- It exists. -/
  within : scope.index < (s.sections request).scopes.size

namespace Store.WritesTo

variable {read : String → Except Error String}

theorem writes {fragments : List (Fragment Deferred)} (h : s.WritesTo request home scope)
    (hwrites : s.Writes read request home scope fragments s') : s'.WritesTo request home scope where
  live := Nat.lt_of_lt_of_eq h.live hwrites.requests.symm
  current := hwrites.sections.current.trans h.current
  within := Nat.lt_of_lt_of_le h.within hwrites.sections.size

/-- Evaluations leave it so. -/
theorem keeps (h : s.WritesTo request home scope) (hkeeps : s.KeepsOutput s') :
    s'.WritesTo request home scope where
  live := Nat.lt_of_lt_of_eq h.live hkeeps.rests.requests.symm
  current := by
    rw [hkeeps.rests.sections]
    exact h.current
  within := by
    rw [hkeeps.rests.sections]
    exact h.within

theorem appended (h : s.WritesTo request home scope) (read : String → Except Error String)
    (owner : String) (fragment : Fragment Deferred) :
    s.Writes read request home scope [fragment] (s.appended request home owner fragment) where
  requests := Store.requests_size_setSections s request _
  sections := by
    unfold Store.appended
    rw [Store.sections_setSections_self h.live]
    exact Sections.extends_add h.current h.within owner fragment
  slots _ _ := rfl
  honest hhonest := hhonest

theorem pushed (hlive : request.index < s.requests.size) (owner : String) :
    (s.pushed request home owner).WritesTo request home ⟨(s.sections request).scopes.size⟩ where
  live := Nat.lt_of_lt_of_eq hlive (Store.requests_size_setSections s request _).symm
  current := by
    rw [Store.sections_pushed hlive]
    exact Sections.current_push _ _ _
  within := by
    rw [Store.sections_pushed hlive, Sections.size_push]
    exact Nat.lt_succ_self _

end Store.WritesTo

/-! ## Fragments -/

/-- A fragment, and the one that corresponds to it on the other store. -/
inductive Fragment.Echoed (p : Placement) (e : Extent) (known : Context → Prop) :
    Fragment Deferred → Fragment Deferred → Prop where
  /-- The same text. -/
  | literal (text : String) : Echoed p e known ⟨.literal text, .normal⟩ ⟨.literal text, .normal⟩
  /-- The same nested template. -/
  | nested {child : Context} (hknown : known child) (hwithin : Refs.context.Within e child)
    (slot : Option SlotId) (template template' : CompiledTemplate) (token token' : Nat) :
    Echoed p e known ⟨.deferred ⟨.template child, template, token⟩, .nestedView⟩
      ⟨.deferred ⟨.template (child.echo p slot), template', token'⟩, .nestedView⟩

/-- Fragments that correspond. -/
abbrev EchoedFragments (p : Placement) (e : Extent) (known : Context → Prop) :
    List (Fragment Deferred) → List (Fragment Deferred) → Prop :=
  List.Forall₂ (Fragment.Echoed p e known)

theorem Fragment.Echoed.mono {p : Placement} {e e' : Extent} (he : e ≤ e')
    {fragment fragment' : Fragment Deferred} (h : fragment.Echoed p e known fragment') :
    fragment.Echoed p e' known fragment' := by
  cases h with
  | literal text => exact .literal text
  | nested hknown hwithin slot template template' token token' =>
    exact .nested hknown (Refs.context.mono he hwithin) slot template template' token token'

/-- Both walks have written what corresponds. -/
def Echoed (m : Motion σ) (read read' : String → Except Error String) (request : RequestId)
    (home : String) (scope scope' : ScopeId) (known : Context → Prop) (s t s' t' : Store σ) :
    Prop :=
  ∃ fragments fragments', EchoedFragments m.toPlacement s'.graph.extent known fragments fragments' ∧
    Passage m read read' request home scope scope' fragments fragments' s t s' t'

namespace Echoed

variable {read : String → Except Error String} {s'' t'' : Store σ}

theorem refl (h : s.Placed m t) : Echoed m read read' request home scope scope' known s t s t :=
  ⟨[], [], .nil, .refl h⟩

theorem trans (h : Echoed m read read' request home scope scope' known s t s' t')
    (h' : Echoed m read read' request home scope scope' known s' t' s'' t'') :
    Echoed m read read' request home scope scope' known s t s'' t'' := by
  obtain ⟨fragments, fragments', hfragments, hpassage⟩ := h
  obtain ⟨rest, rest', hrest, hpassage'⟩ := h'
  refine ⟨fragments ++ rest, fragments' ++ rest', ?_, hpassage.trans hpassage'⟩
  exact List.rel_append (hfragments.imp fun _ _ => .mono hpassage'.grows) hrest

theorem of_advance (h : Advance m s t s' t') :
    Echoed m read read' request home scope scope' known s t s' t' :=
  ⟨[], [], .nil, .of_advance h⟩

/-- Appends of fragments that correspond. -/
theorem append (hst : s.Placed m t) (hs : s.WritesTo request home scope)
    (ht : t.WritesTo request home scope') {fragment fragment' : Fragment Deferred}
    (h : fragment.Echoed m.toPlacement s.graph.extent known fragment') (owner owner' : String) :
    Echoed m read read' request home scope scope' known s t
      (s.appended request home owner fragment) (t.appended request home owner' fragment') := by
  refine ⟨[fragment], [fragment'], .cons h .nil, ?_⟩
  exact {
    placed := hst.setSections _ _ _ _
    beside := .refl _ _
    grows := Extent.le_refl _
    left := hs.appended _ owner fragment
    right := ht.appended _ owner' fragment'
    journal := ⟨[], rfl, rfl⟩ }

end Echoed

/-! ## Nested templates -/

/-- The walk over a template that leaves neither its context nor its section. -/
def Walk.simple (context : Context) (home : String) (layout : Option LayoutRequest)
    (openTags : List OpenTag) (strip : Bool) : Walk := ⟨context, home, layout, openTags, strip⟩

section Walks

variable {context : Context} {slot : Option SlotId} {layout : Option LayoutRequest}
  {openTags openTags' : List OpenTag} {strip : Bool} {wait wait' : PromiseId → Render σ Value}

/-- A nested template is prepared in the same way, with whatever body. -/
theorem echoes_prepare (hengine : engine.Interprets)
    (hhost : engine.host.Parametric m.host m.toPlacement) (hwait : Moves.Waits m wait wait')
    (hst : s.Placed m t) {walk walk' : Walk}
    (hcontext : Refs.context.Within s.graph.extent walk.context)
    (hecho : walk'.context = walk.context.echo m.toPlacement slot)
    (hactive : walk'.active = walk.active) (invocation : Invocation) (body body' : Option SlotId) :
    Echoes (walk.prepare engine wait (invocation.withBody body))
      (walk'.prepare engine wait' (invocation.withBody body')) s t
      fun child child' s' t' => (∃ slot', child' = child.echo m.toPlacement slot') ∧
        Refs.context.Within s'.graph.extent child ∧
        Nested engine walk.context walk.active invocation child ∧ Advance m s t s' t' := by
  let placed : Walk := { walk with context := Refs.context.placed m.toPlacement walk.context }
  have hprepare := Moves.prepare hengine hhost hwait walk placed rfl rfl (invocation.withBody body)
    fun _ => hcontext.1
  have hcontext' : walk'.context = { placed.context with slot := slot } := hecho
  have hactive' : walk'.active = placed.active := hactive
  rw [Walk.prepare_withBody slot hcontext' hactive' invocation body body']
  refine ((Echoes.of_moves hprepare hst (Extent.le_refl _)).and_left
    (ensures_prepare wait walk _ s)).map_right _ ?_
  rintro child _ s' t' ⟨⟨rfl, hwithin, hadvance⟩, hnested⟩
  exact ⟨⟨_, rfl⟩, hwithin, ⟨hnested.request, hnested.defaultSection, hnested.basePaths,
    hnested.depth, hnested.bounded, hnested.filePath⟩, hadvance⟩

/-- A nested template is invoked by both walks. -/
theorem echoes_invoke (hengine : engine.Interprets)
    (hhost : engine.host.Parametric m.host m.toPlacement) (hwait : Moves.Waits m wait wait')
    (hst : s.Placed m t) {walk walk' : Walk} (hs : s.WritesTo walk.context.request walk.active scope)
    (ht : t.WritesTo walk.context.request walk.active scope')
    (hcontext : Refs.context.Within s.graph.extent walk.context)
    (hecho : walk'.context = walk.context.echo m.toPlacement slot)
    (hactive : walk'.active = walk.active) (invocation : Invocation) (body body' : Option SlotId)
    (hnest : ∀ child, Nested engine walk.context walk.active invocation child → known child)
    (template template' : CompiledTemplate) (token token' : Nat) :
    Echoes (walk.invoke engine wait template token (invocation.withBody body))
      (walk'.invoke (engine.withRead read') wait' template' token' (invocation.withBody body')) s t
      fun _ _ s' t' => Echoed m engine.read read' walk.context.request walk.active scope scope' known
        s t s' t' := by
  refine (echoes_prepare hengine hhost hwait hst hcontext hecho hactive invocation body body').bind ?_
  rintro child _ s₁ t₁ ⟨⟨slot', rfl⟩, hwithin, hnested, hadvance⟩
  have hs₁ := hs.keeps hadvance.left
  have ht₁ := ht.keeps hadvance.right
  have hfragment : Fragment.Echoed m.toPlacement s₁.graph.extent known
      ⟨.deferred ⟨.template child, template, token⟩, .nestedView⟩
      ⟨.deferred ⟨.template (child.echo m.toPlacement slot'), template', token'⟩, .nestedView⟩ :=
    .nested (hnest child hnested) hwithin slot' template template' token token'
  rintro _ _ ⟨⟩
  refine ⟨_, _, Walk.exec_append walk' _ .nestedView t₁, ?_⟩
  rw [hecho, hactive]
  exact (Echoed.of_advance hadvance).trans (.append hadvance.placed hs₁ ht₁ hfragment _ _)

/-- The same text is appended by both walks. -/
theorem echoes_appendText (hst : s.Placed m t) (hs : s.WritesTo context.request home scope)
    (ht : t.WritesTo context.request home scope') (text : String) :
    Echoes ((Walk.simple context home none openTags strip).appendText text)
      ((Walk.simple (context.echo m.toPlacement slot) home layout openTags' strip).appendText text)
      s t fun _ _ s' t' => Echoed m engine.read read' context.request home scope scope' known s t s'
        t' := by
  unfold Walk.appendText
  split
  · exact .pure (.refl hst)
  · rintro _ _ ⟨⟩
    exact ⟨_, _, Walk.exec_append _ (.literal text) .normal t,
      .append hst hs ht (.literal text) _ _⟩

/-! ## Readings -/

/-- A reading of a simple template. -/
def Reading.isSimple : Reading → Bool
  | .base .. => false
  | .layout _ => false
  | .section _ => false
  | .render .. => false
  | _ => true

/-- Both walks are behind some tokens, and have written what corresponds. -/
def EchoedWalks (m : Motion σ) (read read' : String → Except Error String) (home : String)
    (scope scope' : ScopeId) (known : Context → Prop) (context : Context) (slot : Option SlotId)
    (layout : Option LayoutRequest) (openTags openTags' : List OpenTag) (strip : Bool)
    (s t : Store σ) (walk walk' : Walk) (s' t' : Store σ) : Prop :=
  walk = .simple context home none openTags strip ∧
    walk' = .simple (context.echo m.toPlacement slot) home layout openTags' strip ∧
      Echoed m read read' context.request home scope scope' known s t s' t'

/-- One reading of a simple template, except for paired tags. -/
theorem echoes_act (hengine : engine.Interprets)
    (hhost : engine.host.Parametric m.host m.toPlacement) (hwait : Moves.Waits m wait wait')
    (hst : s.Placed m t) (hs : s.WritesTo context.request home scope)
    (ht : t.WritesTo context.request home scope')
    (hcontext : Refs.context.Within s.graph.extent context) {reading : Reading}
    (hsimple : reading.isSimple) (hpaired : reading ≠ .paired)
    (hnest : ∀ invocation child, reading = .nest invocation →
      Nested engine context home invocation child → known child)
    (template template' : CompiledTemplate) (token token' : Nat) :
    Echoes (Walk.act engine wait template (.simple context home none openTags strip) token reading)
      (Walk.act (engine.withRead read') wait' template'
        (.simple (context.echo m.toPlacement slot) home layout openTags' strip) token' reading) s t
      (EchoedWalks m engine.read read' home scope scope' known context slot layout openTags openTags'
        reading.consumesLine s t) := by
  match reading, hsimple with
  | .text text, _ =>
    exact (echoes_appendText hst hs ht _).bind fun _ _ s' t' hechoed => .pure ⟨rfl, rfl, hechoed⟩
  | .fault error, _ => exact nofun
  | .expression source, _ =>
    have hevaluate := Moves.evaluate hengine hhost hwait hcontext source
    refine (Echoes.of_moves hevaluate hst (Extent.le_refl _)).bind ?_
    rintro text text' s₁ t₁ ⟨htext, -, hadvance⟩
    obtain rfl : text' = text := htext
    have hs₁ := hs.keeps hadvance.left
    have ht₁ := ht.keeps hadvance.right
    exact (echoes_appendText hadvance.placed hs₁ ht₁ text').bind fun _ _ s' t' hechoed =>
      .pure ⟨rfl, rfl, (Echoed.of_advance hadvance).trans hechoed⟩
  | .effect source, _ =>
    rcases hempty : source.isEmpty with _ | _
    · have hevaluate := Moves.evaluateValue hengine hhost hwait hcontext source
      simp only [Walk.act, Walk.direct, hempty, Bool.not_false, if_true]
      refine (Echoes.of_moves hevaluate hst (Extent.le_refl _)).bind ?_
      rintro value _ s₁ t₁ ⟨-, -, hadvance⟩
      exact .pure ⟨rfl, rfl, .of_advance hadvance⟩
    · simp only [Walk.act, Walk.direct, hempty]
      exact .pure ⟨rfl, rfl, .refl hst⟩
  | .nest invocation, _ =>
    have hwalk : (Walk.simple (context.echo m.toPlacement slot) home layout openTags' true).context =
        (Walk.simple context home none openTags true).context.echo m.toPlacement slot := rfl
    exact (echoes_invoke hengine hhost hwait hst hs ht hcontext hwalk rfl invocation
      invocation.body invocation.body (hnest invocation · rfl) template template' token
      token').bind fun _ _ s' t' hechoed => .pure ⟨rfl, rfl, hechoed⟩
  | .paired, _ => exact absurd rfl hpaired

/-! ## Tokens -/

/-- The token invokes a nested template. -/
def CompiledTemplate.Invokes (template : CompiledTemplate) (part : Token)
    (invocation : Invocation) : Prop :=
  template.reading part = .nest invocation ∨ ∃ tag, part.Opens tag invocation

/-- The same simple token of two templates; or one that goes on in the section `home`, where the
other template asks for a layout. -/
inductive Template.Token.Echoed (home : String) (template template' : CompiledTemplate)
    (part part' : Token) : Prop where
  /-- The same token. -/
  | same (hsimple : (template.reading part).isSimple) (hkind : part'.kind = part.kind)
    (htext : part'.text = part.text) : Echoed home template template' part part'
  /-- A layout is asked for. -/
  | layout (path : Option String) (hsection : template.reading part = .section home)
    (hlayout : template'.reading part' = .layout path) : Echoed home template template' part part'

/-- The reading of a token depends on its text, unless it is malformed. -/
theorem CompiledTemplate.reading_congr {template template' : CompiledTemplate} {part part' : Token}
    (hkind : part'.kind = part.kind) (htext : part'.text = part.text)
    (hfault : ∀ error, template.reading part ≠ .fault error) :
    template'.reading part' = template.reading part := by
  have hbody : part'.body = part.body := by
    unfold Token.body
    rw [hkind, htext]
  unfold reading at hfault ⊢
  rw [hkind, hbody, htext]
  rcases hpart : part.kind with _ | _ | _ | _
  · rfl
  · rfl
  · simp only [hpart, tagReading] at hfault ⊢
    rw [htext]
    rcases hparse : ServerTag.parse part.text with fault | tag
    · rw [hparse] at hfault
      exact absurd rfl (hfault _)
    · rfl
  · rfl

/-- The same opening tag. -/
theorem Template.Token.Opens.congr {part part' : Token} {tag : ServerTag} {invocation : Invocation}
    (h : part.Opens tag invocation) (hkind : part'.kind = part.kind)
    (htext : part'.text = part.text) : part'.Opens tag invocation where
  kind := hkind.trans h.kind
  parses := by
    rw [htext]
    exact h.parses
  invokes := h.invokes
  bodied := h.bodied

/-- A step of both walks, except for paired tags. The layout that is asked for in the end is
`asked`, and what is asked for after this step is `later`. -/
theorem echoes_step (hengine : engine.Interprets)
    (hhost : engine.host.Parametric m.host m.toPlacement) (hwait : Moves.Waits m wait wait')
    (hst : s.Placed m t) (hs : s.WritesTo context.request home scope)
    (ht : t.WritesTo context.request home scope')
    (hcontext : Refs.context.Within s.graph.extent context)
    {template template' : CompiledTemplate} {part part' : Token}
    (hechoed : part.Echoed home template template' part')
    (hpaired : template.reading part ≠ .paired)
    (hnest : ∀ invocation, template.Invokes part invocation →
      ∀ child, Nested engine context home invocation child → known child)
    {asked : Option String} {later : List String}
    (hasked : layout.toList.map LayoutRequest.path ++
      (((template'.reading part').layout? engine).toList ++ later) = asked.toList)
    (token token' : Nat) :
    Echoes (Walk.step engine wait template (.simple context home none openTags strip) token part)
      (Walk.step (engine.withRead read') wait' template'
        (.simple (context.echo m.toPlacement slot) home layout openTags' strip) token' part') s t
      fun walk walk' s' t' => ∃ layout' strip', EchoedWalks m engine.read read' home scope scope' known
        context slot layout' openTags openTags' strip' s t walk walk' s' t' ∧
          layout'.toList.map LayoutRequest.path ++ later = asked.toList := by
  rw [Walk.step_eq_act _ _ hpaired]
  cases hechoed with
  | same hsimple hkind htext =>
    by_cases hfault : ∃ error, template.reading part = .fault error
    · obtain ⟨error, hfault⟩ := hfault
      rw [hfault]
      exact nofun
    · have hreading : template'.reading part' = template.reading part :=
        CompiledTemplate.reading_congr hkind htext (not_exists.1 hfault)
      rw [Walk.step_eq_act _ _ (hreading ▸ hpaired), hreading]
      have hnone : (template'.reading part').layout? engine = none := by
        rw [hreading]
        generalize template.reading part = reading at hsimple
        cases reading with
        | layout path => cases hsimple
        | _ => rfl
      rw [hnone] at hasked
      exact (echoes_act hengine hhost hwait hst hs ht hcontext hsimple hpaired
        (fun invocation child h => hnest invocation (.inl h) child) template template' token
        token').mono fun walk walk' s' t' h => ⟨layout, _, h, hasked⟩
  | layout path hsection hlayout =>
    have hpaired' : template'.reading part' ≠ .paired := by
      rw [hlayout]
      exact nofun
    rw [Walk.step_eq_act _ _ hpaired', hsection, hlayout]
    rw [hlayout] at hasked
    cases layout with
    | none => exact .pure ⟨_, true, ⟨rfl, rfl, .refl hst⟩, hasked⟩
    | some existing => cases asked <;> cases hasked

/-! ## Paired tags -/

/-- The tag that is open while its body is walked. -/
def OpenTag.of (tag : ServerTag) (token : Nat) (home : String) (request : RequestId)
    (scope : ScopeId) (s : Store σ) : OpenTag :=
  ⟨tag, token, home, some scope, ⟨(s.sections request).scopes.size⟩⟩

/-- The stores behind the opening tag of a body. -/
def Context.opened (context : Context) (home : String) (s : Store σ) : Store σ :=
  s.pushed context.request home context.viewPath

/-- Both walks open a body. -/
theorem echoes_open (hs : s.WritesTo context.request home scope)
    (ht : t.WritesTo context.request home scope') {template template' : CompiledTemplate}
    {part part' : Token} {tag : ServerTag} {invocation : Invocation}
    (hopens : part.Opens tag invocation) (hkind : part'.kind = part.kind)
    (htext : part'.text = part.text) (token token' : Nat) :
    Echoes (Walk.step engine wait template (.simple context home none openTags strip) token part)
      (Walk.step (engine.withRead read') wait' template'
        (.simple (context.echo m.toPlacement slot) home layout openTags' strip) token' part') s t
      fun walk walk' s' t' =>
        walk = .simple context home none
          (.of tag token home context.request scope s :: openTags) true ∧
        walk' = .simple (context.echo m.toPlacement slot) home layout
          (.of tag token' home context.request scope' t :: openTags') true ∧
        s' = context.opened home s ∧ t' = context.opened home t := by
  intro walk s' hwalk
  rw [Walk.exec_step_opens hopens] at hwalk
  cases hwalk
  refine ⟨_, _, Walk.exec_step_opens (hopens.congr hkind htext) _ token' t, ?_, ?_, rfl, rfl⟩
  · unfold Walk.opening Walk.simple OpenTag.of
    dsimp only
    rw [hs.current]
  · have hcurrent : (t.sections (context.echo m.toPlacement slot).request).current home =
        some scope' := ht.current
    unfold Walk.opening Walk.simple OpenTag.of
    dsimp only
    rw [hcurrent]
    rfl

/-- Both walks close a body. What they wrote to it does not matter. -/
theorem echoes_close (hengine : engine.Interprets)
    (hhost : engine.host.Parametric m.host m.toPlacement) (hwait : Moves.Waits m wait wait')
    (hs : s.WritesTo context.request home scope) (ht : t.WritesTo context.request home scope')
    (hcontext : Refs.context.Within s.graph.extent context)
    {template template' : CompiledTemplate} {part part' : Token} {tag : ServerTag}
    {invocation : Invocation} (hinvokes : Invocation.ofTag tag none = .ok invocation)
    (hnest : ∀ child, Nested engine context home invocation child → known child)
    (hclose : part.kind = .closeTag) (hkind : part'.kind = part.kind)
    (htext : part'.text = part.text) {opener opener' : Nat}
    (hbody : Echoed m engine.read read' context.request home
      ⟨(s.sections context.request).scopes.size⟩ ⟨(t.sections context.request).scopes.size⟩ known
      (context.opened home s) (context.opened home t) s' t') (token token' : Nat) :
    Echoes (Walk.step engine wait template (.simple context home none
        (.of tag opener home context.request scope s :: openTags) strip) token part)
      (Walk.step (engine.withRead read') wait' template'
        (.simple (context.echo m.toPlacement slot) home layout
          (.of tag opener' home context.request scope' t :: openTags') strip) token' part') s' t'
      (EchoedWalks m engine.read read' home scope scope' known context slot layout openTags openTags'
        true s t) := by
  obtain ⟨fragments, fragments', -, hpassage⟩ := hbody
  refine .of_ok fun walk s₁ hok => ?_
  obtain ⟨opened, hopened, hname, -⟩ := Walk.openTags_of_closes hclose hok
  obtain ⟨rfl, -⟩ := List.cons.inj hopened
  have hclose' : part'.kind = .closeTag := hkind.trans hclose
  have hname' : tag.name = part'.closerName := by
    unfold Token.closerName at hname ⊢
    rw [hkind, htext]
    exact hname
  have hhistory := hpassage.left.sections.history
  have hhistory' := hpassage.right.sections.history
  unfold Context.opened at hhistory hhistory'
  rw [Store.sections_pushed hs.live, Sections.history_push, hs.current] at hhistory
  rw [Store.sections_pushed ht.live, Sections.history_push, ht.current] at hhistory'
  have htags : (Walk.simple context home none
      (.of tag opener home context.request scope s :: openTags) strip).openTags = _ := rfl
  have htags' : (Walk.simple (context.echo m.toPlacement slot) home layout
      (.of tag opener' home context.request scope' t :: openTags') strip).openTags = _ := rfl
  refine .congr (Walk.exec_step_closes hclose htags hname hinvokes hhistory token)
    (Walk.exec_step_closes hclose' htags' hname' hinvokes hhistory' token') ?_
  have hclosed := (hpassage.popped hs.live ht.live scope scope').newSlots
    ⟨.pending (((s'.popped context.request home).sections context.request).fragments
      ⟨(s.sections context.request).scopes.size⟩), false⟩
    ⟨.pending (((t'.popped context.request home).sections context.request).fragments
      ⟨(t.sections context.request).scopes.size⟩), false⟩
  have hwalk : (Walk.closing (.simple (context.echo m.toPlacement slot) home layout
        (.of tag opener' home context.request scope' t :: openTags') strip)
        (.of tag opener' home context.request scope' t) openTags').context =
      (Walk.closing (.simple context home none
        (.of tag opener home context.request scope s :: openTags) strip)
        (.of tag opener home context.request scope s) openTags).context.echo m.toPlacement slot := rfl
  exact (echoes_invoke hengine hhost hwait hclosed.placed (hs.writes hclosed.left)
    (ht.writes hclosed.right) (Refs.context.mono hclosed.grows hcontext) hwalk rfl invocation
    (some ⟨s'.slots.size⟩) (some ⟨t'.slots.size⟩) hnest template template' opener opener').bind
      fun _ _ s₂ t₂ hinvoked => .pure ⟨rfl, rfl, Echoed.trans ⟨[], [], .nil, hclosed⟩ hinvoked⟩

/-! ## Walks -/

/-- Two tokens, of two templates, that correspond and that nest only what is known. -/
structure EchoedTokens (engine : Engine σ) (home : String) (known : Context → Prop)
    (context : Context) (template template' : CompiledTemplate) (pair : Token × Token) : Prop where
  /-- They correspond. -/
  echoed : pair.1.Echoed home template template' pair.2
  /-- What they nest is known. -/
  nest : ∀ invocation, template.Invokes pair.1 invocation →
    ∀ child, Nested engine context home invocation child → known child

/-- The layout that a token of the other template asks for. -/
def askedBy (engine : Engine σ) (template' : CompiledTemplate) (pair : Token × Token) :
    List String :=
  ((template'.reading pair.2).layout? engine).toList

/-- A closing tag is one of both templates. -/
theorem Template.Token.Echoed.same_of_paired {template template' : CompiledTemplate}
    {part part' : Token} (h : part.Echoed home template template' part')
    (hpaired : template.reading part = .paired) : part'.kind = part.kind ∧ part'.text = part.text := by
  cases h with
  | same _ hkind htext => exact ⟨hkind, htext⟩
  | layout path hsection _ =>
    rw [hpaired] at hsection
    cases hsection

/-- Paired tags ask for no layout. -/
theorem askedBy_paired {template template' : CompiledTemplate} {pair : Token × Token}
    (h : pair.1.Echoed home template template' pair.2) (hpaired : template.reading pair.1 = .paired) :
    askedBy engine template' pair = [] := by
  obtain ⟨hkind, htext⟩ := h.same_of_paired hpaired
  have hreading : template'.reading pair.2 = template.reading pair.1 :=
    CompiledTemplate.reading_congr hkind htext fun error hfault => by
      rw [hpaired] at hfault
      cases hfault
  unfold askedBy
  rw [hreading, hpaired]
  rfl

/-- All steps of both walks, by induction on the pairs of tags. -/
theorem echoes_steps (hengine : engine.Interprets)
    (hhost : engine.host.Parametric m.host m.toPlacement) (hwait : Moves.Waits m wait wait')
    {template template' : CompiledTemplate} {pairs : List (Token × Token)}
    (hbracketed : Bracketed (fun pair => Walk.opensBody template pair.1)
      (fun pair => pair.1.kind = .closeTag) pairs)
    (hpairs : ∀ pair ∈ pairs, EchoedTokens engine home known context template template' pair)
    (hst : s.Placed m t) (hs : s.WritesTo context.request home scope)
    (ht : t.WritesTo context.request home scope')
    (hcontext : Refs.context.Within s.graph.extent context)
    {asked : Option String} {later : List String}
    (hasked : layout.toList.map LayoutRequest.path ++
      (pairs.flatMap (askedBy engine template') ++ later) = asked.toList)
    (token token' : Nat) :
    Echoes (Walk.steps engine wait template (.simple context home none openTags strip) token
        (pairs.map Prod.fst))
      (Walk.steps (engine.withRead read') wait' template'
        (.simple (context.echo m.toPlacement slot) home layout openTags' strip) token'
        (pairs.map Prod.snd)) s t
      fun walk walk' s' t' => ∃ layout' strip', EchoedWalks m engine.read read' home scope scope' known
        context slot layout' openTags openTags' strip' s t walk walk' s' t' ∧
          layout'.toList.map LayoutRequest.path ++ later = asked.toList := by
  induction hbracketed generalizing s t scope scope' layout openTags openTags' strip later token
    token' with
  | nil => exact .pure ⟨layout, strip, ⟨rfl, rfl, .refl hst⟩, hasked⟩
  | @single pair rest hopens hcloses _ ih =>
    have hpair := hpairs pair (List.mem_cons_self ..)
    have hrest := fun other hother => hpairs other (List.mem_cons_of_mem pair hother)
    have hpaired : template.reading pair.1 ≠ .paired := fun hpaired => hopens ⟨hpaired, hcloses⟩
    rw [List.flatMap_cons, List.append_assoc] at hasked
    rw [List.map_cons, List.map_cons, Walk.steps, Walk.steps]
    refine ((echoes_step hengine hhost hwait hst hs ht hcontext hpair.echoed hpaired hpair.nest
      hasked token token').mapError _ _).bind ?_
    rintro _ _ s₁ t₁ ⟨layout₁, strip₁, ⟨rfl, rfl, hfirst⟩, hasked₁⟩
    obtain ⟨_, _, -, hpassage⟩ := id hfirst
    refine (ih hrest hpassage.placed (hs.writes hpassage.left) (ht.writes hpassage.right)
      (Refs.context.mono hpassage.grows hcontext) hasked₁ (token + 1) (token' + 1)).mono ?_
    rintro walk walk' s' t' ⟨layout', strip', ⟨hwalk, hwalk', hlast⟩, hasked'⟩
    exact ⟨layout', strip', ⟨hwalk, hwalk', hfirst.trans hlast⟩, hasked'⟩
  | @pair opener closer body rest hopens _ hcloses _ ihBody ihRest =>
    have hopener := hpairs opener (List.mem_append_left _ (List.mem_cons_self ..))
    have hbody := fun other hother =>
      hpairs other (List.mem_append_left _ (List.mem_cons_of_mem opener hother))
    have hcloser := hpairs closer (List.mem_append_right _ (List.mem_cons_self ..))
    have hrest := fun other hother =>
      hpairs other (List.mem_append_right _ (List.mem_cons_of_mem closer hother))
    obtain ⟨tag, invocation, hopensTag⟩ := CompiledTemplate.opens_of_reading hopens.1 hopens.2
    obtain ⟨hkind, htext⟩ := hopener.echoed.same_of_paired hopens.1
    have hcloserPaired := template.reading_of_closes hcloses
    obtain ⟨hkind', htext'⟩ := hcloser.echoed.same_of_paired hcloserPaired
    rw [List.flatMap_append, List.flatMap_cons, List.flatMap_cons,
      askedBy_paired hopener.echoed hopens.1, askedBy_paired hcloser.echoed hcloserPaired,
      List.nil_append, List.nil_append, List.append_assoc] at hasked
    rw [List.map_append, List.map_append, List.map_cons, List.map_cons, List.map_cons,
      List.map_cons, List.cons_append, List.cons_append, Walk.steps, Walk.steps]
    refine ((echoes_open hs ht hopensTag hkind htext token token').mapError _ _).bind ?_
    rintro _ _ _ _ ⟨rfl, rfl, rfl, rfl⟩
    rw [Walk.steps_append, Walk.steps_append]
    refine (ihBody hbody (hst.setSections _ _ _ _) (.pushed hs.live _) (.pushed ht.live _) hcontext
      hasked (token + 1) (token' + 1)).bind ?_
    rintro _ _ s₁ t₁ ⟨layout₁, strip₁, ⟨rfl, rfl, hwritten⟩, hasked₁⟩
    rw [Walk.steps, Walk.steps]
    refine ((echoes_close hengine hhost hwait hs ht hcontext hopensTag.invokes
      (hopener.nest invocation (.inr ⟨tag, hopensTag⟩)) hcloses hkind' htext' hwritten _ _).mapError
        _ _).bind ?_
    rintro _ _ s₂ t₂ ⟨rfl, rfl, hclosed⟩
    obtain ⟨_, _, -, hpassage⟩ := id hclosed
    refine (ihRest hrest hpassage.placed (hs.writes hpassage.left) (ht.writes hpassage.right)
      (Refs.context.mono hpassage.grows hcontext) hasked₁ _ _).mono ?_
    rintro walk walk' s' t' ⟨layout', strip', ⟨hwalk, hwalk', hlast⟩, hasked'⟩
    exact ⟨layout', strip', ⟨hwalk, hwalk', hclosed.trans hlast⟩, hasked'⟩

/-- The whole walk of two templates. -/
theorem echoes_run (hengine : engine.Interprets)
    (hhost : engine.host.Parametric m.host m.toPlacement) (hwait : Moves.Waits m wait wait')
    {template template' : CompiledTemplate} {pairs : List (Token × Token)}
    (htokens : template.tokens = pairs.map Prod.fst)
    (htokens' : template'.tokens = pairs.map Prod.snd)
    (hsection : context.defaultSection = home)
    (hpairs : ∀ pair ∈ pairs, EchoedTokens engine home known context template template' pair)
    (hst : s.Placed m t) (hs : s.WritesTo context.request home scope)
    (ht : t.WritesTo context.request home scope')
    (hcontext : Refs.context.Within s.graph.extent context) {asked : Option String}
    (hasked : pairs.flatMap (askedBy engine template') = asked.toList) :
    Echoes (Walk.run engine wait template context)
      (Walk.run (engine.withRead read') wait' template' (context.echo m.toPlacement slot)) s t
      fun walk walk' s' t' => ∃ layout' strip', EchoedWalks m engine.read read' home scope scope' known
        context slot layout' [] [] strip' s t walk walk' s' t' ∧
          layout'.toList.map LayoutRequest.path = asked.toList := by
  refine .of_ok fun walk s' hok => ?_
  have hbracketed := Walk.bracketed_of_run Prod.fst htokens hok
  have hasked : (none : Option LayoutRequest).toList.map LayoutRequest.path ++
      (pairs.flatMap (askedBy engine template') ++ []) = asked.toList := by
    rw [List.append_nil]
    exact hasked
  subst hsection
  unfold Walk.run
  rw [htokens, htokens']
  refine (echoes_steps hengine hhost hwait hbracketed hpairs hst hs ht hcontext hasked 0 0).bind ?_
  rintro _ _ s' t' ⟨layout', strip', ⟨rfl, rfl, h⟩, hasked'⟩
  rw [List.append_nil] at hasked'
  exact .pure ⟨layout', strip', ⟨rfl, rfl, h⟩, hasked'⟩

end Walks

end TemplateEngine
