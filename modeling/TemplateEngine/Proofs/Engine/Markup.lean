import TemplateEngine.Proofs.Engine.Expansion
import TemplateEngine.Proofs.Engine.Pairing
import TemplateEngine.Proofs.Expr.Respects

/-!
# `Engine` · Texts with paired tags

Templates of texts, expressions and paired tags as trees.

* **`Markup`**: such a tree, which is that of the tokens of a template (`Markup.IsOf`) if its tags
  match (`Markup.exists_of_bracketed`). Tokens are those of one tree only (`Markup.IsOf.unique`).
* **`Markup.splice`**: its text by a direct recursion. Where a tag is, the text of its body stands
  between the two texts of the template that the tag invokes. There are no sections, no slots and no
  priorities.
* **`Markup.sources`**: its expressions in the order of the source. Each of them is evaluated once, in
  this order (`evaluates_splice`), since nothing else starts an evaluation (`Quiet`).
-/

namespace TemplateEngine

open Render TemplateEngine.Text TemplateEngine.Template

variable {σ α β : Type}

/-! ## Trees -/

/-- A text with expressions and paired tags. -/
inductive Markup where
  /-- Nothing. -/
  | nil
  /-- A text in front of the rest. -/
  | text (text : String) (rest : Markup)
  /-- An expression in front of the rest. -/
  | expression (source : String) (rest : Markup)
  /-- A tag with its body in front of the rest. -/
  | paired (invocation : Invocation) (body rest : Markup)

/-- The reading of a token of such a text. -/
def Reading.isMarkup : Reading → Bool
  | .text _ => true
  | .expression _ => true
  | .paired => true
  | _ => false

namespace Markup

/-- The tokens of a template are those of a tree. -/
inductive IsOf (template : CompiledTemplate) : List Token → Markup → Prop where
  /-- There are none. -/
  | nil : IsOf template [] .nil
  /-- A literal. -/
  | text {part : Token} {parts : List Token} {text : String} {rest : Markup}
    (hreading : template.reading part = .text text) (hrest : IsOf template parts rest) :
    IsOf template (part :: parts) (.text text rest)
  /-- An expression. -/
  | expression {part : Token} {parts : List Token} {source : String} {rest : Markup}
    (hreading : template.reading part = .expression source) (hrest : IsOf template parts rest) :
    IsOf template (part :: parts) (.expression source rest)
  /-- An opening tag, its body and the closing tag. -/
  | paired {opener closer : Token} {inner parts : List Token} {tag : ServerTag}
    {invocation : Invocation} {body rest : Markup} (hopens : opener.Opens tag invocation)
    (hbody : IsOf template inner body) (hcloses : closer.kind = .closeTag)
    (hrest : IsOf template parts rest) :
    IsOf template (opener :: inner ++ closer :: parts) (.paired invocation body rest)

/-- How many tags there are. -/
def tags : Markup → Nat
  | nil => 0
  | text _ rest => rest.tags
  | expression _ rest => rest.tags
  | paired _ body rest => body.tags + 1 + rest.tags

/-- The expressions, in the order of the source. Those of a tag itself come behind its body. -/
def sources : Markup → List String
  | nil => []
  | text _ rest => rest.sources
  | expression source rest => source :: rest.sources
  | paired invocation body rest => body.sources ++ (invocation.expressions ++ rest.sources)

theorem IsOf.tags_le {template : CompiledTemplate} {parts : List Token} {markup : Markup}
    (h : markup.IsOf template parts) : 2 * markup.tags ≤ parts.length := by
  induction h with
  | nil => exact Nat.le_refl _
  | text _ _ ih => exact Nat.le_succ_of_le ih
  | expression _ _ ih => exact Nat.le_succ_of_le ih
  | paired _ _ _ _ ihBody ihRest =>
    simp only [tags, List.length_append, List.length_cons]
    omega

/-- Tokens whose tags match are those of a tree. -/
theorem exists_of_bracketed {template : CompiledTemplate} {parts : List Token}
    (h : Bracketed (Walk.opensBody template) (fun part => part.kind = .closeTag) parts)
    (hparts : ∀ part ∈ parts, (template.reading part).isMarkup) :
    ∃ markup : Markup, markup.IsOf template parts := by
  induction h with
  | nil => exact ⟨.nil, .nil⟩
  | @single part rest hopens hcloses _ ih =>
    have hpart := hparts part (List.mem_cons_self ..)
    obtain ⟨markup, hrest⟩ := ih fun other hother => hparts other (List.mem_cons_of_mem part hother)
    rcases hreading : template.reading part with
      text | error | source | source | ⟨name, path⟩ | path | name | ⟨name, optional⟩ | invocation | _
    case text => exact ⟨_, .text hreading hrest⟩
    case expression => exact ⟨_, .expression hreading hrest⟩
    case paired => exact absurd ⟨hreading, hcloses⟩ hopens
    all_goals
      rw [hreading] at hpart
      cases hpart
  | @pair opener closer inner rest hopens _ hcloses _ ihBody ihRest =>
    obtain ⟨tag, invocation, hopensTag⟩ := CompiledTemplate.opens_of_reading hopens.1 hopens.2
    obtain ⟨body, hbody⟩ := ihBody fun other hother =>
      hparts other (List.mem_append_left _ (List.mem_cons_of_mem opener hother))
    obtain ⟨markup, hrest⟩ := ihRest fun other hother =>
      hparts other (List.mem_append_right _ (List.mem_cons_of_mem closer hother))
    exact ⟨_, .paired hopensTag hbody hcloses hrest⟩

/-- The tokens of a tree end at the first tag that closes nothing in them. -/
theorem IsOf.eq_of_closed {template : CompiledTemplate} {parts parts' rest rest' : List Token}
    {closer closer' : Token} {markup markup' : Markup} (h : markup.IsOf template parts)
    (h' : markup'.IsOf template parts') (hcloses : closer.kind = .closeTag)
    (hcloses' : closer'.kind = .closeTag) (heq : parts ++ closer :: rest = parts' ++ closer' :: rest') :
    markup = markup' ∧ rest = rest' := by
  have hplain : ∀ {part : Token} {reading : Reading}, template.reading part = reading →
      reading ≠ .paired → part.kind ≠ .closeTag := fun hreading hne hkind =>
    hne (hreading.symm.trans (template.reading_of_closes hkind))
  have hopening : ∀ {part : Token} {tag : ServerTag} {invocation : Invocation},
      part.Opens tag invocation → part.kind ≠ .closeTag := fun hopens hkind => by
    cases hopens.kind.symm.trans hkind
  induction h generalizing parts' rest rest' closer closer' markup' with
  | nil =>
    cases h' with
    | nil => exact ⟨rfl, (List.cons.inj heq).2⟩
    | text hreading _ =>
      exact absurd ((List.cons.inj heq).1 ▸ hcloses) (hplain hreading (by simp))
    | expression hreading _ =>
      exact absurd ((List.cons.inj heq).1 ▸ hcloses) (hplain hreading (by simp))
    | paired hopens _ _ _ => exact absurd ((List.cons.inj heq).1 ▸ hcloses) (hopening hopens)
  | text hreading _ ih =>
    cases h' with
    | nil => exact absurd ((List.cons.inj heq).1 ▸ hcloses') (hplain hreading (by simp))
    | text hreading' hrest' =>
      obtain ⟨rfl, htail⟩ := List.cons.inj heq
      obtain ⟨rfl, hrest⟩ := ih hrest' hcloses hcloses' htail
      cases hreading.symm.trans hreading'
      exact ⟨rfl, hrest⟩
    | expression hreading' _ =>
      rw [(List.cons.inj heq).1] at hreading
      cases hreading.symm.trans hreading'
    | paired hopens _ _ _ =>
      rw [(List.cons.inj heq).1] at hreading
      cases hreading.symm.trans (hopens.reading template)
  | expression hreading _ ih =>
    cases h' with
    | nil => exact absurd ((List.cons.inj heq).1 ▸ hcloses') (hplain hreading (by simp))
    | text hreading' _ =>
      rw [(List.cons.inj heq).1] at hreading
      cases hreading.symm.trans hreading'
    | expression hreading' hrest' =>
      obtain ⟨rfl, htail⟩ := List.cons.inj heq
      obtain ⟨rfl, hrest⟩ := ih hrest' hcloses hcloses' htail
      cases hreading.symm.trans hreading'
      exact ⟨rfl, hrest⟩
    | paired hopens _ _ _ =>
      rw [(List.cons.inj heq).1] at hreading
      cases hreading.symm.trans (hopens.reading template)
  | paired hopens _ hends _ ihBody ihRest =>
    cases h' with
    | nil => exact absurd ((List.cons.inj heq).1 ▸ hcloses') (hopening hopens)
    | text hreading' _ =>
      rw [← (List.cons.inj heq).1] at hreading'
      cases hreading'.symm.trans (hopens.reading template)
    | expression hreading' _ =>
      rw [← (List.cons.inj heq).1] at hreading'
      cases hreading'.symm.trans (hopens.reading template)
    | paired hopens' hbody' hends' hrest' =>
      simp only [List.cons_append, List.append_assoc] at heq
      obtain ⟨rfl, htail⟩ := List.cons.inj heq
      obtain ⟨rfl, hbehind⟩ := ihBody hbody' hends hends' htail
      obtain ⟨rfl, hrest⟩ := ihRest hrest' hcloses hcloses' hbehind
      cases hopens.parses.symm.trans hopens'.parses
      cases hopens.invokes.symm.trans hopens'.invokes
      exact ⟨rfl, hrest⟩

/-- Tokens are those of one tree only. -/
theorem IsOf.unique {template : CompiledTemplate} {parts : List Token} {markup markup' : Markup}
    (h : markup.IsOf template parts) (h' : markup'.IsOf template parts) : markup = markup' := by
  have heq : parts ++ (⟨.closeTag, "", 0⟩ : Token) :: [] = parts ++ ⟨.closeTag, "", 0⟩ :: [] := rfl
  exact (h.eq_of_closed h' rfl rfl heq).1

/-! ## Their texts -/

/-- The text of a tree, and the evaluation of its expressions with the data of a context. A template
at a file consists of two texts around its content. -/
def splice (engine : Engine σ) (texts : String → String × String) (context : Context) :
    Bool → Markup → Render σ String
  | _, nil => return ""
  | strip, text s rest => do
    let more ← splice engine texts context false rest
    return (if strip then stripLineEnd s else s) ++ more
  | _, expression source rest => do
    let value ← engine.evaluate engine.settle context.scope source
    let more ← splice engine texts context false rest
    return value ++ more
  | _, paired invocation body rest => do
    let inner ← splice engine texts context true body
    let child ← (Walk.start context).prepare engine engine.settle invocation
    let more ← splice engine texts context true rest
    return (texts child.filePath).1 ++ (inner ++ stripLineEnd (texts child.filePath).2) ++ more

end Markup

/-! ## Evaluations -/

/-- The expression whose evaluation starts. -/
def Event.source? : Event → Option String
  | .started _ source => some source
  | _ => none

namespace Render

/-- No evaluation starts. -/
def Quiet (x : Render σ α) : Prop :=
  ∀ s, ∃ events, (exec x s).2.journal = events ++ s.journal ∧
    events.filterMap Event.source? = []

/-- If there is a value, then the evaluations of some expressions have started, in their order. -/
def Evaluates (sources : List String) (x : Render σ α) : Prop :=
  ∀ s a s', exec x s = (.ok a, s') → ∃ events, s'.journal = events ++ s.journal ∧
    events.reverse.filterMap Event.source? = sources

namespace Quiet

variable {x : Render σ α}

theorem of_journal (h : ∀ s, (exec x s).2.journal = s.journal) : Quiet x :=
  fun s => ⟨[], h s, rfl⟩

theorem pure (a : α) : Quiet (Pure.pure a : Render σ α) := .of_journal fun _ => rfl

theorem throw (stop : Stop) : Quiet (throw stop : Render σ α) := .of_journal fun _ => rfl

theorem bind {f : α → Render σ β} (hx : Quiet x) (hf : ∀ a, Quiet (f a)) : Quiet (x >>= f) := by
  intro s
  obtain ⟨events, hevents, hnone⟩ := hx s
  rcases hexec : exec x s with ⟨stop | a, s₁⟩
  · rw [exec_bind_error hexec]
    rw [hexec] at hevents
    exact ⟨events, hevents, hnone⟩
  · rw [exec_bind_ok hexec]
    rw [hexec] at hevents
    obtain ⟨more, hmore, hnone'⟩ := hf a s₁
    refine ⟨more ++ events, ?_, ?_⟩
    · rw [hmore, hevents, List.append_assoc]
    · rw [List.filterMap_append, hnone, hnone']
      rfl

theorem note {event : Event} (h : event.source? = none) : Quiet (note event : Render σ Unit) := by
  refine fun s => ⟨[event], rfl, ?_⟩
  rw [List.filterMap_cons, h]
  rfl

theorem attempt (hx : Quiet x) : Quiet (attempt x) := by
  intro s
  obtain ⟨events, hevents, hnone⟩ := hx s
  refine ⟨events, ?_, hnone⟩
  rw [← hevents, exec_attempt]
  rcases exec x s with ⟨stop | a, s'⟩
  · cases stop <;> rfl
  · rfl

theorem mapError (f : Error → Error) (hx : Quiet x) : Quiet (mapError f x) := by
  intro s
  obtain ⟨events, hevents, hnone⟩ := hx s
  refine ⟨events, ?_, hnone⟩
  rw [← hevents, exec_mapError]
  rcases exec x s with ⟨stop | a, s'⟩
  · cases stop <;> rfl
  · rfl

/-- The steps of an evaluation start no other one. -/
theorem respects (host : Host σ) : Respects host fun _ x _ => Quiet x where
  pure := pure
  bind hx hf := hx.bind hf
  read _ := .of_journal fun _ => rfl
  write _ _ _ := .of_journal fun _ => rfl
  newObject _ := .of_journal fun _ => rfl
  newPromise _ := .of_journal fun _ => rfl
  fault _ := .throw _
  exhausted := .throw _
  ask _ _ := (Quiet.note rfl).bind fun _ => .of_journal fun _ => rfl
  native id args s := by
    rw [exec_ofNative]
    rcases (host.call id args).run.run (s.graph, s.host) with ⟨error | value, graph, host⟩
    · exact ⟨[.failed error], rfl, rfl⟩
    · exact ⟨[], rfl, rfl⟩
  program source := .of_journal fun s => by
    obtain ⟨programs, ⟨program, hexec⟩ | ⟨fault, hexec⟩⟩ := exec_programOf source s <;> rw [hexec]

theorem ofShared (result : Except Error α) : Quiet (ofShared result : Render σ α) := by
  cases result with
  | ok a => exact pure a
  | error error => exact throw _

theorem changeSlot (id : SlotId) (f : Slot → Slot) : Quiet (changeSlot id f : Render σ Unit) :=
  .of_journal fun _ => rfl

/-- Fragments without nested templates are rendered without an evaluation. -/
theorem renderFragments {run : Deferred → Render σ String} (hrun : ∀ deferred, Quiet (run deferred))
    (fragments : List (Fragment Deferred)) : Quiet (renderFragments run fragments) := by
  have hpieces : ∀ pieces : List (Fragment Deferred × Nat), Quiet (produceAll run pieces) := by
    intro pieces
    induction pieces with
    | nil => exact pure _
    | cons piece rest ih =>
      obtain ⟨⟨payload, priority⟩, place⟩ := piece
      cases payload with
      | literal text => exact (pure _).bind fun _ => ih.bind fun _ => pure _
      | deferred deferred => exact (hrun deferred).bind fun _ => ih.bind fun _ => pure _
  exact (hpieces _).bind fun _ => pure _

theorem evaluates (h : Quiet x) : Evaluates [] x := by
  intro s a s' hx
  obtain ⟨events, hevents, hnone⟩ := h s
  rw [hx] at hevents
  refine ⟨events, hevents, ?_⟩
  rw [List.filterMap_reverse, hnone]
  rfl

end Quiet

/-! ### Waiting -/

/-- Output that cannot be produced. -/
def unproduced (_ : Task) : Render σ String := throw .stalled

theorem quiet_readSlot (slot : SlotId) : Quiet (readSlot (σ := σ) unproduced slot) := by
  refine Quiet.bind (.of_journal fun _ => rfl) fun found => ?_
  rcases found.map Slot.state with _ | fragments | _ | result
  · exact .pure _
  · refine (Quiet.changeSlot _ _).bind fun _ => ?_
    have hrender : Quiet (renderFragments (runDeferred (σ := σ) unproduced) fragments) :=
      .renderFragments (fun _ => (Quiet.throw _).mapError _) fragments
    exact hrender.attempt.bind fun _ => (Quiet.changeSlot _ _).bind fun _ => .ofShared _
  · exact .throw _
  · exact .ofShared _

theorem quiet_runWork (engine : Engine σ) (work : Work) : Quiet (runWork engine unproduced work) := by
  cases work with
  | native id args => exact (Quiet.respects engine.host).native id args
  | content slot => exact (quiet_readSlot slot).bind fun _ => .pure _

/-- Waiting for a promise that needs no template starts no evaluation. -/
theorem quiet_settle (engine : Engine σ) (id : PromiseId) : Quiet (engine.settle id) := by
  have hgraph : ∀ {γ : Type} (f : Graph → γ × Graph), Quiet (changeGraph f : Render σ γ) :=
    fun f => .of_journal fun _ => rfl
  show Quiet (waitFor engine unproduced id)
  unfold waitFor
  refine Quiet.bind (.of_journal fun _ => rfl) fun found => ?_
  rcases found with _ | work | _ | result
  · exact .pure _
  · exact (hgraph _).bind fun _ => (quiet_runWork engine work).attempt.bind fun _ =>
      (hgraph _).bind fun _ => .ofShared _
  · exact .throw _
  · exact .ofShared _

/-! ### Evaluations in their order -/

namespace Evaluates

variable {first rest : List String} {x : Render σ α}

theorem bind {f : α → Render σ β} (hx : Evaluates first x) (hf : ∀ a, Evaluates rest (f a)) :
    Evaluates (first ++ rest) (x >>= f) := by
  intro s b s'' h
  obtain ⟨a, s', hfirst, hrest⟩ := exec_bind_eq_ok h
  obtain ⟨events, hevents, hsources⟩ := hx s a s' hfirst
  obtain ⟨more, hmore, hsources'⟩ := hf a s' b s'' hrest
  refine ⟨more ++ events, ?_, ?_⟩
  · rw [hmore, hevents, List.append_assoc]
  · rw [List.reverse_append, List.filterMap_append, hsources, hsources']

theorem and_quiet {f : α → Render σ β} (hx : Evaluates first x) (hf : ∀ a, Quiet (f a)) :
    Evaluates first (x >>= f) := by
  have h := hx.bind fun a => (hf a).evaluates
  rwa [List.append_nil] at h

theorem of_quiet {f : α → Render σ β} (hx : Quiet x) (hf : ∀ a, Evaluates rest (f a)) :
    Evaluates rest (x >>= f) := hx.evaluates.bind hf

variable {engine : Engine σ} {wait : PromiseId → Render σ Value}

/-- An evaluation starts no other one, unless it waits for one. -/
theorem evaluateValue (hengine : engine.Interprets) (hwait : ∀ id, Quiet (wait id)) (scope : Scope)
    (source : String) : Evaluates [source] (engine.evaluateValue wait scope source) := by
  have hrun : Quiet (runRooted engine.host (.interpreter engine.host) wait scope
      (RootPath.writeRoots source)) :=
    @Respects.runRooted _ _ (fun _ x _ => Quiet x) wait wait (Quiet.respects _) hwait scope _
  have hstarted : Evaluates (σ := σ) [source] (note (.started scope.request source)) := by
    rintro s _ _ ⟨⟩
    exact ⟨[.started scope.request source], rfl, rfl⟩
  have hredirect : Quiet (σ := σ) (checkRedirect scope.request) := by
    refine Quiet.bind (.of_journal fun _ => rfl) fun redirect => ?_
    cases redirect with
    | some target => exact .throw _
    | none => exact .pure ()
  unfold Engine.evaluateValue TemplateEngine.evaluateValue
  rw [hengine]
  refine hstarted.and_quiet fun _ => hrun.attempt.bind fun result =>
    (Quiet.note rfl).bind fun _ => hredirect.bind fun _ => ?_
  cases result with
  | ok value => exact .pure value
  | error error => exact .throw _

theorem evaluate (hengine : engine.Interprets) (hwait : ∀ id, Quiet (wait id)) (scope : Scope)
    (source : String) : Evaluates [source] (engine.evaluate wait scope source) :=
  (evaluateValue hengine hwait scope source).and_quiet fun _ => .pure _

theorem forM {ι : Type} {f : ι → Render σ Unit} {g : ι → List String}
    (h : ∀ item, Evaluates (g item) (f item)) (items : List ι) :
    Evaluates (items.flatMap g) (items.forM f) := by
  induction items with
  | nil => exact (Quiet.pure ()).evaluates
  | cons item rest ih => exact (h item).bind fun _ => ih

/-- The preparation of a nested template evaluates the expressions of its invocation. -/
theorem prepare (hengine : engine.Interprets) (hwait : ∀ id, Quiet (wait id)) (walk : Walk)
    (invocation : Invocation) :
    Evaluates invocation.expressions (walk.prepare engine wait invocation) := by
  have hgraph : ∀ {γ : Type} (f : Graph → γ × Graph), Quiet (changeGraph f : Render σ γ) :=
    fun f => .of_journal fun _ => rfl
  have hresult : ∀ {γ : Type} (result : Except Error γ), Quiet (ofExcept result : Render σ γ) := by
    intro γ result
    cases result with
    | ok value => exact .pure value
    | error error => exact .throw _
  have hchild : ∀ filePath, Quiet (σ := σ) (Engine.childContext walk.context invocation.kind
      invocation.path filePath walk.active invocation.attributes invocation.body) := by
    intro filePath
    unfold Engine.childContext
    cases invocation.kind with
    | shared => exact (Quiet.pure _).bind fun _ => (hgraph _).bind fun _ => .pure _
    | fresh => exact (hgraph _).bind fun _ => (hgraph _).bind fun _ => .pure _
  have hdata : ∀ child : Context, Evaluates (σ := σ) [] (invocation.data.forM fun named =>
      changeGraph fun graph => ((), graph.write child.data named.1 (.string named.2))) := by
    intro child
    have h := forM (g := fun _ => []) (fun named : String × String =>
      (hgraph fun graph => ((), graph.write child.data named.1 (.string named.2))).evaluates)
      invocation.data
    rwa [List.flatMap_eq_nil_iff.2 fun _ _ => rfl] at h
  have hexpressions : ∀ child : Context, Evaluates invocation.expressions
      (invocation.expressions.forM fun expression => do
        let _ ← engine.evaluateValue wait child.scope expression) := by
    intro child
    have h := forM (g := fun expression => [expression]) (fun expression =>
      (evaluateValue hengine hwait child.scope expression).and_quiet fun _ => .pure ())
      invocation.expressions
    rwa [List.flatMap_singleton'] at h
  unfold Walk.prepare
  exact .of_quiet (hresult _) fun filePath => .of_quiet (hchild filePath) fun child =>
    .of_quiet (hresult _) fun _ => (hdata child).bind fun _ =>
      (hexpressions child).and_quiet fun _ => .pure child

end Evaluates

/-- The expressions of a tree are evaluated once each, in the order of the source. -/
theorem evaluates_splice {engine : Engine σ} (hengine : engine.Interprets)
    (texts : String → String × String) (context : Context) (strip : Bool) (markup : Markup) :
    Evaluates markup.sources (markup.splice engine texts context strip) := by
  have hwait := quiet_settle engine
  induction markup generalizing strip with
  | nil => exact (Quiet.pure _).evaluates
  | text text rest ih => exact (ih false).and_quiet fun _ => .pure _
  | expression source rest ih =>
    exact (Evaluates.evaluate hengine hwait context.scope source).bind fun _ =>
      (ih false).and_quiet fun _ => .pure _
  | paired invocation body rest ihBody ihRest =>
    exact (ihBody true).bind fun _ => (Evaluates.prepare hengine hwait _ invocation).bind fun _ =>
      (ihRest true).and_quiet fun _ => .pure _

end Render

end TemplateEngine
