import TemplateEngine.Proofs.Engine.Preparation
import TemplateEngine.Proofs.Engine.Reading
import TemplateEngine.Proofs.Render.Agreement
import TemplateEngine.Proofs.Section.Production

/-!
# `Engine` · Engines that read counterparts

Two engines that differ only in how they read templates, and read counterparts at every path.

* **`Comparison.Counterparts`**: two templates whose tokens are the same one by one, or nest the
  same templates by different tokens.
* **`Agrees.step`** is one step of two walks; from it, a walk through counterparts (`Agrees.run`),
  and a piece of output with all that it contains (`Agrees.produce`).
* **`outcomes_renderView`**: a request has the same outcome with both engines, and leaves the same
  data.
-/

namespace TemplateEngine

open Render TemplateEngine.Text TemplateEngine.Template

variable {σ : Type} {c : Comparison} {engine : Engine σ}

namespace Comparison

/-- What tokens of two templates ask for is the same. -/
inductive Tokens (c : Comparison) (template template' : CompiledTemplate) :
    Token → Token → Prop where
  /-- The tokens are the same, perhaps at different places. -/
  | same {kind : Kind} {text : String} {offset offset' : Nat}
      (h : ∀ fault, c.same (.markup fault template.source offset)
        (.markup fault template'.source offset')) :
      Tokens c template template' ⟨kind, text, offset⟩ ⟨kind, text, offset'⟩
  /-- Both nest the same template. -/
  | nested {part part' : Token} {invocation : Invocation}
      (h : template.reading part = .nest invocation)
      (h' : template'.reading part' = .nest invocation) : Tokens c template template' part part'

/-- Two templates ask for the same, token by token. -/
def Counterparts (c : Comparison) (template template' : CompiledTemplate) : Prop :=
  List.Forall₂ (c.Tokens template template') template.tokens template'.tokens

theorem Counterparts.refl (template : CompiledTemplate) : c.Counterparts template template :=
  List.forall₂_same.2 fun _ _ => .same fun _ => c.same_refl _

/-- At every path counterparts are read, or both ways fail. -/
def Reads (c : Comparison) : Prop :=
  ∀ path, c.Results c.Counterparts (c.left path >>= CompiledTemplate.compile path)
    (c.right path >>= CompiledTemplate.compile path)

theorem Akin.evaluation {a b : Error} (h : c.Akin a b) (source rooted : String) :
    c.Akin (evaluationError source rooted a) (evaluationError source rooted b) :=
  h.layers (Error.similar_evaluationError source rooted a)
    (Error.similar_evaluationError source rooted b)

theorem Akin.locatedLayout {a b : Error} (h : c.Akin a b) (template template' : CompiledTemplate)
    (token : Nat) : c.Akin (locateLayout template token a) (locateLayout template' token b) :=
  h.layers (Error.similar_locateLayout template token a)
    (Error.similar_locateLayout template' token b)

end Comparison

namespace Render.Agrees

/-! ## Evaluation and preparation -/

/-- What an evaluation is made of agrees. -/
theorem respects (host : Host σ) : Respects host fun _ x y => Agrees c Eq x y where
  pure _ := .pure rfl
  bind hx hf := hx.andThen hf
  read f := .withGraph f
  write _ _ _ := .changeGraph _
  newObject _ := .changeGraph _
  newPromise _ := .changeGraph _
  fault _ := .raise (.refl _)
  exhausted := .throw .exhausted
  ask request target := .askRedirect request target
  native id args := .ofNative (host.call id args)
  program source := .programOf source

variable {wait wait' : PromiseId → Render σ Value}

/-- An evaluation fails if it has caught an error. -/
theorem evaluateValue (hengine : engine.Interprets)
    (hwait : ∀ id, Agrees c Eq (wait id) (wait' id)) (scope : Scope) (source : String) :
    Agrees c Eq (engine.evaluateValue wait scope source)
      (engine.evaluateValue wait' scope source) := by
  have hrun := (respects (c := c) engine.host).runRooted hwait scope (RootPath.writeRoots source)
  unfold Engine.evaluateValue TemplateEngine.evaluateValue
  rw [hengine]
  refine (note _).andThen fun _ => hrun.attempt_bind (fun a b hab => ?_) fun a b hab => ?_
  · subst hab
    exact (note _).andThen fun _ => (checkRedirect _).andThen fun _ => .pure rfl
  · exact .bind (.note _ _) fun _ _ => .checkRedirect _ (.raise (hab.evaluation _ _))

theorem evaluate (hengine : engine.Interprets)
    (hwait : ∀ id, Agrees c Eq (wait id) (wait' id)) (scope : Scope) (source : String) :
    Agrees c Eq (engine.evaluate wait scope source) (engine.evaluate wait' scope source) :=
  (evaluateValue hengine hwait scope source).andThen fun _ => .pure rfl

theorem childContext (caller : Context) (kind : ChildKind) (viewPath filePath section_ : String)
    (attributes : List (String × String)) (body : Option SlotId) :
    Agrees c Eq
      (Engine.childContext caller kind viewPath filePath section_ attributes body : Render σ _)
      (Engine.childContext caller kind viewPath filePath section_ attributes body) := by
  unfold Engine.childContext
  cases kind with
  | shared => exact (pure rfl).andThen fun _ => (changeGraph _).andThen fun _ => .pure rfl
  | fresh => exact (changeGraph _).andThen fun _ => (changeGraph _).andThen fun _ => .pure rfl

theorem prepare (hengine : engine.Interprets)
    (hwait : ∀ id, Agrees c Eq (wait id) (wait' id)) (walk : Walk) (invocation : Invocation) :
    Agrees c Eq (walk.prepare engine wait invocation) (walk.prepare engine wait' invocation) := by
  unfold Walk.prepare
  refine (ofExcept _).andThen fun filePath => (childContext _ _ _ _ _ _ _).andThen fun child =>
    (ofExcept _).andThen fun _ => (forM _ fun _ => changeGraph _).andThen fun _ => ?_
  refine (forM _ fun expression => ?_).andThen fun _ => .pure rfl
  exact (evaluateValue hengine hwait _ expression).andThen fun _ => .pure rfl

/-! ## Walks -/

variable {template template' : CompiledTemplate}

theorem append {payload payload' : Payload Deferred} {priority : Priority} (walk : Walk)
    (h : Fragment.Akin ⟨payload, priority⟩ ⟨payload', priority⟩) :
    Agrees c Eq (walk.append payload priority : Render σ Unit) (walk.append payload' priority) := by
  have hadd : Agrees c (fun _ _ => True)
      (Render.changeSections walk.context.request fun sections =>
        sections.add walk.active walk.context.viewPath ⟨payload, priority⟩ : Render σ Nat)
      (Render.changeSections walk.context.request fun sections =>
        sections.add walk.active walk.context.viewPath ⟨payload', priority⟩) :=
    changeSections _ fun a b hab => ⟨trivial, hab.add h _ _⟩
  exact hadd.bind fun _ _ _ => .pure rfl

theorem appendText (walk : Walk) (text : String) :
    Agrees c Eq (walk.appendText text : Render σ Unit) (walk.appendText text) := by
  unfold Walk.appendText
  split
  · exact .pure rfl
  · exact append walk (.literal text _)

theorem appendTask (walk : Walk) (template template' : CompiledTemplate) (token : Nat) (task : Task)
    (priority : Priority) :
    Agrees c Eq (walk.appendTask template token task priority : Render σ Unit)
      (walk.appendTask template' token task priority) :=
  append walk
    (.deferred (a := ⟨task, template, token⟩) (b := ⟨task, template', token⟩) rfl priority)

theorem appendSection (walk : Walk) (template template' : CompiledTemplate) (token : Nat)
    (name : String) (optional : Bool) :
    Agrees c Eq (walk.appendSection template token name optional : Render σ Unit)
      (walk.appendSection template' token name optional) := by
  unfold Walk.appendSection
  split
  · split
    · exact appendTask walk template template' token _ _
    · exact appendTask walk template template' token _ _
  · exact appendTask walk template template' token _ _

theorem invoke (hengine : engine.Interprets) (hwait : ∀ id, Agrees c Eq (wait id) (wait' id))
    (template template' : CompiledTemplate) (walk : Walk) (token : Nat) (invocation : Invocation) :
    Agrees c Eq (walk.invoke engine wait template token invocation)
      (walk.invoke engine wait' template' token invocation) :=
  (prepare hengine hwait walk invocation).andThen fun _ =>
    appendTask walk template template' token _ _

theorem direct (hengine : engine.Interprets) (hwait : ∀ id, Agrees c Eq (wait id) (wait' id))
    (template template' : CompiledTemplate) (walk : Walk) (token : Nat) (directive : Directive) :
    Agrees c Eq (walk.direct engine wait template token directive)
      (walk.direct engine wait' template' token directive) := by
  cases directive with
  | eval expression =>
    unfold Walk.direct
    dsimp only
    split
    · exact (evaluateValue hengine hwait _ expression).andThen fun _ => .pure rfl
    · exact .pure rfl
  | base name path => exact (ofExcept _).andThen fun _ => .pure rfl
  | layout path =>
    unfold Walk.direct
    dsimp only
    split
    · exact .raise (.refl _)
    · exact .pure rfl
  | «section» name => exact .pure rfl
  | render name optional =>
    exact (appendSection walk template template' token name optional).andThen fun _ => .pure rfl
  | «include» path expression =>
    exact (invoke hengine hwait template template' walk token _).andThen fun _ => .pure rfl
  | view path expression =>
    exact (invoke hengine hwait template template' walk token _).andThen fun _ => .pure rfl
  | unknown word => exact .raise (.refl _)

theorem openTag (hengine : engine.Interprets) (hwait : ∀ id, Agrees c Eq (wait id) (wait' id))
    (walk : Walk) (token : Nat) {kind : Kind} {text : String} {offset offset' : Nat}
    (hplace : ∀ fault, c.same (.markup fault template.source offset)
      (.markup fault template'.source offset')) :
    Agrees c Eq (walk.openTag engine wait template token ⟨kind, text, offset⟩)
      (walk.openTag engine wait' template' token ⟨kind, text, offset'⟩) := by
  unfold Walk.openTag
  dsimp only
  split
  · exact .raise ⟨hplace _, rfl⟩
  · split
    · exact .raise (.refl _)
    · split
      · exact (invoke hengine hwait template template' walk token _).andThen fun _ => .pure rfl
      · exact andThen (withSections _ fun a b hab => hab.current _) fun _ =>
          andThen (changeSections _ fun a b hab => hab.push _ _) fun _ => .pure rfl

theorem closeTag (hengine : engine.Interprets) (hwait : ∀ id, Agrees c Eq (wait id) (wait' id))
    (template template' : CompiledTemplate) (walk : Walk) {part part' : Token}
    (hname : part.closerName = part'.closerName) :
    Agrees c Eq (walk.closeTag engine wait template part)
      (walk.closeTag engine wait' template' part') := by
  unfold Walk.closeTag
  rw [hname]
  dsimp only
  split
  · exact .raise (.refl _)
  · next opened openTags _ =>
    split
    · exact .raise (.refl _)
    · refine andThen (withSections _ fun a b hab => hab.peek _) fun peek => ?_
      -- What is left after the check is the same, whether it fails or not.
      split
      case' isTrue => refine andThen (raise (.refl _)) fun _ => ?_
      all_goals
        refine (popSection _ _).andThen fun _ =>
          bind (withSections _ fun a b hab => hab.fragments _) fun fragments fragments' hakin =>
            (newSlot (.pending hakin)).andThen fun body => ?_
        split
        · exact .raise (.refl _)
        · exact (invoke hengine hwait template template' _ _ _).andThen fun _ => .pure rfl

/-- One step of two walks. -/
theorem step (hengine : engine.Interprets) (hwait : ∀ id, Agrees c Eq (wait id) (wait' id))
    (walk : Walk) (token : Nat) {part part' : Token} (h : c.Tokens template template' part part') :
    Agrees c Eq (walk.step engine wait template token part)
      (walk.step engine wait' template' token part') := by
  cases h with
  | @same kind text offset offset' hplace =>
    unfold Walk.step
    cases kind with
    | literal => exact (appendText walk _).andThen fun _ => .pure rfl
    | expression =>
      have hbody : Token.body ⟨.expression, text, offset⟩ =
          Token.body ⟨.expression, text, offset'⟩ := rfl
      dsimp only
      rw [hbody]
      split
      · exact .raise (.refl _)
      · exact direct hengine hwait template template' _ token _
      · exact (evaluate hengine hwait _ _).andThen fun text =>
          (appendText walk text).andThen fun _ => .pure rfl
    | openTag => exact openTag hengine hwait _ token hplace
    | closeTag => exact closeTag hengine hwait template template' _ rfl
  | @nested _ _ invocation h h' =>
    have hact : ∀ {reading : Reading}, reading = .nest invocation → reading ≠ .paired := by
      rintro _ rfl
      simp
    rw [walk.step_eq_act token (hact h), walk.step_eq_act token (hact h'), h, h']
    exact (invoke hengine hwait template template' _ token invocation).andThen fun _ => .pure rfl

theorem steps (hengine : engine.Interprets) (hwait : ∀ id, Agrees c Eq (wait id) (wait' id))
    {parts parts' : List Token} (hparts : List.Forall₂ (c.Tokens template template') parts parts')
    (walk : Walk) (token : Nat) :
    Agrees c Eq (walk.steps engine wait template token parts)
      (walk.steps engine wait' template' token parts') := by
  induction hparts generalizing walk token with
  | nil => exact .pure rfl
  | cons hpart _ ih =>
    exact (mapError (fun a b hab => hab.located template template' token token)
      (step hengine hwait walk token hpart)).andThen fun walk => ih walk (token + 1)

/-- Walks through counterparts. -/
theorem run (hengine : engine.Interprets) (hwait : ∀ id, Agrees c Eq (wait id) (wait' id))
    (h : c.Counterparts template template') (context : Context) :
    Agrees c Eq (Walk.run engine wait template context)
      (Walk.run engine wait' template' context) := by
  refine (steps hengine hwait h _ 0).andThen fun walk => ?_
  split
  · exact .pure rfl
  · exact .raise ((Comparison.Akin.refl _).located template template' _ _)

/-! ## Output -/

section Output

variable {run run' : Task → Render σ String}

theorem runDeferred (hrun : ∀ task, Agrees c Eq (run task) (run' task)) {a b : Deferred}
    (h : a.task = b.task) : Agrees c Eq (runDeferred run a) (TemplateEngine.runDeferred run' b) :=
  mapError (fun _ _ hab => hab.located a.template b.template _ _) (h ▸ hrun a.task)

theorem produceAll (hrun : ∀ task, Agrees c Eq (run task) (run' task))
    {pieces pieces' : List (Fragment Deferred × Nat)}
    (h : List.Forall₂ (fun a b => Fragment.Akin a.1 b.1 ∧ a.2 = b.2) pieces pieces') :
    Agrees c Eq (TemplateEngine.produceAll (TemplateEngine.runDeferred run) pieces)
      (TemplateEngine.produceAll (TemplateEngine.runDeferred run') pieces') := by
  induction h with
  | nil => exact .pure rfl
  | @cons piece piece' _ _ hpiece _ ih =>
    obtain ⟨fragment, place⟩ := piece
    obtain ⟨fragment', place'⟩ := piece'
    obtain ⟨hfragment, hplace⟩ := hpiece
    obtain rfl : place = place' := hplace
    cases hfragment with
    | literal text => exact (pure rfl).andThen fun _ => ih.andThen fun _ => .pure rfl
    | deferred htask =>
      exact (runDeferred hrun htask).andThen fun _ => ih.andThen fun _ => .pure rfl

theorem renderFragments (hrun : ∀ task, Agrees c Eq (run task) (run' task))
    {fragments fragments' : List (Fragment Deferred)}
    (h : List.Forall₂ Fragment.Akin fragments fragments') :
    Agrees c Eq (TemplateEngine.renderFragments (TemplateEngine.runDeferred run) fragments)
      (TemplateEngine.renderFragments (TemplateEngine.runDeferred run') fragments') :=
  (produceAll hrun (productionOrder_rel (fun _ _ hab => hab.priority) h)).andThen fun _ => .pure rfl

theorem renderScope (hrun : ∀ task, Agrees c Eq (run task) (run' task)) (request : RequestId)
    (scope : ScopeId) :
    Agrees c Eq (TemplateEngine.renderScope run request scope)
      (TemplateEngine.renderScope run' request scope) :=
  bind (withSections request fun _ _ hab => hab.fragments scope) fun _ _ h => renderFragments hrun h

/-- The failure of a slot is kept, and then fails what reads it. -/
theorem readSlot (hrun : ∀ task, Agrees c Eq (run task) (run' task)) (id : SlotId) :
    Agrees c Eq (TemplateEngine.readSlot run id) (TemplateEngine.readSlot run' id) := by
  refine (slot? id).bind fun slot slot' hslot => ?_
  cases hslot with
  | none => exact .pure rfl
  | @some a b hab =>
    obtain ⟨state, consumed⟩ := a
    obtain ⟨state', consumed'⟩ := b
    obtain ⟨hstate, hconsumed⟩ := hab
    cases hstate with
    | settled result => exact ofShared result
    | running => exact .throw .stalled
    | pending hfragments =>
      have hrunning := changeSlot (σ := σ) (c := c) id
        (f := fun slot => { slot with state := .running })
        (g := fun slot => { slot with state := .running }) fun a b hab => ⟨.running, hab.consumed⟩
      refine hrunning.andThen fun _ =>
        (renderFragments hrun hfragments).attempt_bind (fun text text' htext => ?_)
          fun error error' herror => ?_
      · subst htext
        exact andThen (changeSlot id fun a b hab => ⟨.settled _, hab.consumed⟩) fun _ =>
          ofShared (.ok text)
      · exact .bind (.changeSlot id _ _) fun _ _ => .raise herror.shared

theorem runWork (hrun : ∀ task, Agrees c Eq (run task) (run' task)) (work : Work) :
    Agrees c Eq (TemplateEngine.runWork engine run work)
      (TemplateEngine.runWork engine run' work) := by
  cases work with
  | native id args => exact ofNative _
  | content slot => exact (readSlot hrun slot).map _

/-- So is the failure of a promise. -/
theorem waitFor (hrun : ∀ task, Agrees c Eq (run task) (run' task)) (id : PromiseId) :
    Agrees c Eq (TemplateEngine.waitFor engine run id)
      (TemplateEngine.waitFor engine run' id) := by
  refine (withGraph _).andThen fun state => ?_
  rcases state with _ | work | _ | result
  · exact .pure rfl
  · refine (changeGraph _).andThen fun _ =>
      (runWork hrun work).attempt_bind (fun value value' hvalue => ?_) fun error error' herror => ?_
    · subst hvalue
      exact (changeGraph _).andThen fun _ => ofShared (.ok value)
    · exact .bind (.setPromise id _ _) fun _ _ => .raise herror.shared
  · exact .throw .stalled
  · exact ofShared result

theorem enterLayout (page : Context) (layout : String)
    {fragments fragments' : List (Fragment Deferred)}
    (h : List.Forall₂ Fragment.Akin fragments fragments') :
    Agrees c Eq (engine.enterLayout page layout (.pending fragments) : Render σ Context)
      (engine.enterLayout page layout (.pending fragments')) :=
  (ofExcept _).andThen fun _ => (newSlot (.pending h)).andThen fun _ =>
    (changeGraph _).andThen fun _ => (changeGraph _).andThen fun _ => .pure rfl

theorem renderWalked (hrun : ∀ task, Agrees c Eq (run task) (run' task))
    (template template' : CompiledTemplate) (scope : ScopeId) (walk : Walk) :
    Agrees c Eq (engine.renderWalked run template scope walk)
      (engine.renderWalked run' template' scope walk) := by
  unfold Engine.renderWalked
  split
  · refine mapError (fun _ _ hab => hab.locatedLayout template template' _) ?_
    exact bind (withSections _ fun _ _ hab => hab.fragments scope) fun _ _ h =>
      (enterLayout _ _ h).andThen fun _ => hrun _
  · exact renderScope hrun _ scope

theorem consumedText (name : String) (optional : Bool) :
    Agrees c Eq (Engine.consumedText name optional : Render σ String)
      (Engine.consumedText name optional) := by
  unfold Engine.consumedText
  split
  · exact .pure rfl
  · exact .raise (.refl _)

theorem renderSection (hrun : ∀ task, Agrees c Eq (run task) (run' task)) (request : RequestId)
    (name : String) (optional : Bool) :
    Agrees c Eq (Engine.renderSection run request name optional)
      (Engine.renderSection run' request name optional) := by
  refine (trySections request fun _ _ hab => hab.takeCurrent name).andThen fun taken => ?_
  split
  · exact (note _).andThen fun _ => renderScope hrun request _
  · exact consumedText name optional
  · split
    · exact .pure rfl
    · exact .raise (.refl _)

theorem renderContent (hrun : ∀ task, Agrees c Eq (run task) (run' task)) (slot : SlotId)
    (optional : Bool) :
    Agrees c Eq (Engine.renderContent run slot optional)
      (Engine.renderContent run' slot optional) := by
  refine (consume slot).andThen fun consumed => ?_
  split
  · exact consumedText _ optional
  · exact readSlot hrun slot

end Output

end Render.Agrees

/-! ## The two engines -/

/-- The engine with another way to read templates. -/
def Engine.reading (engine : Engine σ) (read : String → Except Error String) : Engine σ :=
  { engine with read := read }

/-- The walk through a template that was read does not depend on how. -/
theorem Walk.run_reading (read : String → Except Error String)
    (wait : PromiseId → Render σ Value) (template : CompiledTemplate) (context : Context) :
    Walk.run (engine.reading read) wait template context =
      Walk.run engine wait template context := by
  have hsteps : ∀ (parts : List Token) (walk : Walk) (token : Nat),
      walk.steps (engine.reading read) wait template token parts =
        walk.steps engine wait template token parts := by
    intro parts
    induction parts with
    | nil => exact fun _ _ => rfl
    | cons part rest ih =>
      intro walk token
      have hstep : walk.step (engine.reading read) wait template token part =
          walk.step engine wait template token part := rfl
      unfold Walk.steps
      rw [hstep]
      exact congrArg _ (funext fun walk => ih walk (token + 1))
  unfold Walk.run
  rw [hsteps]

/-- What is read at a path, and compiled. -/
theorem exec_readTemplate {read : String → Except Error String} {s : Store σ}
    (h : s.templates.Honest read) (path : String) :
    ∃ templates, templates.Honest read ∧
      exec (do
        let source ← ofExcept (read path)
        loadTemplate path source) s =
        ((read path >>= CompiledTemplate.compile path).mapError Stop.raised,
          { s with templates := templates }) := by
  rcases hread : read path with error | source
  · exact ⟨s.templates, h, rfl⟩
  · obtain ⟨hload, hhonest⟩ := TemplateCache.load_of_honest h hread
    refine ⟨_, hhonest, ?_⟩
    have hexec := exec_loadTemplate path source s
    rw [hload] at hexec
    exact hexec

namespace Render.Agrees

/-- Counterparts are fetched. -/
theorem fetch (hreads : c.Reads) (context : Context) :
    Agrees c c.Counterparts ((engine.reading c.left).fetch context)
      ((engine.reading c.right).fetch context) := by
  refine (ofExcept (engine.checkDepth context)).andThen fun _ => (note _).andThen fun _ => ?_
  intro s t hst
  obtain ⟨templates, hleft, hs⟩ := exec_readTemplate hst.left context.filePath
  obtain ⟨templates', hright, ht⟩ := exec_readTemplate hst.right context.filePath
  have hkept := hst.withTemplates hleft hright
  have hresults := hreads context.filePath
  refine (congrArg₂ (c.Ends c.Counterparts) hs ht).mpr ?_
  generalize c.left context.filePath >>= CompiledTemplate.compile context.filePath = result
    at hresults ⊢
  generalize c.right context.filePath >>= CompiledTemplate.compile context.filePath = result'
    at hresults ⊢
  cases hresults with
  | ok h => exact .value h hkept
  | error h => exact .stop (.raised h) hkept.sameData

variable {run run' : Task → Render σ String}

/-- If the body fails, then the section is popped, and the failure goes on. -/
theorem renderTemplate (hengine : engine.Interprets) (hreads : c.Reads)
    (hrun : ∀ task, Agrees c Eq (run task) (run' task)) (context : Context) :
    Agrees c Eq ((engine.reading c.left).renderTemplate run context)
      ((engine.reading c.right).renderTemplate run' context) := by
  refine (fetch hreads context).bind fun template template' htemplate => ?_
  refine andThen (changeSections _ fun a b hab => hab.push _ _) fun scope => ?_
  have hbody : Agrees c Eq
      (do
        let walk ← Walk.run engine (TemplateEngine.waitFor engine run) template context
        engine.renderWalked run template scope walk)
      (do
        let walk ← Walk.run engine (TemplateEngine.waitFor engine run') template' context
        engine.renderWalked run' template' scope walk) :=
    (Agrees.run hengine (waitFor hrun) htemplate context).andThen fun walk =>
      renderWalked hrun template template' scope walk
  rw [Walk.run_reading, Walk.run_reading]
  refine attempt_bind hbody (fun text text' htext => ?_) fun error error' herror => ?_
  · subst htext
    refine (popSection _ _).attempt_bind (fun _ _ _ => .pure rfl) fun error error' herror => ?_
    exact .bind (.pure text text) fun _ _ => .raise_bind herror
  · exact .bind (.attemptPop _ _) fun _ _ => .raise_bind herror

theorem perform (hengine : engine.Interprets) (hreads : c.Reads)
    (hrun : ∀ task, Agrees c Eq (run task) (run' task)) (task : Task) :
    Agrees c Eq ((engine.reading c.left).perform run task)
      ((engine.reading c.right).perform run' task) := by
  cases task with
  | template context => exact renderTemplate hengine hreads hrun context
  | «section» request name optional => exact renderSection hrun request name optional
  | content slot optional => exact renderContent hrun slot optional

/-- Pieces of output agree, however deep they nest. -/
theorem produce (hengine : engine.Interprets) (hreads : c.Reads) (fuel : Nat) (task : Task) :
    Agrees c Eq ((engine.reading c.left).produce fuel task)
      ((engine.reading c.right).produce fuel task) := by
  induction fuel generalizing task with
  | zero => exact .throw .exhausted
  | succ fuel ih => exact perform hengine hreads ih task

theorem context (path : String) (data : ObjectId) :
    Agrees c Eq ((engine.reading c.left).context path data)
      ((engine.reading c.right).context path data) :=
  newRequest.andThen fun _ => (changeGraph _).andThen fun _ => .pure rfl

end Render.Agrees

/-! ## Requests -/

/-- Two requests have the same value, or stop for reasons that are akin. -/
inductive Comparison.Outcomes {α : Type} (c : Comparison) :
    Except Stop α → Except Stop α → Prop where
  /-- The same value. -/
  | value (a : α) : Outcomes c (.ok a) (.ok a)
  /-- Reasons that are akin. -/
  | stop {a b : Stop} (h : c.Stops a b) : Outcomes c (.error a) (.error b)

theorem Comparison.Akin.outcome {a b : Error} (h : c.Akin a b) (redirect : Option String) :
    c.Outcomes ((Engine.outcome redirect (.error a)).mapError Stop.raised)
      ((Engine.outcome redirect (.error b)).mapError Stop.raised) := by
  unfold Engine.outcome
  dsimp only
  rw [h.target]
  cases b.redirectTarget? with
  | some target => exact .value _
  | none => exact .stop (.raised h)

/-- What a request makes of its output, or of its failure. -/
def Render.answered (request : RequestId) (x : Render σ String) : Render σ Rendered := do
  let result ← attempt x
  let redirect ← withRequest request Request.redirect
  Render.ofExcept (Engine.outcome redirect result)

/-- The redirect that was asked for counts in the end, also after a failure. -/
theorem Render.exec_answered {x : Render σ String} {s after : Store σ} (request : RequestId)
    {result : Except Error String} (h : exec (attempt x) s = (.ok result, after)) :
    exec (answered request x) s =
      ((Engine.outcome (after.redirect request) result).mapError Stop.raised, after) := by
  unfold answered
  rw [exec_bind_ok h, exec_bind_ok (exec_withRequest_redirect request after), exec_ofExcept]

theorem Render.exec_answered_stop {x : Render σ String} {s after : Store σ} (request : RequestId)
    {stop : Stop} (h : exec (attempt x) s = (.error stop, after)) :
    exec (answered request x) s = (.error stop, after) :=
  exec_bind_error h _

/-- The outcomes are the same, or akin, if the outputs are. -/
theorem Comparison.Ends.answered {x y : Render σ String} {s t : Store σ}
    (h : c.Ends Eq (exec x s) (exec y t)) (request : RequestId) :
    c.Outcomes (exec (answered request x) s).1 (exec (answered request y) t).1 ∧
      (exec (answered request x) s).2.SameData (exec (answered request y) t).2 := by
  have hx := exec_attempt x s
  have hy := exec_attempt y t
  generalize exec x s = left at h hx
  generalize exec y t = right at h hy
  cases h with
  | @value a b s' t' hvalue hst =>
    subst hvalue
    rw [exec_answered request hx, exec_answered request hy, hst.redirect]
    refine ⟨?_, hst.sameData⟩
    unfold Engine.outcome
    cases t'.redirect request with
    | some target => exact .value _
    | none => exact .value _
  | @stop a b s' t' hstop hst =>
    cases hstop with
    | raised h =>
      rw [exec_answered request hx, exec_answered request hy, hst.redirect]
      exact ⟨h.outcome _, hst⟩
    | stalled =>
      rw [exec_answered_stop request hx, exec_answered_stop request hy]
      exact ⟨.stop .stalled, hst⟩
    | exhausted =>
      rw [exec_answered_stop request hx, exec_answered_stop request hy]
      exact ⟨.stop .exhausted, hst⟩

/-- Engines that read counterparts have the same outcome for a request, and leave the same data. -/
theorem outcomes_renderView (hengine : engine.Interprets) (hreads : c.Reads) (fuel : Nat)
    (path : String) (data : ObjectId) {s t : Store σ} (hst : s.Agrees c t) :
    c.Outcomes (exec ((engine.reading c.left).renderView fuel path data) s).1
        (exec ((engine.reading c.right).renderView fuel path data) t).1 ∧
      (exec ((engine.reading c.left).renderView fuel path data) s).2.SameData
        (exec ((engine.reading c.right).renderView fuel path data) t).2 := by
  have hcontext : ∀ (engine : Engine σ) (u : Store σ), ∃ context after,
      exec (engine.context path data) u = (.ok context, after) := fun _ _ => ⟨_, _, rfl⟩
  obtain ⟨context, s', hs⟩ := hcontext (engine.reading c.left) s
  obtain ⟨context', t', ht⟩ := hcontext (engine.reading c.right) t
  have hagrees : Agrees c Eq ((engine.reading c.left).context path data)
      ((engine.reading c.right).context path data) := .context path data
  have hstart := hagrees s t hst
  rw [hs, ht] at hstart
  cases hstart with
  | value hsame hst' =>
    subst hsame
    have hends := Agrees.produce hengine hreads fuel (.template context) s' t' hst'
    unfold Engine.renderView
    rw [exec_bind_ok hs, exec_bind_ok ht]
    exact hends.answered context.request

end TemplateEngine
