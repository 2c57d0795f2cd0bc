import TemplateEngine.Proofs.Engine.Preparation
import TemplateEngine.Proofs.Render.Trading
import TemplateEngine.Proofs.Section.Production

/-!
# `Engine` · What output costs

Templates may nest each other and themselves, and sections may be printed from sections. Neither
goes on for ever: a template that is nested is deeper than the one that nests it, a scope is taken
away once, and a slot is rendered once.

* **Waiting and reading slots** cost nothing (`Affords.waitFor`, `Affords.readSlot`): what they render
  was paid for when it was put there.
* **Walks** pay for the fragments that they append, and hold the scopes of the bodies of open tags
  until these become slots (`Trades.step`, `Trades.run`).
* **`Trades.renderTemplate`**: a template affords its walk, its layout and its fragments at the price
  of its level, if all pieces of output that it produces are affordable.
* **`Engine.produceUpTo limit n`** produces output in which pieces nest at most `n` deep; a deeper
  one is produced by `limit`. Each piece costs at least one, so that `limit` is not reached
  (`Affords.produceUpTo`).
-/

namespace TemplateEngine

open Render TemplateEngine.Template

variable {σ α β : Type}

/-- The templates of an engine are not longer and do not nest deeper than the rates say. -/
structure Engine.Rated (engine : Engine σ) (rates : Rates) : Prop where
  /-- Templates have at most so many parts. -/
  parts : ∀ {path source template}, engine.read path = .ok source →
    CompiledTemplate.compile path source = .ok template → template.tokens.length ≤ rates.parts
  /-- They nest at most so deep. -/
  depth : engine.config.maxDepth = rates.depth

/-- No template is read by a context that is nested too deep. -/
theorem Engine.exec_renderTemplate_of_deep {engine : Engine σ} {context : Context}
    (h : engine.config.maxDepth < context.depth) (run : Task → Render σ String) (s : Store σ) :
    exec (engine.renderTemplate run context) s = (.error (.raised (.structural
      (.tooDeep context.depth engine.config.maxDepth context.viewPath))), s) := by
  have hcheck : engine.checkDepth context = .error (.structural
      (.tooDeep context.depth engine.config.maxDepth context.viewPath)) := if_pos h
  have hexec : exec (Render.ofExcept (engine.checkDepth context)) s = (.error (.raised (.structural
      (.tooDeep context.depth engine.config.maxDepth context.viewPath))), s) := by
    rw [hcheck, exec_ofExcept]
    rfl
  unfold Engine.renderTemplate Engine.fetch
  exact exec_bind_error (exec_bind_error hexec _) _

namespace Rates

variable {rates : Rates} {limit cost : Nat} {held : List Holder}

namespace Affords

/-- So does what a preparation is made of. -/
theorem prepares (engine : Engine σ) :
    engine.Prepares fun _ x y => rates.Affords limit 0 x y where
  toRespects := respects engine.host
  raise error := .raise error
  attempt h := h.attempt
  started _ _ := .note rfl
  ended _ := .note rfl
  checkRedirect id := .of_narrows fun s => by
    rw [exec_checkRedirect]
    rcases s.redirect id with _ | target
    · exact .refl s
    · exact .refl s
  builtins _ _ := .changeGraph _

/-! ## Fragments, slots and promises -/

section Output

variable {run run' : Task → Render σ String}
  (hrun : ∀ task, rates.Affords limit (rates.task task) (run task) (run' task))

include hrun

theorem produceAll (pieces : List (Fragment Deferred × Nat)) :
    rates.Affords limit (rates.total (pieces.map Prod.fst))
      (TemplateEngine.produceAll (runDeferred run) pieces)
      (TemplateEngine.produceAll (runDeferred run') pieces) := by
  induction pieces with
  | nil => exact .pure _
  | cons piece rest ih =>
    obtain ⟨⟨payload, priority⟩, place⟩ := piece
    rw [List.map_cons, Rates.total_cons]
    have hrest := fun text : String => ih.map fun texts => (text, place) :: texts
    cases payload with
    | literal text => exact (Affords.pure text).bind hrest
    | deferred deferred =>
      have hdeferred : rates.Affords limit (rates.task deferred.task) (runDeferred run deferred)
          (runDeferred run' deferred) := (hrun deferred.task).mapError _
      exact hdeferred.bind hrest

/-- Fragments are rendered for what they cost. -/
theorem renderFragments (fragments : List (Fragment Deferred)) :
    rates.Affords limit (rates.total fragments)
      (TemplateEngine.renderFragments (runDeferred run) fragments)
      (TemplateEngine.renderFragments (runDeferred run') fragments) := by
  have hperm : ((productionOrder fragments).map Prod.fst).Perm fragments := by
    have hplaces : ((productionOrder fragments).map Prod.fst).Perm (fragments.zipIdx.map Prod.fst) :=
      (ordered_perm fragments.zipIdx).map Prod.fst
    rwa [List.zipIdx_map_fst] at hplaces
  have htotal : rates.total ((productionOrder fragments).map Prod.fst) = rates.total fragments := by
    unfold Rates.total
    exact (hperm.map fun fragment => rates.payload fragment.payload).sum_eq
  rw [← htotal]
  exact (produceAll hrun _).map _

/-- Reading a slot costs nothing, because what it renders was paid for when it was made. -/
theorem readSlot (id : SlotId) :
    rates.Affords limit 0 (readSlot run id) (readSlot run' id) := by
  have hshared : ∀ result : Except Error String,
      rates.Affords (σ := σ) limit 0 (ofShared result) (ofShared result) := by
    intro result
    cases result with
    | ok text => exact .pure text
    | error error => exact .raise _
  intro s others reserve hs
  refine .step (exec_slot? id s) ?_
  rcases hstate : s.slots[id.index]?.map Slot.state with _ | fragments | _ | result
  · exact Affords.pure "" s others reserve hs
  · have hsettle : ∀ result : Except Error String, rates.Affords (σ := σ) limit 0
        (changeSlot id fun slot => { slot with state := .settled result })
        (changeSlot id fun slot => { slot with state := .settled result }) :=
      fun result => .of_narrows fun s => .changeSlot id fun _ => .inr rfl
    have hrender := (renderFragments hrun fragments).attempt.bind fun result =>
      (hsettle result).free fun _ => hshared result
    rw [Nat.zero_add] at hs
    exact .step (exec_changeSlot id _ s) (hrender (s.setState id .running) others reserve
      (hs.running hstate))
  · exact Trades.throw .stalled s others reserve hs
  · exact hshared result s others reserve hs

/-- Waiting for a promise costs nothing. -/
theorem waitFor (engine : Engine σ) (id : PromiseId) :
    rates.Affords limit 0 (waitFor engine run id) (waitFor engine run' id) := by
  have hshared : ∀ result : Except Error Value,
      rates.Affords (σ := σ) limit 0 (ofShared result) (ofShared result) :=
    (prepares engine).ofShared
  have hwork : ∀ work, rates.Affords limit 0 (runWork engine run work) (runWork engine run' work) := by
    intro work
    cases work with
    | native id args => exact (respects engine.host).native id args
    | content slot => exact (readSlot hrun slot).map _
  unfold TemplateEngine.waitFor
  refine .free ((respects engine.host).read _) fun state => ?_
  rcases state with _ | work | _ | result
  · exact .pure _
  · exact .free (.changeGraph _) fun _ => .free (hwork work).attempt fun result =>
      .free (.changeGraph _) fun _ => hshared result
  · exact .throw .stalled
  · exact hshared result

end Output

/-! ## Parts of a template -/

theorem append (walk : Walk) (payload : Payload Deferred) (priority : Priority) :
    rates.Affords (σ := σ) limit (2 * rates.payload payload) (walk.append payload priority)
      (walk.append payload priority) := by
  intro s others reserve hs
  refine .step (exec_changeSections _ _ s) ?_
  refine Affords.pure () _ others reserve ?_
  rw [Nat.zero_add]
  exact hs.append walk.active walk.context.viewPath ⟨payload, priority⟩

theorem appendText (walk : Walk) (text : String) :
    rates.Affords (σ := σ) limit 0 (walk.appendText text) (walk.appendText text) := by
  unfold Walk.appendText
  split
  · exact .pure ()
  · exact append walk (.literal text) .normal

theorem appendSection (walk : Walk) (template : CompiledTemplate) (token : Nat) (name : String)
    (optional : Bool) :
    rates.Affords (σ := σ) limit 4 (walk.appendSection template token name optional)
      (walk.appendSection template token name optional) := by
  unfold Walk.appendSection
  split
  · split
    · next slot _ =>
      refine Trades.spend (append walk (.deferred ⟨.content slot optional, template, token⟩) _) ?_
      show 2 * 1 ≤ 4
      decide
    · exact append walk (.deferred ⟨.section walk.context.request name optional, template, token⟩) _
  · exact append walk (.deferred ⟨.section walk.context.request name optional, template, token⟩) _

section Walks

variable {engine : Engine σ} {wait wait' : PromiseId → Render σ Value}
  (hengine : engine.Interprets) (hwait : ∀ id, rates.Affords limit 0 (wait id) (wait' id))

include hengine hwait

/-- A nested template is one level deeper than the one that nests it. -/
theorem invoke (template : CompiledTemplate) (walk : Walk) (token : Nat) (invocation : Invocation) :
    rates.Affords limit (2 * rates.level (rates.depth - walk.context.depth))
      (walk.invoke engine wait template token invocation)
      (walk.invoke engine wait' template token invocation) := by
  have hprepare : rates.Affords limit 0 (walk.prepare engine wait invocation)
      (walk.prepare engine wait' invocation) := (prepares engine).prepare hengine hwait walk invocation
  have hnested := hprepare.known fun s _ => (ensures_prepare wait walk invocation s).mono
    (fun child _ h => h.depth) fun _ _ _ => trivial
  have hchild : ∀ child : Context, child.depth = walk.context.depth + 1 →
      rates.Affords limit (2 * rates.level (rates.depth - walk.context.depth))
        (walk.appendTask template token (.template child) .nestedView : Render σ Unit)
        (walk.appendTask template token (.template child) .nestedView) := by
    intro child hdepth
    have hprice : rates.task (.template child) = rates.level (rates.depth - walk.context.depth) := by
      rw [Rates.task, hdepth, Nat.add_sub_add_right]
    rw [← hprice]
    exact append walk (.deferred ⟨.template child, template, token⟩) .nestedView
  exact Trades.spend (Trades.andThen _ hnested hchild) (Nat.le_of_eq (Nat.zero_add _))

end Walks

end Affords

/-! ## Walks -/

/-- The scopes that a walk holds: those of the bodies of its open tags. -/
def bodies (rates : Rates) (request : RequestId) (openTags : List OpenTag) : List Holder :=
  openTags.flatMap fun opened => rates.handles request opened.body

/-- A walk goes on with the request and at the depth of a context. -/
def walked (rates : Rates) (context : Context) : Outcome Walk where
  held walk := rates.bodies context.request walk.openTags
  credit _ := 0
  good walk := walk.context.request = context.request ∧ walk.context.depth = context.depth

/-- What a part of a template costs at most. -/
def part (rates : Rates) (depth : Nat) : Nat := 2 * rates.level (rates.depth - depth) + 4

namespace Trades

/-- A scope that is held is given up for what its fragments cost. -/
theorem giveUp {request : RequestId} {scope : ScopeId}
    {f g : List (Fragment Deferred) → Render σ α} {outcome : Outcome α}
    (h : ∀ fragments,
      rates.Trades limit held (rates.total fragments + cost) (f fragments) (g fragments) outcome) :
    rates.Trades limit (rates.handles request scope ++ held) cost
      (withSections request (fun sections => sections.fragments scope) >>= f)
      (withSections request (fun sections => sections.fragments scope) >>= g) outcome := by
  intro s others reserve hs
  refine .step (exec_withSections _ _ s) (h _ s others reserve ?_)
  rw [List.append_assoc] at hs
  rw [Nat.add_assoc]
  exact hs.handle

/-- What pushes a scope holds it. -/
theorem pushSection (request : RequestId) (name owner : String) {f g : ScopeId → Render σ α}
    {outcome : Outcome α}
    (h : ∀ scope, rates.Trades limit (rates.handles request scope ++ held) cost (f scope) (g scope)
      outcome) :
    rates.Trades limit held cost
      (changeSections request (fun sections => sections.push name owner) >>= f)
      (changeSections request (fun sections => sections.push name owner) >>= g) outcome := by
  intro s others reserve hs
  refine .step (exec_changeSections _ _ s) (h _ _ others reserve ?_)
  rw [List.append_assoc]
  exact hs.push request name owner

variable {engine : Engine σ} {wait wait' : PromiseId → Render σ Value} {context : Context}

/-- A walk goes on with the same open tags. -/
theorem stay {tags : List OpenTag} {after : Walk} (htags : after.openTags = tags)
    (hcontext : after.context.request = context.request ∧ after.context.depth = context.depth) :
    rates.Trades (σ := σ) limit (rates.bodies context.request tags) cost (Pure.pure after)
      (Pure.pure after) (rates.walked context) := by
  rw [← htags]
  exact spend (pure (rates.walked context) hcontext) (Nat.zero_le _)

/-- A step that does not change which tags are open. -/
theorem keep {tags : List OpenTag} {x y : Render σ α} {f : α → Walk} {spent : Nat}
    (hx : rates.Affords limit spent x y) (hspent : spent ≤ cost)
    (htags : ∀ a, (f a).openTags = tags)
    (hcontext : ∀ a, (f a).context.request = context.request ∧ (f a).context.depth = context.depth) :
    rates.Trades limit (rates.bodies context.request tags) cost (do return f (← x))
      (do return f (← y)) (rates.walked context) :=
  spend (andThen 0 hx fun a _ => stay (htags a) (hcontext a)) hspent

section Steps

variable (hengine : engine.Interprets) (hwait : ∀ id, rates.Affords limit 0 (wait id) (wait' id))

include hengine hwait

theorem direct (template : CompiledTemplate) (walk : Walk) (token : Nat) (directive : Directive)
    (hwalk : walk.context.request = context.request ∧ walk.context.depth = context.depth) :
    rates.Trades limit (rates.bodies context.request walk.openTags) (rates.part context.depth)
      (walk.direct engine wait template token directive)
      (walk.direct engine wait' template token directive) (rates.walked context) := by
  have hinvoke : ∀ invocation, rates.Trades limit (rates.bodies context.request walk.openTags)
      (rates.part context.depth)
      (do walk.invoke engine wait template token invocation; return walk)
      (do walk.invoke engine wait' template token invocation; return walk)
      (rates.walked context) := by
    intro invocation
    refine keep (Affords.invoke hengine hwait template walk token invocation) ?_ (fun _ => rfl)
      fun _ => hwalk
    rw [hwalk.2]
    exact Nat.le_add_right _ _
  cases directive with
  | eval expression =>
    unfold Walk.direct
    dsimp only
    split
    · exact keep ((Affords.prepares engine).evaluateValue hengine hwait _ expression)
        (Nat.zero_le _) (fun _ => rfl) fun _ => hwalk
    · exact stay rfl hwalk
  | base name path =>
    exact keep (f := fun directory => { walk with context := { walk.context with
      basePaths := walk.context.basePaths.insert name directory } }) (.ofExcept _) (Nat.zero_le _)
      (fun _ => rfl) fun _ => hwalk
  | layout path =>
    unfold Walk.direct
    dsimp only
    split
    · exact raise _
    · exact stay rfl hwalk
  | «section» name => exact stay rfl hwalk
  | render name optional =>
    exact keep (Affords.appendSection walk template token name optional)
      (Nat.le_add_left _ _) (fun _ => rfl) fun _ => hwalk
  | «include» path expression => exact hinvoke _
  | view path expression => exact hinvoke _
  | unknown word => exact raise _

/-- A walk holds the scope of the body from the opening tag to the closing one. -/
theorem openTag (template : CompiledTemplate) (walk : Walk) (token : Nat) (part : Token)
    (hwalk : walk.context.request = context.request ∧ walk.context.depth = context.depth) :
    rates.Trades limit (rates.bodies context.request walk.openTags) (rates.part context.depth)
      (walk.openTag engine wait template token part)
      (walk.openTag engine wait' template token part) (rates.walked context) := by
  unfold Walk.openTag
  split
  · exact raise _
  · next tag _ =>
    split
    · exact raise _
    · next invocation _ =>
      split
      · refine keep (Affords.invoke hengine hwait template walk token invocation) ?_ (fun _ => rfl)
          fun _ => hwalk
        rw [hwalk.2]
        exact Nat.le_add_right _ _
      · refine free (.withSections _ _) fun saved => ?_
        rw [hwalk.1]
        refine pushSection _ _ _ fun body => ?_
        let opened : OpenTag := ⟨tag, token, walk.active, saved, body⟩
        show rates.Trades limit (rates.bodies context.request (opened :: walk.openTags)) _ _ _ _
        exact stay rfl hwalk

/-- What was held for the body pays for the slot that it becomes. -/
theorem closeTag (template : CompiledTemplate) (walk : Walk) (part : Token)
    (hwalk : walk.context.request = context.request ∧ walk.context.depth = context.depth) :
    rates.Trades limit (rates.bodies context.request walk.openTags) (rates.part context.depth)
      (walk.closeTag engine wait template part)
      (walk.closeTag engine wait' template part) (rates.walked context) := by
  unfold Walk.closeTag
  dsimp only
  rcases walk.openTags with _ | ⟨opened, openTags⟩
  · exact raise _
  dsimp only
  split
  · exact raise _
  refine free (.withSections _ _) fun peek => ?_
  split
  · exact raiseThen _ _ _
  refine free (.popSection _ _) fun _ => ?_
  rw [hwalk.1]
  refine giveUp fun fragments => ?_
  refine spend (andThen (rates.part context.depth - 1) (Affords.newSlot fragments)
    fun body _ => ?_) ?_
  · split
    · exact raise _
    · next invocation _ =>
      let closed : Walk := { walk with active := opened.sectionName, openTags := openTags }
      have hinvoke := Affords.invoke hengine hwait template closed opened.token invocation
      refine keep hinvoke ?_ (fun _ => rfl) fun _ => hwalk
      rw [hwalk.2]
      exact Nat.le_add_right _ _
  · have : 1 ≤ rates.part context.depth := Nat.le_add_left 1 _
    omega

theorem step (template : CompiledTemplate) (walk : Walk) (token : Nat) (part : Token)
    (hwalk : walk.context.request = context.request ∧ walk.context.depth = context.depth) :
    rates.Trades limit (rates.bodies context.request walk.openTags) (rates.part context.depth)
      (walk.step engine wait template token part)
      (walk.step engine wait' template token part) (rates.walked context) := by
  unfold Walk.step
  split
  · exact keep (Affords.appendText walk _) (Nat.zero_le _) (fun _ => rfl) fun _ => hwalk
  · split
    · exact raise _
    · next directive _ =>
      exact direct hengine hwait template { walk with stripNext := directive.consumesLine } token
        directive hwalk
    · refine free ((Affords.prepares engine).evaluate hengine hwait _ _) fun text => ?_
      exact keep (Affords.appendText walk text) (Nat.zero_le _) (fun _ => rfl) fun _ => hwalk
  · exact openTag hengine hwait template { walk with stripNext := true } token part hwalk
  · exact closeTag hengine hwait template { walk with stripNext := true } part hwalk

theorem steps (template : CompiledTemplate) (parts : List Token) (walk : Walk) (token : Nat)
    (hwalk : walk.context.request = context.request ∧ walk.context.depth = context.depth) :
    rates.Trades limit (rates.bodies context.request walk.openTags)
      (parts.length * rates.part context.depth) (walk.steps engine wait template token parts)
      (walk.steps engine wait' template token parts) (rates.walked context) := by
  induction parts generalizing walk token with
  | nil => exact stay rfl hwalk
  | cons part rest ih =>
    have hstep := ((step hengine hwait template walk token part hwalk).mapError
      (locate template token)).frame [] (rest.length * rates.part context.depth)
    simp only [List.append_nil] at hstep
    refine spend (hstep.bind fun after hafter => ?_) ?_
    · exact spend (ih after (token + 1) hafter) (Nat.le_add_left _ _)
    · rw [List.length_cons, Nat.succ_mul, Nat.add_comm]

/-- A walk that ends holds no bodies. -/
theorem run (template : CompiledTemplate) (context : Context) :
    rates.Trades limit [] (template.tokens.length * rates.part context.depth)
      (Walk.run engine wait template context) (Walk.run engine wait' template context)
      (.known fun walk =>
        walk.context.request = context.request ∧ walk.context.depth = context.depth) := by
  have hsteps : rates.Trades limit (rates.bodies context.request [])
      (template.tokens.length * rates.part context.depth)
      (Walk.steps engine wait template (.start context) 0 template.tokens)
      (Walk.steps engine wait' template (.start context) 0 template.tokens)
      (rates.walked context) :=
    steps hengine hwait template template.tokens (.start context) 0 ⟨rfl, rfl⟩
  refine Trades.bind hsteps fun walk hwalk => ?_
  show rates.Trades limit (rates.bodies context.request walk.openTags) 0 _ _ _
  split
  · next hnone =>
    rw [hnone]
    exact pure (.known (rates.walked context).good) hwalk
  · exact raise _

end Steps

/-! ## Templates -/

/-- The layout of a page is one level deeper than the page. -/
theorem enterLayout (engine : Engine σ) (page : Context) (layout : String)
    (fragments : List (Fragment Deferred)) :
    rates.Trades limit [] (rates.total fragments + 1)
      (engine.enterLayout page layout (.pending fragments))
      (engine.enterLayout page layout (.pending fragments))
      (.known fun child => child.depth = page.depth + 1) := by
  unfold Engine.enterLayout Engine.layoutContext
  refine free (.ofExcept _) fun filePath => ?_
  refine andThen 0 (Affords.newSlot fragments) fun slot _ => ?_
  exact free (.changeGraph _) fun data => free (.changeGraph _) fun builtins =>
    pure (.known fun child : Context => child.depth = page.depth + 1) rfl

section Output

variable {run run' : Task → Render σ String}
  (hrun : ∀ task, rates.Affords limit (rates.task task) (run task) (run' task))

include hrun

/-- A scope that is held pays for its fragments. -/
theorem renderScope (request : RequestId) (scope : ScopeId) :
    rates.Trades limit (rates.handles request scope) 0 (renderScope run request scope)
      (renderScope run' request scope) .plain := by
  rw [← List.append_nil (rates.handles request scope)]
  exact giveUp fun found => Affords.renderFragments hrun found

/-- A page costs nothing beside its fragments, and a layout a slot and a template. -/
theorem renderWalked (template : CompiledTemplate) (scope : ScopeId) {walk : Walk}
    (hwalk : walk.context.request = context.request ∧ walk.context.depth = context.depth) :
    rates.Trades limit (rates.handles context.request scope)
      (1 + rates.level (rates.depth - context.depth))
      (engine.renderWalked run template scope walk) (engine.renderWalked run' template scope walk)
      .plain := by
  unfold Engine.renderWalked
  rw [hwalk.1]
  split
  · next layout _ =>
    refine Trades.mapError _ ?_
    unfold Engine.renderLayout
    rw [hwalk.1, ← List.append_nil (rates.handles context.request scope)]
    refine giveUp fun found => ?_
    have hprice : ∀ child : Context, child.depth = walk.context.depth + 1 →
        rates.task (.template child) = rates.level (rates.depth - context.depth) := by
      intro child hdepth
      rw [Rates.task, hdepth, hwalk.2, Nat.add_sub_add_right]
    refine spend (andThen _ (enterLayout engine walk.context layout.path found)
      fun child hdepth => hprice child hdepth ▸ hrun (.template child)) ?_
    exact Nat.le_of_eq (Nat.add_assoc _ _ _)
  · exact spend (renderScope hrun context.request scope) (Nat.zero_le _)

/-- What a template does with its scope costs what its parts and its layout cost. -/
theorem body (hengine : engine.Interprets) (template : CompiledTemplate) (context : Context)
    (scope : ScopeId) (hlength : template.tokens.length ≤ rates.parts) :
    rates.Trades limit (rates.handles context.request scope)
      (rates.parts * rates.part context.depth + (1 + rates.level (rates.depth - context.depth)))
      (do
        let walk ← Walk.run engine (waitFor engine run) template context
        engine.renderWalked run template scope walk)
      (do
        let walk ← Walk.run engine (waitFor engine run') template context
        engine.renderWalked run' template scope walk)
      .plain := by
  refine spend (andThen _ (Trades.run hengine (Affords.waitFor hrun engine) template context)
    fun walk hwalk => renderWalked hrun template scope hwalk) ?_
  exact Nat.add_le_add_right (Nat.mul_le_mul_right _ hlength) _

end Output

section Templates

variable (hrated : engine.Rated rates)

include hrated

/-- A template that is loaded is not too long. -/
theorem loadTemplate {path source : String} (hread : engine.read path = .ok source) :
    rates.Trades (σ := σ) limit [] 0 (loadTemplate path source) (loadTemplate path source)
      (.known fun template => template.tokens.length ≤ rates.parts) := by
  have hload : ∀ s : Store σ, s.templates.Within rates.parts → _ := fun s h =>
    TemplateCache.All.load h path source fun template hcompile => hrated.parts hread hcompile
  refine Affords.known (.of_narrows fun s => ?_) fun s hs => ?_
  · rw [exec_loadTemplate]
    exact .keeping fun h => (hload s h).2
  · refine ⟨fun {template t} hexec => ?_, fun _ => trivial⟩
    rw [exec_loadTemplate] at hexec
    have hresult := (Prod.mk.inj hexec).1
    rcases (hload s hs).1 with hcompiled | ⟨kept, hkept, hlength, -⟩
    · rw [hcompiled] at hresult
      rcases hcompile : CompiledTemplate.compile path source with error | compiled
      · rw [hcompile] at hresult
        cases hresult
      · rw [hcompile] at hresult
        cases hresult
        exact hrated.parts hread hcompile
    · rw [hkept] at hresult
      cases hresult
      exact hlength

/-- A template is read at a cost of one. -/
theorem fetch (context : Context) :
    rates.Trades limit [] 1 (engine.fetch context) (engine.fetch context)
      (.known fun template => template.tokens.length ≤ rates.parts) := by
  unfold Engine.fetch
  refine free (.ofExcept _) fun _ => ?_
  have hread : rates.Affords (σ := σ) limit 1 (note (.reading context.filePath))
      (note (.reading context.filePath)) :=
    .of_narrows fun s => .noted s (.reading context.filePath)
  refine andThen 0 hread fun _ _ => ?_
  rcases hsource : engine.read context.filePath with error | source
  · exact raise error
  · exact loadTemplate hrated hsource

variable {run run' : Task → Render σ String} (hengine : engine.Interprets)
  (hrun : ∀ task, rates.Affords limit (rates.task task) (run task) (run' task))

include hengine hrun

/-- A template affords its output at the price of its level, less one for itself. -/
theorem renderTemplate (context : Context) :
    rates.Affords limit (rates.task (.template context) - 1) (engine.renderTemplate run context)
      (engine.renderTemplate run' context) := by
  by_cases hdeep : engine.config.maxDepth < context.depth
  · intro s others reserve hs
    have hexec := fun run => Engine.exec_renderTemplate_of_deep hdeep run s
    refine ⟨(hexec run).trans (hexec run').symm, .of_error (hexec run) ?_⟩
    exact hs.mono (Nat.le_refl _) (Nat.le_add_left _ _)
  · have hprice : rates.task (.template context) - 1 = 1 + (rates.parts * rates.part context.depth +
        (1 + rates.level (rates.depth - context.depth))) := by
      have hlevels : rates.depth + 1 - context.depth = rates.depth - context.depth + 1 := by
        have := hrated.depth
        omega
      rw [Rates.task, hlevels, Rates.level, Rates.part]
      omega
    rw [hprice]
    unfold Engine.renderTemplate
    refine andThen _ (fetch hrated context) fun template hlength => ?_
    refine pushSection _ _ _ fun scope => ?_
    rw [List.append_nil]
    refine Trades.bind (body hrun hengine template context scope hlength).attempt fun output _ => ?_
    exact free (Affords.popSection _ _).attempt fun popped => free (.ofExcept output) fun text =>
      free (.ofExcept popped) fun _ => Affords.pure text

end Templates

end Trades

namespace Affords

variable {engine : Engine σ} {run run' : Task → Render σ String}

theorem consumedText (name : String) (optional : Bool) :
    rates.Affords (σ := σ) limit 0 (Engine.consumedText name optional)
      (Engine.consumedText name optional) := by
  unfold Engine.consumedText
  split
  · exact .pure ""
  · exact .raise _

section Tasks

variable (hrun : ∀ task, rates.Affords limit (rates.task task) (run task) (run' task))

include hrun

/-- A section is printed at a cost of one, because its fragments were paid for before. -/
theorem renderSection (request : RequestId) (name : String) (optional : Bool) :
    rates.Affords limit 1 (Engine.renderSection run request name optional)
      (Engine.renderSection run' request name optional) := by
  intro s others reserve hs
  have hfree : rates.Fits limit s ([] ++ others) (0 + reserve) :=
    hs.mono (Nat.le_refl _) (Nat.add_le_add_right (Nat.zero_le 1) _)
  have hexec := exec_trySections request (fun sections => sections.takeCurrent name) s
  rcases htake : (s.sections request).takeCurrent name with fault | ⟨_ | scope, after⟩
  · rw [htake] at hexec
    refine .step hexec ?_
    dsimp only
    split
    · exact Affords.pure "" s others reserve hfree
    · exact Affords.raise _ s others reserve hfree
  · rw [htake] at hexec
    refine .step hexec (consumedText name optional _ others reserve ?_)
    refine (Narrows.takeCurrent htake).fits ?_
    rwa [Nat.zero_add]
  · rw [htake] at hexec
    have hafter : ((s.setSections request after).sections request).fragments scope =
        (s.sections request).fragments scope := by
      rcases s.sections_setSections_cases request request after with heq | ⟨-, heq⟩
      · rw [heq]
      · rw [heq, (Sections.takeCurrent_cases htake).2, Sections.fragments_setStack]
    have hpaid := hs.take htake
    rw [← hafter, Nat.add_left_comm] at hpaid
    refine .step hexec (.step (exec_note (.taken request name scope) _)
      (.step (exec_withSections _ _ _) (renderFragments hrun _ _ others reserve ?_)))
    exact (Narrows.noted _ (.taken request name scope)).fits hpaid

/-- A slot is printed at no cost. -/
theorem renderContent (slot : SlotId) (optional : Bool) :
    rates.Affords limit 0 (Engine.renderContent run slot optional)
      (Engine.renderContent run' slot optional) := by
  have hconsume : rates.Affords (σ := σ) limit 0 (consume slot) (consume slot) :=
    .of_narrows fun s => .changeSlot slot fun _ => .inl rfl
  unfold Engine.renderContent
  refine hconsume.free fun consumed => ?_
  split
  · exact consumedText _ optional
  · exact readSlot hrun slot

/-- Every piece of output is produced for less than it costs. -/
theorem perform (hrated : engine.Rated rates) (hengine : engine.Interprets) (task : Task) :
    rates.Affords limit (rates.task task - 1) (engine.perform run task) (engine.perform run' task) := by
  cases task with
  | template context => exact Trades.renderTemplate hrated hengine hrun context
  | «section» request name optional => exact renderSection hrun request name optional
  | content slot optional => exact renderContent hrun slot optional

end Tasks

end Affords

end Rates

/-! ## Pieces of output -/

/-- Produces a piece of output in which pieces nest at most so deep; deeper ones are left to
`limit`. -/
def Engine.produceUpTo (engine : Engine σ) (limit : Task → Render σ String) :
    Nat → Task → Render σ String
  | 0 => limit
  | fuel + 1 => engine.perform (engine.produceUpTo limit fuel)

/-- The fuel of an engine is the limit at which it gives up. -/
theorem Engine.produce_eq_produceUpTo (engine : Engine σ) (fuel : Nat) :
    engine.produce fuel = engine.produceUpTo (fun _ => throw .exhausted) fuel := by
  induction fuel with
  | zero => rfl
  | succ fuel ih =>
    funext task
    rw [Engine.produce, ih]
    rfl

/-- A limit may itself be output up to a limit. -/
theorem Engine.produceUpTo_add (engine : Engine σ) (limit : Task → Render σ String) (more fuel : Nat) :
    engine.produceUpTo limit (more + fuel) =
      engine.produceUpTo (engine.produceUpTo limit more) fuel := by
  induction fuel with
  | zero => rfl
  | succ fuel ih => rw [Nat.add_succ, Engine.produceUpTo, Engine.produceUpTo, ih]

/-- What is affordable does not reach the limit. -/
theorem Rates.Affords.produceUpTo {rates : Rates} {engine : Engine σ} (hrated : engine.Rated rates)
    (hengine : engine.Interprets) (limit limit' : Task → Render σ String) (fuel : Nat) (task : Task) :
    rates.Affords fuel (rates.task task) (engine.produceUpTo limit fuel task)
      (engine.produceUpTo limit' fuel task) := by
  induction fuel generalizing task with
  | zero =>
    intro s others reserve ⟨loose, _, hdues⟩
    have := rates.task_pos task
    omega
  | succ fuel ih =>
    intro s others reserve hs
    have hprice := rates.task_pos task
    have hless : rates.Fits fuel s ([] ++ others) (rates.task task - 1 + reserve) := by
      obtain ⟨loose, hstock, hdues⟩ := hs
      exact ⟨loose, hstock, by omega⟩
    obtain ⟨hsame, hfits⟩ := perform ih hrated hengine task s others reserve hless
    refine ⟨hsame, hfits.mono (fun _ _ ⟨hgood, ht⟩ => ⟨hgood, ?_⟩) fun _ _ ht => ?_⟩
    · exact ht.mono (Nat.le_succ fuel) (Nat.le_refl _)
    · exact ht.mono (Nat.le_succ fuel) (Nat.le_refl _)

end TemplateEngine
