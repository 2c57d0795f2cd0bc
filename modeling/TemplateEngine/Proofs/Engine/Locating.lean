import TemplateEngine.Proofs.Engine.Preparation
import TemplateEngine.Proofs.Expr.Evaluation
import TemplateEngine.Proofs.Render.Places

/-!
# `Engine` · Failures in renders

Whatever an engine does keeps to a chronicle.

* **`Engine.Tells`**: what an engine is given from outside names no places but known ones.
* **Walks** (`Meets.direct`, `ensures_step`, `ensures_run`): a walk knows the places of its tags and
  of its layout. A part that fails gives the failure its own place; a literal cannot fail, so that
  no failure has the place of one. While a tag is open in a sheltered template, no part fails, and
  what is done by the closer after the pop leaves no scope behind.
* **Renders** (`ensures_renderTemplate`, `Meets.produce`): what runs later fails at the place that
  its token had when it was laid by.
-/

namespace TemplateEngine

open Render TemplateEngine.Text TemplateEngine.Template

variable {σ : Type}

/-- What an engine is given from outside names no places but known ones. -/
structure Engine.Tells (engine : Engine σ) (c : Chronicle) : Prop where
  /-- It reads the templates of the chronicle. -/
  read : engine.read = c.read
  /-- Expressions are walked by the library. -/
  interprets : engine.Interprets
  /-- A file that cannot be read fails so. -/
  unread : ∀ J path error, engine.read path = .error error → error.Placed (c.place J)
  /-- A native function fails so. -/
  fails : ∀ J id args state error, ((engine.host.call id args).run.run state).1 = .error error →
    error.Placed (c.place J)
  /-- It leaves no other promises. -/
  leaves : ∀ J id args state, Graph.SettledAt (c.place J) state.1 →
    Graph.SettledAt (c.place J) ((engine.host.call id args).run.run state).2.1

namespace Chronicle.Meets

variable {c : Chronicle} {J : List Event} {engine : Engine σ} {wait : PromiseId → Render σ Value}
  {walk : Walk}

/-! ## Expressions -/

theorem native (h : engine.Tells c) (id : NativeId) (args : List Value) :
    c.Meets J (ofNative (engine.host.call id args)) fun _ _ => True := by
  intro s hs hold
  have hexec := exec_ofNative (engine.host.call id args) s
  have hgraph := h.leaves s.journal id args (s.graph, s.host) hold.graph
  have hfails := fun K => h.fails K id args (s.graph, s.host)
  rcases hcall : (engine.host.call id args).run.run (s.graph, s.host) with
    ⟨error | value, graph, state⟩
  all_goals rw [hcall] at hexec hgraph hfails
  · have hst : s.Balanced ({ s with graph := graph, host := state } : Store σ) :=
      .still ⟨rfl, rfl⟩
    exact .of_error hexec (.of_balanced (hst.trans (Store.balanced_noted _ _)) (hfails _ _ rfl))
  · have ht : ({ s with graph := graph, host := state } : Store σ).Told c :=
      hold.congr (List.suffix_refl _) rfl (fun _ => rfl) rfl hgraph hold.templates
    exact .of_ok hexec ⟨True.intro, ht, .still ⟨rfl, rfl⟩⟩

/-- The steps of an evaluation keep to the chronicle. -/
theorem respects (h : engine.Tells c) :
    Respects engine.host fun _ x _ => ∀ J, c.Meets J x fun _ _ => True where
  pure _ _ := .pure fun _ _ => True.intro
  bind hx hf J := (hx J).bind fun K a _ _ => hf a K
  read _ _ := .withGraph _ fun _ _ _ _ => True.intro
  write _ _ _ _ := .changeGraph _ fun _ _ _ h => h
  newObject _ _ := .changeGraph _ fun _ _ _ h => h
  newPromise _ _ := .changeGraph _ fun _ _ _ h => h.newPromise True.intro
  fault _ _ := .raise_own True.intro
  exhausted _ := .exhausted
  ask request target _ := .of_exec fun s _ hold =>
    ⟨(), _, exec_askRedirect request target s, True.intro,
      (hold.noted _).asking request target,
      .of_sections [_] rfl fun id => Store.sections_asking _ request id target⟩
  native id args _ := native h id args
  program source _ := programOf source

variable (hengine : engine.Tells c) (hwait : ∀ id J, c.Meets J (wait id) fun _ _ => True)

include hengine hwait

theorem evaluateValue (scope : Scope) (source : String) :
    c.Meets J (engine.evaluateValue wait scope source) fun _ _ => True := by
  have hrun := @Respects.runRooted σ engine.host _ wait wait (respects hengine) hwait scope
    (RootPath.writeRoots source)
  have hended : ∀ {s t : Store σ}, s.Balanced t → s.Balanced (t.noted (.ended scope.request)) :=
    fun hst => hst.trans (Store.balanced_noted _ _)
  unfold Engine.evaluateValue
  rw [hengine.interprets]
  intro s hs hold
  have hst : s.Balanced (s.noted (.started scope.request source)) := s.balanced_noted _
  have hrunning := (hrun J).afterwards (hs.trans hst.journal) (hold.noted _) hst
  refine ensures_evaluateValue (hrunning.mono ?_ fun stop t hstop => ?_)
  · rintro value t ⟨-, ht, hst⟩
    exact ⟨fun target _ => .of_balanced (hended hst) (Error.placed_redirect target),
      fun _ => ⟨True.intro, ht.noted _, hended hst⟩⟩
  · cases stop with
    | raised error =>
      have hfails : c.Fails s error t := hstop
      have hafter : c.Fails s error (t.noted (.ended scope.request)) := {
        grown := hfails.grown.trans (Store.balanced_noted t _).grown
        journal := hfails.journal.trans (Store.balanced_noted t _).journal
        placed := hfails.placed.mono fun _ _ => c.later (Store.balanced_noted t _).journal
        undone := fun hshelters => hended
          (hfails.undone (hshelters.earlier (Store.balanced_noted t _).journal)) }
      exact ⟨fun target _ => hafter.other (Error.placed_redirect target),
        fun _ => hafter.other (hafter.placed.evaluationError _ _)⟩
    | stalled | exhausted => exact True.intro

/-! ## Walks -/

omit hengine hwait in
theorem append (hwalk : c.ours walk.context.request) {payload : Payload Deferred}
    {priority : Priority} (hpayload : Fragment.Told c J ⟨payload, priority⟩) :
    c.Meets J (walk.append payload priority : Render σ Unit) fun _ _ => True := by
  refine of_exec fun s hs hold => ⟨(), _, rfl, True.intro, hold.setSections ?_, ?_⟩
  · intro hid scope fragment hmem
    rcases Sections.mem_fragments_add hmem with rfl | hmem
    · exact hpayload.later hs
    · exact hold.scopes _ hid scope fragment hmem
  · exact .setSections (hold.live _ hwalk) (Sections.settled_add _ _ _ _ _)

omit hengine hwait in
theorem appendText (hwalk : c.ours walk.context.request) (text : String) :
    c.Meets J (walk.appendText text : Render σ Unit) fun _ _ => True := by
  unfold Walk.appendText
  split
  · exact pure fun _ _ => True.intro
  · exact append hwalk True.intro

omit hengine hwait in
theorem appendTask (hwalk : c.ours walk.context.request) {template : CompiledTemplate} {token : Nat}
    (hmarks : c.Marks J template token) {task : Task} (htask : task.Within c.bounds)
    (priority : Priority) :
    c.Meets J (walk.appendTask template token task priority : Render σ Unit) fun _ _ => True :=
  append hwalk ⟨htask, hmarks⟩

omit hengine hwait in
theorem viewBuiltins (attributes : List (String × String)) (request : RequestId) :
    c.Meets J (viewBuiltins attributes request : Render σ ObjectId) fun _ _ => True :=
  changeGraph _ fun _ _ _ hgraph => ((hgraph.newObject _).newLibrary _).write _ _ _

omit hengine hwait in
theorem childContext (caller : Context) (kind : ChildKind) (viewPath filePath section_ : String)
    (attributes : List (String × String)) (body : Option SlotId) :
    c.Meets J (Engine.childContext caller kind viewPath filePath section_ attributes body :
      Render σ Context) fun _ child => child.request = caller.request := by
  have hbuiltins : ∀ K data slot, c.Meets K (do
      let builtins ← TemplateEngine.viewBuiltins attributes caller.request
      return { caller with
        viewPath := viewPath, filePath := filePath, data := data, isLayout := false
        defaultSection := section_, slot := slot, attributes := attributes
        depth := caller.depth + 1, builtins := builtins } : Render σ Context)
      fun _ child => child.request = caller.request :=
    fun K data slot => (viewBuiltins attributes caller.request).bind fun _ _ _ _ =>
      pure fun _ _ => rfl
  unfold Engine.childContext
  cases kind with
  | shared => exact hbuiltins J caller.data _
  | fresh =>
    have hdata : c.Meets J (Render.changeGraph fun graph => graph.newObject .empty :
        Render σ ObjectId) fun _ _ => True := changeGraph _ fun _ _ _ hgraph => hgraph
    exact hdata.bind fun K data _ _ => hbuiltins K data _

omit hengine hwait in
theorem forM {α : Type} {f : α → Render σ Unit} (items : List α)
    (hf : ∀ item ∈ items, ∀ J, c.Meets J (f item) fun _ _ => True) :
    c.Meets J (items.forM f) fun _ _ => True := by
  induction items generalizing J with
  | nil => exact pure fun _ _ => True.intro
  | cons item rest ih =>
    exact (hf item List.mem_cons_self J).bind fun K _ _ _ =>
      ih fun item hitem => hf item (List.mem_cons_of_mem _ hitem)

omit hengine hwait in
/-- What a step of the engine finds wrong has no place by itself. -/
theorem ofExcept_own {α : Type} {result : Except Error α}
    (h : ∀ error, result = .error error → error.IsOwn) :
    c.Meets J (Render.ofExcept result : Render σ α) fun _ _ => True :=
  ofExcept (fun _ _ _ _ => True.intro) fun _ error _ herror => (h error herror).placed

/-- A nested template that is prepared belongs to the request of its caller. -/
theorem prepare (walk : Walk) (invocation : Invocation) :
    c.Meets J (walk.prepare engine wait invocation)
      fun _ child => child.request = walk.context.request := by
  unfold Walk.prepare
  refine (ofExcept_own fun _ => Error.isOwn_resolvePath).bind fun _ filePath _ _ => ?_
  refine (childContext _ _ _ _ _ _ _).bind fun _ child _ hchild => ?_
  refine (ofExcept_own fun _ => Error.isOwn_checkDepth).bind fun _ _ _ _ => ?_
  have hdata : ∀ named ∈ invocation.data, ∀ J, c.Meets J (Render.changeGraph fun graph =>
      ((), graph.write child.data named.1 (.string named.2)) : Render σ Unit) fun _ _ => True :=
    fun _ _ _ => changeGraph _ fun _ _ _ hgraph => hgraph
  refine (forM invocation.data hdata).bind fun _ _ _ _ => ?_
  refine (forM invocation.expressions fun expression _ J =>
    (evaluateValue hengine hwait child.scope expression).bind fun _ _ _ _ =>
      pure fun _ _ => True.intro).bind fun _ _ _ _ => ?_
  exact pure fun _ _ => hchild

theorem invoke (hwalk : c.ours walk.context.request) {template : CompiledTemplate} {token : Nat}
    (hmarks : c.Marks J template token) (invocation : Invocation) :
    c.Meets J (walk.invoke engine wait template token invocation) fun _ _ => True := by
  unfold Walk.invoke
  refine (prepare hengine hwait walk invocation).bind fun K child hJK hchild => ?_
  refine appendTask hwalk (c.later hJK hmarks) ?_ .nestedView
  show c.ours child.request
  rw [hchild]
  exact hwalk

omit hengine hwait in
theorem appendSection (hwalk : c.ours walk.context.request) {template : CompiledTemplate}
    {token : Nat} (hmarks : c.Marks J template token) (name : String) (optional : Bool) :
    c.Meets J (walk.appendSection template token name optional : Render σ Unit)
      fun _ _ => True := by
  have hsection : Task.Within c.bounds (.section walk.context.request name optional) := hwalk
  have hcontent : ∀ slot, Task.Within c.bounds (.content slot optional) := fun _ => True.intro
  unfold Walk.appendSection
  split
  · split
    · exact appendTask hwalk hmarks (hcontent _) _
    · exact appendTask hwalk hmarks hsection _
  · exact appendTask hwalk hmarks hsection _

end Chronicle.Meets

/-- The places of the tags that are open and of the layout are known. -/
structure Walk.Told (c : Chronicle) (J : List Event) (template : CompiledTemplate) (walk : Walk) :
    Prop where
  /-- The request is meant. -/
  ours : c.ours walk.context.request
  /-- Tags are at known places. -/
  tags : ∀ tag ∈ walk.openTags, c.Marks J template tag.token
  /-- So is the layout. -/
  layout : ∀ layout, walk.layout = some layout → c.Marks J template layout.token

theorem Walk.Told.later {c : Chronicle} {J K : List Event} {template : CompiledTemplate}
    {walk : Walk} (h : walk.Told c J template) (hJK : J <:+ K) : walk.Told c K template :=
  ⟨h.ours, fun tag htag => c.later hJK (h.tags tag htag), fun layout hlayout =>
    c.later hJK (h.layout layout hlayout)⟩

namespace Chronicle.Meets

variable {c : Chronicle} {J : List Event} {engine : Engine σ} {wait : PromiseId → Render σ Value}
  {walk : Walk} (hengine : engine.Tells c) (hwait : ∀ id J, c.Meets J (wait id) fun _ _ => True)

include hengine hwait

/-- A directive leaves the open tags as they are, and may ask for a layout at its own place. -/
theorem direct {template : CompiledTemplate} {token : Nat} (hwalk : walk.Told c J template)
    (hmarks : c.Marks J template token) (directive : Directive) :
    c.Meets J (walk.direct engine wait template token directive)
      fun K after => walk.Goes after ∧ after.Told c K template := by
  have hsame : ∀ K, J <:+ K → walk.Goes walk ∧ walk.Told c K template :=
    fun K hK => ⟨⟨rfl, rfl⟩, hwalk.later hK⟩
  unfold Walk.direct
  match directive with
  | .eval expression =>
    dsimp only
    split
    · exact (evaluateValue hengine hwait _ expression).bind fun K _ hK _ =>
        pure fun _ hL => hsame _ (hK.trans hL)
    · exact pure hsame
  | .base name path =>
    exact (ofExcept_own fun _ => Error.isOwn_resolveDirectory).bind fun K directory hK _ =>
      pure fun _ hL => ⟨⟨rfl, rfl⟩, hwalk.ours, (hwalk.later (hK.trans hL)).tags,
        (hwalk.later (hK.trans hL)).layout⟩
  | .layout path =>
    dsimp only
    split
    · exact raise_own id
    · refine pure fun K hK => ⟨⟨rfl, rfl⟩, hwalk.ours, (hwalk.later hK).tags, ?_⟩
      rintro _ ⟨⟩
      exact c.later hK hmarks
  | .section name =>
    exact pure fun K hK => ⟨⟨rfl, rfl⟩, hwalk.ours, (hwalk.later hK).tags, (hwalk.later hK).layout⟩
  | .render name optional =>
    exact (appendSection hwalk.ours hmarks name optional).bind fun K _ hK _ =>
      pure fun _ hL => hsame _ (hK.trans hL)
  | .include path expression =>
    exact (invoke hengine hwait hwalk.ours hmarks (.ofDirective .shared path expression)).bind
      fun K _ hK _ => pure fun _ hL => hsame _ (hK.trans hL)
  | .view path expression =>
    exact (invoke hengine hwait hwalk.ours hmarks (.ofDirective .fresh path expression)).bind
      fun K _ hK _ => pure fun _ hL => hsame _ (hK.trans hL)
  | .unknown word => exact raise_own id

/-- An expression or a directive leaves the open tags as they are. -/
theorem expression {template : CompiledTemplate} {token : Nat} (hwalk : walk.Told c J template)
    (hmarks : c.Marks J template token) {part : Token} (hkind : part.kind = .expression) :
    c.Meets J (walk.step engine wait template token part)
      fun K after => walk.Goes after ∧ after.Told c K template := by
  have hstrip : ∀ strip K, J <:+ K → ({ walk with stripNext := strip } : Walk).Told c K template :=
    fun strip K hK => ⟨hwalk.ours, (hwalk.later hK).tags, (hwalk.later hK).layout⟩
  unfold Walk.step
  rw [hkind]
  rcases Directive.parse part.body with fault | _ | directive
  · exact raise_own fun h => h
  · have htext : c.Meets J (engine.evaluate wait walk.context.scope part.body) fun _ _ => True :=
      (evaluateValue hengine hwait _ part.body).bind fun _ _ _ _ => pure fun _ _ => True.intro
    exact htext.bind fun K text hK _ => (appendText hwalk.ours text).bind fun L _ hL _ =>
      pure fun _ hM => ⟨⟨rfl, rfl⟩, hstrip false _ ((hK.trans hL).trans hM)⟩
  · exact direct hengine hwait (hstrip directive.consumesLine J (List.suffix_refl _)) hmarks
      directive

/-- The body of a tag becomes the content of the nested template, which is invoked at the place of
the tag. -/
theorem invokeClosed {template : CompiledTemplate} (hwalk : walk.Told c J template)
    {opened : OpenTag} (hmarks : c.Marks J template opened.token) :
    c.Meets J (do
      let fragments ← Render.withSections walk.context.request fun sections =>
        sections.fragments opened.body
      let body ← Render.newSlot (.pending fragments)
      match Invocation.ofTag opened.tag (some body) with
      | .error fault => Render.raise (.structural fault)
      | .ok invocation =>
        walk.invoke engine wait template opened.token invocation
        return walk : Render σ Walk)
      fun K after => walk.Goes after ∧ after.Told c K template := by
  refine (fragments hwalk.ours opened.body).bind fun K fragments hK hfragments => ?_
  have hbody : SlotState.Told c K (.pending fragments) := hfragments
  refine (newSlot hbody).bind fun L body hL _ => ?_
  rcases htag : Invocation.ofTag opened.tag (some body) with fault | invocation
  · exact raise_own (Error.isOwn_ofTag htag)
  · have hinvoke := invoke hengine hwait hwalk.ours (c.later (hK.trans hL) hmarks) invocation
    exact hinvoke.bind fun M _ hM _ => pure fun N hN =>
      ⟨⟨rfl, rfl⟩, hwalk.later (((hK.trans hL).trans hM).trans hN)⟩

omit hengine hwait in
/-- A literal cannot fail. -/
theorem literal {template : CompiledTemplate} {token : Nat} (hwalk : walk.Told c J template)
    {part : Token} (hkind : part.kind = .literal) :
    c.Meets J (walk.step engine wait template token part)
      fun K after => walk.Goes after ∧ after.Told c K template := by
  unfold Walk.step
  rw [hkind]
  exact (appendText hwalk.ours _).bind fun K _ hK _ => pure fun _ hL =>
    ⟨⟨rfl, rfl⟩, hwalk.ours, (hwalk.later (hK.trans hL)).tags, (hwalk.later (hK.trans hL)).layout⟩

end Chronicle.Meets

/-! ### Parts that cannot fail -/

theorem Walk.appendText_succeeds (walk : Walk) (text : String) (s : Store σ) :
    ∃ t, exec (walk.appendText text) s = (.ok (), t) := by
  unfold Walk.appendText
  split
  · exact ⟨s, rfl⟩
  · exact ⟨_, rfl⟩

theorem Walk.appendSection_succeeds (walk : Walk) (template : CompiledTemplate) (token : Nat)
    (name : String) (optional : Bool) (s : Store σ) :
    ∃ t, exec (walk.appendSection template token name optional) s = (.ok (), t) := by
  unfold Walk.appendSection
  split
  · split <;> exact ⟨_, rfl⟩
  · exact ⟨_, rfl⟩

/-- A calm part is a literal or an expression, and does not fail. -/
theorem Walk.exec_step_of_isCalm {part : Token} (h : part.isCalm) (engine : Engine σ)
    (wait : PromiseId → Render σ Value) (template : CompiledTemplate) (walk : Walk) (token : Nat)
    (s : Store σ) :
    (part.kind = .literal ∨ part.kind = .expression) ∧
      ∃ next t, exec (walk.step engine wait template token part) s = (.ok next, t) := by
  unfold Token.isCalm at h
  unfold Walk.step
  split at h
  · next hkind =>
    rw [hkind]
    obtain ⟨t, ht⟩ := walk.appendText_succeeds
      (if walk.stripNext then stripLineEnd part.text else part.text) s
    exact ⟨.inl rfl, _, t, exec_bind_ok ht _⟩
  · next hkind =>
    rw [hkind]
    refine ⟨.inr rfl, ?_⟩
    split at h
    · next name hparse =>
      rw [hparse]
      exact ⟨_, s, rfl⟩
    · next name optional hparse =>
      rw [hparse]
      obtain ⟨t, ht⟩ := Walk.appendSection_succeeds
        { walk with stripNext := (Directive.render name optional).consumesLine } template token name
        optional s
      exact ⟨_, t, exec_bind_ok ht _⟩
    · cases h
  · cases h

/-! ### Open tags -/

/-- A walk stands in front of the parts `rest` of a template. -/
structure Walk.Stands (c : Chronicle) (base : Store σ) (request : RequestId)
    (template : CompiledTemplate) (rest : List Token) (walk : Walk) (t : Store σ) : Prop where
  /-- The walk is in the request. -/
  same : walk.context.request = request
  /-- Its places are known. -/
  told : walk.Told c t.journal template
  /-- What is laid by has known places. -/
  store : t.Told c
  /-- Apart from the open tags, everything is balanced. -/
  opened : Opened request base walk.openTags t
  /-- In a sheltered template at most one tag is open, and what is left is sheltered by it. -/
  sheltered : Sheltered none template.tokens → ∃ opened : Option String,
    walk.openTags.map (·.tag.name) = opened.toList ∧ Sheltered opened rest

/-- A walk goes on to the parts `rest` of a template, or fails. -/
def Walk.Proceeds (c : Chronicle) (base : Store σ) (request : RequestId)
    (template : CompiledTemplate) (rest : List Token) (x : Render σ Walk) (s : Store σ) : Prop :=
  Render.Ensures x s (fun walk t => walk.Stands c base request template rest t)
    fun stop t => OnStop (c.Fails base · t) (fun _ => True) stop

theorem Opened.journal {request : RequestId} {base t : Store σ} {tags : List OpenTag}
    (h : Opened request base tags t) : base.journal <:+ t.journal := by
  induction tags generalizing t with
  | nil => exact Store.Balanced.journal h
  | cons tag tags ih =>
    obtain ⟨s, owner, -, hopened, -, hst⟩ := h
    exact (ih hopened).trans hst.journal

section Walks

variable {c : Chronicle} {base : Store σ} {request : RequestId} {template : CompiledTemplate}
  {part : Token} {rest : List Token} {walk : Walk} {s : Store σ}

/-- A failure since the tags were opened, if no scope of theirs is left. -/
theorem Chronicle.Fails.of_opened {error : Error} {tags : List OpenTag} {t : Store σ}
    (h : c.Fails s error t) (hopened : Opened request base tags s)
    (hundone : c.Shelters t.journal → tags = []) : c.Fails base error t where
  grown := hopened.grown.trans h.grown
  journal := hopened.journal.trans h.journal
  placed := h.placed
  undone hshelters := by
    have htags := hundone hshelters
    subst htags
    exact Store.Balanced.trans hopened (h.undone hshelters)

/-- A walk that goes on with the same tags open. -/
theorem Walk.Stands.next {before : List Token} (h : walk.Stands c base request template before s)
    {after : Walk} {t : Store σ} (hgoes : walk.Goes after) (htold : after.Told c t.journal template)
    (ht : t.Told c) (hst : s.Balanced t)
    (hrest : ∀ opened : Option String, walk.openTags.map (·.tag.name) = opened.toList →
      Sheltered opened before → Sheltered opened rest) :
    after.Stands c base request template rest t := by
  obtain ⟨hrequest, htags⟩ := hgoes
  refine ⟨hrequest.trans h.same, htold, ht, ?_, fun hsheltered => ?_⟩
  · rw [htags]
    exact h.opened.trans hst
  · obtain ⟨opened, hnames, hbefore⟩ := h.sheltered hsheltered
    rw [htags]
    exact ⟨opened, hnames, hrest opened hnames hbefore⟩

/-- A part that leaves the open tags as they are; it may fail if there are none. -/
theorem Chronicle.Meets.proceeds {x : Render σ Walk}
    (h : c.Meets s.journal x fun K after => walk.Goes after ∧ after.Told c K template)
    {before : List Token} (hwalk : walk.Stands c base request template before s)
    (hrest : ∀ opened : Option String, walk.openTags.map (·.tag.name) = opened.toList →
      Sheltered opened before → Sheltered opened rest)
    (hundone : ∀ t : Store σ, s.journal <:+ t.journal → c.Shelters t.journal →
      walk.openTags = []) :
    Walk.Proceeds c base request template rest x s := by
  refine (h s (List.suffix_refl _) hwalk.store).mono ?_ fun stop t hstop => ?_
  · rintro after t ⟨⟨hgoes, htold⟩, ht, hst⟩
    exact hwalk.next hgoes htold ht hst hrest
  · cases stop with
    | raised error =>
      have hfails : c.Fails s error t := hstop
      exact hfails.of_opened hwalk.opened (hundone t hfails.journal)
    | stalled | exhausted => exact True.intro

/-- A failure at the start of a part, in front of which no tag is open. -/
theorem Walk.Stands.fails {before : List Token} (h : walk.Stands c base request template before s)
    {error : Error} (herror : error.IsOwn)
    (hundone : c.Shelters s.journal → walk.openTags = []) : c.Fails base error s :=
  (Chronicle.Fails.refl herror.placed).of_opened h.opened hundone

variable {engine : Engine σ} {wait : PromiseId → Render σ Value} (hengine : engine.Tells c)
  (hwait : ∀ id J, c.Meets J (wait id) fun _ _ => True)

include hengine hwait

/-- An opening tag that has a body pushes a scope for it. -/
theorem proceeds_openTag {token : Nat} (hkind : part.kind = .openTag)
    (hwalk : walk.Stands c base request template (part :: rest) s)
    (hmarks : c.Marks s.journal template token)
    (hundone : ∀ t : Store σ, s.journal <:+ t.journal → c.Shelters t.journal →
      walk.openTags = []) :
    Walk.Proceeds c base request template rest
      (walk.openTag engine wait template token part) s := by
  have hfault : ∀ {error}, error.IsOwn →
      Walk.Proceeds c base request template rest (raise error) s :=
    fun herror => .raise (hwalk.fails herror (hundone s (List.suffix_refl _)))
  unfold Walk.openTag
  rcases hparse : ServerTag.parse part.text with fault | tag
  · exact hfault trivial
  dsimp only
  rcases htag : Invocation.ofTag tag none with fault | invocation
  · exact hfault (Error.isOwn_ofTag htag)
  dsimp only
  have hopens : part.opens? = if tag.selfClosing then none else some tag.name := by
    unfold Token.opens?
    rw [hkind, hparse]
    dsimp only
    rw [htag]
  split
  · next hself =>
    rw [if_pos hself] at hopens
    refine Chronicle.Meets.proceeds ?_ hwalk (fun opened _ hbefore => ?_) hundone
    · refine (Chronicle.Meets.invoke hengine hwait hwalk.told.ours hmarks invocation).bind
        fun K _ hK _ => .pure fun L hL => ⟨⟨rfl, rfl⟩, hwalk.told.later (hK.trans hL)⟩
    · cases opened with
      | none =>
        rw [Sheltered, hopens] at hbefore
        exact hbefore
      | some name =>
        rw [Sheltered, hkind] at hbefore
        simp [Token.isCalm, hkind] at hbefore
  · next hself =>
    rw [if_neg hself] at hopens
    have hours := hwalk.told.ours
    have hsame := hwalk.same
    subst hsame
    refine .bind_ok (exec_withSections _ _ _) (.bind_ok (exec_changeSections _ _ _) ?_)
    refine .pure ⟨rfl, ⟨hours, ?_, hwalk.told.layout⟩, hwalk.store.pushed _ _ _,
      ⟨s, walk.context.viewPath, hwalk.store.live _ hours, hwalk.opened, rfl, .refl _⟩, ?_⟩
    · intro opened hopened
      rcases List.mem_cons.1 hopened with rfl | hopened
      · exact hmarks
      · exact hwalk.told.tags opened hopened
    · intro hsheltered
      obtain ⟨opened, hnames, hbefore⟩ := hwalk.sheltered hsheltered
      cases opened with
      | none =>
        rw [Sheltered, hopens] at hbefore
        refine ⟨some tag.name, ?_, hbefore⟩
        rw [List.map_cons, hnames]
        rfl
      | some name =>
        rw [Sheltered, hkind] at hbefore
        simp [Token.isCalm, hkind] at hbefore

/-- In a sheltered template a closer closes the only tag that is open, so that no scope is left when
the nested template fails. -/
theorem proceeds_closeTag (hkind : part.kind = .closeTag)
    (hwalk : walk.Stands c base request template (part :: rest) s)
    (hknown : c.Knows base.journal template) :
    Walk.Proceeds c base request template rest (walk.closeTag engine wait template part) s := by
  unfold Walk.closeTag
  dsimp only
  rcases htags : walk.openTags with _ | ⟨tag, tags⟩
  · exact .raise (hwalk.fails (fun h => h) fun _ => htags)
  -- Where the template is sheltered, no other tag is open, and the part is its closer.
  have hcloses : Sheltered none template.tokens →
      tags = [] ∧ tag.tag.name = part.closerName ∧ Sheltered none rest := by
    intro hsheltered
    obtain ⟨opened, hnames, hbefore⟩ := hwalk.sheltered hsheltered
    rw [htags, List.map_cons] at hnames
    cases opened with
    | none => cases hnames
    | some name =>
      obtain ⟨rfl, hnil⟩ := List.cons.inj hnames
      simp only [Sheltered, hkind, if_true, Bool.and_eq_true, decide_eq_true_eq] at hbefore
      exact ⟨List.map_eq_nil_iff.1 hnil, hbefore.1.symm, hbefore.2⟩
  dsimp only
  split
  · next hname =>
    refine .raise (hwalk.fails (fun h => h) fun hshelters => ?_)
    exact absurd (hcloses (hshelters.sheltered (hknown.later hwalk.opened.journal))).2.1 hname
  have hours := hwalk.told.ours
  have hopened := hwalk.opened
  rw [htags] at hopened
  have hsame := hwalk.same
  subst hsame
  obtain ⟨hpeek, hpop, hpopped⟩ := hopened.close (hwalk.store.live _ hours)
  refine .bind_ok (exec_withSections _ _ _) ?_
  rw [hpeek]
  refine .bind_ok (exec_popSection_of_history hpop) ?_
  let closed : Walk := { walk with active := tag.sectionName, openTags := tags }
  have htag : c.Marks s.journal template tag.token := by
    refine hwalk.told.tags tag ?_
    rw [htags]
    exact List.mem_cons_self
  have hclosed : closed.Stands c base walk.context.request template rest
      (s.popped walk.context.request tag.sectionName) := by
    refine ⟨rfl, ⟨hours, fun other hother => ?_, hwalk.told.layout⟩, hwalk.store.popped _ _,
      hpopped, fun hsheltered => ?_⟩
    · refine hwalk.told.tags other ?_
      rw [htags]
      exact List.mem_cons_of_mem _ hother
    · obtain ⟨rfl, -, hrest⟩ := hcloses hsheltered
      exact ⟨none, rfl, hrest⟩
  refine (Chronicle.Meets.invokeClosed hengine hwait hclosed.told htag).proceeds hclosed
    (fun _ _ h => h) fun t hst hshelters => ?_
  exact (hcloses (hshelters.sheltered (hknown.later (hwalk.opened.journal.trans hst)))).1

/-- A part that fails gives the failure its own place. -/
theorem proceeds_step {token : Nat}
    (hwalk : walk.Stands c base request template (part :: rest) s)
    (hknown : c.Knows base.journal template) (hpart : template.tokens[token]? = some part) :
    Walk.Proceeds c base request template rest
      (mapError (locate template token) (walk.step engine wait template token part)) s := by
  have hknown' := hknown.later hwalk.opened.journal
  by_cases hcalm : part.isCalm
  · -- A calm part does not fail, and so needs no place.
    obtain ⟨hkind, next, t, hexec⟩ :=
      Walk.exec_step_of_isCalm hcalm engine wait template walk token s
    have hmeets : c.Meets s.journal (walk.step engine wait template token part)
        fun K after => walk.Goes after ∧ after.Told c K template := by
      rcases hkind with hkind | hkind
      · exact .literal hwalk.told hkind
      · exact .expression hengine hwait hwalk.told
          (hknown'.marks hpart (by rw [hkind]; decide)) hkind
    obtain ⟨⟨hgoes, htold⟩, ht, hst⟩ := (hmeets s (List.suffix_refl _) hwalk.store).ok hexec
    have hlocated : exec (mapError (locate template token)
        (walk.step engine wait template token part)) s = (.ok next, t) := by
      rw [exec_mapError, hexec]
    exact .of_ok hlocated (hwalk.next hgoes htold ht hst fun _ _ => Sheltered.of_plain hkind)
  · have hkind : part.kind ≠ .literal := by
      intro hkind
      rw [Token.isCalm, hkind] at hcalm
      exact hcalm rfl
    have hmarks := hknown.marks hpart hkind
    have hundone : part.kind ≠ .closeTag → ∀ t : Store σ, s.journal <:+ t.journal →
        c.Shelters t.journal → walk.openTags = [] := by
      intro hclose t hst hshelters
      obtain ⟨opened, hnames, hbefore⟩ := hwalk.sheltered (hshelters.sheltered (hknown'.later hst))
      cases opened with
      | none => exact List.map_eq_nil_iff.1 hnames
      | some name =>
        rw [Sheltered, if_neg hclose, Bool.and_eq_true] at hbefore
        exact absurd hbefore.1 hcalm
    have hproceeds : Walk.Proceeds c base request template rest
        (walk.step engine wait template token part) s := by
      have hstrip : ({ walk with stripNext := true } : Walk).Stands c base request template
          (part :: rest) s :=
        ⟨hwalk.same, ⟨hwalk.told.ours, hwalk.told.tags, hwalk.told.layout⟩, hwalk.store,
          hwalk.opened, hwalk.sheltered⟩
      have hmarks' := c.later hwalk.opened.journal hmarks
      rcases hpartkind : part.kind with _ | _ | _ | _
      · exact absurd hpartkind hkind
      · have hexpression := Chronicle.Meets.expression hengine hwait hwalk.told hmarks' hpartkind
        refine hexpression.proceeds hwalk (fun _ _ => Sheltered.of_plain (.inr hpartkind))
          (hundone ?_)
        rw [hpartkind]
        decide
      · simp only [Walk.step, hpartkind]
        refine proceeds_openTag hengine hwait hpartkind hstrip hmarks' (hundone ?_)
        rw [hpartkind]
        decide
      · simp only [Walk.step, hpartkind]
        exact proceeds_closeTag hengine hwait hpartkind hstrip hknown
    refine .mapError (hproceeds.mono (fun _ _ => id) fun stop t hstop => ?_)
    cases stop with
    | raised error =>
      have hfails : c.Fails base error t := hstop
      exact hfails.other (hfails.placed.locate (c.later hfails.journal hmarks))
    | stalled | exhausted => exact trivial

theorem proceeds_steps (parts : List Token) {token : Nat}
    (hwalk : walk.Stands c base request template parts s)
    (hknown : c.Knows base.journal template)
    (hparts : ∀ i part, parts[i]? = some part → template.tokens[token + i]? = some part) :
    Walk.Proceeds c base request template []
      (Walk.steps engine wait template walk token parts) s := by
  induction parts generalizing walk token s with
  | nil => exact .pure hwalk
  | cons part rest ih =>
    refine (proceeds_step hengine hwait hwalk hknown (hparts 0 part rfl)).bind
      fun next t hnext => ih hnext fun i part hpart => ?_
    rw [Nat.add_assoc, Nat.add_comm 1 i]
    exact hparts (i + 1) part hpart

/-- A walk that comes to its end has popped the bodies of all tags; one that fails in a sheltered
template has done so too. -/
theorem ensures_run_places {context : Context} (hours : c.ours context.request)
    (hknown : c.Knows s.journal template) (hs : s.Told c) :
    Ensures (Walk.run engine wait template context) s
      (fun walk t => walk.context.request = context.request ∧ walk.Told c t.journal template ∧
        t.Told c ∧ s.Balanced t)
      fun stop t => OnStop (c.Fails s · t) (fun _ => True) stop := by
  have hstart : (Walk.start context).Stands c s context.request template template.tokens s :=
    ⟨rfl, ⟨hours, nofun, nofun⟩, hs, .refl s, fun h => ⟨none, rfl, h⟩⟩
  have hsteps : Walk.Proceeds c s context.request template []
      (Walk.steps engine wait template (.start context) 0 template.tokens) s :=
    proceeds_steps hengine hwait template.tokens hstart hknown fun i part hpart => by
      rw [Nat.zero_add]
      exact hpart
  unfold Walk.run
  refine .bind hsteps fun walk t hwalk => ?_
  rcases htags : walk.openTags with _ | ⟨tag, tags⟩
  · have hopened := hwalk.opened
    rw [htags] at hopened
    exact .pure ⟨hwalk.same, hwalk.told, hwalk.store, hopened⟩
  · have htag : c.Marks t.journal template tag.token := by
      refine hwalk.told.tags tag ?_
      rw [htags]
      exact List.mem_cons_self
    have hown : (Error.structural (.neverClosed tag.tag.name)).IsOwn := fun h => h
    refine .raise ((hwalk.fails hown fun hshelters => ?_).other (hown.placed.locate htag))
    obtain ⟨opened, hnames, hend⟩ :=
      hwalk.sheltered (hshelters.sheltered (hknown.later hwalk.opened.journal))
    cases opened with
    | none => exact List.map_eq_nil_iff.1 hnames
    | some name => cases hend

end Walks

/-! ## Renders -/

namespace Chronicle.Meets

variable {c : Chronicle} {J : List Event} {engine : Engine σ} {run : Task → Render σ String}
  (hrun : ∀ task : Task, task.Within c.bounds → ∀ J, c.Meets J (run task) fun _ _ => True)

include hrun

/-- What runs later fails at the place of the token that asked for it. -/
theorem runDeferred {deferred : Deferred} (hdeferred : deferred.task.Within c.bounds)
    (hmarks : c.Marks J deferred.template deferred.token) :
    c.Meets J (runDeferred run deferred) fun _ _ => True :=
  mapError (hrun deferred.task hdeferred J) fun _ _ hJK h => h.locate (c.later hJK hmarks)

theorem produceAll (pieces : List (Fragment Deferred × Nat))
    (hpieces : ∀ piece ∈ pieces, piece.1.Told c J) :
    c.Meets J (produceAll (TemplateEngine.runDeferred run) pieces) fun _ _ => True := by
  induction pieces generalizing J with
  | nil => exact pure fun _ _ => True.intro
  | cons piece rest ih =>
    obtain ⟨⟨payload, priority⟩, place⟩ := piece
    have hpiece := hpieces _ List.mem_cons_self
    have hrest : ∀ K, J <:+ K → c.Meets K
        (TemplateEngine.produceAll (TemplateEngine.runDeferred run) rest) fun _ _ => True :=
      fun K hK => ih fun piece hpiece => (hpieces piece (List.mem_cons_of_mem _ hpiece)).later hK
    unfold TemplateEngine.produceAll
    cases payload with
    | literal text =>
      have htext : c.Meets J (Pure.pure text : Render σ String) fun _ _ => True :=
        pure fun _ _ => True.intro
      exact htext.bind fun K _ hK _ => (hrest K hK).bind fun _ _ _ _ => pure fun _ _ => True.intro
    | deferred deferred =>
      exact (runDeferred hrun hpiece.1 hpiece.2).bind fun K _ hK _ =>
        (hrest K hK).bind fun _ _ _ _ => pure fun _ _ => True.intro

theorem renderFragments {fragments : List (Fragment Deferred)}
    (hfragments : ∀ fragment ∈ fragments, fragment.Told c J) :
    c.Meets J (renderFragments (TemplateEngine.runDeferred run) fragments) fun _ _ => True :=
  (produceAll hrun _ fun _ h => hfragments _ (mem_of_mem_productionOrder h)).bind
    fun _ _ _ _ => pure fun _ _ => True.intro

theorem renderScope {request : RequestId} (hrequest : c.ours request) (scope : ScopeId) :
    c.Meets J (renderScope run request scope) fun _ _ => True :=
  (fragments hrequest scope).bind fun _ _ _ h => renderFragments hrun h

/-- A slot is rendered at most once; its result is kept. -/
theorem readSlot (id : SlotId) : c.Meets J (readSlot run id) fun _ _ => True := by
  unfold TemplateEngine.readSlot
  refine (slot? id).bind fun K slot _ hslot => ?_
  rcases slot with _ | ⟨state, consumed⟩
  · exact pure fun _ _ => True.intro
  have hstate : state.Told c K := hslot _ rfl
  cases state with
  | running => exact stalled
  | settled result =>
    refine ofShared (fun _ _ _ _ => True.intro) ?_
    rintro L error hL rfl
    exact Error.Placed.mono hstate fun _ _ => c.later hL
  | pending fragments =>
    have hrunning : c.Meets K (Render.changeSlot id fun slot => { slot with state := .running } :
        Render σ Unit) fun _ _ => True := changeSlot id fun _ _ _ => True.intro
    refine hrunning.bind fun L _ hL _ => ?_
    refine remember (renderFragments hrun fun fragment hmem => (hstate fragment hmem).later hL)
      (fun text s hs => ?_) fun _ _ => ⟨rfl, rfl⟩
    exact hs.modifySlot id fun _ _ => True.intro

theorem runWork (hengine : engine.Tells c) (work : Work) :
    c.Meets J (runWork engine run work) fun _ _ => True := by
  cases work with
  | native id args => exact native hengine id args
  | content slot => exact (readSlot hrun slot).map

/-- A promise is computed at most once; its result is kept. -/
theorem waitFor (hengine : engine.Tells c) (id : PromiseId) :
    c.Meets J (waitFor engine run id) fun _ _ => True := by
  have hread : c.Meets J (Render.withGraph fun graph => graph.promise? id : Render σ _)
      fun K promise => ∀ state, promise = some state → state.SettledAt (c.place K) :=
    withGraph _ fun K graph _ hgraph state hfind => hgraph state (Array.mem_of_getElem? hfind)
  unfold TemplateEngine.waitFor
  refine hread.bind fun K promise _ hpromise => ?_
  rcases promise with _ | state
  · exact pure fun _ _ => True.intro
  have hstate : state.SettledAt (c.place K) := hpromise _ rfl
  cases state with
  | running => exact stalled
  | settled result =>
    refine ofShared (fun _ _ _ _ => True.intro) ?_
    rintro L error hL rfl
    exact Error.Placed.mono hstate fun _ _ => c.later hL
  | pending work =>
    have hrunning : c.Meets K (Render.changeGraph fun graph => ((), graph.setPromise id .running) :
        Render σ Unit) fun _ _ => True :=
      changeGraph _ fun L _ _ hgraph => hgraph.setPromise id True.intro
    refine hrunning.bind fun L _ _ _ => ?_
    refine remember (runWork hrun hengine work) (fun value s hs => ?_) fun _ _ => ⟨rfl, rfl⟩
    exact hs.setGraph (hs.graph.setPromise id True.intro)

omit hrun in
/-- A template that is fetched was read. -/
theorem fetch (hengine : engine.Tells c) (context : Context) :
    c.Meets J (engine.fetch context) fun K template => c.Knows K template := by
  unfold Engine.fetch
  refine (ofExcept_own fun _ => Error.isOwn_checkDepth).bind fun K _ _ _ => ?_
  have hnote : c.Meets K (Render.note (.reading context.filePath) : Render σ Unit)
      fun L _ => ReadSince c.base L context.filePath := by
    refine of_exec fun s _ hs => ⟨(), _, exec_note _ s, ?_, hs.noted _, s.balanced_noted _⟩
    obtain ⟨events, hevents⟩ := hs.since
    refine ⟨.reading context.filePath :: events, ?_, List.mem_cons_self⟩
    rw [List.cons_append, hevents]
    rfl
  refine hnote.bind fun L _ _ hreading => ?_
  have hread : c.Meets L (Render.ofExcept (engine.read context.filePath) : Render σ String)
      fun _ source => c.read context.filePath = .ok source :=
    ofExcept (fun _ _ _ h => hengine.read ▸ h) fun M error _ => hengine.unread M _ error
  refine hread.bind fun M source hM hsource => ?_
  exact (loadTemplate hsource (hreading.later hM)).mono fun _ _ _ h => h.1

omit hrun in
theorem enterLayout (page : Context) (layout : String) {content : SlotState}
    (hcontent : content.Told c J) :
    c.Meets J (engine.enterLayout page layout content)
      fun _ context => context.request = page.request := by
  have hdata : ∀ K slot, c.Meets K (Render.changeGraph fun graph =>
      graph.newLibrary [(Config.content, .content slot)] : Render σ ObjectId) fun _ _ => True :=
    fun _ slot => changeGraph _ fun _ _ _ hgraph => hgraph.newLibrary _
  unfold Engine.enterLayout
  refine (ofExcept_own fun _ => Error.isOwn_resolvePath).bind fun K filePath hK _ => ?_
  refine (newSlot (hcontent.later hK)).bind fun L slot _ _ => ?_
  refine (hdata L slot).bind fun _ data _ _ => ?_
  unfold Engine.layoutContext
  exact (viewBuiltins [] page.request).bind fun _ _ _ _ => pure fun _ _ => rfl

theorem renderLayout {page : Context} (hpage : c.ours page.request) (layout : String)
    (scope : ScopeId) :
    c.Meets J (engine.renderLayout run page layout scope) fun _ _ => True := by
  unfold Engine.renderLayout
  refine (fragments hpage scope).bind fun K fragments _ hfragments => ?_
  have hcontent : SlotState.Told c K (.pending fragments) := hfragments
  refine (enterLayout page layout hcontent).bind fun L context _ hcontext => ?_
  refine hrun _ ?_ L
  show c.ours context.request
  rw [hcontext]
  exact hpage

/-- A layout fails at the place of its directive. -/
theorem renderWalked {template : CompiledTemplate} {walk : Walk} (hwalk : walk.Told c J template)
    (scope : ScopeId) :
    c.Meets J (engine.renderWalked run template scope walk) fun _ _ => True := by
  unfold Engine.renderWalked
  split
  · next layout hlayout =>
    exact mapError (renderLayout hrun hwalk.ours _ scope) fun _ _ hJK h =>
      h.locateLayout (c.later hJK (hwalk.layout layout hlayout))
  · exact renderScope hrun hwalk.ours scope

omit hrun in
theorem consumedText (name : String) (optional : Bool) :
    c.Meets J (Engine.consumedText name optional : Render σ String) fun _ _ => True := by
  unfold Engine.consumedText
  split
  · exact pure fun _ _ => True.intro
  · exact raise_own id

theorem renderSection {request : RequestId} (hrequest : c.ours request) (name : String)
    (optional : Bool) :
    c.Meets J (Engine.renderSection run request name optional) fun _ _ => True := by
  intro s hs hold
  have hexec := exec_trySections request (fun sections => sections.takeCurrent name) s
  unfold Engine.renderSection
  rcases htake : (s.sections request).takeCurrent name with fault | ⟨_ | scope, after⟩
  all_goals rw [htake] at hexec
  · have hstop : c.Meets J (if optional then return "" else Render.raise (sectionError fault) :
        Render σ String) fun _ _ => True := by
      split
      · exact pure fun _ _ => True.intro
      · rw [Sections.takeCurrent_error htake]
        exact raise_own id
    exact .bind_ok hexec (hstop s hs hold)
  · have hst : s.Balanced (s.setSections request after) :=
      .setSections (hold.live request hrequest) (Sections.settled_take htake nofun)
    exact .bind_ok hexec ((consumedText name optional).afterwards hs (hold.take htake) hst)
  · have hst := (Store.balanced_taken (hold.live request hrequest) htake)
    refine .bind_ok hexec (.bind_ok (exec_note _ _) ?_)
    exact (renderScope hrun hrequest scope).afterwards (hs.trans hst.journal)
      ((hold.take htake).noted _) hst

theorem renderContent (slot : SlotId) (optional : Bool) :
    c.Meets J (Engine.renderContent run slot optional) fun _ _ => True := by
  unfold Engine.renderContent
  refine (consume slot).bind fun _ consumed _ _ => ?_
  split
  · exact consumedText _ optional
  · exact readSlot hrun slot

end Chronicle.Meets

end TemplateEngine
