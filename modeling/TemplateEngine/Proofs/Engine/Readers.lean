import TemplateEngine.Proofs.Engine.Wrapping

/-!
# `Engine` · Templates that read a content

A layout may read the content of its page in expressions, any number of times.

* **`Store.Gains`**: while a template was walked, its scope has got fragments and values were made.
  Otherwise everything is as before.
* **`Store.Answers`**: a store in which the content has its text. Expressions that read it get this
  text (`exec_steps_answered`, by induction on the texts between them).
* **`exec_renderTemplate_reads`**: the first expression renders the content, and the text of the
  template has that of the content at each place.
-/

namespace TemplateEngine

open Render TemplateEngine.Text TemplateEngine.Template

variable {σ : Type} {engine : Engine σ} {request : RequestId} {home : String} {scope : ScopeId}
  {slot : SlotId} {id : FunctionId} {run : Task → Render σ String}
  {wait : PromiseId → Render σ Value} {context : Context} {template : CompiledTemplate}
  {s s' s'' t u : Store σ} {first text : String} {rest : List String}

/-! ## What a walk adds -/

/-- The evaluation of the expression `content` has started or ended. -/
def Event.ofContent (request : RequestId) (event : Event) : Prop :=
  event = .started request Config.content ∨ event = .ended request

/-- A scope has got fragments, and there may be more values than before. Expressions that read the
content were evaluated, but slots and templates are as they were. -/
structure Store.Gains (request : RequestId) (home : String) (scope : ScopeId)
    (fragments : List (Fragment Deferred)) (s s' : Store σ) : Prop where
  /-- All values are there, at the same places. -/
  graph : s.graph.IsPrefix s'.graph
  /-- Programs are kept as they are parsed. -/
  programs : s.programs.Parsed → s'.programs.Parsed
  /-- The state of the host is the same. -/
  host : s'.host = s.host
  /-- There are as many requests. -/
  requests : s'.requests.size = s.requests.size
  /-- The same redirects were asked for. -/
  redirect : ∀ id, s'.redirect id = s.redirect id
  /-- So are the slots. -/
  slots : s'.slots = s.slots
  /-- So are the templates. -/
  templates : s'.templates = s.templates
  /-- What was added. -/
  sections : (s.sections request).Extends home scope fragments (s'.sections request)
  /-- What was evaluated. -/
  journal : ∃ events, s'.journal = events ++ s.journal ∧ ∀ event ∈ events, event.ofContent request

namespace Store.Gains

variable {fragments more : List (Fragment Deferred)}

theorem trans (h : s.Gains request home scope fragments s')
    (h' : s'.Gains request home scope more s'') :
    s.Gains request home scope (fragments ++ more) s'' where
  graph := h.graph.trans h'.graph
  programs := h'.programs ∘ h.programs
  host := h'.host.trans h.host
  requests := h'.requests.trans h.requests
  redirect id := (h'.redirect id).trans (h.redirect id)
  slots := h'.slots.trans h.slots
  templates := h'.templates.trans h.templates
  sections := h.sections.trans h'.sections
  journal := by
    obtain ⟨events, hevents, hof⟩ := h.journal
    obtain ⟨events', hevents', hof'⟩ := h'.journal
    refine ⟨events' ++ events, ?_, fun event hevent => ?_⟩
    · rw [hevents', hevents, List.append_assoc]
    · exact (List.mem_append.1 hevent).elim (hof' event) (hof event)

theorem of_wrote (h : s.Wrote request home scope fragments s') :
    s.Gains request home scope fragments s' := by
  have hsections := h.sections
  obtain ⟨sections, rfl⟩ := h.same
  exact {
    graph := .refl _
    programs := fun hparsed => hparsed
    host := rfl
    requests := Store.requests_size_setSections _ _ _
    redirect := fun id => Store.redirect_setSections _ _ _ _
    slots := rfl
    templates := rfl
    sections := hsections
    journal := ⟨[], rfl, nofun⟩ }

theorem writesTo (h : s.Gains request home scope fragments s')
    (hs : s.WritesTo request home scope) : s'.WritesTo request home scope where
  live := Nat.lt_of_lt_of_eq hs.live h.requests.symm
  current := h.sections.current.trans hs.current
  within := Nat.lt_of_lt_of_le hs.within h.sections.size

end Store.Gains

/-- The function stays where it is when more values are made. -/
theorem Graph.Provides.of_isPrefix {g h : Graph} {data : ObjectId} (hg : g.Provides data id slot)
    (hgh : g.IsPrefix h) : h.Provides data id slot := by
  obtain ⟨members, hmembers, -⟩ := Option.bind_eq_some_iff.1 hg.member
  exact hg.congr
    (getElem?_of_isPrefix hgh.objects (Array.getElem?_eq_some_iff.1 hmembers).1)
    (getElem?_of_isPrefix hgh.functions (Array.getElem?_eq_some_iff.1 hg.function).1)

/-! ## The content is there -/

/-- The data of a context has the content, which was rendered to a text. -/
structure Store.Answers (context : Context) (slot : SlotId) (id : FunctionId) (text : String)
    (s : Store σ) : Prop where
  /-- The data has a function that reads it. -/
  provides : s.graph.Provides context.data id slot
  /-- Programs are kept as they are parsed. -/
  parsed : s.programs.Parsed
  /-- No redirect was asked for. -/
  redirect : s.redirect context.request = none
  /-- It was rendered. -/
  settled : s.slots[slot.index]?.map Slot.state = some (.settled (.ok text))

theorem Store.Answers.gains {fragments : List (Fragment Deferred)}
    (h : s.Answers context slot id text) (hgains : s.Gains request home scope fragments s') :
    s'.Answers context slot id text where
  provides := h.provides.of_isPrefix hgains.graph
  parsed := hgains.programs h.parsed
  redirect := (hgains.redirect context.request).trans h.redirect
  settled := by
    rw [hgains.slots]
    exact h.settled

/-- The promise of an expression that has read the content is made and settled. -/
theorem Store.gains_answered (s : Store σ) (request : RequestId) (slot : SlotId) (text : String)
    (home : String) (scope : ScopeId) :
    s.Gains request home scope [] (((s.promising request slot).withPromise
      ⟨s.graph.promises.size⟩ .running).answered request ⟨s.graph.promises.size⟩ text) where
  graph := by
    have hnew := (Graph.IsPrefix.refl s.graph).newPromise (.pending (.content slot))
    have hrunning := hnew.setPromise (Nat.le_refl s.graph.promises.size) .running
    exact hrunning.setPromise (Nat.le_refl s.graph.promises.size) (.settled (.ok (.string text)))
  programs hparsed := (lookUp_of_parsed hparsed Config.content).2
  host := rfl
  requests := rfl
  redirect _ := rfl
  slots := rfl
  templates := rfl
  sections := .refl _ _ _
  journal := by
    refine ⟨[.ended request, .started request Config.content], rfl, fun event hevent => ?_⟩
    rcases List.mem_cons.1 hevent with rfl | hevent
    · exact .inr rfl
    · exact .inl (List.mem_singleton.1 hevent)

/-- An expression that reads the content appends its text. -/
theorem exec_act_answered (hengine : engine.Interprets) (run : Task → Render σ String)
    (template : CompiledTemplate) (h : s.Answers context slot id text)
    (hs : s.WritesTo context.request home scope) (token : Nat) :
    ∃ s', exec (Walk.act engine (waitFor engine run) template (.simple context home none [] false)
        token (.expression Config.content)) s = (.ok (.simple context home none [] false), s') ∧
      s.Gains context.request home scope (literals text) s' := by
  have hevaluate : exec (engine.evaluate (waitFor engine run) context.scope Config.content) s =
      (.ok text, _) := exec_content_again hengine h.parsed h.provides h.settled h.redirect
  have hgains := s.gains_answered context.request slot text home scope
  obtain ⟨s', happend, hwrote⟩ := Walk.exec_appendText (.simple context home none [] false)
    (hgains.writesTo hs) text
  refine ⟨s', ?_, hgains.trans (.of_wrote hwrote)⟩
  exact (exec_bind_ok hevaluate _).trans (exec_bind_ok happend _)

/-! ## The walk -/

/-- The expressions of a template that read the content, each with the text behind it. -/
def Reading.reads (rest : List String) : List Reading :=
  rest.flatMap fun next => [.expression Config.content, .text next]

/-- What these leave in the scope. -/
def answers (text : String) (rest : List String) : List (Fragment Deferred) :=
  rest.flatMap fun next => literals text ++ literals next

/-- All expressions have the same text, by induction on the texts between them. -/
theorem exec_steps_answered (hengine : engine.Interprets) {tokens : List Token}
    (htokens : tokens.map template.reading = Reading.reads rest)
    (h : s.Answers context slot id text) (hs : s.WritesTo context.request home scope)
    (token : Nat) :
    ∃ s', exec (Walk.steps engine (waitFor engine run) template
        (.simple context home none [] false) token tokens) s =
          (.ok (.simple context home none [] false), s') ∧
      s.Gains context.request home scope (answers text rest) s' := by
  induction rest generalizing s token tokens with
  | nil =>
    obtain rfl := List.map_eq_nil_iff.1 htokens
    exact ⟨s, rfl, .of_wrote (.refl hs.live)⟩
  | cons next rest ih =>
    obtain ⟨reader, _, rfl, hreader, htokens⟩ := List.map_eq_cons_iff.1 htokens
    obtain ⟨behind, tokens, rfl, hbehind, htokens⟩ := List.map_eq_cons_iff.1 htokens
    obtain ⟨s₁, hread, hgains₁⟩ := exec_act_answered hengine run template h hs token
    obtain ⟨s₂, happend, hwrote⟩ := Walk.exec_appendText (.simple context home none [] false)
      (hgains₁.writesTo hs) next
    have hgains := hgains₁.trans (.of_wrote hwrote)
    have hact : exec (Walk.act engine (waitFor engine run) template
        (.simple context home none [] false) (token + 1) (.text next)) s₁ =
          (.ok (.simple context home none [] false), s₂) := exec_bind_ok happend _
    obtain ⟨s', hsteps, hgains'⟩ := ih htokens (h.gains hgains) (hgains.writesTo hs) (token + 2)
    refine ⟨s', ?_, hgains.trans hgains'⟩
    rw [Walk.exec_steps_cons (by rw [hreader]; exact nofun) (hreader ▸ hread),
      Walk.exec_steps_cons (by rw [hbehind]; exact nofun) (hbehind ▸ hact)]
    exact hsteps

/-- The template reads the content between texts. -/
def CompiledTemplate.Reads (template : CompiledTemplate) (first : String) (rest : List String) :
    Prop :=
  template.readings = .text first :: Reading.reads rest

/-- The text of the template when the content is known. -/
def spelled (first text : String) (rest : List String) : String :=
  String.join (first :: rest.flatMap fun next => [text, next])

/-- The scope of the template has its text. -/
theorem exec_renderFragments_reads (first text : String) (rest : List String) (s : Store σ) :
    exec (renderFragments (runDeferred run) (literals first ++ answers text rest)) s =
      (.ok (spelled first text rest), s) := by
  have hliterals : literals first ++ answers text rest =
      (first :: rest.flatMap fun next => [text, next]).flatMap literals := by
    unfold answers
    rw [List.flatMap_cons, List.flatMap_assoc]
    congr 2
    funext next
    rw [List.flatMap_cons, List.flatMap_cons, List.flatMap_nil, List.append_nil]
  rw [hliterals, renderFragments_literals_flatMap]
  rfl

/-! ## The template -/

/-- An expression has come to the content, for which it has made a promise. -/
theorem Store.Reaches.reading {read : String → Except Error String}
    {fragments : List (Fragment Deferred)} (h : s.Reaches read context slot fragments s') :
    s.Reaches read context slot fragments (s'.reading context.request slot) where
  graph := by
    have hnew := h.graph.newPromise (.pending (.content slot))
    exact hnew.setPromise (size_le_of_isPrefix h.graph.promises) .running
  programs hparsed := (lookUp_of_parsed (h.programs hparsed) Config.content).2
  host := h.host
  requests := h.requests
  redirect := h.redirect
  slots i hi := by
    rw [← h.slots i hi]
    exact (Array.getElem?_modify ..).trans (if_neg hi.symm)
  honest := h.honest
  sections := h.sections

/-- The store behind the first expression that reads the content. -/
def Store.resumed (t : Store σ) (s : Store σ) (context : Context) (slot : SlotId) (text : String) :
    Store σ :=
  (t.settled slot text).answered context.request ⟨s.graph.promises.size⟩ text

/-- The content has been rendered in the store `t`. -/
theorem Store.Answers.resumed (hslot : slot.index < t.slots.size)
    (hprovides : t.graph.Provides context.data id slot) (hparsed : t.programs.Parsed)
    (hredirect : t.redirect context.request = none) (s : Store σ) (text : String) :
    (t.resumed s context slot text).Answers context slot id text where
  provides := hprovides.congr rfl rfl
  parsed := hparsed
  redirect := hredirect
  settled := by
    show (t.slots.modify slot.index _)[slot.index]?.map Slot.state = _
    rw [Array.getElem?_modify, if_pos rfl, Array.getElem?_eq_getElem hslot]
    rfl

/-- The walk of the template, given what the first expression does. -/
theorem exec_run_reads (hengine : engine.Interprets) {second : String}
    (hreads : template.Reads first (second :: rest))
    (happend : exec ((Walk.simple context context.defaultSection none [] false).appendText first) s =
      (.ok (), s'))
    (hevaluate : exec (engine.evaluate (waitFor engine run) context.scope Config.content) s' =
      (.ok text, s''))
    (hanswers : s''.Answers context slot id text)
    (hs : s''.WritesTo context.request context.defaultSection scope) :
    ∃ v, exec (Walk.run engine (waitFor engine run) template context) s =
        (.ok (.simple context context.defaultSection none [] false), v) ∧
      s''.Gains context.request context.defaultSection scope (answers text (second :: rest)) v := by
  obtain ⟨start, _, htokens, hstart, hparts⟩ := List.map_eq_cons_iff.1 hreads
  obtain ⟨reader, _, rfl, hreader, hparts⟩ := List.map_eq_cons_iff.1 hparts
  obtain ⟨behind, tokens, rfl, hbehind, hparts⟩ := List.map_eq_cons_iff.1 hparts
  let walk : Walk := .simple context context.defaultSection none [] false
  obtain ⟨s₂, happend₂, hwrote₂⟩ := walk.exec_appendText hs text
  obtain ⟨s₃, happend₃, hwrote₃⟩ := walk.exec_appendText (hwrote₂.writesTo hs) second
  have hgains := (Store.Gains.of_wrote hwrote₂).trans (.of_wrote hwrote₃)
  obtain ⟨v, hsteps, hgains'⟩ : ∃ v, exec (Walk.steps engine (waitFor engine run) template walk 3
      tokens) s₃ = (.ok walk, v) ∧ s₃.Gains context.request context.defaultSection scope
        (answers text rest) v :=
    exec_steps_answered hengine hparts (hanswers.gains hgains) (hgains.writesTo hs) 3
  refine ⟨v, ?_, hgains.trans hgains'⟩
  have hacts₁ : exec (walk.act engine (waitFor engine run) template 0 (.text first)) s =
      (.ok walk, s') := exec_bind_ok happend _
  have hacts₂ : exec (walk.act engine (waitFor engine run) template 1
      (.expression Config.content)) s' = (.ok walk, s₂) :=
    (exec_bind_ok hevaluate _).trans (exec_bind_ok happend₂ _)
  have hacts₃ : exec (walk.act engine (waitFor engine run) template 2 (.text second)) s₂ =
      (.ok walk, s₃) := exec_bind_ok happend₃ _
  have hall : exec (Walk.steps engine (waitFor engine run) template walk 0
      (start :: reader :: behind :: tokens)) s = (.ok walk, v) := by
    rw [Walk.exec_steps_cons (by rw [hstart]; exact nofun) (hstart ▸ hacts₁),
      Walk.exec_steps_cons (by rw [hreader]; exact nofun) (hreader ▸ hacts₂),
      Walk.exec_steps_cons (by rw [hbehind]; exact nofun) (hbehind ▸ hacts₃)]
    exact hsteps
  unfold Walk.run
  rw [htokens]
  exact (exec_bind_ok hall _).trans rfl

/-- The first expression renders the content while the scope of the template is the current one.
Then all expressions have its text. -/
theorem exec_renderTemplate_reads (hengine : engine.Interprets) {content : List (Fragment Deferred)}
    (hhonest : s.templates.Honest engine.read) (hlive : context.request.index < s.requests.size)
    (hopened : engine.opened context = .ok template) {second : String}
    (hreads : template.Reads first (second :: rest)) (hparsed : s.programs.Parsed)
    (hprovides : s.graph.Provides context.data id slot)
    (hwaits : s.slots[slot.index]?.map Slot.state = some (.pending content)) :
    ∃ u, s.Reaches engine.read context slot (literals first) u ∧
      u.graph.promises.size = s.graph.promises.size + 1 ∧
      u.journal = .started context.request Config.content :: .reading context.filePath :: s.journal ∧
      ∀ text t, exec (renderFragments (runDeferred run) content) u = (.ok text, t) →
        u.Writes engine.read context.request context.defaultSection
          ⟨(s.sections context.request).scopes.size⟩ [] t →
        t.graph.Provides context.data id slot → t.programs.Parsed →
        t.redirect context.request = none →
        ∃ v fragments, (t.resumed s context slot text).Gains context.request context.defaultSection
            ⟨(s.sections context.request).scopes.size⟩ fragments v ∧
          exec (engine.renderTemplate run context) s =
            (.ok (spelled first text (second :: rest)),
              v.popped context.request context.defaultSection) := by
  obtain ⟨templates, hhonest', hfetch⟩ := exec_fetch_of_opened hhonest hopened
  have hlive' : context.request.index < (s.fetched context.filePath templates).requests.size := hlive
  have hpushed : Store.WritesTo context.request context.defaultSection
      ⟨(s.sections context.request).scopes.size⟩ ((s.fetched context.filePath templates).pushed
        context.request context.defaultSection context.viewPath) := .pushed hlive' context.viewPath
  let walk : Walk := .simple context context.defaultSection none [] false
  obtain ⟨s₁, happend, hwrote⟩ := walk.exec_appendText hpushed first
  have hreaches : s.Reaches engine.read context slot (literals first) s₁ :=
    .entered hlive hhonest' context.filePath hwrote
  have hsame : s₁.graph = s.graph ∧ s₁.slots = s.slots ∧
      s₁.journal = .reading context.filePath :: s.journal := by
    obtain ⟨sections, rfl⟩ := hwrote.same
    exact ⟨rfl, rfl, rfl⟩
  obtain ⟨hgraph, hslots, hjournal⟩ := hsame
  have hsize : (s₁.reading context.request slot).graph.promises.size =
      s₁.graph.promises.size + 1 := Array.size_modify.trans (Array.size_push _)
  refine ⟨s₁.reading context.request slot, hreaches.reading, hgraph ▸ hsize,
    congrArg (Event.started context.request Config.content :: ·) hjournal, ?_⟩
  intro text t hcontent hwrites hprovides' hparsed' hredirect'
  have hwaits₁ : s₁.slots[slot.index]?.map Slot.state = some (.pending content) := hslots ▸ hwaits
  have hslot : slot.index < t.slots.size := by
    have hreading : slot.index < (s₁.reading context.request slot).slots.size := by
      obtain ⟨_, hexists, -⟩ := Option.map_eq_some_iff.1 hwaits₁
      exact Nat.lt_of_lt_of_eq (Array.getElem?_eq_some_iff.1 hexists).1 Array.size_modify.symm
    exact hwrites.lt_slots hreading
  have hprovides₁ : s₁.graph.Provides context.data id slot := hgraph ▸ hprovides
  have hevaluate : exec (engine.evaluate (waitFor engine run) context.scope Config.content) s₁ =
      (.ok text, (t.settled slot text).answered context.request ⟨s₁.graph.promises.size⟩ text) :=
    exec_content_first hengine (hreaches.programs hparsed) hprovides₁ hwaits₁ hcontent hredirect'
  rw [hgraph] at hevaluate
  -- Behind the first expression, the content is there for all others.
  have hanswers : (t.resumed s context slot text).Answers context slot id text :=
    .resumed hslot hprovides' hparsed' hredirect' s text
  have hresumed : (t.resumed s context slot text).WritesTo context.request context.defaultSection
      ⟨(s.sections context.request).scopes.size⟩ := by
    have hreading : (s₁.reading context.request slot).WritesTo context.request
        context.defaultSection ⟨(s.sections context.request).scopes.size⟩ := by
      have hs₁ := hwrote.writesTo hpushed
      exact ⟨hs₁.live, hs₁.current, hs₁.within⟩
    have ht := hreading.writes hwrites
    exact ⟨ht.live, ht.current, ht.within⟩
  obtain ⟨v, hwalk, hgains⟩ := exec_run_reads hengine hreads happend hevaluate hanswers hresumed
  have hsections := (hreaches.reading.sections.trans hwrites.sections).trans hgains.sections
  refine ⟨v, _, hgains, exec_renderTemplate_ok hfetch hwalk ?_ hsections.history_ne_nil⟩
  have hfragments : exec (withSections context.request fun sections => sections.fragments
      ⟨((s.fetched context.filePath templates).sections context.request).scopes.size⟩) v =
        (.ok _, v) :=
    (exec_withSections _ _ _).trans (congrArg (Except.ok ·, v) hsections.fragments_pushed)
  rw [List.append_nil] at hfragments
  unfold Engine.renderWalked renderScope
  exact (exec_bind_ok hfragments _).trans (exec_renderFragments_reads first text (second :: rest) v)

end TemplateEngine
