import TemplateEngine.Proofs.Engine.Contract
import TemplateEngine.Proofs.Expr.Evaluation

/-!
# `Engine` · Balance

Pushes and pops on the sections are balanced in every render.

* **`Sections.Settled`** compares the sections of a request at two moments between which all pushes
  were popped: the histories are the same, and a current scope may have gone only because it was
  taken to be printed, in which case an append may have made another one.
* **`Store.Balanced`** says so of all requests. It is transitive, and a push, a balanced change and
  a pop are together a balanced change again (`Balanced.popped`): that carries it through nested
  templates and through the bodies of paired tags (`Opened`), whatever runs in between.
* **`Contract.balance`** is met by all that an engine does. A failure may leave pushes behind, but
  takes nothing away, so that no pop ever finds an empty history.
-/

namespace TemplateEngine

open Render TemplateEngine.Template

variable {σ : Type}

/-! ## Sections -/

/-- What the sections of a request may become while all pushes are popped. -/
structure Sections.Settled (taken : String → ScopeId → Prop) (S T : Sections Deferred) : Prop where
  /-- Scopes are never removed. -/
  size : S.scopes.size ≤ T.scopes.size
  /-- The histories are the same. -/
  history : ∀ name, (T.stack name).history = (S.stack name).history
  /-- Each current scope is the same, or the one before was taken and the one now was made since. -/
  current : ∀ name, T.current name = S.current name ∨
    (∀ id, S.current name = some id → taken name id) ∧
      ∀ id, T.current name = some id → S.scopes.size ≤ id.index

namespace Sections

variable {taken taken' : String → ScopeId → Prop} {S T U : Sections Deferred}

theorem Settled.refl (taken : String → ScopeId → Prop) (S : Sections Deferred) :
    S.Settled taken S :=
  ⟨Nat.le_refl _, fun _ => rfl, fun _ => .inl rfl⟩

theorem Settled.mono (h : S.Settled taken T)
    (htaken : ∀ name id, taken name id → taken' name id) : S.Settled taken' T :=
  ⟨h.size, h.history, fun name => (h.current name).imp_right fun ⟨hold, hnew⟩ =>
    ⟨fun id hid => htaken name id (hold id hid), hnew⟩⟩

theorem Settled.trans (h : S.Settled taken T) (h' : T.Settled taken U) : S.Settled taken U where
  size := Nat.le_trans h.size h'.size
  history name := (h'.history name).trans (h.history name)
  current name := by
    rcases h.current name with hT | ⟨hold, hT⟩
    · rcases h'.current name with hU | ⟨hold', hU⟩
      · exact .inl (hU.trans hT)
      · rw [hT] at hold'
        exact .inr ⟨hold', fun id hid => Nat.le_trans h.size (hU id hid)⟩
    · rcases h'.current name with hU | ⟨-, hU⟩
      · rw [← hU] at hT
        exact .inr ⟨hold, hT⟩
      · exact .inr ⟨hold, fun id hid => Nat.le_trans h.size (hU id hid)⟩

/-- An append changes what is current only where nothing was. -/
theorem settled_add (taken : String → ScopeId → Prop) (S : Sections Deferred)
    (name owner : String) (fragment : Fragment Deferred) :
    S.Settled taken (S.add name owner fragment).2 where
  size := size_le_add S name owner fragment
  history other := by
    by_cases h : other = name
    · rw [h, stack_add_self]
    · rw [stack_add_of_ne h]
  current other := by
    unfold Sections.current
    by_cases h : other = name
    · rw [h, stack_add_self]
      unfold target Sections.current
      rcases hc : (S.stack name).current with _ | id
      · refine .inr ⟨by rintro _ ⟨⟩, ?_⟩
        rintro _ ⟨⟩
        exact Nat.le_refl _
      · exact .inl rfl
    · rw [stack_add_of_ne h]
      exact .inl rfl

/-- A taking leaves the section without a current scope. -/
theorem settled_take {name : String} {scope : Option ScopeId} {after : Sections Deferred}
    (h : S.takeCurrent name = .ok (scope, after))
    (htaken : ∀ id, scope = some id → taken name id) : S.Settled taken after := by
  obtain ⟨hscope, hafter⟩ := takeCurrent_cases h
  subst hafter
  refine ⟨Nat.le_refl _, fun other => ?_, fun other => ?_⟩
  · by_cases hne : other = name
    · rw [hne, stack_setStack_self, Stack.history_take]
    · rw [stack_setStack_of_ne hne]
  · unfold Sections.current
    by_cases hne : other = name
    · rw [hne, stack_setStack_self, Stack.current_take]
      refine .inr ⟨fun id hid => htaken id (hscope.trans hid), ?_⟩
      rintro _ ⟨⟩
    · rw [stack_setStack_of_ne hne]
      exact .inl rfl

/-- A push, a balanced change and a pop. -/
theorem Settled.popped {name owner : String} (h : (S.push name owner).2.Settled taken T) :
    S.Settled taken (T.popped name) := by
  have hhistory := h.history name
  rw [stack_push_self] at hhistory
  have hsize := h.size
  rw [size_push] at hsize
  unfold Sections.popped
  refine ⟨Nat.le_of_succ_le hsize, fun other => ?_, fun other => ?_⟩
  · by_cases hne : other = name
    · rw [hne, stack_setStack_self, hhistory]
      rfl
    · rw [stack_setStack_of_ne hne, h.history, stack_push_of_ne hne]
  · have hcurrent := h.current other
    unfold Sections.current at hcurrent ⊢
    by_cases hne : other = name
    · rw [hne, stack_setStack_self, hhistory]
      exact .inl rfl
    · rw [stack_push_of_ne hne] at hcurrent
      rw [stack_setStack_of_ne hne]
      refine hcurrent.imp_right fun ⟨hold, hnew⟩ => ⟨hold, fun id hid => ?_⟩
      have hle := hnew id hid
      rw [size_push] at hle
      exact Nat.le_of_succ_le hle

/-- A pop gives a section back what was current at the push. -/
theorem Settled.current_popped {name owner : String}
    (h : (S.push name owner).2.Settled taken T) : (T.popped name).current name = S.current name := by
  have hhistory := h.history name
  rw [stack_push_self] at hhistory
  unfold Sections.current Sections.popped
  rw [stack_setStack_self, hhistory]
  rfl

end Sections

/-! ## Stores -/

namespace Store

/-- What a store may become while all pushes are popped. -/
def Balanced (s t : Store σ) : Prop :=
  ∃ events, t.journal = events ++ s.journal ∧
    ∀ id, (s.sections id).Settled (fun name scope => Event.taken id name scope ∈ events)
      (t.sections id)

/-- Nothing was popped that had been pushed before. -/
def Grown (s t : Store σ) : Prop :=
  ∀ id name, ((s.sections id).stack name).history <:+ ((t.sections id).stack name).history

variable {s t u : Store σ}

theorem Balanced.of_sections (events : List Event) (hjournal : t.journal = events ++ s.journal)
    (h : ∀ id, t.sections id = s.sections id) : s.Balanced t := by
  refine ⟨events, hjournal, fun id => ?_⟩
  rw [h]
  exact .refl _ _

theorem Balanced.refl (s : Store σ) : s.Balanced s :=
  .of_sections [] rfl fun _ => rfl

theorem Balanced.trans (h : s.Balanced t) (h' : t.Balanced u) : s.Balanced u := by
  obtain ⟨events, hjournal, hsettled⟩ := h
  obtain ⟨events', hjournal', hsettled'⟩ := h'
  refine ⟨events' ++ events, by rw [hjournal', hjournal, List.append_assoc], fun id => ?_⟩
  refine ((hsettled id).mono fun _ _ hmem => ?_).trans ((hsettled' id).mono fun _ _ hmem => ?_)
  · exact List.mem_append_right _ hmem
  · exact List.mem_append_left _ hmem

theorem Balanced.still (h : s.Still t) : s.Balanced t := by
  refine .of_sections [] h.journal fun id => ?_
  unfold Store.sections
  rw [h.requests]

theorem Balanced.setSections {id : RequestId} {sections : Sections Deferred}
    (hid : id.index < s.requests.size) (h : (s.sections id).Settled (fun _ _ => False) sections) :
    s.Balanced (s.setSections id sections) := by
  refine ⟨[], rfl, fun other => ?_⟩
  by_cases hne : other = id
  · rw [hne, sections_setSections_self hid]
    exact h.mono fun _ _ => False.elim
  · rw [sections_setSections_of_ne hne]
    exact .refl _ _

/-- A taking is in the journal. -/
theorem balanced_taken {id : RequestId} {name : String} {scope : ScopeId}
    {after : Sections Deferred} (hid : id.index < s.requests.size)
    (htake : (s.sections id).takeCurrent name = .ok (some scope, after)) :
    s.Balanced ((s.setSections id after).noted (.taken id name scope)) := by
  refine ⟨[.taken id name scope], rfl, fun other => ?_⟩
  by_cases hne : other = id
  · subst hne
    have hsections : ((s.setSections other after).noted (.taken other name scope)).sections
        other = after := sections_setSections_self hid after
    rw [hsections]
    refine Sections.settled_take htake ?_
    rintro _ ⟨⟩
    exact List.mem_singleton_self _
  · have hsections : ((s.setSections id after).noted (.taken id name scope)).sections
        other = s.sections other := sections_setSections_of_ne hne after
    rw [hsections]
    exact .refl _ _

theorem Balanced.grown (h : s.Balanced t) : s.Grown t := by
  obtain ⟨_, _, hsettled⟩ := h
  intro id name
  exact (hsettled id).history name ▸ List.suffix_refl _

theorem Grown.refl (s : Store σ) : s.Grown s := fun _ _ => List.suffix_refl _

theorem Grown.trans (h : s.Grown t) (h' : t.Grown u) : s.Grown u :=
  fun id name => (h id name).trans (h' id name)

theorem Grown.of_sections (h : ∀ id, t.sections id = s.sections id) : s.Grown t := by
  intro id name
  exact h id ▸ List.suffix_refl _

/-- After a push nothing is lost. -/
theorem grown_pushed {id : RequestId} (hid : id.index < s.requests.size) (name owner : String) :
    s.Grown (s.pushed id name owner) := by
  intro other name'
  by_cases hne : other = id
  · rw [hne, sections_pushed hid]
    by_cases hname : name' = name
    · rw [hname, Sections.stack_push_self]
      exact List.suffix_cons _ _
    · simp only [Sections.stack_push_of_ne hname, List.suffix_refl]
  · simp only [pushed, sections_setSections_of_ne hne, List.suffix_refl]

/-- A push, a balanced change and a pop are a balanced change. -/
theorem Balanced.popped {id : RequestId} {name owner : String} (hs : id.index < s.requests.size)
    (ht : id.index < t.requests.size) (h : (s.pushed id name owner).Balanced t) :
    s.Balanced (t.popped id name) := by
  obtain ⟨events, hjournal, hsettled⟩ := h
  refine ⟨events, hjournal, fun other => ?_⟩
  have hother := hsettled other
  unfold Store.popped
  by_cases hne : other = id
  · subst hne
    rw [sections_pushed hs] at hother
    rw [sections_setSections_self ht]
    exact hother.popped
  · unfold pushed at hother
    rw [sections_setSections_of_ne hne] at hother ⊢
    exact hother

/-- What was there before a push is still there after the next pop. -/
theorem Grown.popped {id : RequestId} {name owner : String} (hs : id.index < s.requests.size)
    (ht : id.index < t.requests.size) (h : (s.pushed id name owner).Grown t) :
    s.Grown (t.popped id name) := by
  intro other name'
  have hother := h other name'
  unfold Store.popped
  by_cases hne : other = id
  · subst hne
    rw [sections_pushed hs] at hother
    rw [sections_setSections_self ht]
    unfold Sections.popped
    by_cases hname : name' = name
    · rw [hname, Sections.stack_push_self] at hother
      rw [hname, Sections.stack_setStack_self]
      obtain ⟨added, hadded⟩ := hother
      rw [← hadded]
      cases added with
      | nil => exact List.suffix_refl _
      | cons restored rest => exact (List.suffix_cons _ _).trans (List.suffix_append _ _)
    · rw [Sections.stack_push_of_ne hname] at hother
      rw [Sections.stack_setStack_of_ne hname]
      exact hother
  · unfold pushed at hother
    rw [sections_setSections_of_ne hne] at hother ⊢
    exact hother

/-- After a push there is something to pop. -/
theorem Grown.history_ne_nil {id : RequestId} {name owner : String}
    (hs : id.index < s.requests.size) (h : (s.pushed id name owner).Grown t) :
    ((t.sections id).stack name).history ≠ [] := by
  have hsuffix := h id name
  rw [sections_pushed hs, Sections.stack_push_self] at hsuffix
  intro hnil
  rw [hnil] at hsuffix
  cases List.suffix_nil.1 hsuffix

/-- The request that was pushed to is still there. -/
theorem Grown.live {id : RequestId} {name owner : String} (hs : id.index < s.requests.size)
    (h : (s.pushed id name owner).Grown t) : id.index < t.requests.size := by
  rcases Nat.lt_or_ge id.index t.requests.size with hlt | hle
  · exact hlt
  · refine absurd ?_ (h.history_ne_nil hs)
    rw [sections_of_le hle]
    rfl

end Store

/-! ## The contract -/

/-- Every push is popped, and a failure pops nothing that it did not push. -/
def Contract.balance (bounds : Bounds) : Contract σ where
  bounds := bounds
  Ready _ := True
  Changes := Store.Balanced
  Stops s _ t := s.Grown t
  refl := .refl
  trans := .trans
  after h h' := h.grown.trans h'
  still _ h := ⟨trivial, .still h⟩
  settled h h' := h.trans (Store.Balanced.still h').grown
  raises {s _} _ _ := .refl s
  fails _ _ := .of_sections fun _ => rfl
  wrapped h _ := h
  stalls {s} _ := .refl s
  exhausts {s} _ := .refl s

variable {bounds : Bounds} {host : Host σ} {engine : Engine σ}

theorem Contract.balance_holds {s : Store σ} (h : s.Sound bounds) :
    (Contract.balance bounds).Holds s := ⟨h, trivial⟩

/-- The evaluation of an expression is balanced. -/
theorem balance_evaluateValue (hhost : host.Keeps bounds) {wait : PromiseId → Render σ Value}
    (hwait : ∀ id, (Contract.balance bounds).Meets (wait id) fun _ => True) (scope : Scope)
    (source : String) :
    (Contract.balance bounds).Meets
      (evaluateValue host (.interpreter host) wait scope source) fun _ => True := by
  have hnoted : ∀ (s : Store σ) event, s.Balanced (s.noted event) :=
    fun s event => .of_sections [event] rfl fun _ => rfl
  refine Contract.Meets.evaluateValue hhost (fun s request target _ => ⟨trivial, ?_⟩)
    (fun s _ _ _ => ⟨trivial, hnoted s _⟩) (fun s _ _ => ⟨trivial, hnoted s _⟩) ?_ hwait scope source
  · exact .of_sections [_] rfl fun id => Store.sections_asking _ request id target
  · exact fun s t stop stop' request hst => Store.Grown.trans hst (hnoted t _).grown

/-- The parts of an engine may do what they do. -/
theorem balance_allows {config : Config} {read : String → Except Error String}
    (hkeeps : (Engine.interpreting config read host).Keeps bounds) :
    (Contract.balance bounds).Allows (Engine.interpreting config read host) where
  keeps := hkeeps
  appends name owner fragment hs hid :=
    ⟨trivial, .setSections (hs.sound.live _ hid) (Sections.settled_add _ _ name owner fragment)⟩
  takesNone hs hid htake :=
    ⟨trivial, .setSections (hs.sound.live _ hid) (Sections.settled_take htake nofun)⟩
  takes hs hid htake :=
    ⟨trivial, Store.balanced_taken (hs.sound.live _ hid) htake⟩
  reads path _ := ⟨trivial, .of_sections [.reading path] rfl fun _ => rfl⟩
  evaluates source hwait _ := balance_evaluateValue hkeeps.host hwait _ source

/-! ## Walks -/

/-- Tags are open, the innermost first, and everything else since `base` is balanced. -/
def Opened (request : RequestId) (base : Store σ) : List OpenTag → Store σ → Prop
  | [], t => base.Balanced t
  | tag :: tags, t => ∃ s owner, request.index < s.requests.size ∧ Opened request base tags s ∧
      (s.sections request).current tag.sectionName = tag.saved ∧
        (s.pushed request tag.sectionName owner).Balanced t

theorem Opened.trans {request : RequestId} {base s t : Store σ} {tags : List OpenTag}
    (h : Opened request base tags s) (hst : s.Balanced t) : Opened request base tags t := by
  cases tags with
  | nil => exact Store.Balanced.trans h hst
  | cons tag tags =>
    obtain ⟨before, owner, hlive, hopened, hsaved, hbefore⟩ := h
    exact ⟨before, owner, hlive, hopened, hsaved, hbefore.trans hst⟩

theorem Opened.grown {request : RequestId} {base t : Store σ} {tags : List OpenTag}
    (h : Opened request base tags t) : base.Grown t := by
  induction tags generalizing t with
  | nil => exact Store.Balanced.grown h
  | cons tag tags ih =>
    obtain ⟨s, owner, hlive, hopened, -, hst⟩ := h
    exact (ih hopened).trans ((Store.grown_pushed hlive _ owner).trans hst.grown)

/-- The history of a body's section starts with what was current when the tag was opened. -/
theorem Opened.history {request : RequestId} {base s : Store σ} {tag : OpenTag}
    {tags : List OpenTag} (h : Opened request base (tag :: tags) s) :
    ∃ older, ((s.sections request).stack tag.sectionName).history = tag.saved :: older := by
  obtain ⟨before, owner, hlive, -, hsaved, _, _, hsettled⟩ := h
  refine ⟨((before.sections request).stack tag.sectionName).history, ?_⟩
  rw [(hsettled request).history, Store.sections_pushed hlive, Sections.stack_push_self, ← hsaved]
  rfl

/-- The closer of a body finds it balanced and has something to pop. -/
theorem Opened.close {request : RequestId} {base s : Store σ} {tag : OpenTag} {tags : List OpenTag}
    (h : Opened request base (tag :: tags) s) (hs : request.index < s.requests.size) :
    Walk.restores ((s.sections request).peek tag.sectionName) tag.saved = true ∧
      ((s.sections request).stack tag.sectionName).history ≠ [] ∧
        Opened request base tags (s.popped request tag.sectionName) := by
  obtain ⟨older, hhistory⟩ := h.history
  obtain ⟨before, owner, hlive, hbefore, -, hbalanced⟩ := h
  refine ⟨Render.restores_of_history hhistory, ?_, hbefore.trans (hbalanced.popped hlive hs)⟩
  rw [hhistory]
  exact List.cons_ne_nil _ _

variable {wait : PromiseId → Render σ Value} {base : Store σ}

/-- What a walk ensures from a store on which the given tags are open. -/
def Walk.Ensures (bounds : Bounds) (base : Store σ) (request : RequestId) (x : Render σ Walk)
    (s : Store σ) : Prop :=
  Render.Ensures x s
    (fun walk t => walk.context.request = request ∧ t.Sound bounds ∧ Opened request base walk.openTags t)
    fun stop t => t.Sound bounds ∧ stop.Within bounds ∧ base.Grown t

/-- A part of a walk that meets the contract keeps the tags open. -/
theorem Contract.Meets.opened {request : RequestId} (walk : Walk) {x : Render σ Walk} {s : Store σ}
    (h : (Contract.balance bounds).Meets x walk.Goes) (hid : walk.context.request = request)
    (hs : s.Sound bounds) (hopened : Opened request base walk.openTags s) :
    Walk.Ensures bounds base request x s := by
  refine (h s (balance_holds hs)).mono ?_ ?_
  · rintro after t ⟨⟨hrequest, htags⟩, ht, hst⟩
    rw [← htags] at hopened
    exact ⟨hrequest.trans hid, ht.sound, hopened.trans hst⟩
  · rintro stop t ⟨ht, hstop, hst⟩
    exact ⟨ht, hstop, hopened.grown.trans hst⟩

theorem sound_popped {s : Store σ} (hs : s.Sound bounds) (request : RequestId) (name : String) :
    (s.popped request name).Sound bounds :=
  hs.setSections fun hid => hs.scopes request hid

section Tags

variable {config : Config} {read : String → Except Error String}
  (hkeeps : (Engine.interpreting config read host).Keeps bounds)
  (hwait : ∀ id, (Contract.balance bounds).Meets (wait id) fun _ => True)

include hkeeps hwait

/-- An opening tag that has a body pushes a scope for it. -/
theorem ensures_openTag (walk : Walk) {request : RequestId} {s : Store σ}
    (hid : walk.context.request = request) (hours : bounds.ours request) (hs : s.Sound bounds)
    (hopened : Opened request base walk.openTags s) (template : CompiledTemplate) (token : Nat)
    (part : Token) :
    Walk.Ensures bounds base request
      (walk.openTag (Engine.interpreting config read host) wait template token part) s := by
  have hown : ∀ {error}, error.IsOwn → Walk.Ensures bounds base request (raise error) s :=
    fun herror => .raise ⟨hs, bounds.own herror, hopened.grown⟩
  unfold Walk.openTag
  rcases ServerTag.parse part.text with fault | tag
  · exact hown trivial
  dsimp only
  rcases htag : Invocation.ofTag tag none with fault | invocation
  · exact hown (Error.isOwn_ofTag htag)
  dsimp only
  split
  · refine Contract.Meets.opened walk ?_ hid hs hopened
    refine (Contract.Meets.invoke (balance_allows hkeeps) hwait ?_ template token invocation).bind
      fun _ _ => .pure ⟨rfl, rfl⟩
    rw [hid]
    exact hours
  · subst hid
    refine .bind_ok (exec_withSections _ _ _) (.bind_ok (exec_changeSections _ _ _) ?_)
    refine .pure ⟨rfl, hs.push walk.context.request _ _, s, walk.context.viewPath,
      hs.live _ hours, hopened, rfl, .refl _⟩

/-- A closer pops the scope of the body. -/
theorem ensures_closeTag (walk : Walk) {request : RequestId} {s : Store σ}
    (hid : walk.context.request = request) (hours : bounds.ours request) (hs : s.Sound bounds)
    (hopened : Opened request base walk.openTags s) (template : CompiledTemplate) (part : Token) :
    Walk.Ensures bounds base request
      (walk.closeTag (Engine.interpreting config read host) wait template part) s := by
  have hown : ∀ {error}, error.IsOwn → Walk.Ensures bounds base request (raise error) s :=
    fun herror => .raise ⟨hs, bounds.own herror, hopened.grown⟩
  unfold Walk.closeTag
  dsimp only
  rcases htags : walk.openTags with _ | ⟨tag, tags⟩
  · exact hown fun h => h
  dsimp only
  split
  · exact hown fun h => h
  rw [htags] at hopened
  subst hid
  obtain ⟨hpeek, hpop, hopened'⟩ := hopened.close (hs.live _ hours)
  refine .bind_ok (exec_withSections _ _ _) ?_
  rw [hpeek]
  refine .bind_ok (exec_popSection_of_history hpop) ?_
  have hs' := sound_popped hs walk.context.request tag.sectionName
  let closed : Walk := { walk with active := tag.sectionName, openTags := tags }
  have hclosed : bounds.ours closed.context.request := hours
  refine Contract.Meets.opened closed ?_ rfl hs' hopened'
  refine (Contract.Meets.fragments hours tag.body).bind fun fragments hfragments => ?_
  have hbody : SlotState.Sound bounds (.pending fragments) := hfragments
  refine (Contract.Meets.newSlot hbody).bind fun body _ => ?_
  rcases htag : Invocation.ofTag tag.tag (some body) with fault | invocation
  · exact .raise (bounds.own (Error.isOwn_ofTag htag))
  · have hinvoke := Contract.Meets.invoke (balance_allows hkeeps) hwait hclosed template tag.token
      invocation
    exact hinvoke.bind fun _ _ => .pure ⟨rfl, rfl⟩

theorem ensures_step (walk : Walk) {request : RequestId} {s : Store σ}
    (hid : walk.context.request = request) (hours : bounds.ours request) (hs : s.Sound bounds)
    (hopened : Opened request base walk.openTags s) (template : CompiledTemplate) (token : Nat)
    (part : Token) :
    Walk.Ensures bounds base request
      (walk.step (Engine.interpreting config read host) wait template token part) s := by
  have hwalk : bounds.ours walk.context.request := by
    rw [hid]
    exact hours
  have hplain : part.kind = .literal ∨ part.kind = .expression → (Contract.balance bounds).Meets
      (walk.step (Engine.interpreting config read host) wait template token part) walk.Goes :=
    Contract.Meets.step (balance_allows hkeeps) hwait hwalk template token
  rcases hkind : part.kind with _ | _ | _ | _
  · exact (hplain (.inl hkind)).opened walk hid hs hopened
  · exact (hplain (.inr hkind)).opened walk hid hs hopened
  · simp only [Walk.step, hkind]
    exact ensures_openTag hkeeps hwait { walk with stripNext := true } hid hours hs hopened
      template token part
  · simp only [Walk.step, hkind]
    exact ensures_closeTag hkeeps hwait { walk with stripNext := true } hid hours hs hopened
      template part

theorem ensures_steps (walk : Walk) {request : RequestId} {s : Store σ}
    (hid : walk.context.request = request) (hours : bounds.ours request) (hs : s.Sound bounds)
    (hopened : Opened request base walk.openTags s) (template : CompiledTemplate) (token : Nat)
    (parts : List Token) :
    Walk.Ensures bounds base request
      (Walk.steps (Engine.interpreting config read host) wait template walk token parts) s := by
  induction parts generalizing walk token s with
  | nil => exact .pure ⟨hid, hs, hopened⟩
  | cons part rest ih =>
    have hstep := ensures_step hkeeps hwait walk hid hours hs hopened template token part
    refine .bind (.mapError (hstep.mono (fun _ _ h => h) ?_))
      fun next t ⟨hid, ht, hopened⟩ => ih next hid ht hopened (token + 1)
    rintro stop t ⟨ht, hstop, hst⟩
    cases stop with
    | raised error => exact ⟨ht, bounds.similar hstop (Error.similar_locate _ _ _), hst⟩
    | stalled | exhausted => exact ⟨ht, hstop, hst⟩

/-- A walk that comes to its end has popped the bodies of all tags. -/
theorem ensures_run {context : Context} {s : Store σ} (hours : bounds.ours context.request)
    (hs : s.Sound bounds) (template : CompiledTemplate) :
    Render.Ensures (Walk.run (Engine.interpreting config read host) wait template context) s
      (fun walk t => walk.context.request = context.request ∧ t.Sound bounds ∧ s.Balanced t)
      fun stop t => t.Sound bounds ∧ stop.Within bounds ∧ s.Grown t := by
  have hopened : Opened context.request s (Walk.start context).openTags s := Store.Balanced.refl s
  have hsteps := ensures_steps hkeeps hwait (.start context) rfl hours hs hopened template 0 template.tokens
  unfold Walk.run
  refine .bind hsteps fun walk t ⟨hid, ht, hopened⟩ => ?_
  rcases htags : walk.openTags with _ | ⟨tag, tags⟩
  · rw [htags] at hopened
    exact .pure ⟨hid, ht, hopened⟩
  · refine .raise ⟨ht, ?_, hopened.grown⟩
    have hown : (Error.structural (.neverClosed tag.tag.name)).IsOwn := fun h => h
    exact bounds.similar (bounds.own hown) (Error.similar_locate _ _ _)

end Tags

/-! ## Templates -/

/-- Fetching a template leaves the requests as they are. -/
theorem ensures_fetch (engine : Engine σ) (context : Context) (s : Store σ) :
    Render.Ensures (engine.fetch context) s (fun _ t => t.requests = s.requests)
      fun _ t => t.requests = s.requests := by
  unfold Engine.fetch
  have hdepth : Render.Ensures (ofExcept (engine.checkDepth context) : Render σ Unit) s
      (fun _ t => t.requests = s.requests) fun _ t => t.requests = s.requests :=
    .ofExcept (fun _ _ => rfl) fun _ _ => rfl
  refine hdepth.bind fun _ t ht => .bind_ok (exec_note _ _) ?_
  have hread : Render.Ensures (ofExcept (engine.read context.filePath) : Render σ String)
      (t.noted (.reading context.filePath))
      (fun _ t => t.requests = s.requests) fun _ t => t.requests = s.requests :=
    .ofExcept (fun _ _ => ht) fun _ _ => ht
  refine hread.bind fun source t ht => ?_
  have hexec := exec_loadTemplate context.filePath source t
  rcases h : (t.templates.load context.filePath source).1 with error | numbered
  · rw [h] at hexec
    exact .of_error hexec ht
  · rw [h] at hexec
    exact .of_ok hexec ht

/-- A section into which a template was rendered has the current scope back that it had before. What
the pop removed is the scope that was pushed for the template or, if that was taken to be printed,
nothing or a scope that was made since. -/
structure Returned (events : List Event) (s t : Store σ) (request : RequestId) (name : String) :
    Prop where
  /-- What happened. -/
  journal : t.journal = events ++ s.journal
  /-- The current scope is the same, or there is none as before. -/
  current : (t.sections request).current name = (s.sections request).current name
  /-- The scope that was pushed is the first that was made. -/
  removed : (t.sections request).previous name = some ⟨(s.sections request).scopes.size⟩ ∨
    .taken request name ⟨(s.sections request).scopes.size⟩ ∈ events ∧
      ∀ scope, (t.sections request).previous name = some scope →
        (s.sections request).scopes.size < scope.index

/-- A pop after a balanced change removes the pushed scope, unless that was taken. -/
theorem Store.Balanced.returned {s t : Store σ} {request : RequestId} {name owner : String}
    (hs : request.index < s.requests.size) (ht : request.index < t.requests.size)
    (h : (s.pushed request name owner).Balanced t) :
    ∃ events, Returned events s (t.popped request name) request name := by
  obtain ⟨events, hjournal, hsettled⟩ := h
  have hsections : (t.popped request name).sections request =
      (t.sections request).popped name := sections_setSections_self ht _
  have hrequest := hsettled request
  rw [sections_pushed hs] at hrequest
  refine ⟨events, hjournal, ?_, ?_⟩
  · rw [hsections]
    exact hrequest.current_popped
  · have hprevious : ((t.sections request).popped name).previous name =
        (t.sections request).current name := by
      unfold Sections.popped Sections.previous
      rw [Sections.stack_setStack_self]
    have hpushed : ((s.sections request).push name owner).2.current name =
        some ⟨(s.sections request).scopes.size⟩ := by
      unfold Sections.current
      rw [Sections.stack_push_self]
      rfl
    have hcurrent := hrequest.current name
    rw [hpushed, Sections.size_push] at hcurrent
    rw [hsections, hprevious]
    exact hcurrent.imp_right fun ⟨hold, hnew⟩ => ⟨hold _ rfl, hnew⟩

/-- A balanced change that leaves the sections alone may come before. -/
theorem Returned.after {events : List Event} {s t u : Store σ} {request : RequestId}
    {name : String} (h : Returned events t u request name) (hst : s.Balanced t)
    (hrequests : t.requests = s.requests) :
    ∃ events, Returned events s u request name := by
  obtain ⟨before, hbefore, -⟩ := hst
  have hsections : t.sections request = s.sections request := by
    unfold Store.sections
    rw [hrequests]
  obtain ⟨hjournal, hcurrent, hremoved⟩ := h
  rw [hsections] at hcurrent hremoved
  refine ⟨events ++ before, by rw [hjournal, hbefore, List.append_assoc], hcurrent, ?_⟩
  exact hremoved.imp_right fun ⟨htaken, hnew⟩ => ⟨List.mem_append_left _ htaken, hnew⟩

/-- Output that is collected in a scope of its own, which is popped in the end, also after a
failure. Nothing was lost meanwhile, so that the pop cannot fail. -/
theorem ensures_popped {α : Type} {body : Render σ α} {s : Store σ} {request : RequestId}
    (hs : request.index < s.requests.size) (name owner : String) (good : α → Store σ → Prop)
    (failed : Error → Store σ → Prop) (other : Stop → Store σ → Prop)
    (hbody : Render.Ensures body (s.pushed request name owner)
      (fun value t => (s.pushed request name owner).Grown t ∧ good value (t.popped request name))
      fun stop t => OnStop (fun error => (s.pushed request name owner).Grown t ∧
        failed error (t.popped request name)) (other · t) stop) :
    Render.Ensures (do
        let output ← attempt body
        let popped ← attempt (popSection request name)
        let value ← ofExcept output
        let _ ← ofExcept popped
        return value) (s.pushed request name owner) good
      fun stop t => OnStop (failed · t) (other · t) stop := by
  have hexec := exec_collected body request name (s.pushed request name owner)
  rcases hrun : exec body (s.pushed request name owner) with ⟨stop | value, t⟩
  all_goals rw [hrun] at hexec
  · have hstop := hbody.error hrun
    cases stop with
    | raised error =>
      dsimp only at hexec
      rw [exec_popSection_of_history (hstop.1.history_ne_nil hs)] at hexec
      exact .of_error hexec hstop.2
    | stalled | exhausted => exact .of_error hexec hstop
  · obtain ⟨hgrown, hgood⟩ := hbody.ok hrun
    dsimp only at hexec
    rw [exec_popSection_of_history (hgrown.history_ne_nil hs)] at hexec
    exact .of_ok hexec hgood

/-- If the output is balanced, then so is everything with the pop. -/
theorem ensures_collected {s : Store σ} {request : RequestId} (hours : bounds.ours request)
    (hs : s.Sound bounds) (name owner : String) {body : Render σ String}
    (hbody : Render.Ensures body (s.pushed request name owner)
      (fun _ t => t.Sound bounds ∧ (s.pushed request name owner).Balanced t)
      fun stop t => t.Sound bounds ∧ stop.Within bounds ∧ (s.pushed request name owner).Grown t) :
    Render.Ensures (do
        let output ← attempt body
        let popped ← attempt (popSection request name)
        let text ← ofExcept output
        let _ ← ofExcept popped
        return text : Render σ String) (s.pushed request name owner)
      (fun _ t => t.Sound bounds ∧ s.Balanced t ∧ ∃ events, Returned events s t request name)
      fun stop t => t.Sound bounds ∧ stop.Within bounds ∧ s.Grown t := by
  have hlive := hs.live request hours
  refine (ensures_popped hlive name owner
    (fun _ u => u.Sound bounds ∧ s.Balanced u ∧ ∃ events, Returned events s u request name)
    (fun error u => u.Sound bounds ∧ bounds.expected error ∧ s.Grown u)
    (fun stop u => u.Sound bounds ∧ stop.Within bounds ∧ s.Grown u)
    (hbody.mono ?_ ?_)).mono (fun _ _ => id) ?_
  · rintro _ t ⟨ht, hst⟩
    have htlive := ht.live request hours
    exact ⟨hst.grown, sound_popped ht request name, hst.popped hlive htlive,
      hst.returned hlive htlive⟩
  · rintro stop t ⟨ht, hstop, hst⟩
    cases stop with
    | raised error =>
      exact ⟨hst, sound_popped ht request name, hstop, hst.popped hlive (ht.live request hours)⟩
    | stalled | exhausted =>
      exact ⟨ht, hstop, (Store.grown_pushed hlive name owner).trans hst⟩
  · rintro stop t hstop
    cases stop <;> exact hstop

/-- A template's own scope is pushed, its output is collected while everything else is balanced,
and the scope is popped again. -/
theorem ensures_renderTemplate {config : Config} {read : String → Except Error String}
    (hkeeps : (Engine.interpreting config read host).Keeps bounds)
    {run : Task → Render σ String}
    (hrun : ∀ task : Task, task.Within bounds →
      (Contract.balance bounds).Meets (run task) fun _ => True)
    {context : Context} (hours : bounds.ours context.request) {s : Store σ} (hs : s.Sound bounds) :
    Render.Ensures ((Engine.interpreting config read host).renderTemplate run context) s
      (fun _ t => t.Sound bounds ∧ s.Balanced t ∧
        ∃ events, Returned events s t context.request context.defaultSection)
      fun stop t => t.Sound bounds ∧ stop.Within bounds ∧ s.Grown t := by
  have hwait : ∀ id, (Contract.balance bounds).Meets
      (waitFor (Engine.interpreting config read host) run id) fun _ => True :=
    Contract.Meets.waitFor hrun hkeeps
  have hfetch := (Contract.Meets.fetch (balance_allows hkeeps) context s
    (Contract.balance_holds hs)).and (ensures_fetch (Engine.interpreting config read host) context s)
  unfold Engine.renderTemplate
  refine (hfetch.mono (fun _ _ h => h) fun _ _ h => h.1).bind ?_
  rintro template t ⟨⟨-, ht, hst⟩, hrequests⟩
  have hst : s.Balanced t := hst
  refine .bind_ok (exec_changeSections _ _ _) ?_
  have hpushed : (t.pushed context.request context.defaultSection context.viewPath).Sound bounds :=
    ht.sound.push context.request context.defaultSection context.viewPath
  refine (ensures_collected hours ht.sound _ _ ?_).mono ?_ ?_
  · refine (ensures_run hkeeps hwait hours hpushed template).bind fun walk u ⟨hid, hu, hwalk⟩ => ?_
    have hwalked : bounds.ours walk.context.request := by
      rw [hid]
      exact hours
    refine (Contract.Meets.renderWalked hrun hwalked template _ u
      (Contract.balance_holds hu)).mono ?_ ?_
    · rintro _ v ⟨-, hv, huv⟩
      exact ⟨hv.sound, hwalk.trans huv⟩
    · rintro stop v ⟨hv, hstop, huv⟩
      exact ⟨hv, hstop, hwalk.grown.trans huv⟩
  · rintro _ u ⟨hu, htu, events, hreturned⟩
    exact ⟨hu, hst.trans htu, hreturned.after hst hrequests⟩
  · rintro stop u ⟨hu, hstop, htu⟩
    exact ⟨hu, hstop, hst.grown.trans htu⟩

/-- Whatever an engine produces is balanced. -/
theorem balance_produce {config : Config} {read : String → Except Error String}
    (hkeeps : (Engine.interpreting config read host).Keeps bounds) (fuel : Nat) {task : Task}
    (htask : task.Within bounds) :
    (Contract.balance bounds).Meets ((Engine.interpreting config read host).produce fuel task)
      fun _ => True := by
  refine Contract.Meets.produce (balance_allows hkeeps) (fun run hrun context hours s hs => ?_)
    fuel htask
  refine (ensures_renderTemplate hkeeps hrun hours hs.sound).mono ?_ fun _ _ h => h
  exact fun _ t ⟨ht, hst, _⟩ => ⟨trivial, Contract.balance_holds ht, hst⟩

/-! ## Renders -/

/-- The requests that a store has, and all errors. -/
def Bounds.every (count : Nat) : Bounds where
  ours id := id.index < count
  expected _ := True
  own _ := trivial
  redirect _ := trivial
  similar _ _ := trivial

/-- The requests that a store has, and all errors but imbalances. -/
def Bounds.balanced (count : Nat) : Bounds where
  ours id := id.index < count
  expected error := ¬error.rootCause.IsImbalance
  own h := h.not_isImbalance
  redirect _ := id
  similar h h' := by
    rw [← h'.root]
    exact h

theorem keeps_every (engine : Engine σ) (count : Nat) : engine.Keeps (.every count) where
  host := {
    fails := fun _ _ _ _ _ => trivial
    leaves := fun _ _ _ _ state _ => by
      rcases state with _ | _ | _ | _ <;> trivial }
  read _ _ _ := trivial

/-- A render of any context, in any store whose waiting tasks belong to requests that it has, leaves
all histories as they were, gives the context's section its scope back, and removes from it in the
end what `Returned` says. It never fails because of an imbalance, unless an error from outside is
one. -/
theorem render_balanced (config : Config) (read : String → Except Error String) (host : Host σ)
    (fuel : Nat) (context : Context) (store : Store σ)
    (hrequest : context.request.index < store.requests.size)
    (hstore : store.Sound (.every store.requests.size)) :
    (∀ html after,
      exec ((Engine.interpreting config read host).render fuel context) store =
        (.ok html, after) →
      (∀ request name, ((after.sections request).stack name).history =
        ((store.sections request).stack name).history) ∧
      ∃ events, Returned events store after context.request context.defaultSection) ∧
    ∀ error after,
      exec ((Engine.interpreting config read host).render fuel context) store =
        (.error (.raised error), after) →
      (Engine.interpreting config read host).Keeps (.balanced store.requests.size) →
      store.Sound (.balanced store.requests.size) →
      ¬error.rootCause.IsImbalance := by
  unfold Engine.render
  refine ⟨fun html after hrun => ?_, fun error after hrun hkeeps hsound => ?_⟩
  · cases fuel with
    | zero => cases (exec_throw Stop.exhausted store).symm.trans hrun
    | succ fuel =>
      have hkeeps := keeps_every (Engine.interpreting config read host) store.requests.size
      have htemplate := ensures_renderTemplate hkeeps
        (fun task htask => balance_produce hkeeps fuel htask) hrequest hstore
      obtain ⟨-, hbalanced, hreturned⟩ := htemplate.ok hrun
      obtain ⟨_, _, hsettled⟩ := hbalanced
      exact ⟨fun request name => (hsettled request).history name, hreturned⟩
  · have htask : Task.Within (.balanced store.requests.size) (.template context) := hrequest
    have hproduce := balance_produce hkeeps fuel htask store (Contract.balance_holds hsound)
    exact (hproduce.error hrun).2.1

/-- A page with a layout, a section and a paired tag whose body is printed by an included template.
-/
def boxedPages : List (String × String) :=
  [("/page.html", "$\x7b#layout /main\x7d<$:view $path=\"/box\">hi</$:view>$\x7b#section s\x7dS"),
   ("/main.html", "[$\x7b#render content\x7d|$\x7b#render s?\x7d]"),
   ("/box.html", "($\x7b#render content\x7d)")]

/-- The scope of such a page is popped in the end. -/
theorem render_balanced_page :
    let run := exec
      ((Engine.inMemory .standard boxedPages).render 10 (.first "/page.html" "content"))
      Store.starting
    run.1.toOption = some "[(hi)|S]" ∧ (∀ request name,
      ((run.2.sections request).stack name).history =
        ((Store.starting.sections request).stack name).history) ∧
      ∃ events, Returned events Store.starting run.2 ⟨0⟩ "content" := by
  intro run
  have htext : run.1.toOption = some "[(hi)|S]" := by decide +kernel
  rcases hrun : run with ⟨stop | html, after⟩
  · rw [hrun] at htext
    cases htext
  · rw [hrun] at htext
    have hbalanced := (render_balanced { Config.standard with cacheSize := 0 } _ Host.none 10
      (.first "/page.html" "content") Store.starting Nat.zero_lt_one
      (Store.sound_starting fun _ h => h)).1 html after hrun
    exact ⟨htext, hbalanced⟩

/-- A page of the section `a` that prints its own scope before a nested view appends to the section
again. -/
def reopenedPages : List (String × String) :=
  [("/page.html", "$\x7b#section b\x7d$\x7b#view v\x7d$\x7b#section a\x7d" ++
      "$\x7b#render a?\x7d$\x7b#render b?\x7d"),
   ("/v.html", "$\x7b#section a\x7dX")]

/-- The pop at the end of a render may remove a scope that is neither the one pushed nor nothing:
an append of a nested view makes a new scope after the page has printed its own. -/
theorem removed_scope_made_since :
    ∃ html after,
      exec ((Engine.inMemory { Config.standard with defaultSection := "a" } reopenedPages).render 10
        (.first "/page.html" "a")) Store.starting = (.ok html, after) ∧
      ¬((after.sections ⟨0⟩).previous "a" = some ⟨(Store.starting.sections ⟨0⟩).scopes.size⟩ ∨
        (after.sections ⟨0⟩).previous "a" = none) := by
  generalize hrun : exec ((Engine.inMemory { Config.standard with defaultSection := "a" }
    reopenedPages).render 10 (.first "/page.html" "a")) Store.starting = run
  have hdecided : run.1.toOption = some "" ∧
      (run.2.sections ⟨0⟩).previous "a" = some ⟨3⟩ := by
    subst hrun
    decide +kernel
  obtain ⟨htext, hprevious⟩ := hdecided
  rcases run with ⟨stop | html, after⟩
  · cases htext
  · refine ⟨html, after, rfl, ?_⟩
    rw [hprevious]
    decide

end TemplateEngine
