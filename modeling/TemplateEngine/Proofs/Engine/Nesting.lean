import TemplateEngine.Proofs.Engine.Balance
import TemplateEngine.Proofs.Engine.Pairing
import TemplateEngine.Proofs.Template.Nesting

/-!
# `Engine` · Nesting

A walk gets to its end exactly if the tags of the template are nested.

* **`Turns`**: what a step that succeeds does to the open tags, and **`LeavesOpen`**: what some
  tokens do, with the places and the names of the tags that they leave open.
* **`Walk.passes`**: a token is valid by itself, so that only the nesting can make the walk fail
  there. The sections cannot, since all that runs between a tag and its closer is balanced
  (`Opened`).
* If all tokens are valid, then the walk fails at the `Misnesting` of the template, and only there
  (`run_iff_wellBracketed`).
-/

namespace TemplateEngine

open Render TemplateEngine.Template

variable {σ : Type}

namespace Walk

/-! ## Open tags -/

/-- What a step does to the open tags. -/
inductive Turns (walk : Walk) (token : Nat) (part : Token) (walk' : Walk) : Prop where
  /-- They stay. -/
  | stays (hmark : part.mark? = none) (htags : walk'.openTags = walk.openTags)
  /-- One more is open, for a body in the active section. -/
  | opens (opened : OpenTag) (hmark : part.mark? = some (.opens opened.tag.name))
    (htags : walk'.openTags = opened :: walk.openTags) (htoken : opened.token = token)
    (hactive : opened.sectionName = walk.active)
  /-- The innermost one is closed, and the section of its body is active again. -/
  | closes (opened : OpenTag) (hmark : part.mark? = some (.closes opened.tag.name))
    (htags : walk.openTags = opened :: walk'.openTags) (hactive : walk'.active = opened.sectionName)

variable {engine : Engine σ} {wait : PromiseId → Render σ Value} {template : CompiledTemplate}
  {walk walk' : Walk} {token : Nat} {part : Token} {s s' : Store σ}

theorem mark?_of_opens {tag : ServerTag} {invocation : Invocation}
    (h : part.Opens tag invocation) : part.mark? = some (.opens tag.name) := by
  simp only [Token.mark?, h.kind, h.parses, h.bodied, Bool.false_eq_true, if_false]

theorem mark?_of_closes (h : part.kind = .closeTag) :
    part.mark? = some (.closes part.closerName) := by
  simp only [Token.mark?, h]

/-- A token that is no paired tag has no mark, unless the step fails. -/
theorem mark?_of_act (hpaired : template.reading part ≠ .paired)
    (h : exec (walk.act engine wait template token (template.reading part)) s = (.ok walk', s')) :
    part.mark? = none := by
  unfold CompiledTemplate.reading at hpaired h
  unfold Token.mark?
  rcases hkind : part.kind with _ | _ | _ | _
  · rfl
  · rfl
  · simp only [hkind, CompiledTemplate.tagReading] at hpaired h ⊢
    rcases hparse : ServerTag.parse part.text with fault | tag
    · rfl
    · simp only [hparse] at hpaired h ⊢
      rcases hof : Invocation.ofTag tag none with fault | invocation
      · rw [hof] at h
        cases h
      · simp only [hof] at hpaired
        by_cases hself : tag.selfClosing = true
        · rw [if_pos hself]
        · exact absurd (if_neg hself) hpaired
  · rw [hkind] at hpaired
    exact absurd rfl hpaired

theorem turns_of_step (h : exec (walk.step engine wait template token part) s = (.ok walk', s')) :
    walk.Turns token part walk' := by
  by_cases hkind : part.kind = .closeTag
  · obtain ⟨opened, htags, hname, hactive⟩ := openTags_of_closes hkind h
    exact .closes opened (hname ▸ mark?_of_closes hkind) htags hactive
  · by_cases hpaired : template.reading part = .paired
    · obtain ⟨tag, invocation, hopens⟩ := CompiledTemplate.opens_of_reading hpaired hkind
      rw [exec_step_opens hopens] at h
      cases h
      exact .opens _ (mark?_of_opens hopens) rfl rfl rfl
    · rw [step_eq_act _ _ hpaired] at h
      exact .stays (mark?_of_act hpaired h) (openTags_of_act h)

/-- The names of the open tags, the innermost first. -/
def openNames (walk : Walk) : List String := walk.openTags.map (·.tag.name)

/-- The names of the open tags are those that the marks leave open. -/
theorem openNames_of_steps {parts : List Token}
    (h : exec (steps engine wait template walk token parts) s = (.ok walk', s')) :
    Template.openNames walk.openNames (marks parts) = some walk'.openNames := by
  induction parts generalizing walk token s with
  | nil =>
    cases h
    rfl
  | cons part rest ih =>
    unfold steps at h
    obtain ⟨next, _, hfirst, hrest⟩ := exec_bind_eq_ok h
    have hnext := ih hrest
    cases turns_of_step (exec_mapError_eq_ok hfirst) with
    | stays hmark htags =>
      unfold openNames at hnext ⊢
      rw [htags] at hnext
      rw [marks, List.filterMap_cons_none hmark]
      exact hnext
    | opens opened hmark htags _ _ =>
      unfold openNames at hnext ⊢
      rw [htags] at hnext
      rw [marks_cons hmark]
      exact hnext
    | closes opened hmark htags _ =>
      unfold openNames at hnext ⊢
      rw [marks_cons hmark, htags, List.map_cons, Template.openNames, if_pos rfl]
      exact hnext

/-- The tags that are open behind tokens, of which the first has the place `start`, if `tags` were
open in front of them and are not closed there. -/
inductive LeavesOpen (tags : List OpenTag) (start : Nat) : List Token → List OpenTag → Prop where
  /-- The same. -/
  | nested {tokens : List Token} (h : WellBracketed (marks tokens)) :
    LeavesOpen tags start tokens tags
  /-- One more, behind which all tags are nested. -/
  | opening {front behind : List Token} {opener : Token} {opened : OpenTag}
    {openTags : List OpenTag} (hfront : LeavesOpen tags start front openTags)
    (hmark : opener.mark? = some (.opens opened.tag.name))
    (htoken : opened.token = start + front.length) (hbehind : WellBracketed (marks behind)) :
    LeavesOpen tags start (front ++ opener :: behind) (opened :: openTags)

namespace LeavesOpen

variable {tags openTags : List OpenTag} {start : Nat} {tokens more : List Token}

/-- WellBracketed tags in the end make no difference. -/
theorem append (h : LeavesOpen tags start tokens openTags) (hmore : WellBracketed (marks more)) :
    LeavesOpen tags start (tokens ++ more) openTags := by
  cases h with
  | nested hnested => exact .nested (marks_append tokens more ▸ hnested.append hmore)
  | @opening front behind opener opened openTags hfront hmark htoken hbehind =>
    rw [List.append_assoc, List.cons_append]
    exact .opening hfront hmark htoken (marks_append behind more ▸ hbehind.append hmore)

/-- A closer closes the innermost tag. -/
theorem close {opened : OpenTag} {closer : Token}
    (h : LeavesOpen tags start tokens (opened :: openTags))
    (hnames : ∃ innermost outer, Template.openNames [] (marks tokens) = some (innermost :: outer))
    (hmark : closer.mark? = some (.closes opened.tag.name)) :
    LeavesOpen tags start (tokens ++ [closer]) openTags := by
  cases h with
  | nested hnested =>
    obtain ⟨innermost, outer, hnames⟩ := hnames
    cases (hnested.openNames []).symm.trans hnames
  | @opening front behind opener _ _ hfront hopener htoken hbehind =>
    rw [List.append_assoc, List.cons_append]
    refine hfront.append ?_
    rw [marks_cons hopener, marks_append, marks_cons hmark]
    exact .pair hbehind .nil

/-- If no tag was open, then the innermost one is where the last one was opened. -/
theorem innermost {opened : OpenTag} (h : LeavesOpen [] 0 tokens (opened :: openTags)) :
    Innermost tokens opened.token opened.tag.name := by
  cases h with
  | @opening front behind opener _ _ hfront hmark htoken hbehind =>
    rw [htoken, Nat.zero_add]
    exact innermost_append front hmark hbehind

/-- Tokens that leave no tag open are well bracketed. -/
theorem wellBracketed (h : LeavesOpen [] start tokens []) : WellBracketed (marks tokens) := by
  cases h with
  | nested htokens => exact htokens

/-- Behind well-bracketed tokens the same tags are open. -/
theorem eq_of_wellBracketed (h : LeavesOpen tags start tokens openTags)
    (htokens : WellBracketed (marks tokens)) : openTags = tags := by
  cases h with
  | nested _ => rfl
  | @opening front behind opener _ _ hfront hmark htoken hbehind =>
    obtain ⟨outer, houter⟩ := (innermost_append front hmark hbehind).openNames
      (htokens.openNames [])
    cases houter

end LeavesOpen

/-- Tokens that close no tag that was open in front of them. -/
theorem leavesOpen_of_steps {parts : List Token}
    (h : exec (steps engine wait template walk token parts) s = (.ok walk', s'))
    {names : List String} (hnames : Template.openNames [] (marks parts) = some names) :
    LeavesOpen walk.openTags token parts walk'.openTags := by
  induction parts using List.reverseRecOn generalizing walk' s' names with
  | nil =>
    cases h
    exact .nested .nil
  | append_singleton parts part ih =>
    rw [steps_append] at h
    obtain ⟨next, _, hparts, hlast⟩ := exec_bind_eq_ok h
    rw [marks_append, openNames_append] at hnames
    obtain ⟨before, hbefore, hafter⟩ := Option.bind_eq_some_iff.1 hnames
    have hnext := ih hparts hbefore
    unfold steps at hlast
    obtain ⟨_, _, hstep, hend⟩ := exec_bind_eq_ok hlast
    cases hend
    cases turns_of_step (exec_mapError_eq_ok hstep) with
    | stays hmark htags =>
      rw [htags]
      exact hnext.append (marks_of_none hmark ▸ .nil)
    | opens opened hmark htags htoken _ =>
      rw [htags]
      exact .opening hnext hmark htoken .nil
    | closes opened hmark htags _ =>
      rw [htags] at hnext
      refine hnext.close ?_ hmark
      rw [marks_cons hmark] at hafter
      cases before with
      | nil => cases hafter
      | cons innermost outer => exact ⟨innermost, outer, hbefore⟩

/-! ## Valid tokens -/

/-- The nested template can be invoked: its path resolves, it is not nested too deep, and its
expressions succeed. -/
def invocable (engine : Engine σ) (wait : PromiseId → Render σ Value) (walk : Walk)
    (invocation : Invocation) (s : Store σ) : Bool :=
  (exec (walk.prepare engine wait invocation) s).1.isOk

/-- The token is valid by itself where the walk comes to it. Text and expressions succeed. An
opening tag is well formed, and its template can be invoked. If it has a body, then that is said of
the closer with its name, which invokes the template with the body as content. -/
def passes (engine : Engine σ) (wait : PromiseId → Render σ Value) (template : CompiledTemplate)
    (token : Nat) (part : Token) (walk : Walk) (s : Store σ) : Bool :=
  match part.kind with
  | .openTag =>
    match ServerTag.parse part.text with
    | .error _ => false
    | .ok tag =>
      match Invocation.ofTag tag none with
      | .error _ => false
      | .ok invocation => !tag.selfClosing || walk.invocable engine wait invocation s
  | .closeTag =>
    match walk.openTags with
    | [] => true
    | opened :: openTags =>
      if opened.tag.name = part.closerName then
        match Invocation.ofTag opened.tag none with
        | .error _ => false
        | .ok invocation =>
          (walk.closing opened openTags).invocable engine wait
            (invocation.withBody (some ⟨s.slots.size⟩))
            (s.closed walk.context.request opened.sectionName opened.body)
      else true
  | .literal => (exec (walk.step engine wait template token part) s).1.isOk
  | .expression => (exec (walk.step engine wait template token part) s).1.isOk

/-- All tokens to which the walk comes are valid by themselves. -/
def Unobstructed (engine : Engine σ) (wait : PromiseId → Render σ Value)
    (template : CompiledTemplate) (context : Context) (s : Store σ) : Prop :=
  ∀ n part, template.tokens[n]? = some part →
    Render.Ensures (steps engine wait template (.start context) 0 (template.tokens.take n)) s
      (fun walk t => walk.passes engine wait template n part t = true) fun _ _ => True

/-- What is said of a walk up to a token can be checked by walking. -/
theorem unobstructed_iff {context : Context} :
    Unobstructed engine wait template context s ↔ ∀ n : Fin template.tokens.length,
      (match exec (steps engine wait template (.start context) 0 (template.tokens.take n)) s with
      | (.ok walk, t) => walk.passes engine wait template n template.tokens[n] t
      | (.error _, _) => true) = true := by
  constructor
  · intro h n
    have hn := h n _ (List.getElem?_eq_getElem n.isLt)
    split
    · next hexec => exact hn.ok hexec
    · rfl
  · intro h n part hpart
    obtain ⟨hlt, rfl⟩ := List.getElem?_eq_some_iff.1 hpart
    refine ⟨fun hexec => ?_, fun _ => trivial⟩
    have hn := h ⟨n, hlt⟩
    simp only [hexec] at hn
    exact hn

instance {context : Context} : Decidable (Unobstructed engine wait template context s) :=
  decidable_of_iff _ unobstructed_iff.symm

theorem exec_of_isOk {α : Type} {x : Render σ α} (h : (exec x s).1.isOk = true) :
    ∃ value t, exec x s = (.ok value, t) := by
  rcases hx : exec x s with ⟨stop | value, t⟩
  · rw [hx] at h
    cases h
  · exact ⟨value, t, rfl⟩

/-- The context of a nested template can always be made. -/
theorem exec_childContext (caller : Context) (kind : ChildKind)
    (viewPath filePath section_ : String) (attributes : List (String × String))
    (body : Option SlotId) (s : Store σ) :
    ∃ child t, exec (Engine.childContext caller kind viewPath filePath section_ attributes body) s =
      (.ok child, t) ∧ child.depth = caller.depth + 1 := by
  cases kind <;> exact ⟨_, _, rfl, rfl⟩

theorem exec_forM_changeGraph {ι : Type} (f : ι → Graph → Graph) (items : List ι) (s : Store σ) :
    ∃ t, exec (items.forM fun item => (changeGraph fun graph => ((), f item graph) :
      Render σ Unit)) s = (.ok (), t) := by
  induction items generalizing s with
  | nil => exact ⟨s, rfl⟩
  | cons item rest ih =>
    obtain ⟨t, ht⟩ := ih (exec (changeGraph fun graph => ((), f item graph)) s).2
    exact ⟨t, (exec_bind_ok (exec_changeGraph _ s) _).trans ht⟩

/-- Without expressions, only the path and the depth matter. -/
theorem invocable_iff {invocation : Invocation} (h : invocation.expressions = []) :
    walk.invocable engine wait invocation s = true ↔
      (engine.resolvePath walk.context invocation.path).isOk = true ∧
        walk.context.depth < engine.config.maxDepth := by
  unfold invocable prepare
  rw [exec_bind, exec_ofExcept]
  rcases hpath : engine.resolvePath walk.context invocation.path with error | filePath
  · simp [Except.mapError, Except.isOk, Except.toBool]
  · obtain ⟨child, t, hchild, hdepth⟩ := exec_childContext walk.context invocation.kind
      invocation.path filePath walk.active invocation.attributes invocation.body s
    obtain ⟨u, hdata⟩ := exec_forM_changeGraph
      (fun item graph => graph.write child.data item.1 (.string item.2)) invocation.data t
    dsimp only [Except.mapError]
    rw [exec_bind_ok hchild, exec_bind, exec_ofExcept]
    unfold Engine.checkDepth
    rw [hdepth]
    by_cases hdeep : walk.context.depth < engine.config.maxDepth
    · rw [if_neg (Nat.not_lt.2 hdeep)]
      dsimp only [Except.mapError]
      rw [exec_bind_ok hdata, h]
      exact iff_of_true rfl ⟨rfl, hdeep⟩
    · rw [if_pos (Nat.lt_succ_of_le (Nat.le_of_not_lt hdeep))]
      exact iff_of_false nofun fun hvalid => hdeep hvalid.2

/-- A nested template that can be invoked is invoked. -/
theorem exec_invoke (template : CompiledTemplate) (token : Nat)
    {invocation : Invocation}
    (h : walk.invocable engine wait invocation s = true) :
    ∃ t, exec (walk.invoke engine wait template token invocation) s = (.ok (), t) := by
  obtain ⟨child, t, hprepare⟩ := exec_of_isOk h
  unfold invoke appendTask append
  rw [exec_bind_ok hprepare, exec_bind_ok (exec_changeSections _ _ _)]
  exact ⟨_, rfl⟩

/-- A closer without an open tag. -/
theorem exec_step_neverOpened (hkind : part.kind = .closeTag) (htags : walk.openTags = []) :
    exec (walk.step engine wait template token part) s =
      (.error (.raised (.structural (.neverOpened part.closerName))), s) := by
  simp only [step, hkind, closeTag, htags, exec_raise]

/-- A closer with another name than the innermost open tag. -/
theorem exec_step_wrongCloser {opened : OpenTag} {openTags : List OpenTag}
    (hkind : part.kind = .closeTag) (htags : walk.openTags = opened :: openTags)
    (hname : opened.tag.name ≠ part.closerName) :
    exec (walk.step engine wait template token part) s =
      (.error (.raised (.structural (.wrongCloser part.closerName opened.tag.name))), s) := by
  simp only [step, hkind, closeTag, htags, if_pos hname, exec_raise]

/-- A self-closing tag invokes its template. -/
theorem exec_step_selfClosing {tag : ServerTag} {invocation : Invocation}
    (hkind : part.kind = .openTag) (hparse : ServerTag.parse part.text = .ok tag)
    (hof : Invocation.ofTag tag none = .ok invocation) (hself : tag.selfClosing = true)
    (h : walk.invocable engine wait invocation s = true) :
    ∃ walk' t, exec (walk.step engine wait template token part) s = (.ok walk', t) := by
  have hinvocable : invocable engine wait { walk with stripNext := true } invocation s = true := h
  obtain ⟨t, ht⟩ := exec_invoke template token hinvocable
  simp only [step, hkind, openTag, hparse, hof, hself, if_true, exec_bind_ok ht]
  exact ⟨_, _, rfl⟩

/-- A closer of the innermost open tag invokes its template. -/
theorem exec_step_closer {request : RequestId} {base : Store σ} {opened : OpenTag}
    {openTags : List OpenTag} {invocation : Invocation} (hkind : part.kind = .closeTag)
    (hopened : Opened request base walk.openTags s) (hrequest : walk.context.request = request)
    (htags : walk.openTags = opened :: openTags) (hname : opened.tag.name = part.closerName)
    (hof : Invocation.ofTag opened.tag none = .ok invocation)
    (h : (walk.closing opened openTags).invocable engine wait
      (invocation.withBody (some ⟨s.slots.size⟩))
      (s.closed walk.context.request opened.sectionName opened.body) = true) :
    ∃ walk' t, exec (walk.step engine wait template token part) s = (.ok walk', t) := by
  rw [htags, ← hrequest] at hopened
  obtain ⟨older, hhistory⟩ := hopened.history
  obtain ⟨t, ht⟩ := exec_invoke template opened.token h
  rw [exec_step_closes hkind htags hname hof hhistory, exec_bind_ok ht]
  exact ⟨_, _, rfl⟩

/-- A closer closes no open tag, and the fault that it is. -/
inductive Rejects (walk : Walk) (part : Token) : StructuralFault → Prop where
  /-- No tag is open. -/
  | neverOpened (htags : walk.openTags = []) : Rejects walk part (.neverOpened part.closerName)
  /-- The innermost one has another name. -/
  | wrongCloser {opened : OpenTag} {openTags : List OpenTag}
    (htags : walk.openTags = opened :: openTags) (hname : opened.tag.name ≠ part.closerName) :
    Rejects walk part (.wrongCloser part.closerName opened.tag.name)

/-- At a token that is valid by itself the walk fails only because of a closer that closes no open
tag. -/
theorem step_of_passes {request : RequestId} {base : Store σ}
    (hopened : Opened request base walk.openTags s) (hrequest : walk.context.request = request)
    (h : walk.passes engine wait template token part s = true) :
    (∃ walk' t, exec (walk.step engine wait template token part) s = (.ok walk', t)) ∨
      part.kind = .closeTag ∧ ∃ fault, Rejects walk part fault ∧
        exec (walk.step engine wait template token part) s =
          (.error (.raised (.structural fault)), s) := by
  unfold passes at h
  rcases hkind : part.kind with _ | _ | _ | _
  · rw [hkind] at h
    exact .inl (exec_of_isOk h)
  · rw [hkind] at h
    exact .inl (exec_of_isOk h)
  · left
    simp only [hkind] at h
    rcases hparse : ServerTag.parse part.text with fault | tag
    · simp only [hparse, Bool.false_eq_true] at h
    simp only [hparse] at h
    rcases hof : Invocation.ofTag tag none with fault | invocation
    · simp only [hof, Bool.false_eq_true] at h
    simp only [hof, Bool.or_eq_true, Bool.not_eq_true'] at h
    cases h with
    | inl hself => exact ⟨_, _, exec_step_opens ⟨hkind, hparse, hof, hself⟩ walk token s⟩
    | inr hinvocable =>
      by_cases hself : tag.selfClosing = true
      · exact exec_step_selfClosing hkind hparse hof hself hinvocable
      · exact ⟨_, _, exec_step_opens ⟨hkind, hparse, hof, Bool.not_eq_true _ ▸ hself⟩ walk token s⟩
  · simp only [hkind] at h
    rcases htags : walk.openTags with _ | ⟨opened, openTags⟩
    · exact .inr ⟨rfl, _, .neverOpened htags, exec_step_neverOpened hkind htags⟩
    simp only [htags] at h
    by_cases hname : opened.tag.name = part.closerName
    · left
      rw [if_pos hname] at h
      rcases hof : Invocation.ofTag opened.tag none with fault | invocation
      · simp only [hof, Bool.false_eq_true] at h
      simp only [hof] at h
      exact exec_step_closer hkind hopened hrequest htags hname hof h
    · exact .inr ⟨rfl, _, .wrongCloser htags hname, exec_step_wrongCloser hkind htags hname⟩

/-! ## Walks -/

/-- A closer of no open tag is unfit. -/
theorem unfit_of_rejects {context : Context} {tokens : List Token} {n : Nat}
    {fault : StructuralFault}
    (h : exec (steps engine wait template (.start context) 0 (tokens.take n)) s = (.ok walk, s'))
    (hpart : tokens[n]? = some part) (hkind : part.kind = .closeTag)
    (hfault : Rejects walk part fault) : Unfit tokens n fault := by
  have hopen : LeavesOpen [] 0 (tokens.take n) walk.openTags :=
    leavesOpen_of_steps h (openNames_of_steps h)
  have hmark := mark?_of_closes hkind
  cases hfault with
  | neverOpened htags =>
    rw [htags] at hopen
    exact .neverOpened hpart hmark hopen.wellBracketed
  | wrongCloser htags hname =>
    rw [htags] at hopen
    exact .wrongCloser hpart hmark hopen.innermost hname

/-- A closer makes the section active again that was active at its opener. -/
theorem active_of_steps {front body : List Token} {opener closer : Token} {name name' : String}
    (hopener : opener.mark? = some (.opens name)) (hcloser : closer.mark? = some (.closes name'))
    (hbody : WellBracketed (marks body)) {before after : Walk} {s₁ s₂ : Store σ}
    (hbefore : exec (steps engine wait template walk token front) s = (.ok before, s₁))
    (hafter : exec (steps engine wait template walk token
      (front ++ opener :: body ++ [closer])) s = (.ok after, s₂)) :
    after.active = before.active := by
  rw [List.append_assoc, List.cons_append, steps_append, exec_bind_ok hbefore] at hafter
  unfold steps at hafter
  obtain ⟨inside, _, hfirst, hrest⟩ := exec_bind_eq_ok hafter
  rw [steps_append] at hrest
  obtain ⟨behind, _, hsteps, hlast⟩ := exec_bind_eq_ok hrest
  have hsame : behind.openTags = inside.openTags :=
    (leavesOpen_of_steps hsteps (hbody.openNames [])).eq_of_wellBracketed hbody
  unfold steps at hlast
  obtain ⟨_, _, hstep, hend⟩ := exec_bind_eq_ok hlast
  cases hend
  cases turns_of_step (exec_mapError_eq_ok hfirst) with
  | stays hmark _ => cases hopener.symm.trans hmark
  | closes _ hmark _ _ => cases hopener.symm.trans hmark
  | opens opened _ hopens _ hactive =>
    cases turns_of_step (exec_mapError_eq_ok hstep) with
    | stays hmark _ => cases hcloser.symm.trans hmark
    | opens _ hmark _ _ _ => cases hcloser.symm.trans hmark
    | closes closed _ hcloses hrestored =>
      rw [hsame, hopens] at hcloses
      rw [hrestored, ← (List.cons.inj hcloses).1, hactive]

section Valid

variable {bounds : Bounds} {host : Host σ} {config : Config} {read : String → Except Error String}
  (hkeeps : (Engine.interpreting config read host).Keeps bounds)
  (hwait : ∀ id, (Contract.balance bounds).Meets (wait id) fun _ => True)
  {context : Context} (hours : bounds.ours context.request) (hs : s.Sound bounds)
  (hvalid : Unobstructed (Engine.interpreting config read host) wait template context s)

include hkeeps hwait hours hs hvalid

/-- Through the first tokens the walk comes, unless they are misnested. -/
theorem steps_cases {n : Nat} (hn : n ≤ template.tokens.length) :
    (∃ walk t, exec (steps (Engine.interpreting config read host) wait template (.start context) 0
      (template.tokens.take n)) s = (.ok walk, t)) ∨
    ∃ j fault t, exec (steps (Engine.interpreting config read host) wait template (.start context) 0
        (template.tokens.take n)) s =
          (.error (.raised (locate template j (.structural fault))), t) ∧
      Misnesting template.tokens j fault := by
  induction n with
  | zero => exact .inl ⟨.start context, s, rfl⟩
  | succ n ih =>
    have hpart : template.tokens[n]? = some template.tokens[n] := List.getElem?_eq_getElem hn
    have hlength : 0 + (template.tokens.take n).length = n := by
      rw [Nat.zero_add, List.length_take, Nat.min_eq_left (Nat.le_of_lt hn)]
    rw [List.take_succ_eq_append_getElem hn, steps_append, hlength]
    rcases ih (Nat.le_of_lt hn) with ⟨walk, t, hsteps⟩ | ⟨j, fault, t, hsteps, hfault⟩
    · have hopened : Opened context.request s (Walk.start context).openTags s :=
        Store.Balanced.refl s
      obtain ⟨hrequest, -, hopened⟩ := (ensures_steps hkeeps hwait (.start context) rfl hours hs
        hopened template 0 (template.tokens.take n)).ok hsteps
      rw [exec_bind_ok hsteps]
      unfold steps
      rcases step_of_passes hopened hrequest ((hvalid n _ hpart).ok hsteps) with
        ⟨next, u, hstep⟩ | ⟨hkind, fault, hfault, hstep⟩
      · left
        rw [exec_bind, exec_mapError, hstep]
        exact ⟨next, u, rfl⟩
      · right
        refine ⟨n, fault, t, ?_, .unfit (unfit_of_rejects hsteps hpart hkind hfault) ?_⟩
        · rw [exec_bind, exec_mapError, hstep]
        · exact fun i hi _ => not_unfit_of_openNames (openNames_of_steps hsteps)
            (List.take_prefix_take_left hi)
    · right
      exact ⟨j, fault, t, exec_bind_error hsteps _, hfault⟩

/-- The walk comes to its end, or to where the tokens are misnested. -/
theorem run_cases :
    (∃ walk t, exec (run (Engine.interpreting config read host) wait template context) s =
        (.ok walk, t) ∧ WellBracketed (marks template.tokens)) ∨
      ∃ j fault t, exec (run (Engine.interpreting config read host) wait template context) s =
          (.error (.raised (locate template j (.structural fault))), t) ∧
        Misnesting template.tokens j fault := by
  have hcases := steps_cases hkeeps hwait hours hs hvalid (Nat.le_refl template.tokens.length)
  rw [List.take_length] at hcases
  unfold run
  rcases hcases with ⟨walk, t, hsteps⟩ | ⟨j, fault, t, hsteps, hfault⟩
  · rw [exec_bind_ok hsteps]
    have hnames := openNames_of_steps hsteps
    have hopen : LeavesOpen [] 0 template.tokens walk.openTags := leavesOpen_of_steps hsteps hnames
    rcases htags : walk.openTags with _ | ⟨opened, openTags⟩
    · rw [htags] at hopen
      exact .inl ⟨walk, t, rfl, hopen.wellBracketed⟩
    · rw [htags] at hopen
      have hfit : ∀ j fault, ¬Unfit template.tokens j fault :=
        fun j _ => not_unfit_of_openNames hnames (List.take_prefix (j + 1) _)
      exact .inr ⟨opened.token, _, t, rfl, .neverClosed hfit hopen.innermost⟩
  · exact .inr ⟨j, fault, t, exec_bind_error hsteps _, hfault⟩

end Valid

/-- If all tokens are valid by themselves, then the walk comes to its end exactly if the tags are
well bracketed. Behind each closer the section is active that was active at its opener. A walk that
fails does so where the tokens are misnested, with the fault that is there. -/
theorem run_iff_wellBracketed (config : Config) (read : String → Except Error String)
    (host : Host σ) (fuel : Nat) (template : CompiledTemplate) (context : Context)
    (store : Store σ) (hrequest : context.request.index < store.requests.size)
    (hstore : store.Sound (.every store.requests.size)) :
    let engine := Engine.interpreting config read host
    let wait := waitFor engine (engine.produce fuel)
    Unobstructed engine wait template context store →
      ((∃ walk after, exec (run engine wait template context) store = (.ok walk, after)) ↔
        WellBracketed (marks template.tokens)) ∧
      (∀ (front body rest : List Token) (opener closer : Token) (name : String),
        template.tokens = front ++ opener :: body ++ closer :: rest →
        opener.mark? = some (.opens name) → WellBracketed (marks body) →
        closer.mark? = some (.closes name) → ∀ before after s₁ s₂,
          exec (steps engine wait template (.start context) 0 front) store = (.ok before, s₁) →
          exec (steps engine wait template (.start context) 0
            (front ++ opener :: body ++ [closer])) store = (.ok after, s₂) →
          after.active = before.active) ∧
      ∀ stop after, exec (run engine wait template context) store = (.error stop, after) →
        ∃ j fault, stop = .raised (locate template j (.structural fault)) ∧
          Misnesting template.tokens j fault := by
  intro engine wait hvalid
  have hkeeps := keeps_every engine store.requests.size
  have hcases := run_cases hkeeps
    (Contract.Meets.waitFor (fun task htask => balance_produce hkeeps fuel htask) hkeeps)
    hrequest hstore hvalid
  refine ⟨⟨?_, fun hbracketed => ?_⟩, ?_, fun stop after hstop => ?_⟩
  · rintro ⟨walk, after, hrun⟩
    rcases hcases with ⟨_, _, _, hbracketed⟩ | ⟨_, _, _, hfailed, _⟩
    · exact hbracketed
    · cases hrun.symm.trans hfailed
  · rcases hcases with ⟨walk, after, hrun, _⟩ | ⟨_, _, _, _, hfault⟩
    · exact ⟨walk, after, hrun⟩
    · exact absurd hfault hbracketed.not_misnesting
  · intro front body rest opener closer name _ hopener hbody hcloser before after s₁ s₂
    exact active_of_steps hopener hcloser hbody
  · rcases hcases with ⟨_, _, hrun, _⟩ | ⟨j, fault, _, hfailed, hfault⟩
    · cases hstop.symm.trans hrun
    · cases hstop.symm.trans hfailed
      exact ⟨j, fault, rfl, hfault⟩

/-- A page with some text. -/
def pageOf (source : String) : CompiledTemplate :=
  ⟨"/page.html", source, (tokenize source).toOption.getD [], ""⟩

/-- A paired tag within another one, in whose body another section is named, and a self-closing one.
-/
def bracketedPage : CompiledTemplate :=
  pageOf ("<$:view $path=\"/box\">b$\x7b#section s\x7d<$:include $path=\"/box\">" ++
    "c<$:view $path=\"/part\" /></$:include></$:view>d")

/-- Two paired tags that overlap. -/
def crossedPage : CompiledTemplate :=
  pageOf "a<$:view $path=\"/box\">b<$:include $path=\"/box\">c</$:view>d</$:include>e"

/-- The closer of the outer tag comes first. -/
theorem misnesting_crossedPage :
    Misnesting crossedPage.tokens 5 (.wrongCloser "view" "include") := by
  have hcloser : crossedPage.tokens[5]?.bind Token.mark? = some (.closes "view") := by
    decide +kernel
  have hopener : (crossedPage.tokens.take 5)[3]?.bind Token.mark? = some (.opens "include") := by
    decide +kernel
  have hbehind : marks ((crossedPage.tokens.take 5).drop 4) = [] := by decide +kernel
  have hnames : Template.openNames [] (marks (crossedPage.tokens.take 5)) =
      some ["include", "view"] := by decide +kernel
  obtain ⟨closer, hcloser, hcloses⟩ := Option.bind_eq_some_iff.1 hcloser
  obtain ⟨opener, hopener, hopens⟩ := Option.bind_eq_some_iff.1 hopener
  have hopen : Innermost (crossedPage.tokens.take 5) 3 "include" :=
    ⟨opener, hopener, hopens, hbehind ▸ .nil⟩
  refine .unfit (.wrongCloser hcloser hcloses hopen (by decide)) fun i hi _ => ?_
  exact not_unfit_of_openNames hnames (List.take_prefix_take_left hi)

/-- The walk of the one page comes to its end, and that of the other one fails where its tags
overlap. -/
theorem run_bracketed_page :
    let engine := Engine.inMemory .standard []
    let wait := waitFor engine (engine.produce 10)
    let context := Context.first "/page.html" "content"
    (∃ walk after, exec (run engine wait bracketedPage context) Store.starting =
      (.ok walk, after)) ∧
    ∃ after, exec (run engine wait crossedPage context) Store.starting =
      (.error (.raised (locate crossedPage 5 (.structural (.wrongCloser "view" "include")))),
        after) := by
  intro engine wait context
  have hmarks : marks bracketedPage.tokens =
      [.opens "view", .opens "include", .closes "include", .closes "view"] := by decide +kernel
  have hbracketed : WellBracketed (marks bracketedPage.tokens) :=
    hmarks ▸ .pair (.pair .nil .nil) .nil
  constructor
  · have hvalid : Unobstructed engine wait bracketedPage context Store.starting := by decide +kernel
    exact (run_iff_wellBracketed { Config.standard with cacheSize := 0 }
      (MemorySource.ofList []).read Host.none 10 bracketedPage context Store.starting
      Nat.zero_lt_one (Store.sound_starting fun _ h => h) hvalid).1.2 hbracketed
  · have hvalid : Unobstructed engine wait crossedPage context Store.starting := by decide +kernel
    obtain ⟨hok, -, hfailed⟩ := run_iff_wellBracketed { Config.standard with cacheSize := 0 }
      (MemorySource.ofList []).read Host.none 10 crossedPage context Store.starting Nat.zero_lt_one
      (Store.sound_starting fun _ h => h) hvalid
    rcases hrun : exec (run engine wait crossedPage context) Store.starting with
      ⟨stop | walk, after⟩
    · obtain ⟨j, fault, rfl, hfault⟩ := hfailed stop after hrun
      obtain ⟨rfl, rfl⟩ := hfault.unique misnesting_crossedPage
      exact ⟨after, rfl⟩
    · exact absurd misnesting_crossedPage (hok.1 ⟨walk, after, hrun⟩).not_misnesting

end Walk

end TemplateEngine
