import TemplateEngine.Proofs.Engine.Preparation
import TemplateEngine.Proofs.Engine.Reading
import TemplateEngine.Proofs.Render.Operations

/-!
# `Engine` · Paired tags

The opening and the closing tag of a body, and how those of a whole template match.

* **`Token.Opens`**: a token that opens a body. It pushes a scope (`Walk.exec_step_opens`), and the
  closing tag with its name pops it and invokes the nested template (`Walk.exec_step_closes`).
* **`Bracketed`**: lists in which brackets match, as a tree. **`Closing n`** reads them from left to
  right while `n` brackets are open; both come to the same (`Closing.bracketed`).
* A template whose walk comes to its end has matching tags (`Walk.bracketed_of_run`).
-/

namespace TemplateEngine

open Render TemplateEngine.Template

variable {σ α : Type}

/-! ## Brackets -/

/-- Brackets match. -/
inductive Bracketed (opens closes : α → Prop) : List α → Prop where
  /-- Nothing. -/
  | nil : Bracketed opens closes []
  /-- Something that is no bracket, in front of the rest. -/
  | single {a : α} {rest : List α} (hopens : ¬opens a) (hcloses : ¬closes a)
    (hrest : Bracketed opens closes rest) : Bracketed opens closes (a :: rest)
  /-- A pair of brackets with what is between them, in front of the rest. -/
  | pair {a b : α} {body rest : List α} (hopens : opens a) (hbody : Bracketed opens closes body)
    (hcloses : closes b) (hrest : Bracketed opens closes rest) :
    Bracketed opens closes (a :: body ++ b :: rest)

/-- While `n` brackets are open, the rest closes them. -/
inductive Closing (opens closes : α → Prop) : Nat → List α → Prop where
  /-- All are closed. -/
  | nil : Closing opens closes 0 []
  /-- Something that is no bracket. -/
  | single {n : Nat} {a : α} {rest : List α} (hopens : ¬opens a) (hcloses : ¬closes a)
    (hrest : Closing opens closes n rest) : Closing opens closes n (a :: rest)
  /-- One more is opened. -/
  | opening {n : Nat} {a : α} {rest : List α} (hopens : opens a)
    (hrest : Closing opens closes (n + 1) rest) : Closing opens closes n (a :: rest)
  /-- One is closed. -/
  | closing {n : Nat} {a : α} {rest : List α} (hcloses : closes a)
    (hrest : Closing opens closes n rest) : Closing opens closes (n + 1) (a :: rest)

namespace Closing

variable {opens closes : α → Prop}

/-- The first bracket that closes what was open before is behind a tree. The induction is on the
length, since behind a pair of brackets the rest is taken apart again. -/
theorem split (length : Nat) {n : Nat} {items : List α} (hlength : items.length ≤ length)
    (h : Closing opens closes (n + 1) items) :
    ∃ body b rest, items = body ++ b :: rest ∧ Bracketed opens closes body ∧ closes b ∧
      Closing opens closes n rest := by
  induction length generalizing n items with
  | zero =>
    obtain rfl : items = [] := List.length_eq_zero_iff.1 (Nat.le_zero.1 hlength)
    cases h
  | succ length ih =>
    cases h with
    | @single _ a rest hopens hcloses hrest =>
      obtain ⟨body, b, rest, rfl, hbody, hb, hrest⟩ := ih (Nat.le_of_succ_le_succ hlength) hrest
      exact ⟨a :: body, b, rest, rfl, .single hopens hcloses hbody, hb, hrest⟩
    | @opening _ a rest hopens hrest =>
      obtain ⟨inner, b, rest, rfl, hinner, hb, hrest⟩ := ih (Nat.le_of_succ_le_succ hlength) hrest
      have hshorter : rest.length ≤ length := by
        simp only [List.length_cons, List.length_append] at hlength
        omega
      obtain ⟨body, c, rest, rfl, hbody, hc, hrest⟩ := ih hshorter hrest
      refine ⟨a :: inner ++ b :: body, c, rest, ?_, .pair hopens hinner hb hbody, hc, hrest⟩
      simp only [List.cons_append, List.append_assoc]
    | @closing _ a rest hcloses hrest => exact ⟨[], a, rest, rfl, .nil, hcloses, hrest⟩

/-- Brackets that are all closed match. -/
theorem bracketed (length : Nat) {items : List α} (hlength : items.length ≤ length)
    (h : Closing opens closes 0 items) : Bracketed opens closes items := by
  induction length generalizing items with
  | zero =>
    obtain rfl : items = [] := List.length_eq_zero_iff.1 (Nat.le_zero.1 hlength)
    exact .nil
  | succ length ih =>
    cases h with
    | nil => exact .nil
    | single hopens hcloses hrest =>
      exact .single hopens hcloses (ih (Nat.le_of_succ_le_succ hlength) hrest)
    | opening hopens hrest =>
      obtain ⟨body, b, rest, rfl, hbody, hb, hrest⟩ := split _ (Nat.le_refl _) hrest
      have hshorter : rest.length ≤ length := by
        simp only [List.length_cons, List.length_append] at hlength
        omega
      exact .pair hopens hbody hb (ih hshorter hrest)

end Closing

/-! ## Tags -/

/-- The token is the opening tag of a body. -/
structure Template.Token.Opens (part : Token) (tag : ServerTag) (invocation : Invocation) :
    Prop where
  /-- It is an opening tag. -/
  kind : part.kind = .openTag
  /-- It is well formed. -/
  parses : ServerTag.parse part.text = .ok tag
  /-- It invokes a template. -/
  invokes : Invocation.ofTag tag none = .ok invocation
  /-- It has a body. -/
  bodied : tag.selfClosing = false

/-- A paired tag that closes no body opens one. -/
theorem CompiledTemplate.opens_of_reading {template : CompiledTemplate} {part : Token}
    (h : template.reading part = .paired) (hkind : part.kind ≠ .closeTag) :
    ∃ tag invocation, part.Opens tag invocation := by
  unfold reading at h
  rcases hpart : part.kind with _ | _ | _ | _
  · rw [hpart] at h
    cases h
  · simp only [hpart] at h
    rcases hparse : Directive.parse part.body with fault | _ | directive
    · rw [hparse] at h
      cases h
    · rw [hparse] at h
      cases h
    · rw [hparse] at h
      cases directive <;> cases h
  · simp only [hpart, tagReading] at h
    rcases hparse : ServerTag.parse part.text with fault | tag
    · rw [hparse] at h
      cases h
    · simp only [hparse] at h
      rcases hof : Invocation.ofTag tag none with fault | invocation
      · rw [hof] at h
        cases h
      · simp only [hof] at h
        rcases hself : tag.selfClosing with _ | _
        · exact ⟨tag, invocation, hpart, hparse, hof, hself⟩
        · rw [hself] at h
          cases h
  · exact absurd hpart hkind

theorem Template.Token.Opens.reading {part : Token} {tag : ServerTag} {invocation : Invocation}
    (h : part.Opens tag invocation) (template : CompiledTemplate) :
    template.reading part = .paired := by
  simp only [CompiledTemplate.reading, h.kind, CompiledTemplate.tagReading, h.parses, h.invokes,
    h.bodied, Bool.false_eq_true, if_false]

theorem CompiledTemplate.reading_of_closes {part : Token} (template : CompiledTemplate)
    (h : part.kind = .closeTag) : template.reading part = .paired := by
  unfold reading
  rw [h]

/-- The invocation with a body. -/
def Invocation.withBody (invocation : Invocation) (body : Option SlotId) : Invocation :=
  { invocation with body := body }

/-- A body changes nothing else in the invocation of a tag. -/
theorem Invocation.ofTag_withBody {tag : ServerTag} {invocation : Invocation}
    (h : ofTag tag none = .ok invocation) (body : Option SlotId) :
    ofTag tag body = .ok (invocation.withBody body) := by
  have hmap : ofTag tag body = (ofTag tag none).map (·.withBody body) := by
    unfold ofTag
    rcases kindOf? tag.name with _ | kind
    · rfl
    · dsimp only
      rcases tag.attributes.foldlM (Parameters.add tag.name) ⟨none, [], [], []⟩ with
        fault | ⟨_ | path, data, expressions, plain⟩
      · rfl
      · rfl
      · simp only [bind, Except.bind]
        split <;> rfl
  rw [hmap, h]
  rfl

/-- The content that a nested template can print, given what its caller can print. -/
def Invocation.slot (invocation : Invocation) (caller : Option SlotId) : Option SlotId :=
  match invocation.kind, invocation.body with
  | _, some body => some body
  | .shared, none => caller
  | .fresh, none => none

/-- The store after a body was closed: its scope is off the section, and its fragments wait in a
slot. -/
def Store.closed (s : Store σ) (request : RequestId) (name : String) (body : ScopeId) : Store σ :=
  { s.popped request name with
    slots := s.slots.push ⟨.pending (((s.popped request name).sections request).fragments body),
      false⟩ }

namespace Walk

variable {engine : Engine σ} {wait : PromiseId → Render σ Value} {template : CompiledTemplate}

/-- What can be printed makes no other difference to the preparation of a nested template. -/
theorem prepare_withBody {walk walk' : Walk} (slot : Option SlotId)
    (hcontext : walk'.context = { walk.context with slot := slot })
    (hactive : walk'.active = walk.active) (invocation : Invocation)
    (body body' : Option SlotId) :
    walk'.prepare engine wait (invocation.withBody body') =
      (fun child => { child with slot := (invocation.withBody body').slot slot }) <$>
        walk.prepare engine wait (invocation.withBody body) := by
  have hpath : engine.resolvePath { walk.context with slot := slot } invocation.path =
      engine.resolvePath walk.context invocation.path := by
    unfold Engine.resolvePath Engine.resolveDirectory Context.directory
    rfl
  unfold prepare
  rw [hcontext, hactive]
  simp only [Invocation.withBody, map_bind]
  rw [hpath]
  refine bind_congr fun filePath => ?_
  unfold Engine.childContext
  cases invocation.kind with
  | shared =>
    simp only [pure_bind, bind_assoc, map_pure, Invocation.slot]
    cases body' <;> rfl
  | fresh =>
    simp only [pure_bind, bind_assoc, map_pure, Invocation.slot]
    rfl

/-- The walk behind the opening tag of a body. -/
def opening (walk : Walk) (s : Store σ) (tag : ServerTag) (token : Nat) : Walk :=
  { walk with
    openTags := ⟨tag, token, walk.active, (s.sections walk.context.request).current walk.active,
      ⟨(s.sections walk.context.request).scopes.size⟩⟩ :: walk.openTags
    stripNext := true }

/-- The walk behind a closing tag. -/
def closing (walk : Walk) (opened : OpenTag) (openTags : List OpenTag) : Walk :=
  { walk with active := opened.sectionName, openTags := openTags, stripNext := true }

/-- An opening tag pushes a scope for the body. -/
theorem exec_step_opens {part : Token} {tag : ServerTag} {invocation : Invocation}
    (h : part.Opens tag invocation) (walk : Walk) (token : Nat) (s : Store σ) :
    exec (walk.step engine wait template token part) s =
      (.ok (walk.opening s tag token),
        s.pushed walk.context.request walk.active walk.context.viewPath) := by
  simp only [step, h.kind, openTag, h.parses, h.invokes, h.bodied, Bool.false_eq_true, if_false]
  rfl

/-- A closing tag pops the scope of the body and invokes the template of its opening tag. -/
theorem exec_step_closes {part : Token} {opened : OpenTag} {openTags : List OpenTag}
    {invocation : Invocation} {older : List (Option ScopeId)} {walk : Walk} {s : Store σ}
    (hkind : part.kind = .closeTag) (htags : walk.openTags = opened :: openTags)
    (hname : opened.tag.name = part.closerName)
    (hinvokes : Invocation.ofTag opened.tag none = .ok invocation)
    (hhistory : ((s.sections walk.context.request).stack opened.sectionName).history =
      opened.saved :: older) (token : Nat) :
    exec (walk.step engine wait template token part) s =
      exec (do
        invoke engine wait template (walk.closing opened openTags) opened.token
          (invocation.withBody (some ⟨s.slots.size⟩))
        return walk.closing opened openTags)
        (s.closed walk.context.request opened.sectionName opened.body) := by
  have hpop : ((s.sections walk.context.request).stack opened.sectionName).history ≠ [] := by
    rw [hhistory]
    exact List.cons_ne_nil _ _
  have hpeek : restores ((s.sections walk.context.request).peek opened.sectionName) opened.saved =
      true := restores_of_history hhistory
  simp only [step, hkind, closeTag, htags, ne_eq, hname, not_true_eq_false, if_false]
  rw [exec_bind_ok (exec_withSections _ _ _), hpeek]
  simp only [Bool.not_true, Bool.false_eq_true, if_false]
  rw [exec_bind_ok (exec_popSection_of_history hpop), exec_bind_ok (exec_withSections _ _ _),
    exec_bind_ok (exec_newSlot _ _)]
  rw [show (s.popped walk.context.request opened.sectionName).slots.size = s.slots.size from rfl,
    Invocation.ofTag_withBody hinvokes]
  rfl

/-- Tokens are handled one after another. -/
theorem steps_append (walk : Walk) (token : Nat) (parts rest : List Token) :
    steps engine wait template walk token (parts ++ rest) = (do
      let walk ← steps engine wait template walk token parts
      steps engine wait template walk (token + parts.length) rest) := by
  induction parts generalizing walk token with
  | nil => rfl
  | cons part parts ih =>
    have hlength : token + (parts.length + 1) = token + 1 + parts.length := by omega
    rw [List.cons_append, steps, steps, bind_assoc, List.length_cons, hlength]
    exact bind_congr fun next => ih next (token + 1)

/-- If a closing tag does not fail, then it has the name of the tag that was opened last, and the
section that was active there is active again. -/
theorem openTags_of_closes {part : Token} {walk walk' : Walk} {s s' : Store σ} {token : Nat}
    (hkind : part.kind = .closeTag)
    (h : exec (walk.step engine wait template token part) s = (.ok walk', s')) :
    ∃ opened, walk.openTags = opened :: walk'.openTags ∧ opened.tag.name = part.closerName ∧
      walk'.active = opened.sectionName := by
  simp only [step, hkind, closeTag] at h
  rcases htags : walk.openTags with _ | ⟨opened, openTags⟩
  · simp only [htags] at h
    cases h
  · simp only [htags] at h
    by_cases hname : opened.tag.name = part.closerName
    · rw [if_neg (not_not_intro hname)] at h
      refine ⟨opened, ?_⟩
      obtain ⟨_, _, -, h⟩ := exec_bind_eq_ok h
      split at h
      · cases h
      · obtain ⟨_, _, -, h⟩ := exec_bind_eq_ok h
        obtain ⟨_, _, -, h⟩ := exec_bind_eq_ok h
        obtain ⟨body, _, -, h⟩ := exec_bind_eq_ok h
        rcases hof : Invocation.ofTag opened.tag (some body) with fault | invocation
        · rw [hof] at h
          cases h
        · rw [hof] at h
          obtain ⟨_, _, -, h⟩ := exec_bind_eq_ok h
          cases h
          exact ⟨rfl, hname, rfl⟩
    · rw [if_pos hname] at h
      cases h

/-- All other tokens leave the open tags as they are. -/
theorem openTags_of_act {reading : Reading} {walk walk' : Walk} {s s' : Store σ} {token : Nat}
    (h : exec (walk.act engine wait template token reading) s = (.ok walk', s')) :
    walk'.openTags = walk.openTags := by
  have hlast : ∀ {α : Type} {x : Render σ α} {f : α → Walk},
      exec (x >>= fun a => pure (f a)) s = (.ok walk', s') →
        (∀ a, (f a).openTags = walk.openTags) → walk'.openTags = walk.openTags := by
    intro α x f hx hf
    obtain ⟨a, _, -, hrest⟩ := exec_bind_eq_ok hx
    cases hrest
    exact hf a
  cases reading with
  | text text => exact hlast h fun _ => rfl
  | fault error => cases h
  | expression source =>
    obtain ⟨text, _, -, hrest⟩ := exec_bind_eq_ok h
    obtain ⟨_, _, -, hrest⟩ := exec_bind_eq_ok hrest
    cases hrest
    rfl
  | effect source =>
    unfold act direct at h
    dsimp only at h
    split at h
    · exact hlast h fun _ => rfl
    · cases h
      rfl
  | base name path => exact hlast h fun _ => rfl
  | layout path =>
    unfold act direct at h
    dsimp only at h
    split at h
    · cases h
    · cases h
      rfl
  | «section» name =>
    cases h
    rfl
  | render name optional => exact hlast h fun _ => rfl
  | nest invocation => exact hlast h fun _ => rfl
  | paired =>
    cases h
    rfl

/-- The token opens a body. -/
def opensBody (template : CompiledTemplate) (part : Token) : Prop :=
  template.reading part = .paired ∧ part.kind ≠ .closeTag

/-- A walk that comes to its end without an open tag has closed all tags. -/
theorem closing_of_steps {ι : Type} (part : ι → Token) {items : List ι} {walk walk' : Walk}
    {s s' : Store σ} {token : Nat}
    (h : exec (steps engine wait template walk token (items.map part)) s = (.ok walk', s'))
    (hend : walk'.openTags = []) :
    Closing (fun i => opensBody template (part i)) (fun i => (part i).kind = .closeTag)
      walk.openTags.length items := by
  induction items generalizing walk s token with
  | nil =>
    cases h
    rw [hend]
    exact .nil
  | cons item items ih =>
    rw [List.map_cons] at h
    unfold steps at h
    obtain ⟨next, s₁, hfirst, hrest⟩ := exec_bind_eq_ok h
    have hstep := exec_mapError_eq_ok hfirst
    have hclosing := ih hrest
    by_cases hkind : (part item).kind = .closeTag
    · obtain ⟨opened, htags, -⟩ := openTags_of_closes hkind hstep
      rw [htags]
      exact .closing hkind hclosing
    · by_cases hpaired : template.reading (part item) = .paired
      · obtain ⟨tag, invocation, hopens⟩ := CompiledTemplate.opens_of_reading hpaired hkind
        rw [exec_step_opens hopens] at hstep
        cases hstep
        exact .opening ⟨hpaired, hkind⟩ hclosing
      · rw [step_eq_act _ _ hpaired] at hstep
        rw [openTags_of_act hstep] at hclosing
        exact .single (fun hopens => hpaired hopens.1) hkind hclosing

/-- A template whose walk comes to its end has matching tags. -/
theorem bracketed_of_run {ι : Type} (part : ι → Token) {items : List ι} {context : Context}
    {walk : Walk} {s s' : Store σ} (hitems : template.tokens = items.map part)
    (h : exec (run engine wait template context) s = (.ok walk, s')) :
    Bracketed (fun i => opensBody template (part i)) (fun i => (part i).kind = .closeTag)
      items := by
  unfold run at h
  obtain ⟨walk', s₁, hsteps, hend⟩ := exec_bind_eq_ok h
  rw [hitems] at hsteps
  refine Closing.bracketed _ (Nat.le_refl _) (closing_of_steps part hsteps ?_)
  rcases htags : walk'.openTags with _ | ⟨opened, openTags⟩
  · rfl
  · rw [htags] at hend
    cases hend

end Walk

end TemplateEngine
