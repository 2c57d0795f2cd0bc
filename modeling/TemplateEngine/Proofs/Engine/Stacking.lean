import TemplateEngine.Proofs.Engine.Contract

/-!
# `Engine` · Templates under a contract

What whole templates ensure under a contract that allows every push and every pop by itself. A
contract that relates a push to the pop that ends it is not of this kind.

* **`Contract.Stacks`** lists these permissions, among them a pop after a failure.
* **`Meets.openTag`**, **`Meets.closeTag`**: paired tags. With them a walk goes through all parts of
  a template (`Meets.steps`, `Meets.run`).
* **`Meets.collected`**: output that is collected in a scope is popped in the end, also after a
  failure. With that a template is rendered (`Meets.renderTemplate`), and so is every piece of
  output (`Stacks.produce`).
-/

namespace TemplateEngine

open Render TemplateEngine.Template

variable {σ : Type}

/-- What a contract allows whole templates to do. -/
structure Contract.Stacks (c : Contract σ) (engine : Engine σ) : Prop
    extends c.Allows engine where
  /-- Templates may be ill-formed. -/
  structural : ∀ fault, c.bounds.expected (.structural fault)
  /-- Pushing a scope. -/
  pushes : ∀ {s : Store σ} {id : RequestId} (name owner : String), c.Holds s → c.bounds.ours id →
    c.Ready (s.pushed id name owner) ∧ c.Changes s (s.pushed id name owner)
  /-- Popping a section. -/
  pops : ∀ {s : Store σ} {id : RequestId} {name : String} {popped : Option ScopeId}
    {after : Sections Deferred}, c.Holds s → c.bounds.ours id →
      (s.sections id).pop name = .ok (popped, after) →
        c.Ready (s.setSections id after) ∧ c.Changes s (s.setSections id after)
  /-- Popping a section after a failure. -/
  popsAfter : ∀ {s t : Store σ} {stop : Stop} {id : RequestId} {name : String}
    {popped : Option ScopeId} {after : Sections Deferred}, t.Sound c.bounds → c.bounds.ours id →
      c.Stops s stop t → (t.sections id).pop name = .ok (popped, after) →
        c.Stops s stop (t.setSections id after)

namespace Contract.Meets

variable {c : Contract σ} {engine : Engine σ} {wait : PromiseId → Render σ Value}

/-! ## Pushes and pops -/

theorem fault {α : Type} {good : α → Prop} (h : c.Stacks engine) (fault : StructuralFault) :
    c.Meets (Render.raise (.structural fault) : Render σ α) good :=
  raise (h.structural fault)

theorem popSection (h : c.Stacks engine) {id : RequestId} (hid : c.bounds.ours id)
    (name : String) : c.Meets (popSection id name : Render σ _) fun _ => True := by
  intro s hs
  have hexec := exec_popSection id name s
  rcases hpop : (s.sections id).pop name with fault | ⟨popped, after⟩
  · rw [hpop] at hexec
    have hexpected : c.bounds.expected (popError fault) := by
      cases fault <;> exact h.structural _
    exact .of_error hexec ⟨hs.sound, hexpected, c.raises hs.ready hexpected⟩
  · rw [hpop] at hexec
    obtain ⟨hready, hchange⟩ := h.pops hs hid hpop
    exact .of_ok hexec ⟨True.intro, ⟨hs.sound.pop hpop, hready⟩, hchange⟩

theorem pushSection (h : c.Stacks engine) {id : RequestId} (hid : c.bounds.ours id)
    (name owner : String) :
    c.Meets (Render.changeSections id fun sections => sections.push name owner : Render σ _)
      fun _ => True :=
  of_exec fun s hs => ⟨_, _, exec_changeSections id _ s, True.intro,
    ⟨hs.sound.push id name owner, (h.pushes name owner hs hid).1⟩, (h.pushes name owner hs hid).2⟩

/-! ## Walks -/

section Tags

variable {walk : Walk} (h : c.Stacks engine) (hwait : ∀ id, c.Meets (wait id) fun _ => True)

include h hwait

theorem openTag (hwalk : c.bounds.ours walk.context.request) (template : CompiledTemplate)
    (token : Nat) (part : Token) :
    c.Meets (walk.openTag engine wait template token part)
      fun after => after.context.request = walk.context.request := by
  unfold Walk.openTag
  rcases ServerTag.parse part.text with fault | tag
  · exact raise (c.bounds.own True.intro)
  dsimp only
  rcases htag : Invocation.ofTag tag none with fault | invocation
  · exact raise (c.bounds.own (Error.isOwn_ofTag htag))
  dsimp only
  split
  · exact (invoke h.toAllows hwait hwalk template token invocation).bind fun _ _ => pure rfl
  · exact (withSections _ _).bind fun _ _ => (pushSection h hwalk _ _).bind fun _ _ => pure rfl

theorem closeTag (hwalk : c.bounds.ours walk.context.request) (template : CompiledTemplate)
    (part : Token) :
    c.Meets (walk.closeTag engine wait template part)
      fun after => after.context.request = walk.context.request := by
  unfold Walk.closeTag
  dsimp only
  rcases walk.openTags with _ | ⟨tag, tags⟩
  · exact fault h _
  dsimp only
  split
  · exact fault h _
  refine (withSections _ _).bind fun peek _ => ?_
  have hraised : c.Meets (Render.raise (.structural (.unbalancedBody part.closerName
      tag.sectionName)) : Render σ Unit) fun _ => True := fault h _
  let closed : Walk := { walk with active := tag.sectionName, openTags := tags }
  have hclosed : c.bounds.ours closed.context.request := hwalk
  split
  case' isTrue => refine hraised.bind fun _ _ => ?_
  -- What is left after the check is the same, whether it fails or not.
  all_goals
    refine (popSection h hwalk _).bind fun _ _ => ?_
    refine (fragments hwalk tag.body).bind fun fragments hfragments => ?_
    have hbody : SlotState.Sound c.bounds (.pending fragments) := hfragments
    refine (newSlot hbody).bind fun body _ => ?_
    rcases Invocation.ofTag tag.tag (some body) with fault | invocation
    · exact Meets.fault h _
    · have hinvoke := invoke h.toAllows hwait hclosed template tag.token invocation
      exact hinvoke.bind fun _ _ => pure rfl

theorem walkStep (hwalk : c.bounds.ours walk.context.request) (template : CompiledTemplate)
    (token : Nat) (part : Token) :
    c.Meets (walk.step engine wait template token part)
      fun after => after.context.request = walk.context.request := by
  have hplain : part.kind = .literal ∨ part.kind = .expression →
      c.Meets (walk.step engine wait template token part)
        fun after => after.context.request = walk.context.request :=
    fun hpart => (step h.toAllows hwait hwalk template token hpart).mono fun _ h => h.1
  have hopened : c.bounds.ours ({ walk with stripNext := true } : Walk).context.request := hwalk
  rcases hkind : part.kind with _ | _ | _ | _
  · exact hplain (.inl hkind)
  · exact hplain (.inr hkind)
  · simp only [Walk.step, hkind]
    exact openTag h hwait hopened template token part
  · simp only [Walk.step, hkind]
    exact closeTag h hwait hopened template part

theorem steps (hwalk : c.bounds.ours walk.context.request) (template : CompiledTemplate)
    (token : Nat) (parts : List Token) :
    c.Meets (Walk.steps engine wait template walk token parts)
      fun after => after.context.request = walk.context.request := by
  induction parts generalizing walk token with
  | nil => exact pure rfl
  | cons part rest ih =>
    refine (mapError (walkStep h hwait hwalk template token part)
      (Error.similar_locate template token)).bind fun next hnext => ?_
    rw [← hnext] at hwalk ⊢
    exact ih hwalk (token + 1)

theorem run {context : Context} (hcontext : c.bounds.ours context.request)
    (template : CompiledTemplate) :
    c.Meets (Walk.run engine wait template context)
      fun after => after.context.request = context.request := by
  unfold Walk.run
  have hstart : c.bounds.ours (Walk.start context).context.request := hcontext
  refine (steps h hwait hstart template 0 template.tokens).bind fun walk hwalk => ?_
  rcases walk.openTags with _ | ⟨tag, tags⟩
  · exact pure hwalk
  · exact raise (c.bounds.similar (h.structural _) (Error.similar_locate _ _ _))

end Tags

/-! ## Templates -/

/-- Output that is collected in a scope of its own, which is popped in the end. -/
theorem collected (h : c.Stacks engine) {body : Render σ String}
    (hbody : c.Meets body fun _ => True) {id : RequestId} (hid : c.bounds.ours id)
    (name : String) :
    c.Meets (do
      let output ← Render.attempt body
      let popped ← Render.attempt (TemplateEngine.popSection id name)
      let text ← Render.ofExcept output
      let _ ← Render.ofExcept popped
      return text) fun _ => True := by
  intro s hs
  refine (hbody.attempt hs (c.refl s)).bind fun output t houtput => ?_
  cases output with
  | ok text =>
    obtain ⟨-, ht, hst⟩ := houtput
    refine ((popSection h hid name).attempt ht hst).bind fun popped u hpopped => ?_
    cases popped with
    | ok popped => exact .pure ⟨True.intro, hpopped.2⟩
    | error error => exact .raise hpopped
  | error error =>
    obtain ⟨ht, herror, hst⟩ := houtput
    have hexec := exec_attempt (TemplateEngine.popSection id name) t
    rw [exec_popSection] at hexec
    rcases hpop : (t.sections id).pop name with fault | ⟨popped, after⟩
    · rw [hpop] at hexec
      exact .bind_ok hexec (.of_error (exec_bind_error (exec_raise error _) _) ⟨ht, herror, hst⟩)
    · rw [hpop] at hexec
      exact .bind_ok hexec (.of_error (exec_bind_error (exec_raise error _) _)
        ⟨ht.pop hpop, herror, h.popsAfter ht hid hst hpop⟩)

theorem renderTemplate (h : c.Stacks engine) {run : Task → Render σ String}
    (hrun : ∀ task : Task, task.Within c.bounds → c.Meets (run task) fun _ => True)
    {context : Context} (hcontext : c.bounds.ours context.request) :
    c.Meets (engine.renderTemplate run context) fun _ => True := by
  unfold Engine.renderTemplate
  refine (fetch h.toAllows context).bind fun template _ => ?_
  refine (pushSection h hcontext _ _).bind fun scope _ => ?_
  refine collected h ?_ hcontext _
  refine (Meets.run h (waitFor hrun h.keeps) hcontext template).bind fun walk hwalk => ?_
  rw [← hwalk] at hcontext
  exact renderWalked hrun hcontext template scope

end Contract.Meets

/-- All output is produced within a contract that allows pushes and pops. -/
theorem Contract.Stacks.produce {c : Contract σ} {engine : Engine σ} (h : c.Stacks engine)
    (fuel : Nat) {task : Task} (htask : task.Within c.bounds) :
    c.Meets (engine.produce fuel task) fun _ => True :=
  Meets.produce h.toAllows (fun _ hrun _ hcontext => Meets.renderTemplate h hrun hcontext) fuel
    htask

end TemplateEngine
