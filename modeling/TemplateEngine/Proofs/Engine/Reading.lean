import TemplateEngine.Engine.Render

/-!
# `Engine` · Readings

What the tokens of a template ask for, apart from how the walk does it.

* **`Reading`**: literals and expressions are output, directives change the walk, and a nested
  template is invoked in the same way whether a directive or a self-closing tag asks for it. A token
  that is malformed fails when the walk reaches it (`fault`).
* **`Walk.step_eq_act`**: a step of the walk depends on the reading of its token only.
* **`Reading.AtHome`**: nested templates are invoked only while the section of their template is
  active.
-/

namespace TemplateEngine

open Render TemplateEngine.Text TemplateEngine.Template

variable {σ : Type}

/-- What a token asks for. -/
inductive Reading where
  /-- Literal text. -/
  | text (text : String)
  /-- Nothing that can be done. -/
  | fault (error : Error)
  /-- The output of an expression. -/
  | expression (source : String)
  /-- An expression without output. -/
  | effect (source : String)
  /-- A name for a directory. -/
  | base (name path : String)
  /-- A layout, the configured one if no path is given. -/
  | layout (path : Option String)
  /-- Another section for the output that follows. -/
  | section (name : String)
  /-- A section, or the content, to be printed. -/
  | render (name : String) (optional : Bool)
  /-- A nested template without a body. -/
  | nest (invocation : Invocation)
  /-- A nested template with a body, or the end of its body. -/
  | paired
  deriving Inhabited

/-- The reading of a directive. -/
def Reading.ofDirective : Directive → Reading
  | .eval source => .effect source
  | .base name path => .base name path
  | .layout path => .layout path
  | .section name => .section name
  | .render name optional => .render name optional
  | .include path source => .nest (.ofDirective .shared path source)
  | .view path source => .nest (.ofDirective .fresh path source)
  | .unknown word => .fault (.structural (.unknownCommand word))

namespace CompiledTemplate

/-- The reading of an opening tag. -/
def tagReading (template : CompiledTemplate) (part : Token) : Reading :=
  match ServerTag.parse part.text with
  | .error fault =>
    .fault (.markup ((fault.map .attribute).getD .notTag) template.source part.offset)
  | .ok tag =>
    match Invocation.ofTag tag none with
    | .error fault => .fault (.structural fault)
    | .ok invocation => if tag.selfClosing then .nest invocation else .paired

/-- The reading of a token. -/
def reading (template : CompiledTemplate) (part : Token) : Reading :=
  match part.kind with
  | .literal => .text part.text
  | .expression =>
    match Directive.parse part.body with
    | .error fault => .fault (.structural (.directive fault))
    | .ok (some directive) => .ofDirective directive
    | .ok none => .expression part.body
  | .openTag => template.tagReading part
  | .closeTag => .paired

/-- The readings of a template. -/
def readings (template : CompiledTemplate) : List Reading :=
  template.tokens.map template.reading

end CompiledTemplate

/-! ## Steps -/

namespace Walk

/-- What the walk does for a reading; paired tags are left out. -/
def act (engine : Engine σ) (wait : PromiseId → Render σ Value) (template : CompiledTemplate)
    (walk : Walk) (token : Nat) : Reading → Render σ Walk
  | .text text => do
    walk.appendText (if walk.stripNext then stripLineEnd text else text)
    return { walk with stripNext := false }
  | .fault error => raise error
  | .expression source => do
    walk.appendText (← engine.evaluate wait walk.context.scope source)
    return { walk with stripNext := false }
  | .effect source =>
    direct engine wait template { walk with stripNext := false } token (.eval source)
  | .base name path =>
    direct engine wait template { walk with stripNext := true } token (.base name path)
  | .layout path =>
    direct engine wait template { walk with stripNext := true } token (.layout path)
  | .section name => return { walk with active := name, stripNext := true }
  | .render name optional => do
    appendSection { walk with stripNext := true } template token name optional
    return { walk with stripNext := true }
  | .nest invocation => do
    invoke engine wait template { walk with stripNext := true } token invocation
    return { walk with stripNext := true }
  | .paired => return walk

variable {engine : Engine σ} {wait : PromiseId → Render σ Value} {template : CompiledTemplate}

theorem direct_eq_act (walk : Walk) (token : Nat) (directive : Directive) :
    direct engine wait template { walk with stripNext := directive.consumesLine } token directive =
      walk.act engine wait template token (.ofDirective directive) := by
  cases directive <;> rfl

theorem openTag_eq_act (walk : Walk) (token : Nat) {part : Token}
    (h : template.tagReading part ≠ .paired) :
    openTag engine wait template { walk with stripNext := true } token part =
      walk.act engine wait template token (template.tagReading part) := by
  unfold CompiledTemplate.tagReading at h ⊢
  unfold openTag
  rcases hparse : ServerTag.parse part.text with fault | tag
  · rfl
  · simp only [hparse] at h ⊢
    rcases hof : Invocation.ofTag tag none with fault | invocation
    · rfl
    · simp only [hof] at h ⊢
      rcases hself : tag.selfClosing with _ | _
      · rw [hself] at h
        exact absurd rfl h
      · rfl

/-- A step of the walk does what the reading of its token asks for. -/
theorem step_eq_act (walk : Walk) (token : Nat) {part : Token}
    (h : template.reading part ≠ .paired) :
    walk.step engine wait template token part =
      walk.act engine wait template token (template.reading part) := by
  unfold step
  unfold CompiledTemplate.reading at h ⊢
  rcases hkind : part.kind with _ | _ | _ | _
  · rfl
  · rcases hparse : Directive.parse part.body with fault | _ | directive
    · rfl
    · rfl
    · exact direct_eq_act walk token directive
  · simp only [hkind] at h
    exact openTag_eq_act walk token h
  · simp only [hkind] at h
    exact absurd rfl h

end Walk

/-! ## Where nested templates are invoked -/

/-- The walk prints nothing and opens no tag, and invokes nested templates only while `home` is the
active section. -/
def Reading.AtHome (home : String) : String → List Reading → Prop
  | _, [] => True
  | active, reading :: rest =>
    match reading with
    | .section name => AtHome home name rest
    | .nest _ => active = home ∧ AtHome home active rest
    | .render .. => False
    | .paired => False
    | _ => AtHome home active rest

end TemplateEngine
