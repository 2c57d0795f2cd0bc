import TemplateEngine.Proofs.Engine.Readers
import TemplateEngine.Proofs.Template.Embedding

/-!
# `Engine` · Layouts of texts and the content

A layout that consists of texts and its content, which it reads in expressions, or prints.

* **`Frame`**: such a layout, with its source (`Frame.source`) and what it makes of the text of its
  page (`Frame.fill`).
* **`Frame.shaped`**: the source is cut at the contents, if the texts between them are literals.
-/

namespace TemplateEngine

open Render TemplateEngine.Text TemplateEngine.Template

/-- A layout that consists of texts and its content. -/
inductive Frame where
  /-- The content is read once or more. -/
  | reads (first second : String) (rest : List String)
  /-- The content is printed. -/
  | prints (before after : String)

namespace Frame

/-- The texts around the content. -/
def texts : Frame → List String
  | reads first second rest => first :: second :: rest
  | prints before after => [before, after]

/-- The source of the layout. -/
def source : Frame → String
  | reads first second rest => "$\x7bcontent\x7d".intercalate (first :: second :: rest)
  | prints before after => before ++ "$\x7b#render content\x7d" ++ after

/-- The text of the layout when the content is known. -/
def fill (text : String) : Frame → String
  | reads first second rest => text.intercalate (first :: second :: rest)
  | prints before after => before ++ text ++ stripLineEnd after

/-- The texts have no openers. -/
def Literal (frame : Frame) : Prop := ∀ text ∈ frame.texts, IsLiteral text.toList

end Frame

/-! ## Parts -/

namespace Template

/-- The text of an expression in a template. -/
def braces (body : List Char) : List Char := '$' :: '\x7b' :: (body ++ ['\x7d'])

/-- The part that reads the content. -/
def readingPart : Part := ⟨.expression, braces "content".toList⟩

/-- The part that prints the content. -/
def printingPart : Part := ⟨.expression, braces "#render content".toList⟩

theorem toList_intercalate_cons (separator first second : String) (rest : List String) :
    (separator.intercalate (first :: second :: rest)).toList =
      first.toList ++ (separator.toList ++ (separator.intercalate (second :: rest)).toList) := by
  rw [String.intercalate_cons_cons, String.toList_append, String.toList_append, List.append_assoc]

/-- A source is cut at the expressions that read the content. -/
theorem partsFrom_reads (first : String) (rest : List String)
    (hliteral : ∀ text ∈ first :: rest, IsLiteral text.toList) (offset : Nat) :
    partsFrom offset ("$\x7bcontent\x7d".intercalate (first :: rest)).toList =
      .ok (⟨.literal, first.toList⟩ ::
        rest.flatMap fun next => [readingPart, ⟨.literal, next.toList⟩]) := by
  induction rest generalizing first offset with
  | nil =>
    rw [String.intercalate_singleton]
    exact partsFrom_literal (hliteral first (List.mem_cons_self ..)) offset
  | cons second rest ih =>
    have hfirst := hliteral first (List.mem_cons_self ..)
    have hrest := fun text htext => hliteral text (List.mem_cons_of_mem first htext)
    have hbalanced : Balanced "content".toList := balanced_bare (by decide)
    obtain ⟨next, hparts⟩ := partsFrom_embedded hfirst hbalanced offset
      ("$\x7bcontent\x7d".intercalate (second :: rest)).toList
    have hsource : ("$\x7bcontent\x7d".intercalate (first :: second :: rest)).toList =
        first.toList ++ '$' :: '\x7b' :: ("content".toList ++ '\x7d' ::
          ("$\x7bcontent\x7d".intercalate (second :: rest)).toList) :=
      toList_intercalate_cons _ first second rest
    rw [hsource, hparts, ih second hrest next]
    rfl

/-- A source is cut where it prints the content. -/
theorem parts_prints {before after : String} (hbefore : IsLiteral before.toList)
    (hafter : IsLiteral after.toList) :
    parts (before ++ "$\x7b#render content\x7d" ++ after).toList =
      .ok [⟨.literal, before.toList⟩, printingPart, ⟨.literal, after.toList⟩] := by
  have hbalanced : Balanced "#render content".toList := balanced_bare (by decide)
  have hsource : (before ++ "$\x7b#render content\x7d" ++ after).toList =
      before.toList ++ '$' :: '\x7b' :: ("#render content".toList ++ '\x7d' :: after.toList) := by
    rw [String.toList_append, String.toList_append, List.append_assoc]
    rfl
  rw [hsource, parts_embedded hbefore hbalanced hafter]
  rfl

end Template

/-! ## Readings -/

namespace CompiledTemplate

variable {template : CompiledTemplate}

/-- The reading of an expression or a directive. -/
theorem reading_braces (template : CompiledTemplate) (body : List Char) (offset : Nat) :
    template.reading ⟨.expression, String.ofList (braces body), offset⟩ =
      match Directive.parse (String.ofList body) with
      | .error fault => .fault (.structural (.directive fault))
      | .ok (some directive) => .ofDirective directive
      | .ok none => .expression (String.ofList body) := by
  have hbody : Token.body ⟨.expression, String.ofList (braces body), offset⟩ =
      String.ofList body := by
    unfold Token.body braces
    rw [String.toList_ofList]
    simp
  unfold reading
  exact hbody ▸ rfl

theorem reading_literal (template : CompiledTemplate) (text : String) (offset : Nat) :
    template.reading ⟨.literal, String.ofList text.toList, offset⟩ = .text text :=
  congrArg Reading.text String.ofList_toList

theorem reading_readingPart (template : CompiledTemplate) (offset : Nat) :
    template.reading ⟨.expression, String.ofList readingPart.text, offset⟩ =
      .expression Config.content :=
  template.reading_braces "content".toList offset

theorem reading_printingPart (template : CompiledTemplate) (offset : Nat) :
    template.reading ⟨.expression, String.ofList printingPart.text, offset⟩ =
      .render Config.content false :=
  template.reading_braces "#render content".toList offset

/-- The readings of the parts of a source that reads the content. -/
theorem readings_reads (template : CompiledTemplate) (first : String) (rest : List String)
    (offset : Nat) :
    (place offset (⟨.literal, first.toList⟩ ::
        rest.flatMap fun next => [readingPart, ⟨.literal, next.toList⟩])).map template.reading =
      .text first :: Reading.reads rest := by
  induction rest generalizing first offset with
  | nil => exact congrArg (· :: []) (template.reading_literal first offset)
  | cons second rest ih =>
    refine (congrArg₂ List.cons (template.reading_literal first offset) ?_)
    exact congrArg₂ List.cons (template.reading_readingPart _) (ih second _)

/-- The template is a layout of texts and the content. -/
def Shaped (template : CompiledTemplate) : Frame → Prop
  | .reads first second rest => template.Reads first (second :: rest)
  | .prints before after => template.Prints before after

end CompiledTemplate

/-- The source of a layout is cut at the contents. -/
theorem Frame.shaped {frame : Frame} (hliteral : frame.Literal) (path : String) :
    ∃ template, CompiledTemplate.compile path frame.source = .ok template ∧
      template.Shaped frame := by
  cases frame with
  | reads first second rest =>
    have hparts : parts (source (.reads first second rest)).toList = .ok _ :=
      partsFrom_reads first (second :: rest) hliteral 0
    unfold CompiledTemplate.compile tokenize
    rw [hparts]
    exact ⟨_, rfl, CompiledTemplate.readings_reads _ first (second :: rest) 0⟩
  | prints before after =>
    have hparts : parts (source (.prints before after)).toList = .ok _ :=
      parts_prints (hliteral before (List.mem_cons_self ..))
        (hliteral after (List.mem_cons_of_mem _ (List.mem_cons_self ..)))
    unfold CompiledTemplate.compile tokenize
    rw [hparts]
    refine ⟨_, rfl, ?_⟩
    exact congrArg₂ List.cons (CompiledTemplate.reading_literal _ before _)
      (congrArg₂ List.cons (CompiledTemplate.reading_printingPart _ _)
        (congrArg₂ List.cons (CompiledTemplate.reading_literal _ after _) rfl))

/-- The template at a file with such a source is a layout. -/
theorem Engine.compiled_of_source {σ : Type} {engine : Engine σ} {frame : Frame} {file : String}
    (hliteral : frame.Literal) (hsource : engine.read file = .ok frame.source) :
    ∃ template, engine.compiled file = .ok template ∧ template.Shaped frame := by
  obtain ⟨template, hcompile, hshaped⟩ := frame.shaped hliteral file
  refine ⟨template, ?_, hshaped⟩
  unfold Engine.compiled
  rw [hsource]
  exact hcompile

/-- What the expressions of a layout read stands between its texts. -/
theorem spelled_eq_intercalate (first text : String) (rest : List String) :
    spelled first text rest = text.intercalate (first :: rest) := by
  induction rest generalizing first with
  | nil =>
    rw [String.intercalate_singleton]
    unfold spelled
    rw [List.flatMap_nil, String.join_cons]
    exact String.append_empty
  | cons second rest ih =>
    rw [String.intercalate_cons_cons, ← ih second]
    unfold spelled
    rw [List.flatMap_cons, List.cons_append, List.cons_append, List.nil_append]
    simp only [String.join_cons, String.append_assoc]

end TemplateEngine
