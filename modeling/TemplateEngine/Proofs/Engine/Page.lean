import TemplateEngine.Proofs.Engine.Expansion

/-!
# `Engine` · Pages in layouts

What a page prints in the layout that it asks for, without the order in which it is produced.

* **`Reading.fill`**: the text of a layout whose content and whose sections are known.
* **`Engine.expandPage`**: the page and all templates nested in it are expanded, whatever the place
  of the content in the layout is. Only then the layout is filled.
* **`Engine.Printed`**: the page and the templates below it route texts to sections, and the layout
  consists of texts, the content and sections.
-/

namespace TemplateEngine

open Render TemplateEngine.Text TemplateEngine.Template

variable {σ : Type}

/-! ## Layouts -/

/-- The content, if that is to be printed. -/
def Reading.content? : Reading → Option Bool
  | .render name optional => if name = Config.content then some optional else none
  | _ => none

/-- The section that is to be printed. -/
def Reading.section? : Reading → Option (String × Bool)
  | .render name optional => if name = Config.content then none else some (name, optional)
  | _ => none

/-- A part of a layout. -/
def Reading.isPart : Reading → Bool
  | .text _ => true
  | .render .. => true
  | _ => false

/-- A directory gets a name. -/
def Reading.namesDirectory : Reading → Bool
  | .base .. => true
  | _ => false

/-- A layout prints the content once, and sections with different names other than `home`. -/
structure Reading.LaysOut (home : String) (readings : List Reading) : Prop where
  /-- There are only texts and what is printed. -/
  parts : ∀ reading ∈ readings, reading.isPart
  /-- The content is printed once. -/
  content : ∃ optional, readings.filterMap content? = [optional]
  /-- No section is printed twice. -/
  distinct : ((readings.filterMap section?).map Prod.fst).Nodup
  /-- The section that the layout itself writes to is not printed. -/
  apart : home ∉ (readings.filterMap section?).map Prod.fst

/-- The texts for a section, in the order in which they were routed. -/
def routedTo (name : String) (log : List (String × String)) : String :=
  String.join ((log.filter (·.1 = name)).map Prod.snd)

/-- The literal that follows loses a line terminator. -/
def Reading.consumesLine : Reading → Bool
  | .text _ => false
  | .fault _ => false
  | .expression _ => false
  | .effect _ => false
  | _ => true

/-- The text of a part of a layout. -/
def Reading.value (output : Output) (strip : Bool) : Reading → String
  | .text s => if strip then stripLineEnd s else s
  | .render name _ => if name = Config.content then output.text else routedTo name output.routed
  | _ => ""

/-- The text of a layout. -/
def Reading.fill (output : Output) : Bool → List Reading → String
  | _, [] => ""
  | strip, reading :: rest => reading.value output strip ++ fill output reading.consumesLine rest

namespace Engine

/-- A page in its layout. The content stays in a slot that nobody reads. -/
def expandFramed (engine : Engine σ) (levels : Nat) (context : Context) : Render σ String := do
  let template ← ofExcept (engine.opened context)
  let plan ← engine.plan context template
  let layout ← engine.enterLayout plan.context (plan.layout.getD engine.config.layout) .running
  let frame ← ofExcept (engine.opened layout)
  let output ← expandPieces (engine.expand levels) context.defaultSection plan.pieces
  let log := routed context.defaultSection plan.pieces ++ output.routed
  return Reading.fill ⟨output.text, log⟩ false frame.readings

/-- A whole request for a page in a layout. -/
def expandPage (engine : Engine σ) (levels : Nat) (path : String) (data : ObjectId) :
    Render σ String := do
  engine.expandFramed levels (← engine.context path data)

/-! ## Pages -/

/-- The file of the view at a path. -/
def fileOf (engine : Engine σ) (path : String) : String :=
  Path.withExtension engine.config.extension (Path.combine "/" (trimString path))

/-- The file that a path stands for in the template at `file`, which names no directories. -/
def fileFrom (engine : Engine σ) (file written : String) : Except Error String :=
  engine.resolvePath { (default : Context) with filePath := file, basePaths := .empty } written

/-- The files of the templates below a page. -/
inductive Below (engine : Engine σ) (page : String) : String → Prop where
  /-- The page nests it. -/
  | direct {template : CompiledTemplate} {invocation : Invocation} {target : String}
    (hcompiled : engine.compiled page = .ok template)
    (hmem : .nest invocation ∈ template.readings)
    (htarget : engine.fileFrom page invocation.path = .ok target) : Below engine page target
  /-- A template below the page nests it. -/
  | further {file : String} {template : CompiledTemplate} {invocation : Invocation}
    {target : String} (hbelow : Below engine page file)
    (hcompiled : engine.compiled file = .ok template)
    (hmem : .nest invocation ∈ template.readings)
    (htarget : engine.fileFrom file invocation.path = .ok target) : Below engine page target

end Engine

/-- A template that routes texts to sections prints nothing and names no directories, and nests
others only while its own section is active. -/
structure Reading.Routes (home : String) (readings : List Reading) : Prop where
  /-- It is at home where it nests others. -/
  atHome : AtHome home home readings
  /-- It names no directories. -/
  nameless : ∀ reading ∈ readings, ¬reading.namesDirectory

/-- The page at `page` is printed in a layout. -/
structure Engine.Printed (engine : Engine σ) (page : String) : Prop where
  /-- The page routes texts to sections. -/
  routes : ∀ template, engine.compiled page = .ok template →
    Reading.Routes engine.config.defaultSection template.readings
  /-- It asks for a layout. -/
  layout : ∀ template, engine.compiled page = .ok template →
    ∃ written, template.readings.findSome? (·.layout? engine) = some written ∧
      ∀ target frame, engine.fileFrom page written = .ok target →
        engine.compiled target = .ok frame →
          Reading.LaysOut engine.config.defaultSection frame.readings
  /-- The templates below it route texts to sections, and ask for no layout. -/
  below : ∀ file template, engine.Below page file → engine.compiled file = .ok template →
    Reading.Routes engine.config.defaultSection template.readings ∧
      template.readings.findSome? (·.layout? engine) = none

/-! ## A check for files -/

instance Reading.decidableAtHome (home active : String) (readings : List Reading) :
    Decidable (AtHome home active readings) :=
  match readings with
  | [] => isTrue trivial
  | .text _ :: rest => decidableAtHome home active rest
  | .fault _ :: rest => decidableAtHome home active rest
  | .expression _ :: rest => decidableAtHome home active rest
  | .effect _ :: rest => decidableAtHome home active rest
  | .base .. :: rest => decidableAtHome home active rest
  | .layout _ :: rest => decidableAtHome home active rest
  | .section name :: rest => decidableAtHome home name rest
  | .nest _ :: rest => @instDecidableAnd _ _ _ (decidableAtHome home active rest)
  | .render .. :: _ => isFalse id
  | .paired :: _ => isFalse id

instance (home : String) (readings : List Reading) : Decidable (Reading.Routes home readings) :=
  decidable_of_iff (Reading.AtHome home home readings ∧
      ∀ reading ∈ readings, ¬reading.namesDirectory)
    ⟨fun h => ⟨h.1, h.2⟩, fun h => ⟨h.atHome, h.nameless⟩⟩

instance (home : String) (readings : List Reading) : Decidable (Reading.LaysOut home readings) :=
  decidable_of_iff ((∀ reading ∈ readings, reading.isPart) ∧
      (readings.filterMap Reading.content?).length = 1 ∧
      ((readings.filterMap Reading.section?).map Prod.fst).Nodup ∧
      home ∉ (readings.filterMap Reading.section?).map Prod.fst)
    ⟨fun h => ⟨h.1, List.length_eq_one_iff.1 h.2.1, h.2.2.1, h.2.2.2⟩,
      fun h => ⟨h.parts, List.length_eq_one_iff.2 h.content, h.distinct, h.apart⟩⟩

namespace Engine

/-- The templates that the template at `file` nests are among the files. -/
def nestsIn (engine : Engine σ) (files : List String) (file : String) (readings : List Reading) :
    Bool :=
  readings.all fun
    | .nest invocation =>
      match engine.fileFrom file invocation.path with
      | .ok target => target ∈ files
      | .error _ => true
    | _ => true

/-- The template at a file, if there is one, passes a check. -/
def checks (engine : Engine σ) (file : String) (check : CompiledTemplate → Bool) : Bool :=
  match engine.compiled file with
  | .ok template => check template
  | .error _ => true

/-- A page is printed, and the templates below it are among the files. -/
def isPrinted (engine : Engine σ) (files : List String) (page : String) : Bool :=
  engine.checks page (fun template =>
    decide (Reading.Routes engine.config.defaultSection template.readings) &&
      engine.nestsIn files page template.readings &&
      match template.readings.findSome? (·.layout? engine) with
      | none => false
      | some written =>
        match engine.fileFrom page written with
        | .error _ => true
        | .ok target => engine.checks target fun frame =>
          decide (Reading.LaysOut engine.config.defaultSection frame.readings)) &&
  files.all fun file => engine.checks file fun template =>
    decide (Reading.Routes engine.config.defaultSection template.readings) &&
      engine.nestsIn files file template.readings &&
      (template.readings.findSome? (·.layout? engine)).isNone

variable {engine : Engine σ} {files : List String} {file page : String}

theorem check_of_checks {check : CompiledTemplate → Bool} (h : engine.checks file check)
    {template : CompiledTemplate} (hcompiled : engine.compiled file = .ok template) :
    check template := by
  unfold checks at h
  rw [hcompiled] at h
  exact h

theorem mem_of_nestsIn {readings : List Reading} (h : engine.nestsIn files file readings)
    {invocation : Invocation} (hmem : .nest invocation ∈ readings) {target : String}
    (htarget : engine.fileFrom file invocation.path = .ok target) : target ∈ files := by
  have hnest := List.all_eq_true.1 h _ hmem
  dsimp only at hnest
  rw [htarget] at hnest
  exact of_decide_eq_true hnest

/-- What is checked of the page. -/
theorem checks_page (h : engine.isPrinted files page) {template : CompiledTemplate}
    (hcompiled : engine.compiled page = .ok template) :
    Reading.Routes engine.config.defaultSection template.readings ∧
      engine.nestsIn files page template.readings ∧
      ∃ written, template.readings.findSome? (·.layout? engine) = some written ∧
        ∀ target frame, engine.fileFrom page written = .ok target →
          engine.compiled target = .ok frame →
            Reading.LaysOut engine.config.defaultSection frame.readings := by
  have hcheck := check_of_checks (Bool.and_eq_true_iff.1 h).1 hcompiled
  obtain ⟨hpage, hlayout⟩ := Bool.and_eq_true_iff.1 hcheck
  obtain ⟨hroutes, hnests⟩ := Bool.and_eq_true_iff.1 hpage
  refine ⟨of_decide_eq_true hroutes, hnests, ?_⟩
  rcases hwritten : template.readings.findSome? (·.layout? engine) with _ | written
  · rw [hwritten] at hlayout
    cases hlayout
  · refine ⟨written, hwritten, fun target frame htarget hframe => ?_⟩
    simp only [hwritten, htarget] at hlayout
    exact of_decide_eq_true (check_of_checks hlayout hframe)

/-- What is checked of the templates below it. -/
theorem checks_file (h : engine.isPrinted files page) (hfile : file ∈ files)
    {template : CompiledTemplate} (hcompiled : engine.compiled file = .ok template) :
    Reading.Routes engine.config.defaultSection template.readings ∧
      engine.nestsIn files file template.readings ∧
      template.readings.findSome? (·.layout? engine) = none := by
  have hcheck := check_of_checks
    (List.all_eq_true.1 (Bool.and_eq_true_iff.1 h).2 file hfile) hcompiled
  obtain ⟨hbelow, hlayout⟩ := Bool.and_eq_true_iff.1 hcheck
  obtain ⟨hroutes, hnests⟩ := Bool.and_eq_true_iff.1 hbelow
  exact ⟨of_decide_eq_true hroutes, hnests, Option.isNone_iff_eq_none.1 hlayout⟩

/-- The templates below a page that passes the check are among the files. -/
theorem mem_of_below (h : engine.isPrinted files page) (hbelow : engine.Below page file) :
    file ∈ files := by
  induction hbelow with
  | direct hcompiled hmem htarget =>
    obtain ⟨-, hnests, -⟩ := checks_page h hcompiled
    exact mem_of_nestsIn hnests hmem htarget
  | further hbelow hcompiled hmem htarget ih =>
    obtain ⟨-, hnests, -⟩ := checks_file h ih hcompiled
    exact mem_of_nestsIn hnests hmem htarget

/-- A page that passes the check is printed. -/
theorem printed_of_isPrinted (h : engine.isPrinted files page) : engine.Printed page where
  routes template hcompiled := (checks_page h hcompiled).1
  layout template hcompiled := (checks_page h hcompiled).2.2
  below file template hbelow hcompiled := by
    obtain ⟨hroutes, -, hlayout⟩ := checks_file h (mem_of_below h hbelow) hcompiled
    exact ⟨hroutes, hlayout⟩

end Engine

end TemplateEngine
