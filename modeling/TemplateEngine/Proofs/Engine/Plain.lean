import TemplateEngine.Proofs.Engine.Contract
import TemplateEngine.Proofs.Engine.Request
import TemplateEngine.Proofs.Engine.Tree
import TemplateEngine.Proofs.Expr.Acceptance

/-!
# `Engine` · Plain templates

Templates that contain only texts, expressions, names for directories and nested templates without
bodies. A request for one of them is a direct recursion: nothing of the sections, of the priorities
and of the order of production can be seen (`renderView_follows_expandView`).
-/

namespace TemplateEngine

open Render TemplateEngine.Text TemplateEngine.Template

variable {σ : Type}

/-- A reading that neither changes nor prints a section, and asks for no layout. -/
def Reading.isPlain : Reading → Bool
  | .layout _ => false
  | .section _ => false
  | .render .. => false
  | .paired => false
  | _ => true

/-- All templates that can be read are plain. -/
def Engine.Plain (engine : Engine σ) : Prop :=
  ∀ path template, engine.compiled path = .ok template →
    ∀ reading ∈ template.readings, reading.isPlain

/-- Plain templates never leave their section. -/
theorem Reading.atHome_of_isPlain (home : String) {readings : List Reading}
    (h : ∀ reading ∈ readings, reading.isPlain) : AtHome home home readings := by
  induction readings with
  | nil => exact trivial
  | cons reading rest ih =>
    have hreading := h reading (List.mem_cons_self ..)
    have hrest := ih fun other hother => h other (List.mem_cons_of_mem reading hother)
    match reading, hreading with
    | .text _, _ => exact hrest
    | .fault _, _ => exact hrest
    | .expression _, _ => exact hrest
    | .effect _, _ => exact hrest
    | .base _ _, _ => exact hrest
    | .nest _, _ => exact ⟨rfl, hrest⟩

/-- All contexts of an engine with plain templates are a tree. -/
theorem Engine.Plain.family {engine : Engine σ} (h : engine.Plain) (home : String) :
    Family engine home fun _ => True := by
  have hopened : ∀ context template, engine.opened context = .ok template →
      ∀ reading ∈ template.readings, reading.isPlain := by
    intro context template hopened
    exact h context.filePath template (Engine.compiled_of_opened hopened)
  refine ⟨?_, ?_, fun _ _ _ _ _ _ _ _ _ => trivial, fun _ _ _ _ _ _ _ _ => trivial⟩
  · exact fun context template _ ht => Reading.atHome_of_isPlain home (hopened context template ht)
  · intro context template path _ ht hmem
    cases hopened context template ht _ hmem

/-! ## Requests -/

theorem Engine.outcome_error {error : Error} (h : error.redirectTarget? = none)
    (redirect : Option String) : outcome redirect (.error error) = .error error := by
  unfold outcome
  simp only [h]

theorem Engine.outcome_redirect {error : Error} {target : String}
    (h : error.redirectTarget? = some target) (redirect : Option String) :
    outcome redirect (.error error) = .ok (.redirect target) := by
  unfold outcome
  simp only [h]

/-- The outcomes of a rendering and of an expansion that ended alike are alike. -/
theorem follows_outcome {read : String → Except Error String} {s t : Store σ}
    (halike : s.Alike read t) {result : Except Error String} {expanded : Except Error Output}
    (id : RequestId)
    (h : (∃ text output, result = .ok text ∧ expanded = .ok output ∧ text = output.text) ∨
      ∃ error error', result = .error error ∧ expanded = .error error' ∧ error.Similar error') :
    Follows read (do
        let redirect ← withRequest id Request.redirect
        ofExcept (Engine.outcome redirect result))
      (do
        let redirect ← withRequest id Request.redirect
        ofExcept (Engine.outcome redirect (expanded.map Output.text)))
      s t fun rendered rendered' _ => rendered = rendered' := by
  refine .bind_left (exec_withRequest_redirect id s)
    (.bind_right (exec_withRequest_redirect id t) ?_)
  rw [← halike.redirect]
  rcases h with ⟨text, output, rfl, rfl, htext⟩ | ⟨error, error', rfl, rfl, hsimilar⟩
  · subst htext
    exact .ofExcept halike fun _ _ => rfl
  · have hmap : (Except.error error' : Except Error Output).map Output.text = .error error' := rfl
    have htarget' := hsimilar.target.symm
    rw [hmap]
    rcases htarget : error.redirectTarget? with _ | target
    · rw [htarget] at htarget'
      rw [Engine.outcome_error htarget, Engine.outcome_error htarget']
      exact .raise halike hsimilar
    · rw [htarget] at htarget'
      rw [Engine.outcome_redirect htarget, Engine.outcome_redirect htarget']
      exact .pure halike rfl

/-- The sections of a new request are those of one for which nothing was done. -/
theorem Store.collects_withRequest (store : Store σ) (graph : Graph) (home : String) :
    (store.withRequest graph).Collects ⟨store.requests.size⟩ home [] [] where
  live := Nat.lt_of_lt_of_eq (Nat.lt_succ_self _) (Array.size_push _).symm
  routed := by
    rw [(Store.sections_withRequest store graph).1]
    exact Sections.routed_empty home
  history := by
    rw [(Store.sections_withRequest store graph).1]
    rfl

/-- A request for plain templates is a direct recursion: the same page, or the same redirect, or
errors with the same root cause, and the same values afterwards. What was kept of templates has to
be honest and no slot may wait to be rendered; both hold again in the end. -/
theorem renderView_follows_expandView (config : Config) (read : String → Except Error String)
    (host : Host σ) (fuel levels : Nat) (path : String) (data : ObjectId) (store : Store σ)
    (hplain : (Engine.interpreting config read host).Plain)
    (hhonest : store.templates.Honest read)
    (hidle : ∀ slot ∈ store.slots, ∀ fragments, slot.state ≠ .pending fragments)
    (hfuel : config.maxDepth < fuel) (hlevels : config.maxDepth < levels) :
    Follows read ((Engine.interpreting config read host).renderView fuel path data)
      ((Engine.interpreting config read host).expandView levels path data) store store
      fun rendered expanded _ => rendered = expanded := by
  obtain ⟨context, graph, hcontext, hrequest, htop, -⟩ :=
    exec_context (Engine.interpreting config read host) path data store
  have hfits : context.Fits (Engine.interpreting config read host) ⟨store.requests.size⟩
      config.defaultSection :=
    ⟨hrequest, htop.defaultSection, by rw [htop.depth]; exact Nat.zero_le _⟩
  have halike : (store.withRequest graph).Alike read (store.withRequest graph) :=
    .refl hidle hhonest
  have hagrees : Agrees (Engine.interpreting config read host) ⟨store.requests.size⟩
      config.defaultSection [] _ _ context :=
    agrees_produce (Engine.interprets_interpreting config read host)
      (hplain.family config.defaultSection) fuel levels trivial hfits
      (by rw [htop.depth]; exact hfuel) (by rw [htop.depth]; exact hlevels)
  have hrender := hagrees [] (store.withRequest graph) (store.withRequest graph) halike
    (Store.collects_withRequest store graph config.defaultSection)
  unfold Engine.renderView Engine.expandView
  refine .bind_left hcontext (.bind_right hcontext ?_)
  refine hrender.attempt.bind fun result expanded s' t' halike' h => ?_
  refine follows_outcome halike' context.request (h.imp_left ?_)
  rintro ⟨text, output, hresult, hexpanded, htext, -⟩
  exact ⟨text, output, hresult, hexpanded, htext⟩

/-! ## A check for sources -/

/-- All tokens of a source are plain. -/
def Template.isPlain (source : String) : Bool :=
  match tokenize source with
  | .error _ => true
  | .ok tokens =>
    tokens.all fun part => ((⟨"", source, tokens, ""⟩ : CompiledTemplate).reading part).isPlain

/-- The templates of a list are plain if all tokens of their sources are. -/
theorem Engine.plain_inMemory (config : Config) {templates : List (String × String)}
    (h : ∀ entry ∈ templates, Template.isPlain entry.2) : (inMemory config templates).Plain := by
  intro path template hcompiled reading hreading
  unfold Engine.compiled at hcompiled
  rcases hread : (inMemory config templates).read path with error | source
  · rw [hread] at hcompiled
    cases hcompiled
  · rw [hread] at hcompiled
    have hcompiled : CompiledTemplate.compile path source = .ok template := hcompiled
    obtain ⟨entry, hmem, rfl⟩ := MemorySource.mem_of_read hread
    have hplain := h entry hmem
    unfold Template.isPlain at hplain
    unfold CompiledTemplate.compile at hcompiled
    rcases htokens : tokenize entry.2 with fault | tokens
    · rw [htokens] at hcompiled
      cases hcompiled
    · rw [htokens] at hcompiled hplain
      cases hcompiled
      obtain ⟨part, hpart, rfl⟩ := List.mem_map.1 hreading
      exact List.all_eq_true.1 hplain part hpart

/-- A page with an expression that nests a template twice. -/
def nestingPages : List (String × String) :=
  [("/page.html", "<p>\n$\x7b#include inner\x7d\n</p><$:view $path=\"inner\"/>"),
   ("/inner.html", "[$\x7b'a' + 'b'\x7d]")]

/-- The expansion of such a page gives what is rendered. -/
theorem expandView_page :
    Program.parse "'a' + 'b'" = .ok [.binary .add (.string "a") (.string "b")] ∧
    (exec ((Engine.inMemory .standard nestingPages).expandView 100 "/page" ⟨0⟩)
      (.knowing "'a' + 'b'" [.binary .add (.string "a") (.string "b")])).1.toOption =
        some (.html "<p>\n[ab]</p>[ab]") := by
  refine ⟨Grammar.parse_sum "a" "b", ?_⟩
  have hplain : (Engine.inMemory .standard nestingPages).Plain :=
    Engine.plain_inMemory .standard (by decide +kernel)
  have hrendered : (exec ((Engine.inMemory .standard nestingPages).renderView 100 "/page" ⟨0⟩)
      (.knowing "'a' + 'b'" [.binary .add (.string "a") (.string "b")])).1.toOption =
        some (.html "<p>\n[ab]</p>[ab]") := by
    decide +kernel
  have hfollows : Follows (MemorySource.ofList nestingPages).read
      ((Engine.inMemory .standard nestingPages).renderView 100 "/page" ⟨0⟩)
      ((Engine.inMemory .standard nestingPages).expandView 100 "/page" ⟨0⟩) _ _ _ :=
    renderView_follows_expandView { Config.standard with cacheSize := 0 } _ Host.none 100 100 "/page"
      ⟨0⟩ (.knowing "'a' + 'b'" [.binary .add (.string "a") (.string "b")]) hplain
      TemplateCache.honest_nothing nofun (by decide) (by decide)
  rw [← hfollows.toOption_eq fun _ _ _ h => h, hrendered]

end TemplateEngine
