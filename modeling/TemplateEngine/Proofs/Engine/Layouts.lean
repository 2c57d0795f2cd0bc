import TemplateEngine.Proofs.Engine.Entering
import TemplateEngine.Proofs.Engine.Framing

/-!
# `Engine` · The text of a layout

A layout that reads its content, or prints it, has the text that it makes of the content.

* **`Store.Ends`**: behind the content, a layout settles what it has made itself.
* **`exec_produce_frame`**: a layout comes to its content, and if this has a text, then the layout has
  the text of which it is a part.
-/

namespace TemplateEngine

open Render TemplateEngine.Text TemplateEngine.Template

variable {σ : Type} {engine : Engine σ} {frame : Frame} {slot : SlotId} {id : FunctionId}
  {context : Context} {template : CompiledTemplate} {content : List (Fragment Deferred)}
  {s t u v w : Store σ} {text : String}

/-- A layout is read, or the evaluation of the expression `content` has started or ended. -/
def Event.ofLayout (request : RequestId) (path : String) (event : Event) : Prop :=
  event = .reading path ∨ event.ofContent request

/-- A layout was entered at `s`, has come to its content at `u`, and has come to its end at `w`; the
content was rendered at `t`. -/
structure Store.Ends (context : Context) (s u t w : Store σ) : Prop where
  /-- The sections are as they were when the layout was entered. -/
  sections : ∀ scope, (s.sections context.request).Extends context.defaultSection scope []
    (w.sections context.request)
  /-- The state of the host is the one behind the content. -/
  host : w.host = t.host
  /-- So are the redirects. -/
  redirect : ∀ id, w.redirect id = t.redirect id
  /-- So are the values, except for a promise that was made for the layout. -/
  graph : ∀ (p : Placement) (g : Graph), (∀ i j, s.graph.promises.size ≤ j →
    j < u.graph.promises.size → p.promise i ≠ j) → g.Embedded p t.graph → g.Embedded p w.graph
  /-- Only the layout has done something. -/
  journal : ∃ events, w.journal = events ++ t.journal ∧
    ∀ event ∈ events, event.ofLayout context.request context.filePath

section Ends

variable {read : String → Except Error String} {fragments more : List (Fragment Deferred)}

/-- The scope of the layout is popped in the end. -/
theorem Store.Reaches.extends_popped (hreaches : s.Reaches read context slot fragments u)
    (hlive : context.request.index < v.requests.size)
    (hsections : (u.sections context.request).Extends context.defaultSection
      ⟨(s.sections context.request).scopes.size⟩ more (v.sections context.request))
    (scope : ScopeId) :
    (s.sections context.request).Extends context.defaultSection scope []
      ((v.popped context.request context.defaultSection).sections context.request) := by
  rw [Store.sections_popped hlive]
  exact (hreaches.sections.trans hsections).popped scope

/-- A layout that reads its content comes to its end. -/
theorem Store.Ends.of_gains (hlive : context.request.index < s.requests.size)
    (hreaches : s.Reaches read context slot fragments u)
    (hsize : u.graph.promises.size = s.graph.promises.size + 1)
    (hwrites : u.Writes read context.request context.defaultSection
      ⟨(s.sections context.request).scopes.size⟩ [] t)
    (hgains : (t.resumed s context slot text).Gains context.request context.defaultSection
      ⟨(s.sections context.request).scopes.size⟩ more v) :
    s.Ends context u t (v.popped context.request context.defaultSection) where
  sections := by
    have hrequests : v.requests.size = s.requests.size :=
      hgains.requests.trans (hwrites.requests.trans hreaches.requests)
    exact hreaches.extends_popped (Nat.lt_of_lt_of_eq hlive hrequests.symm)
      (hwrites.sections.trans hgains.sections)
  host := hgains.host
  redirect id := (Store.redirect_setSections _ _ _ _).trans (hgains.redirect id)
  graph p g hp hg := by
    have hpromise : ∀ i, p.promise i ≠ s.graph.promises.size := fun i =>
      hp i _ (Nat.le_refl _) (hsize ▸ Nat.lt_succ_self _)
    exact (hg.setPromise hpromise _).of_isPrefix hgains.graph
  journal := by
    obtain ⟨events, hevents, hof⟩ := hgains.journal
    refine ⟨events ++ [.ended context.request], ?_, fun event hevent => ?_⟩
    · rw [List.append_assoc]
      exact hevents
    · rcases List.mem_append.1 hevent with hevent | hevent
      · exact .inr (hof event hevent)
      · rw [List.mem_singleton.1 hevent]
        exact .inr (.inr rfl)

/-- A layout that prints its content comes to its end. -/
theorem Store.Ends.of_settled (hlive : context.request.index < s.requests.size)
    (hreaches : s.Reaches read context slot fragments u)
    (hwrites : u.Writes read context.request context.defaultSection
      ⟨(s.sections context.request).scopes.size⟩ [] t) :
    s.Ends context u t ((t.settled slot text).popped context.request context.defaultSection) where
  sections := by
    have hrequests : (t.settled slot text).requests.size = s.requests.size :=
      hwrites.requests.trans hreaches.requests
    exact hreaches.extends_popped (Nat.lt_of_lt_of_eq hlive hrequests.symm) hwrites.sections
  host := rfl
  redirect id := Store.redirect_setSections _ _ _ _
  graph _ _ _ hg := ⟨hg.objects, hg.functions, hg.promises⟩
  journal := ⟨[], rfl, nofun⟩

end Ends

/-- A layout comes to its content, and then has the text that it makes of it. The content is rendered
with at least as much fuel as is left for the layout. -/
theorem exec_produce_frame (hengine : engine.Interprets)
    (hhonest : s.templates.Honest engine.read) (hlive : context.request.index < s.requests.size)
    (hopened : engine.opened context = .ok template) (hshaped : template.Shaped frame)
    (hslot : context.slot = some slot) (hparsed : s.programs.Parsed)
    (hprovides : s.graph.Provides context.data id slot)
    (hwaits : s.slots[slot.index]? = some ⟨.pending content, false⟩) (fuel : Nat) :
    ∃ lower u fragments before, fuel ≤ lower ∧ s.Reaches engine.read context slot fragments u ∧
      u.journal = before ++ s.journal ∧
      (∀ event ∈ before, event.ofLayout context.request context.filePath) ∧
      ∀ text t, exec (renderFragments (runDeferred (engine.produce lower)) content) u =
          (.ok text, t) →
        u.Writes engine.read context.request context.defaultSection
          ⟨(s.sections context.request).scopes.size⟩ [] t →
        t.graph.Provides context.data id slot → t.programs.Parsed →
        t.redirect context.request = none →
        ∃ w, exec (engine.produce (fuel + 2) (.template context)) s = (.ok (frame.fill text), w) ∧
          s.Ends context u t w := by
  cases frame with
  | reads first second rest =>
    obtain ⟨u, hreaches, hsize, hjournal, hrest⟩ := exec_renderTemplate_reads hengine hhonest hlive
      hopened hshaped hparsed hprovides (congrArg (Option.map Slot.state) hwaits)
    refine ⟨fuel + 1, u, _, [.started context.request Config.content, .reading context.filePath],
      Nat.le_succ fuel, hreaches, hjournal, ?_, ?_⟩
    · intro event hevent
      rcases List.mem_cons.1 hevent with rfl | hevent
      · exact .inr (.inl rfl)
      · exact .inl (List.mem_singleton.1 hevent)
    · intro text t hcontent hwrites hprovides' hparsed' hredirect
      obtain ⟨v, fragments, hgains, hrender⟩ := hrest text t hcontent hwrites hprovides' hparsed'
        hredirect
      rw [spelled_eq_intercalate] at hrender
      exact ⟨_, hrender, .of_gains hlive hreaches hsize hwrites hgains⟩
  | prints before after =>
    obtain ⟨u, fragments, hreaches, -, hjournal, hrest⟩ :=
      exec_renderTemplate_prints (engine.produce fuel) hhonest hlive hopened hshaped hslot hwaits
    refine ⟨fuel, u, fragments, [.reading context.filePath], Nat.le_refl fuel, hreaches, hjournal,
      ?_, ?_⟩
    · intro event hevent
      exact .inl (List.mem_singleton.1 hevent)
    · intro text t hcontent hwrites _ _ _
      have hsections := hreaches.sections.trans hwrites.sections
      have hrender := hrest text t hcontent hsections.history_ne_nil
      rw [← String.append_assoc] at hrender
      exact ⟨_, hrender, .of_settled hlive hreaches hwrites⟩

end TemplateEngine
