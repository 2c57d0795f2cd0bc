import TemplateEngine.Proofs.Engine.Page
import TemplateEngine.Proofs.Engine.Tree

/-!
# `Engine` · The walk of a layout

A layout writes to a new scope of the default section while the content of its page waits in a slot.

* **`Store.Holds`**: a store in which the content waits is like one in which it is being rendered,
  apart from this.
* **`Reading.sketches`**: what the parts of a layout leave in its scope, and
  **`join_framed`**: the text of the layout is made of the texts of these.
* **`exec_frame`**: the walk of a layout leaves just that, and has no effect but on its scope.
-/

namespace TemplateEngine

open Render TemplateEngine.Text TemplateEngine.Template

variable {σ : Type} {engine : Engine σ} {request : RequestId} {home : String} {slot : SlotId}
  {content : List (Fragment Deferred)} {history : List (Option ScopeId)} {s t : Store σ}

/-! ## The content -/

/-- The store in which a slot is being rendered. -/
def Store.running (s : Store σ) (slot : SlotId) : Store σ :=
  { s with slots := s.slots.modify slot.index fun slot => { slot with state := .running } }

/-- The content waits in a slot. If it were being rendered, then the stores would be alike. -/
structure Store.Holds (read : String → Except Error String) (slot : SlotId)
    (content : List (Fragment Deferred)) (s t : Store σ) : Prop where
  /-- Nobody has printed it. -/
  waits : s.slots[slot.index]? = some ⟨.pending content, false⟩
  /-- The stores are alike apart from this. -/
  alike : (s.running slot).Alike read t

/-- The content of a page waits in the last slot, and in the other store is being rendered. -/
theorem Store.Alike.holds {read : String → Except Error String} (h : s.Alike read t)
    (content : List (Fragment Deferred)) (graph : Graph) :
    ({ s with slots := s.slots.push ⟨.pending content, false⟩, graph := graph } : Store σ).Holds read
      ⟨s.slots.size⟩ content { t with slots := t.slots.push ⟨.running, false⟩, graph := graph } where
  waits := Array.getElem?_push_size
  alike := by
    have hslots : (s.slots.push ⟨.pending content, false⟩).modify s.slots.size
        (fun slot => { slot with state := .running }) = s.slots.push ⟨.running, false⟩ := by
      apply Array.ext_getElem?
      intro i
      rw [Array.getElem?_modify, Array.getElem?_push, Array.getElem?_push]
      by_cases hi : i = s.slots.size
      · rw [if_pos hi.symm, if_pos hi, if_pos hi]
        rfl
      · rw [if_neg fun heq => hi heq.symm, if_neg hi, if_neg hi]
    unfold Store.running
    dsimp only
    rw [hslots]
    refine ⟨rfl, h.programs, h.host, h.requests, h.redirect, ?_, ?_, h.honest⟩
    · rw [Array.map_push, Array.map_push, h.slots]
    · intro slot hslot fragments hpending
      rcases Array.mem_push.1 hslot with hslot | rfl
      · exact h.idle slot hslot fragments hpending
      · cases hpending

theorem Store.Holds.setSections {read : String → Except Error String} (h : s.Holds read slot content t)
    (id : RequestId) (sections : Sections Deferred) :
    (s.setSections id sections).Holds read slot content t :=
  ⟨h.waits, h.alike.setSections id sections⟩

theorem Store.Holds.withTemplates {read : String → Except Error String}
    (h : s.Holds read slot content t) {templates : TemplateCache} (hhonest : templates.Honest read)
    (journal : List Event) :
    ({ s with templates := templates, journal := journal } : Store σ).Holds read slot content t :=
  ⟨h.waits, h.alike.withTemplates hhonest journal⟩

/-- The context of a layout and the values made for it, whatever is in the slot. -/
theorem exec_enterLayout {page : Context} {layout filePath : String}
    (hpath : engine.resolvePath page layout = .ok filePath) (state : SlotState) (s : Store σ) :
    ∃ context graph, exec (engine.enterLayout page layout state) s = (.ok context,
        { s with slots := s.slots.push ⟨state, false⟩, graph := graph }) ∧
      (∀ other t, t.graph = s.graph → t.slots.size = s.slots.size →
        exec (engine.enterLayout page layout other) t = (.ok context,
          { t with slots := t.slots.push ⟨other, false⟩, graph := graph })) ∧
      context.filePath = filePath ∧ context.request = page.request ∧
      context.defaultSection = engine.config.defaultSection ∧
      context.slot = some ⟨s.slots.size⟩ := by
  unfold Engine.enterLayout Engine.layoutContext viewBuiltins
  rw [hpath]
  refine ⟨_, _, (exec_bind_ok (exec_ofExcept _ _) _).trans ((exec_bind_ok (exec_newSlot _ _) _).trans
    ((exec_bind_ok (exec_changeGraph _ _) _).trans ((exec_bind_ok (exec_changeGraph _ _) _).trans
      (exec_pure _ _)))), ?_, ?_, ?_, ?_, ?_⟩
  · intro other t hgraph hsize
    rw [exec_bind_ok (exec_ofExcept _ _), exec_bind_ok (exec_newSlot _ _),
      exec_bind_ok (exec_changeGraph _ _), exec_bind_ok (exec_changeGraph _ _), exec_pure]
    dsimp only
    rw [hgraph, hsize]
  · rfl
  · rfl
  · rfl
  · rfl

/-! ## The walk -/

/-- What a text leaves in a scope. -/
def textSketches (text : String) : List (Payload Task × Priority) :=
  if text = "" then [] else [(.literal text, .normal)]

/-- What is left in a scope where a section is to be printed, or the content of a slot. -/
def printSketch (request : RequestId) (slot : SlotId) (name : String) (optional : Bool) :
    Payload Task × Priority :=
  if name = Config.content then (.deferred (.content slot optional), .printedContent)
  else (.deferred (.section request name optional), .printedSection)

/-- What a part of a layout leaves in its scope. -/
def Reading.sketch (request : RequestId) (slot : SlotId) (strip : Bool) :
    Reading → List (Payload Task × Priority)
  | .text s => textSketches (if strip then stripLineEnd s else s)
  | .render name optional => [printSketch request slot name optional]
  | _ => []

/-- What all parts of a layout leave in its scope. -/
def Reading.sketches (request : RequestId) (slot : SlotId) :
    Bool → List Reading → List (Payload Task × Priority)
  | _, [] => []
  | strip, reading :: rest =>
    reading.sketch request slot strip ++ sketches request slot reading.consumesLine rest

/-- The walk of a layout that has a slot. -/
structure Walk.Frames (request : RequestId) (home : String) (slot : SlotId) (walk : Walk) :
    Prop where
  /-- It is of the request. -/
  ofRequest : walk.context.request = request
  /-- It writes to the section. -/
  active : walk.active = home
  /-- It knows the slot. -/
  ofSlot : walk.context.slot = some slot
  /-- There is no layout of the layout. -/
  layout : walk.layout = none
  /-- No tag is open. -/
  openTags : walk.openTags = []

/-- The sections of a request while its layout is walked. -/
structure Store.Framed (request : RequestId) (home : String) (scope : ScopeId)
    (log : List (String × String)) (sketches : List (Payload Task × Priority)) (s : Store σ) :
    Prop where
  /-- The request exists. -/
  live : request.index < s.requests.size
  /-- Texts for other sections are shown by these. -/
  writing : (s.sections request).Writing home scope log
  /-- The scope of the layout shows its parts. -/
  shows : ((s.sections request).fragments scope).map Fragment.sketch = sketches

section Walks

variable {scope : ScopeId} {log : List (String × String)}
  {sketches : List (Payload Task × Priority)} {walk : Walk} {read : String → Except Error String}

/-- An append to the scope of the layout is one more part. -/
theorem Store.Framed.append (h : s.Framed request home scope log sketches) (owner : String)
    (fragment : Fragment Deferred) :
    (s.appended request home owner fragment).Framed request home scope log
      (sketches ++ [fragment.sketch]) := by
  obtain ⟨hwriting, hfragments⟩ := h.writing.add_home owner fragment
  have hsections := Store.sections_setSections_self h.live
    ((s.sections request).add home owner fragment).2
  refine ⟨?_, ?_, ?_⟩
  · exact Nat.lt_of_lt_of_eq h.live (Store.requests_size_setSections s request _).symm
  · unfold Store.appended
    rw [hsections]
    exact hwriting
  · unfold Store.appended
    rw [hsections, hfragments, List.map_append, h.shows]
    rfl

theorem exec_appendText_frame (hwalk : walk.Frames request home slot)
    (h : s.Framed request home scope log sketches) (hholds : s.Holds read slot content t)
    (text : String) :
    ∃ s', exec (walk.appendText text) s = (.ok (), s') ∧ s'.Holds read slot content t ∧
      s'.Framed request home scope log (sketches ++ textSketches text) := by
  unfold Walk.appendText textSketches
  by_cases hempty : text = ""
  · subst hempty
    refine ⟨s, rfl, hholds, ?_⟩
    rw [if_pos rfl, List.append_nil]
    exact h
  · have hisEmpty : text.isEmpty = false := by simpa using hempty
    rw [hisEmpty, if_neg hempty]
    refine ⟨_, Walk.exec_append walk (.literal text) .normal s, hholds.setSections _ _, ?_⟩
    rw [hwalk.ofRequest, hwalk.active]
    exact h.append walk.context.viewPath ⟨.literal text, .normal⟩

theorem exec_appendSection_frame (hwalk : walk.Frames request home slot)
    (h : s.Framed request home scope log sketches) (hholds : s.Holds read slot content t)
    (template : CompiledTemplate) (token : Nat) (name : String) (optional : Bool) :
    ∃ s', exec (walk.appendSection template token name optional) s = (.ok (), s') ∧
      s'.Holds read slot content t ∧
      s'.Framed request home scope log (sketches ++ [printSketch request slot name optional]) := by
  unfold Walk.appendSection printSketch
  by_cases hcontent : name = Config.content
  · rw [if_pos hcontent, if_pos hcontent, hwalk.ofSlot]
    refine ⟨_, Walk.exec_append walk _ .printedContent s, hholds.setSections _ _, ?_⟩
    rw [hwalk.ofRequest, hwalk.active]
    exact h.append _ ⟨.deferred ⟨.content slot optional, template, token⟩, .printedContent⟩
  · rw [if_neg hcontent, if_neg hcontent]
    refine ⟨_, Walk.exec_append walk _ .printedSection s, hholds.setSections _ _, ?_⟩
    rw [hwalk.ofRequest, hwalk.active]
    exact h.append _ ⟨.deferred ⟨.section request name optional, template, token⟩, .printedSection⟩

/-- One part of a layout. -/
theorem exec_frame_act (engine : Engine σ) (wait : PromiseId → Render σ Value)
    (template : CompiledTemplate) {reading : Reading} (hpart : reading.isPart)
    (hwalk : walk.Frames request home slot) (h : s.Framed request home scope log sketches)
    (hholds : s.Holds read slot content t) (token : Nat) :
    ∃ walk' s', exec (walk.act engine wait template token reading) s = (.ok walk', s') ∧
      walk'.Frames request home slot ∧ walk'.stripNext = reading.consumesLine ∧
      s'.Holds read slot content t ∧
      s'.Framed request home scope log
        (sketches ++ reading.sketch request slot walk.stripNext) := by
  match reading, hpart with
  | .text text, _ =>
    obtain ⟨s', hexec, hholds', h'⟩ := exec_appendText_frame hwalk h hholds
      (if walk.stripNext then stripLineEnd text else text)
    refine ⟨{ walk with stripNext := false }, s', ?_, ?_, rfl, hholds', h'⟩
    · exact exec_bind_ok hexec _
    · exact ⟨hwalk.ofRequest, hwalk.active, hwalk.ofSlot, hwalk.layout, hwalk.openTags⟩
  | .render name optional, _ =>
    have hwalk' : Walk.Frames request home slot { walk with stripNext := true } :=
      ⟨hwalk.ofRequest, hwalk.active, hwalk.ofSlot, hwalk.layout, hwalk.openTags⟩
    obtain ⟨s', hexec, hholds', h'⟩ :=
      exec_appendSection_frame hwalk' h hholds template token name optional
    exact ⟨{ walk with stripNext := true }, s', exec_bind_ok hexec _, hwalk', rfl, hholds', h'⟩

/-- All parts of a layout, by induction on the tokens. -/
theorem exec_frame_steps (engine : Engine σ) (wait : PromiseId → Render σ Value)
    {template : CompiledTemplate} (tokens : List Token) (hparts : ∀ part ∈ tokens, (template.reading part).isPart)
    (hwalk : walk.Frames request home slot) (h : s.Framed request home scope log sketches)
    (hholds : s.Holds read slot content t) (token : Nat) :
    ∃ walk' s', exec (Walk.steps engine wait template walk token tokens) s = (.ok walk', s') ∧
      walk'.Frames request home slot ∧ s'.Holds read slot content t ∧
      s'.Framed request home scope log (sketches ++
        Reading.sketches request slot walk.stripNext (tokens.map template.reading)) := by
  induction tokens generalizing walk sketches s token with
  | nil =>
    refine ⟨walk, s, rfl, hwalk, hholds, ?_⟩
    rw [List.map_nil, Reading.sketches, List.append_nil]
    exact h
  | cons part tokens ih =>
    have hpart := hparts part (List.mem_cons_self ..)
    have hrest := fun other hother => hparts other (List.mem_cons_of_mem part hother)
    have hpaired : template.reading part ≠ .paired := by
      intro hpaired
      rw [hpaired] at hpart
      cases hpart
    obtain ⟨walk', s', hact, hwalk', hstrip, hholds', h'⟩ :=
      exec_frame_act engine wait template hpart hwalk h hholds token
    obtain ⟨walk'', s'', hsteps, hwalk'', hholds'', h''⟩ := ih hrest hwalk' h' hholds' (token + 1)
    refine ⟨walk'', s'', ?_, hwalk'', hholds'', ?_⟩
    · unfold Walk.steps
      rw [exec_bind, exec_mapError, Walk.step_eq_act walk token hpaired, hact]
      exact hsteps
    · rw [List.map_cons, Reading.sketches, ← List.append_assoc, ← hstrip]
      exact h''

/-- A whole layout, which writes to a new scope of its section. -/
theorem exec_frame (engine : Engine σ) (wait : PromiseId → Render σ Value)
    {template : CompiledTemplate} {layout : Context}
    (hparts : ∀ reading ∈ template.readings, reading.isPart) (hrequest : layout.request = request)
    (hsection : layout.defaultSection = home) (hslot : layout.slot = some slot)
    (hcollects : s.Collects request home log history) (hholds : s.Holds read slot content t) :
    ∃ walk s', exec (Walk.run engine wait template layout)
        (s.pushed request home layout.viewPath) = (.ok walk, s') ∧
      walk.Frames request home slot ∧ s'.Holds read slot content t ∧
      s'.Framed request home ⟨(s.sections request).scopes.size⟩ log
        (Reading.sketches request slot false template.readings) := by
  have hsections := Store.sections_pushed hcollects.live home layout.viewPath
  have hframed : (s.pushed request home layout.viewPath).Framed request home
      ⟨(s.sections request).scopes.size⟩ log [] := by
    refine ⟨?_, ?_, ?_⟩
    · exact Nat.lt_of_lt_of_eq hcollects.live (Store.requests_size_setSections s request _).symm
    · rw [hsections]
      exact hcollects.routed.push layout.viewPath
    · have hnew : (s.sections request).fragments ⟨(s.sections request).scopes.size⟩ = [] :=
        Sections.fragments_of_le (Nat.le_refl _)
      rw [hsections, Sections.fragments_push, hnew]
      rfl
  obtain ⟨walk, s', hsteps, hwalk, hholds', hframed'⟩ := exec_frame_steps engine wait
    template.tokens (fun part hpart => hparts _ (List.mem_map_of_mem hpart))
    (⟨hrequest, hsection, hslot, rfl, rfl⟩ : (Walk.start layout).Frames request home slot) hframed
    (hholds.setSections request _) 0
  refine ⟨walk, s', ?_, hwalk, hholds', hframed'⟩
  unfold Walk.run
  rw [exec_bind_ok hsteps, hwalk.openTags]
  rfl

end Walks

/-! ## The text -/

/-- The text of what is left in the scope of a layout. -/
def framed (output : Output) : Payload Task × Priority → String
  | (.literal text, _) => text
  | (.deferred (.content ..), _) => output.text
  | (.deferred (.section _ name _), _) => routedTo name output.routed
  | (.deferred (.template _), _) => ""

theorem join_textSketches (output : Output) (text : String) :
    String.join ((textSketches text).map (framed output)) = text := by
  unfold textSketches
  by_cases hempty : text = ""
  · rw [if_pos hempty, hempty]
    rfl
  · rw [if_neg hempty]
    exact String.empty_append

theorem framed_printSketch (output : Output) (request : RequestId) (slot : SlotId) (name : String)
    (optional : Bool) :
    framed output (printSketch request slot name optional) =
      if name = Config.content then output.text else routedTo name output.routed := by
  unfold printSketch
  by_cases hcontent : name = Config.content
  · rw [if_pos hcontent, if_pos hcontent]
    rfl
  · rw [if_neg hcontent, if_neg hcontent]
    rfl

namespace Reading

/-- A part of a layout leaves its text. -/
theorem join_framed_sketch (output : Output) (request : RequestId) (slot : SlotId) (strip : Bool)
    (reading : Reading) :
    String.join ((reading.sketch request slot strip).map (framed output)) =
      reading.value output strip := by
  cases reading with
  | text s => exact join_textSketches output _
  | render name optional =>
    rw [sketch, List.map_singleton, String.join_cons, framed_printSketch]
    exact String.append_empty
  | _ => rfl

/-- The parts of a layout leave its text. -/
theorem join_framed (output : Output) (request : RequestId) (slot : SlotId) (strip : Bool)
    (readings : List Reading) :
    String.join ((sketches request slot strip readings).map (framed output)) =
      fill output strip readings := by
  induction readings generalizing strip with
  | nil => rfl
  | cons reading readings ih =>
    rw [sketches, List.map_append, String.join_append, join_framed_sketch, ih, fill]

/-! ## What is printed -/

theorem eq_of_mem_textSketches {text : String} {entry : Payload Task × Priority}
    (h : entry ∈ textSketches text) : entry = (.literal text, .normal) := by
  unfold textSketches at h
  split at h
  · cases h
  · exact List.mem_singleton.1 h

theorem filter_textSketches {priority : Priority} (h : priority ≠ .normal) (text : String) :
    (textSketches text).filter (·.2 = priority) = [] := by
  refine List.filter_eq_nil_iff.2 fun entry hentry hpriority => ?_
  rw [eq_of_mem_textSketches hentry] at hpriority
  exact h (of_decide_eq_true hpriority).symm

/-- Either the content is printed, or a section. -/
theorem printSketch_cases (request : RequestId) (slot : SlotId) (name : String) (optional : Bool) :
    (printSketch request slot name optional =
        (.deferred (.content slot optional), .printedContent) ∧
      (render name optional).content? = some optional ∧ (render name optional).section? = none) ∨
    (printSketch request slot name optional =
        (.deferred (.section request name optional), .printedSection) ∧
      (render name optional).content? = none ∧
      (render name optional).section? = some (name, optional)) := by
  by_cases hcontent : name = Config.content
  · exact .inl ⟨if_pos hcontent, if_pos hcontent, if_pos hcontent⟩
  · exact .inr ⟨if_neg hcontent, if_neg hcontent, if_neg hcontent⟩

/-- The parts with the priority of the content print it. -/
theorem sketches_content (request : RequestId) (slot : SlotId) (strip : Bool)
    (readings : List Reading) :
    (sketches request slot strip readings).filter (·.2 = .printedContent) =
      (readings.filterMap content?).map fun optional =>
        (.deferred (.content slot optional), .printedContent) := by
  induction readings generalizing strip with
  | nil => rfl
  | cons reading readings ih =>
    rw [sketches, List.filter_append, ih, List.filterMap_cons]
    cases reading with
    | text s =>
      rw [sketch, filter_textSketches (by decide)]
      rfl
    | render name optional =>
      rw [sketch]
      rcases printSketch_cases request slot name optional with ⟨hprint, hcontent, -⟩ |
        ⟨hprint, hcontent, -⟩ <;> rw [hprint, hcontent] <;> rfl
    | _ => rfl

/-- The parts with the priority of sections print these. -/
theorem sketches_section (request : RequestId) (slot : SlotId) (strip : Bool)
    (readings : List Reading) :
    (sketches request slot strip readings).filter (·.2 = .printedSection) =
      (readings.filterMap section?).map fun entry =>
        (.deferred (.section request entry.1 entry.2), .printedSection) := by
  induction readings generalizing strip with
  | nil => rfl
  | cons reading readings ih =>
    rw [sketches, List.filter_append, ih, List.filterMap_cons]
    cases reading with
    | text s =>
      rw [sketch, filter_textSketches (by decide)]
      rfl
    | render name optional =>
      rw [sketch]
      rcases printSketch_cases request slot name optional with ⟨hprint, -, hsection⟩ |
        ⟨hprint, -, hsection⟩ <;> rw [hprint, hsection] <;> rfl
    | _ => rfl

/-- All other parts are texts. -/
theorem sketches_cases {request : RequestId} {slot : SlotId} {strip : Bool}
    {readings : List Reading} {entry : Payload Task × Priority}
    (h : entry ∈ sketches request slot strip readings) :
    entry.2 = .printedContent ∨ entry.2 = .printedSection ∨
      ∃ text, entry = (.literal text, .normal) := by
  induction readings generalizing strip with
  | nil => cases h
  | cons reading readings ih =>
    rcases List.mem_append.1 h with h | h
    · cases reading with
      | text s => exact .inr (.inr ⟨_, eq_of_mem_textSketches h⟩)
      | render name optional =>
        cases List.mem_singleton.1 h
        unfold printSketch
        split
        · exact .inl rfl
        · exact .inr (.inl rfl)
      | _ => cases h
    · exact ih h

end Reading

end TemplateEngine
