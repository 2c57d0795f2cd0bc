import TemplateEngine.Proofs.Engine.Preparation
import TemplateEngine.Proofs.Section.Routing

/-!
# `Engine` · The walk and the plan

The walk of a template and its plan go through the same readings. What the plan lists as pieces, the
walk appends to scopes.

* **`Shows`**: the fragments of a scope are the pieces for its section.
* **`Store.Tracks`**: the state between two readings. The scope of the template shows the pieces of
  the plan, and the scopes of other sections show the texts that are routed to them.
* **`follows_act`** and **`follows_steps`**: one reading, and all of them.
-/

namespace TemplateEngine

open Render TemplateEngine.Text TemplateEngine.Template

variable {σ : Type} {engine : Engine σ}

/-! ## Fragments and pieces -/

/-- What a fragment holds, apart from the token that asked for it. -/
def Fragment.sketch (fragment : Fragment Deferred) : Payload Task × Priority :=
  match fragment.payload with
  | .literal text => (.literal text, fragment.priority)
  | .deferred deferred => (.deferred deferred.task, fragment.priority)

theorem Fragment.eq_of_sketch_literal {fragment : Fragment Deferred} {text : String}
    {priority : Priority} (h : fragment.sketch = (.literal text, priority)) :
    fragment = ⟨.literal text, priority⟩ := by
  obtain ⟨payload, _⟩ := fragment
  cases payload with
  | literal _ =>
    cases h
    rfl
  | deferred _ => cases h

theorem Fragment.eq_of_sketch_deferred {fragment : Fragment Deferred} {task : Task}
    {priority : Priority} (h : fragment.sketch = (.deferred task, priority)) :
    ∃ template token, fragment = ⟨.deferred ⟨task, template, token⟩, priority⟩ := by
  obtain ⟨payload, _⟩ := fragment
  cases payload with
  | literal _ => cases h
  | deferred deferred =>
    cases h
    exact ⟨deferred.template, deferred.token, rfl⟩

/-- What a piece leaves in the scope of the section `home`. -/
def Piece.sketch? (home : String) : Piece → Option (Payload Task × Priority)
  | .text name s => if name = home ∧ s ≠ "" then some (.literal s, .normal) else none
  | .nested context => some (.deferred (.template context), .nestedView)

/-- The fragments of a scope are those pieces that are for the section `home`. -/
def Shows (home : String) (fragments : List (Fragment Deferred)) (pieces : List Piece) : Prop :=
  fragments.map Fragment.sketch = pieces.filterMap (Piece.sketch? home)

theorem Shows.nil (home : String) : Shows home [] [] := rfl

theorem Shows.append {home : String} {fragments more : List (Fragment Deferred)}
    {pieces rest : List Piece} (h : Shows home fragments pieces) (h' : Shows home more rest) :
    Shows home (fragments ++ more) (pieces ++ rest) := by
  unfold Shows
  rw [List.map_append, List.filterMap_append, h, h']

/-- The first piece leaves nothing, or the first fragment. -/
theorem Shows.cons_cases {home : String} {fragments : List (Fragment Deferred)} {piece : Piece}
    {rest : List Piece} (h : Shows home fragments (piece :: rest)) :
    (piece.sketch? home = none ∧ Shows home fragments rest) ∨
      ∃ fragment more, fragments = fragment :: more ∧ piece.sketch? home = some fragment.sketch ∧
        Shows home more rest := by
  unfold Shows at h
  rw [List.filterMap_cons] at h
  rcases hsketch : piece.sketch? home with _ | sketch
  · rw [hsketch] at h
    exact .inl ⟨rfl, h⟩
  · rw [hsketch] at h
    obtain ⟨fragment, more, rfl, hfragment, hmore⟩ := List.map_eq_cons_iff.1 h
    exact .inr ⟨fragment, more, rfl, by rw [hfragment], hmore⟩

theorem routed_append (home : String) (pieces rest : List Piece) :
    routed home (pieces ++ rest) = routed home pieces ++ routed home rest :=
  List.filterMap_append

/-! ## The state between two readings -/

/-- The walk is where the plan is. -/
structure Walk.Tracks (walk : Walk) (plan : Plan) : Prop where
  /-- It has the same context. -/
  context : walk.context = plan.context
  /-- Output goes to the same section. -/
  active : walk.active = plan.active
  /-- The same layout was asked for. -/
  layout : walk.layout.map LayoutRequest.path = plan.layout
  /-- The same literals lose a line terminator. -/
  stripNext : walk.stripNext = plan.stripNext
  /-- No tag is open. -/
  openTags : walk.openTags = []

/-- The sections of a request while a template is walked that writes to `scope`. -/
structure Store.Tracks (request : RequestId) (home : String) (scope : ScopeId)
    (log : List (String × String)) (history : List (Option ScopeId)) (plan : Plan)
    (s : Store σ) : Prop where
  /-- The request exists. -/
  live : request.index < s.requests.size
  /-- Texts for other sections are shown by these. -/
  writing : (s.sections request).Writing home scope (log ++ routed home plan.pieces)
  /-- Texts for the section of the template and nested templates are shown by its scope. -/
  shows : Shows home ((s.sections request).fragments scope) plan.pieces
  /-- The section of the template was not pushed or popped. -/
  history : ((s.sections request).stack home).history = history

/-- What is known of the contexts of a template and of those that it nests. -/
structure Guides (engine : Engine σ) (home : String) (here known : Context → Prop)
    (readings : List Reading) : Prop where
  /-- A new name for a directory changes nothing. -/
  base : ∀ context name path directory, here context → .base name path ∈ readings →
    Engine.resolveDirectory context path = .ok directory →
      here { context with basePaths := context.basePaths.insert name directory }
  /-- Nested templates are known. -/
  nest : ∀ context invocation child, here context → .nest invocation ∈ readings →
    Nested engine context home invocation child → known child

/-- A context of a request that writes to the section `home` and is not too deep. -/
structure Context.Fits (engine : Engine σ) (request : RequestId) (home : String)
    (context : Context) : Prop where
  /-- It is of the request. -/
  ofRequest : context.request = request
  /-- It writes to the section. -/
  ofSection : context.defaultSection = home
  /-- It is not too deep. -/
  bounded : context.depth ≤ engine.config.maxDepth

/-- What a plan knows of its context and of nested ones. -/
structure Plan.Keeps (engine : Engine σ) (request : RequestId) (home : String) (depth : Nat)
    (here known : Context → Prop) (plan : Plan) : Prop where
  /-- The context fits. -/
  fits : plan.context.Fits engine request home
  /-- It is so deep. -/
  level : plan.context.depth = depth
  /-- It is known where it is. -/
  here : here plan.context
  /-- Nested contexts are known, and one level deeper. -/
  nested : ∀ child, .nested child ∈ plan.pieces →
    child.Fits engine request home ∧ known child ∧ child.depth = depth + 1

section Steps

variable {request : RequestId} {home : String} {scope : ScopeId} {log : List (String × String)}
  {history : List (Option ScopeId)} {depth : Nat} {here known : Context → Prop}
  {walk : Walk} {plan : Plan} {s t : Store σ}

theorem Store.Tracks.rests {s' : Store σ} (h : s.Tracks request home scope log history plan)
    (hrests : s.Rests s') : s'.Tracks request home scope log history plan where
  live := Nat.lt_of_lt_of_eq h.live hrests.requests.symm
  writing := by
    rw [hrests.sections]
    exact h.writing
  shows := by
    rw [hrests.sections]
    exact h.shows
  history := by
    rw [hrests.sections]
    exact h.history

/-- Other plans with the same pieces are tracked too. -/
theorem Store.Tracks.congr {plan' : Plan} (h : s.Tracks request home scope log history plan)
    (hpieces : plan'.pieces = plan.pieces) : s.Tracks request home scope log history plan' where
  live := h.live
  writing := by
    rw [hpieces]
    exact h.writing
  shows := by
    rw [hpieces]
    exact h.shows
  history := h.history

/-- The store after an append. -/
def Store.appended (s : Store σ) (request : RequestId) (name owner : String)
    (fragment : Fragment Deferred) : Store σ :=
  s.setSections request ((s.sections request).add name owner fragment).2

theorem Walk.exec_append (walk : Walk) (payload : Payload Deferred) (priority : Priority)
    (s : Store σ) :
    exec (walk.append payload priority) s =
      (.ok (), s.appended walk.context.request walk.active walk.context.viewPath
        ⟨payload, priority⟩) := rfl

/-- An append to the scope of the template is one more piece. -/
theorem Store.Tracks.append_home {owner : String} {fragment : Fragment Deferred} (piece : Piece)
    {plan' : Plan} (h : s.Tracks request home scope log history plan)
    (hpiece : piece.sketch? home = some fragment.sketch)
    (hpieces : plan'.pieces = plan.pieces ++ [piece]) :
    (s.appended request home owner fragment).Tracks request home scope log history plan' := by
  have hsections := sections_setSections_self h.live
    ((s.sections request).add home owner fragment).2
  have hrouted : routed home [piece] = [] := by
    unfold routed
    cases piece with
    | nested context => rfl
    | text name text =>
      by_cases hname : name = home ∧ text ≠ ""
      · simp [Piece.routed?, hname.1]
      · simp [Piece.sketch?, hname] at hpiece
  obtain ⟨hwriting, hfragments⟩ := h.writing.add_home owner fragment
  have hone : Shows home [fragment] [piece] := by
    unfold Shows
    simp [hpiece]
  refine ⟨?_, ?_, ?_, ?_⟩
  · exact Nat.lt_of_lt_of_eq h.live (requests_size_setSections s request _).symm
  · unfold Store.appended
    rw [hsections, hpieces, routed_append, hrouted, List.append_nil]
    exact hwriting
  · unfold Store.appended
    rw [hsections, hpieces, hfragments]
    exact h.shows.append hone
  · unfold Store.appended
    rw [hsections, Sections.history_add]
    exact h.history

/-- An append of text to another section is one more routed text. -/
theorem Store.Tracks.append_other {owner name text : String} {plan' : Plan}
    (h : s.Tracks request home scope log history plan) (hname : name ≠ home) (htext : text ≠ "")
    (hpieces : plan'.pieces = plan.pieces ++ [.text name text]) :
    (s.appended request name owner (Sections.literal text)).Tracks request home scope log history
      plan' := by
  have hsections := sections_setSections_self h.live
    ((s.sections request).add name owner (Sections.literal text)).2
  have hrouted : routed home [.text name text] = [(name, text)] := by
    simp [routed, Piece.routed?, hname]
  obtain ⟨hwriting, hfragments⟩ := h.writing.add_other hname owner htext
  have hone : Shows home [] [.text name text] := by
    unfold Shows
    simp [Piece.sketch?, hname]
  refine ⟨?_, ?_, ?_, ?_⟩
  · exact Nat.lt_of_lt_of_eq h.live (requests_size_setSections s request _).symm
  · unfold Store.appended
    rw [hsections, hpieces, routed_append, hrouted, ← List.append_assoc]
    exact hwriting
  · unfold Store.appended
    rw [hsections, hpieces, hfragments, ← List.append_nil (Sections.fragments _ _)]
    exact h.shows.append hone
  · unfold Store.appended
    rw [hsections, Sections.history_add]
    exact h.history

/-- An empty text is one more piece that leaves no trace. -/
theorem Store.Tracks.append_empty {name : String} {plan' : Plan}
    (h : s.Tracks request home scope log history plan)
    (hpieces : plan'.pieces = plan.pieces ++ [.text name ""]) :
    s.Tracks request home scope log history plan' := by
  have hone : Shows home [] [.text name ""] := by
    unfold Shows
    simp [Piece.sketch?]
  refine ⟨h.live, ?_, ?_, h.history⟩
  · rw [hpieces, routed_append, ← List.append_assoc]
    by_cases hname : name = home
    · have hrouted : routed home [.text name ""] = [] := by simp [routed, Piece.routed?, hname]
      rw [hrouted, List.append_nil]
      exact h.writing
    · have hrouted : routed home [.text name ""] = [(name, "")] := by
        simp [routed, Piece.routed?, hname]
      rw [hrouted]
      exact h.writing.add_empty name
  · rw [hpieces, ← List.append_nil (Sections.fragments _ _)]
    exact h.shows.append hone

/-- Appending a text keeps the walk on the plan. -/
theorem exec_appendText (walk : Walk) (h : s.Tracks request home scope log history plan)
    (halike : s.Alike engine.read t) (hrequest : walk.context.request = request)
    (hactive : walk.active = plan.active) (text : String) :
    ∃ s', exec (walk.appendText text) s = (.ok (), s') ∧ s'.Alike engine.read t ∧
      s'.Tracks request home scope log history (plan.put text) := by
  unfold Walk.appendText
  by_cases hempty : text = ""
  · subst hempty
    exact ⟨s, rfl, halike, h.append_empty rfl⟩
  · have hisEmpty : text.isEmpty = false := by simpa using hempty
    rw [hisEmpty]
    refine ⟨_, Walk.exec_append walk (.literal text) .normal s, halike.setSections _ _, ?_⟩
    rw [hrequest, hactive]
    by_cases hhome : plan.active = home
    · rw [hhome]
      refine h.append_home (.text home text) ?_ ?_
      · simp [Piece.sketch?, hempty, Fragment.sketch]
      · rw [← hhome]
        rfl
    · exact h.append_other hhome hempty rfl

end Steps

/-! ## Readings -/

section Readings

variable {request : RequestId} {home : String} {scope : ScopeId} {log : List (String × String)}
  {history : List (Option ScopeId)} {depth : Nat} {here known : Context → Prop}
  {template : CompiledTemplate} {wait : PromiseId → Render σ Value} {readings rest : List Reading}
  {walk : Walk} {plan : Plan} {s t : Store σ}

/-- The walk is on the plan, and the store shows it. -/
structure Along (engine : Engine σ) (request : RequestId) (home : String) (scope : ScopeId)
    (log : List (String × String)) (history : List (Option ScopeId)) (depth : Nat)
    (here known : Context → Prop) (walk : Walk) (plan : Plan) (s : Store σ) : Prop where
  /-- The walk is where the plan is. -/
  onPlan : walk.Tracks plan
  /-- The plan knows its contexts. -/
  keeps : plan.Keeps engine request home depth here known
  /-- The sections show the pieces of the plan. -/
  tracks : s.Tracks request home scope log history plan

namespace Plan.Keeps

variable {plan' : Plan}

/-- A reading that is no output makes no difference. -/
theorem congr (h : plan.Keeps engine request home depth here known)
    (hcontext : plan'.context = plan.context) (hpieces : plan'.pieces = plan.pieces) :
    plan'.Keeps engine request home depth here known where
  fits := hcontext ▸ h.fits
  level := hcontext ▸ h.level
  here := hcontext ▸ h.here
  nested := hpieces ▸ h.nested

/-- Neither does another text. -/
theorem put (h : plan.Keeps engine request home depth here known) (text : String) :
    (plan.put text).Keeps engine request home depth here known where
  fits := h.fits
  level := h.level
  here := h.here
  nested child hchild := by
    rcases List.mem_append.1 hchild with hchild | hchild
    · exact h.nested child hchild
    · cases List.mem_singleton.1 hchild

end Plan.Keeps

/-- A nested template that is prepared is one more piece. -/
theorem follows_invoke (hengine : engine.Interprets)
    (hguides : Guides engine home here known readings)
    (hwait : ∀ id, Mirrors engine.read (wait id) (engine.settle id)) {invocation : Invocation}
    (hmem : .nest invocation ∈ readings) (hcontext : walk.context = plan.context)
    (hactive : walk.active = home) (hkeeps : plan.Keeps engine request home depth here known)
    (htracks : s.Tracks request home scope log history plan) (halike : s.Alike engine.read t)
    (token : Nat) :
    Follows engine.read (walk.invoke engine wait template token invocation)
      ((Walk.start plan.context).prepare engine engine.settle invocation) s t
      fun _ child s' =>
        (child.Fits engine request home ∧ known child ∧ child.depth = depth + 1) ∧
          s'.Tracks request home scope log history
            { plan with stripNext := true, pieces := plan.pieces ++ [.nested child] } := by
  have hsection : walk.active = walk.context.defaultSection := by
    rw [hactive, hcontext, hkeeps.fits.ofSection]
  have hprepare := (Follows.of_mirrors (Mirrors.prepare hengine hwait (Walk.start plan.context)
    invocation) halike).and (ensures_prepare wait (Walk.start plan.context) invocation s)
  unfold Walk.invoke
  rw [Walk.prepare_eq_start hsection, hcontext, ← bind_pure (Walk.prepare engine engine.settle _ _)]
  refine hprepare.bind fun child _ s' t' halike' ⟨⟨hsame, hrests⟩, hnested⟩ => ?_
  subst hsame
  have hchild : Nested engine plan.context home invocation child := hkeeps.fits.ofSection ▸ hnested
  have hfits : child.Fits engine request home :=
    ⟨hchild.request.trans hkeeps.fits.ofRequest, hchild.defaultSection, hchild.bounded⟩
  have hrequest : walk.context.request = request := by
    rw [hcontext, hkeeps.fits.ofRequest]
  have hexec : exec (walk.appendTask template token (.template child) .nestedView) s' = _ :=
    Walk.exec_append walk _ _ s'
  rw [hrequest, hactive] at hexec
  refine .ended hexec rfl (halike'.setSections _ _) ⟨⟨hfits, ?_, ?_⟩, ?_⟩
  · exact hguides.nest plan.context invocation child hkeeps.here hmem hchild
  · rw [hchild.depth, hkeeps.level]
  · exact (htracks.rests hrests).append_home (.nested child) rfl rfl

/-- One reading: the walk and the plan end alike, and the walk is on the plan again. -/
theorem follows_act (template : CompiledTemplate) (hengine : engine.Interprets)
    (hguides : Guides engine home here known readings)
    (hwait : ∀ id, Mirrors engine.read (wait id) (engine.settle id)) {reading : Reading}
    (hmem : reading ∈ readings) (hhome : Reading.AtHome home plan.active (reading :: rest))
    (halong : Along engine request home scope log history depth here known walk plan s)
    (halike : s.Alike engine.read t) (token : Nat) :
    Follows engine.read (walk.act engine wait template token reading)
      (plan.step engine engine.settle reading) s t
      fun walk' plan' s' => Reading.AtHome home plan'.active rest ∧
        Along engine request home scope log history depth here known walk' plan' s' := by
  obtain ⟨hwalk, hkeeps, htracks⟩ := halong
  obtain ⟨context, active, layout, openTags, stripNext⟩ := walk
  obtain ⟨hcontext, hactive, hlayout, hstrip, hopen⟩ := hwalk
  dsimp only at hcontext hactive hlayout hstrip hopen
  subst hcontext hactive hstrip hopen
  match reading, hmem, hhome with
  | .text text, _, hhome =>
    obtain ⟨s', hexec, halike', htracks'⟩ := exec_appendText
      ⟨plan.context, plan.active, layout, [], plan.stripNext⟩ htracks halike
      hkeeps.fits.ofRequest rfl (if plan.stripNext then stripLineEnd text else text)
    exact .bind_left hexec
      (.pure halike' ⟨hhome, ⟨rfl, rfl, hlayout, rfl, rfl⟩, hkeeps.put _, htracks'⟩)
  | .fault error, _, _ => exact .raise halike (.refl error)
  | .expression source, _, hhome =>
    have hevaluate := Follows.of_mirrors
      (Mirrors.evaluate hengine hwait plan.context.scope source) halike
    refine hevaluate.bind fun text text' s' t' halike' hsame => ?_
    obtain ⟨rfl, hrests⟩ := hsame
    obtain ⟨s'', hexec, halike'', htracks'⟩ := exec_appendText
      ⟨plan.context, plan.active, layout, [], plan.stripNext⟩ (htracks.rests hrests)
      halike' hkeeps.fits.ofRequest rfl text
    exact .bind_left hexec
      (.pure halike'' ⟨hhome, ⟨rfl, rfl, hlayout, rfl, rfl⟩, hkeeps.put _, htracks'⟩)
  | .effect source, _, hhome =>
    rcases hempty : source.isEmpty with _ | _
    · have hevaluate := Follows.of_mirrors
        (Mirrors.evaluateValue hengine hwait plan.context.scope source) halike
      simp only [Walk.act, Walk.direct, Plan.step, hempty, Bool.not_false, if_true]
      refine hevaluate.bind fun _ _ s' t' halike' ⟨_, hrests⟩ => ?_
      exact .pure halike' ⟨hhome, ⟨rfl, rfl, hlayout, rfl, rfl⟩, hkeeps.congr rfl rfl,
        (htracks.rests hrests).congr rfl⟩
    · simp only [Walk.act, Walk.direct, Plan.step, hempty]
      exact .pure halike ⟨hhome, ⟨rfl, rfl, hlayout, rfl, rfl⟩, hkeeps.congr rfl rfl,
        htracks.congr rfl⟩
  | .base name path, hmem, hhome =>
    have hresolve : Follows engine.read (σ := σ)
        (ofExcept (Engine.resolveDirectory plan.context path))
        (ofExcept (Engine.resolveDirectory plan.context path)) s t
        fun directory directory' s' => directory = directory' ∧ s' = s ∧
          Engine.resolveDirectory plan.context path = .ok directory :=
      .ofExcept halike fun directory h => ⟨rfl, rfl, h⟩
    refine hresolve.bind fun directory _ _ t' halike' ⟨hsame, hs, hok⟩ => ?_
    subst hsame hs
    have hhere := hguides.base plan.context name path directory hkeeps.here hmem hok
    obtain ⟨⟨hrequest, hsection, hbounded⟩, hlevel, -, hnested⟩ := hkeeps
    exact .pure halike' ⟨hhome, ⟨rfl, rfl, hlayout, rfl, rfl⟩,
      ⟨⟨hrequest, hsection, hbounded⟩, hlevel, hhere, hnested⟩, htracks.congr rfl⟩
  | .layout path, hmem, hhome =>
    rcases layout with _ | existing
    · have hnone : plan.layout = none := hlayout.symm
      unfold Plan.step
      rw [hnone]
      exact .pure halike ⟨hhome, ⟨rfl, rfl, rfl, rfl, rfl⟩,
        hkeeps.congr rfl rfl, htracks.congr rfl⟩
    · have hsome : plan.layout = some existing.path := hlayout.symm
      unfold Plan.step
      rw [hsome]
      exact .raise halike (.refl _)
  | .section name, _, hhome =>
    exact .pure halike ⟨hhome, ⟨rfl, rfl, hlayout, rfl, rfl⟩, hkeeps.congr rfl rfl,
      htracks.congr rfl⟩
  | .nest invocation, hmem, hhome =>
    obtain ⟨hactive, hhome⟩ := hhome
    refine (follows_invoke hengine hguides hwait hmem rfl hactive hkeeps htracks halike token).bind
      fun _ child s' t' halike' ⟨hchild, htracks'⟩ => ?_
    refine .pure halike' ⟨hhome, ⟨rfl, rfl, hlayout, rfl, rfl⟩,
      ⟨hkeeps.fits, hkeeps.level, hkeeps.here, fun other hother => ?_⟩, htracks'⟩
    rcases List.mem_append.1 hother with hother | hother
    · exact hkeeps.nested other hother
    · cases List.mem_singleton.1 hother
      exact hchild
  | .render name optional, _, hhome => exact hhome.elim
  | .paired, _, hhome => exact hhome.elim

/-- The walk never sees a paired tag. -/
theorem Reading.AtHome.ne_paired {reading : Reading} {active : String}
    (h : Reading.AtHome home active (reading :: rest)) : reading ≠ .paired := by
  rintro rfl
  exact h

/-- All readings: by induction on the tokens, the walk stays on the plan. -/
theorem follows_steps (hengine : engine.Interprets)
    (hguides : Guides engine home here known readings)
    (hwait : ∀ id, Mirrors engine.read (wait id) (engine.settle id)) (tokens : List Token)
    (hmem : ∀ part ∈ tokens, template.reading part ∈ readings)
    (hhome : Reading.AtHome home plan.active (tokens.map template.reading))
    (halong : Along engine request home scope log history depth here known walk plan s)
    (halike : s.Alike engine.read t) (token : Nat) :
    Follows engine.read (Walk.steps engine wait template walk token tokens)
      ((tokens.map template.reading).foldlM (Plan.step engine engine.settle) plan) s t
      (Along engine request home scope log history depth here known) := by
  induction tokens generalizing walk plan s t token with
  | nil => exact .pure halike halong
  | cons part tokens ih =>
    have hact := follows_act template hengine hguides hwait
      (hmem part (List.mem_cons_self ..)) hhome halong halike token
    rw [← Walk.step_eq_act walk token hhome.ne_paired] at hact
    rw [List.map_cons, List.foldlM_cons]
    unfold Walk.steps
    refine (hact.mapError fun error => Error.similar_locate template token error).bind
      fun walk' plan' s' t' halike' ⟨hhome', halong'⟩ => ?_
    exact ih (fun other hother => hmem other (List.mem_cons_of_mem part hother)) hhome' halong'
      halike' (token + 1)

/-- A whole template. -/
theorem follows_run (hengine : engine.Interprets) {context : Context}
    (hguides : Guides engine home here known template.readings)
    (hwait : ∀ id, Mirrors engine.read (wait id) (engine.settle id))
    (hhome : Reading.AtHome home home template.readings)
    (hfits : context.Fits engine request home) (hhere : here context)
    (hwriting : (s.sections request).Writing home scope log)
    (hfragments : (s.sections request).fragments scope = [])
    (hhistory : ((s.sections request).stack home).history = history)
    (hlive : request.index < s.requests.size) (halike : s.Alike engine.read t) :
    Follows engine.read (Walk.run engine wait template context) (engine.plan context template) s t
      fun walk plan s' => Along engine request home scope log history context.depth here known
          walk plan s' ∧
        plan.layout = template.readings.findSome? (·.layout? engine) := by
  have halong : Along engine request home scope log history context.depth here known
      (.start context) (.start context) s := by
    refine ⟨⟨rfl, rfl, rfl, rfl, rfl⟩, ⟨hfits, rfl, hhere, nofun⟩, ⟨hlive, ?_, ?_, hhistory⟩⟩
    · rw [show routed home (Plan.start context).pieces = [] from rfl, List.append_nil]
      exact hwriting
    · rw [hfragments]
      exact .nil home
  have hsteps := follows_steps hengine hguides hwait template.tokens
    (fun part hpart => List.mem_map_of_mem hpart)
    (show Reading.AtHome home (Plan.start context).active _ from hfits.ofSection ▸ hhome)
    halong halike 0
  have hlayout := Plan.ensures_layout engine engine.settle template.readings
    (.start context) t
  unfold Walk.run Engine.plan
  rw [← bind_pure (List.foldlM _ _ _)]
  refine (hsteps.and_right hlayout).bind fun walk plan s' t' halike' ⟨halong', hplan⟩ => ?_
  rw [halong'.onPlan.openTags]
  exact .pure halike' ⟨halong', hplan⟩

end Readings

end TemplateEngine
