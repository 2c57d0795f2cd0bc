import TemplateEngine.Proofs.Engine.Frame

/-!
# `Engine` · What a layout prints

The parts of a layout are produced when it has been walked: the content first, and then the
sections, wherever they stand.

* **`exec_renderContent`**: the content is rendered where it is first printed, and all templates of
  the page with it.
* **`exec_renderSection`**: a section prints what was routed to it, and leaves the others as they
  are.
* **`exec_parts`**: hence the sections have everything that the page routed to them.
-/

namespace TemplateEngine

open Render TemplateEngine.Text TemplateEngine.Template

variable {σ : Type} {engine : Engine σ} {request : RequestId} {home : String} {slot : SlotId}
  {content : List (Fragment Deferred)} {log : List (String × String)}
  {history : List (Option ScopeId)} {run : Task → Render σ String} {s s' t : Store σ}
  {text : String}

/-! ## The content -/

/-- The content that waits is rendered when it is printed. Until then the stores are alike, and
nothing but its slot changes afterwards. -/
theorem exec_renderContent {read : String → Except Error String}
    (hholds : s.Holds read slot content t) {optional : Bool}
    (h : exec (Engine.renderContent run slot optional) s = (.ok text, s')) :
    ∃ s₁ s₂, s₁.Alike read t ∧ s.Rests s₁ ∧
      exec (renderFragments (runDeferred run) content) s₁ = (.ok text, s₂) ∧ s₂.Rests s' := by
  have hslots : ((s.slots.modify slot.index fun slot => { slot with consumed := true }).modify
      slot.index fun slot => { slot with state := .running }).map Slot.state =
        (s.running slot).slots.map Slot.state := by
    apply Array.ext_getElem?
    intro i
    unfold Store.running
    simp only [Array.getElem?_map, Array.getElem?_modify]
    by_cases hi : slot.index = i
    · simp only [hi, if_true, Option.map_map]
      rfl
    · simp only [hi, if_false]
  unfold Engine.renderContent at h
  rw [exec_bind_ok (exec_consume slot s), hholds.waits] at h
  dsimp only [Option.any_some] at h
  rw [if_neg Bool.false_ne_true] at h
  unfold readSlot at h
  rw [exec_bind_ok (exec_slot? slot _)] at h
  have hpending : (s.slots.modify slot.index fun slot => { slot with consumed := true })[slot.index]? =
      some ⟨.pending content, true⟩ := by
    rw [Array.getElem?_modify, if_pos rfl, hholds.waits]
    rfl
  rw [hpending] at h
  dsimp only [Option.map_some] at h
  rw [exec_bind_ok (exec_changeSlot slot _ _)] at h
  obtain ⟨result, s₂, hresult, hrest⟩ := exec_bind_eq_ok h
  rw [exec_bind_ok (exec_changeSlot slot _ _)] at hrest
  cases result with
  | error error => cases hrest
  | ok value =>
    cases hrest
    exact ⟨_, s₂, hholds.alike.withSlots hslots, .of_requests rfl, exec_attempt_eq_ok hresult,
      .of_requests rfl⟩

/-! ## Sections -/

/-- The text of a fragment, if it is a literal. -/
def Fragment.literalText (fragment : Fragment Deferred) : String :=
  match fragment.payload with
  | .literal text => text
  | .deferred _ => ""

theorem join_literalsFor (name : String) (log : List (String × String)) :
    String.join ((Sections.literalsFor name log).map Fragment.literalText) = routedTo name log := by
  induction log with
  | nil => rfl
  | cons entry log ih =>
    unfold Sections.literalsFor routedTo at ih ⊢
    rw [List.filterMap_cons, List.filter_cons]
    by_cases hname : entry.1 = name
    · by_cases hempty : entry.2 = ""
      · rw [if_neg fun h => h.2 hempty, if_pos (decide_eq_true hname), List.map_cons,
          String.join_cons, hempty, String.empty_append]
        exact ih
      · rw [if_pos ⟨hname, hempty⟩, if_pos (decide_eq_true hname), List.map_cons, List.map_cons,
          String.join_cons, String.join_cons, ih]
        rfl
    · rw [if_neg fun h => hname h.1, if_neg fun h => hname (of_decide_eq_true h)]
      exact ih

theorem renderFragments_literalsFor (name : String) (log : List (String × String)) :
    renderFragments (runDeferred run) (Sections.literalsFor name log) =
      pure (routedTo name log) := by
  have hliteral : ∀ fragment ∈ Sections.literalsFor name log,
      fragment.payload = .literal fragment.literalText := by
    intro fragment hfragment
    obtain ⟨entry, -, hentry⟩ := List.mem_filterMap.1 hfragment
    split at hentry
    · cases hentry
      rfl
    · cases hentry
  rw [renderFragments_literals hliteral, join_literalsFor]

/-- A section that shows nothing prints nothing. -/
theorem routedTo_of_literalsFor_nil {name : String}
    (h : Sections.literalsFor (δ := Deferred) name log = []) : routedTo name log = "" := by
  rw [← join_literalsFor, h]
  rfl

/-- A section prints the texts that it shows, and the others keep theirs. -/
theorem exec_renderSection {name : String} {optional : Bool} (hlive : request.index < s.requests.size)
    (hshown : (s.sections request).shown name = Sections.literalsFor name log)
    (h : exec (Engine.renderSection run request name optional) s = (.ok text, s')) :
    text = routedTo name log ∧ request.index < s'.requests.size ∧
      ∀ other, other ≠ name → (s'.sections request).shown other = (s.sections request).shown other := by
  unfold Engine.renderSection at h
  obtain ⟨taken, s₁, htake, h⟩ := exec_bind_eq_ok h
  rw [exec_trySections] at htake
  rcases htaken : (s.sections request).takeCurrent name with fault | ⟨scope?, sections⟩
  · rw [htaken] at htake
    cases htake
    have htext := routedTo_of_literalsFor_nil
      (hshown.symm.trans (Sections.shown_of_takeCurrent_error htaken))
    cases optional with
    | false => cases h
    | true =>
      cases h
      exact ⟨htext.symm, hlive, fun _ _ => rfl⟩
  · rw [htaken] at htake
    cases htake
    have hsections := Store.sections_setSections_self hlive sections
    have hlive' : request.index < (s.setSections request sections).requests.size :=
      Nat.lt_of_lt_of_eq hlive (Store.requests_size_setSections s request sections).symm
    have hother : ∀ other, other ≠ name →
        ((s.setSections request sections).sections request).shown other =
          (s.sections request).shown other := by
      intro other hne
      rw [hsections]
      exact Sections.shown_takeCurrent_of_ne htaken hne
    have hscope := Sections.shown_of_takeCurrent htaken
    cases scope? with
    | none =>
      have htext := routedTo_of_literalsFor_nil (hshown.symm.trans hscope)
      cases optional with
      | false => cases h
      | true =>
        cases h
        exact ⟨htext.symm, hlive', hother⟩
    | some scope =>
      have hfragments : sections.fragments scope = Sections.literalsFor name log := by
        obtain ⟨-, rfl⟩ := Sections.takeCurrent_cases htaken
        exact hscope.symm.trans hshown
      dsimp only at h
      unfold renderScope at h
      have hnoted : ((s.setSections request sections).noted (.taken request name scope)).sections
          request = sections := hsections
      rw [exec_bind_ok (exec_note _ _), exec_bind_ok (exec_withSections _ _ _), hnoted, hfragments,
        renderFragments_literalsFor] at h
      cases h
      exact ⟨rfl, hlive', hother⟩

/-! ## Parts -/

/-- A deferred piece that is produced has a text, and the others are produced after it. -/
theorem exec_produceAll_deferred {deferred : Deferred} {priority : Priority} {place : Nat}
    {rest : List (Fragment Deferred × Nat)} {texts : List (String × Nat)}
    (h : exec (produceAll (runDeferred run) ((⟨.deferred deferred, priority⟩, place) :: rest)) s =
      (.ok texts, s')) :
    ∃ text s₁ texts', exec (run deferred.task) s = (.ok text, s₁) ∧
      exec (produceAll (runDeferred run) rest) s₁ = (.ok texts', s') ∧
      texts = (text, place) :: texts' := by
  unfold produceAll at h
  obtain ⟨text, s₁, htext, h⟩ := exec_bind_eq_ok h
  obtain ⟨texts', s₂, hrest, h⟩ := exec_bind_eq_ok h
  cases h
  exact ⟨text, s₁, texts', exec_mapError_eq_ok htext, hrest, rfl⟩

/-- Sections with different names print all that was routed to them, by induction on these. -/
theorem exec_printed_sections (output : Output) (entries : List (String × Bool))
    {placed : List (Fragment Deferred × Nat)} {texts : List (String × Nat)}
    (hplaced : placed.map (fun piece => piece.1.sketch) = entries.map fun entry =>
      (.deferred (.section request entry.1 entry.2), .printedSection))
    (hdistinct : (entries.map Prod.fst).Nodup) (hlive : request.index < s.requests.size)
    (hshown : ∀ name ∈ entries.map Prod.fst,
      (s.sections request).shown name = Sections.literalsFor name output.routed)
    (h : exec (produceAll (runDeferred (engine.perform run)) placed) s = (.ok texts, s')) :
    texts = placed.map fun piece => (framed output piece.1.sketch, piece.2) := by
  induction entries generalizing placed texts s with
  | nil =>
    obtain rfl : placed = [] := List.map_eq_nil_iff.1 hplaced
    cases h
    rfl
  | cons entry entries ih =>
    obtain ⟨⟨fragment, place⟩, others, rfl, hfragment, hothers⟩ := List.map_eq_cons_iff.1 hplaced
    obtain ⟨template, token, rfl⟩ := Fragment.eq_of_sketch_deferred hfragment
    obtain ⟨hnew, hdistinct⟩ := List.nodup_cons.1 hdistinct
    obtain ⟨text, s₁, texts', htext, hrest, rfl⟩ := exec_produceAll_deferred h
    have hname := hshown entry.1 (List.mem_cons_self ..)
    obtain ⟨rfl, hlive, hother⟩ := exec_renderSection hlive hname htext
    rw [List.map_cons, ih hothers hdistinct hlive ?_ hrest]
    · rfl
    · intro name hmem
      have hne : name ≠ entry.1 := fun heq => hnew (heq ▸ hmem)
      rw [hother name hne]
      exact hshown name (List.mem_cons_of_mem entry.1 hmem)

theorem Fragment.sketch_snd (fragment : Fragment Deferred) :
    fragment.sketch.2 = fragment.priority := by
  unfold Fragment.sketch
  cases fragment.payload <;> rfl

/-- What the fragments of a priority hold. -/
theorem map_sketch_ranked (priority : Priority) (parts : List (Fragment Deferred)) :
    (ranked priority parts.zipIdx).map (fun piece => piece.1.sketch) =
      (parts.map Fragment.sketch).filter (·.2 = priority) := by
  have hsketches : (parts.map Fragment.sketch).filter (·.2 = priority) =
      (parts.filter (·.priority = priority)).map Fragment.sketch := by
    rw [List.filter_map]
    congr 1
    refine List.filter_congr fun fragment _ => ?_
    rw [Function.comp_apply, Fragment.sketch_snd]
  rw [hsketches, ← map_fst_ranked, List.map_map]
  rfl

section Laid

variable {parts : List (Fragment Deferred)} {readings : List Reading}

/-- The content and sections are deferred, and everything else is a literal. -/
theorem parts_cases
    (hparts : parts.map Fragment.sketch = Reading.sketches request slot false readings)
    {fragment : Fragment Deferred} (hmem : fragment ∈ parts) :
    fragment.priority = .printedContent ∨ fragment.priority = .printedSection ∨
      ∃ text, fragment = ⟨.literal text, .normal⟩ := by
  have hsketch : fragment.sketch ∈ Reading.sketches request slot false readings :=
    hparts ▸ List.mem_map_of_mem hmem
  rw [← Fragment.sketch_snd]
  refine (Reading.sketches_cases hsketch).imp_right (Or.imp_right ?_)
  rintro ⟨text, htext⟩
  exact ⟨text, Fragment.eq_of_sketch_literal htext⟩

theorem parts_normal
    (hparts : parts.map Fragment.sketch = Reading.sketches request slot false readings)
    {fragment : Fragment Deferred} (hmem : fragment ∈ parts) (hnormal : fragment.priority = .normal) :
    ∃ text, fragment = ⟨.literal text, .normal⟩ := by
  rcases parts_cases hparts hmem with hcontent | hsection | htext
  · cases hnormal.symm.trans hcontent
  · cases hnormal.symm.trans hsection
  · exact htext

theorem parts_priority
    (hparts : parts.map Fragment.sketch = Reading.sketches request slot false readings) :
    ∀ fragment ∈ parts, fragment.priority ≤ .nestedView := by
  intro fragment hmem
  rcases parts_cases hparts hmem with hcontent | hsection | ⟨text, rfl⟩
  · rw [hcontent]
    decide
  · rw [hsection]
    decide
  · exact Nat.zero_le _

/-- A layout nests nothing. -/
theorem ranked_parts_nested
    (hparts : parts.map Fragment.sketch = Reading.sketches request slot false readings) :
    ranked .nestedView parts.zipIdx = [] := by
  refine List.filter_eq_nil_iff.2 ?_
  rintro ⟨fragment, place⟩ hpiece hrank
  have hrank : fragment.priority = .nestedView := of_decide_eq_true hrank
  rcases parts_cases hparts (List.fst_mem_of_mem_zipIdx hpiece) with hcontent | hsection | ⟨_, rfl⟩
  · cases hrank.symm.trans hcontent
  · cases hrank.symm.trans hsection
  · cases hrank

/-- The parts with their texts, in the order of production, are the text of the layout. -/
theorem assemble_parts
    (hparts : parts.map Fragment.sketch = Reading.sketches request slot false readings)
    (output : Output) {contents sections : List (String × Nat)}
    (hcontents : contents = (ranked .printedContent parts.zipIdx).map fun piece =>
      (framed output piece.1.sketch, piece.2))
    (hsections : sections = (ranked .printedSection parts.zipIdx).map fun piece =>
      (framed output piece.1.sketch, piece.2)) :
    assemble (contents ++ (sections ++ literalTexts (ranked .normal parts.zipIdx))) =
      Reading.fill output false readings := by
  have hliterals := literalTexts_eq_map (fun fragment => framed output fragment.sketch)
    fun piece (hpiece : piece ∈ ranked .normal parts.zipIdx) => by
      obtain ⟨hmem, hrank⟩ := List.mem_filter.1 hpiece
      obtain ⟨fragment, place⟩ := piece
      obtain ⟨text, rfl⟩ := parts_normal hparts (List.fst_mem_of_mem_zipIdx hmem)
        (of_decide_eq_true hrank)
      rfl
  have horder := productionOrder_eq (parts_priority hparts)
  rw [ranked_parts_nested hparts, List.nil_append] at horder
  rw [hcontents, hsections, hliterals, ← List.map_append, ← List.map_append, ← horder,
    ← Reading.join_framed output request slot, ← hparts, List.map_map]
  exact assemble_productionOrder (fun fragment => framed output fragment.sketch) parts

/-- The part that prints the content renders it, and with it all templates of the page. -/
theorem exec_content_part {pieces : List Piece} {expand : Context → Render σ Output}
    (hlays : Reading.LaysOut home readings)
    (hparts : parts.map Fragment.sketch = Reading.sketches request slot false readings)
    (hshows : Shows home content pieces)
    (hrun : ∀ child, .nested child ∈ pieces → Agrees engine request home history
      (fun context => run (.template context)) expand child)
    (hholds : s.Holds engine.read slot content t) (hcollects : s.Collects request home log history)
    {contents : List (String × Nat)}
    (h : exec (produceAll (runDeferred (engine.perform run))
      (ranked .printedContent parts.zipIdx)) s = (.ok contents, s')) :
    ∃ output t', exec (expandPieces expand home pieces) t = (.ok output, t') ∧
      s'.Collects request home (log ++ output.routed) history ∧
      contents = (ranked .printedContent parts.zipIdx).map fun piece =>
        (framed ⟨output.text, log ++ output.routed⟩ piece.1.sketch, piece.2) := by
  obtain ⟨optional, hcontent⟩ := hlays.content
  have hplaced := map_sketch_ranked .printedContent parts
  rw [hparts, Reading.sketches_content, hcontent] at hplaced
  obtain ⟨⟨fragment, place⟩, others, hranked, hfragment, hothers⟩ := List.map_eq_cons_iff.1 hplaced
  obtain rfl : others = [] := List.map_eq_nil_iff.1 hothers
  obtain ⟨template, token, rfl⟩ := Fragment.eq_of_sketch_deferred hfragment
  rw [hranked] at h ⊢
  obtain ⟨value, s₁, texts, hvalue, hrest, rfl⟩ := exec_produceAll_deferred h
  cases hrest
  obtain ⟨u, u', halike, hrests, hvalue, hrests'⟩ := exec_renderContent hholds hvalue
  obtain ⟨output, t', hexpand, -, rfl, hcollects'⟩ :=
    (follows_fragments hrun hshows halike (hcollects.rests hrests)).exec_eq_ok hvalue
  exact ⟨output, t', hexpand, hcollects'.rests hrests', rfl⟩

/-- The parts of a layout that was walked. The content is rendered first, and what its templates
route to sections is there when these are printed. -/
theorem exec_parts {pieces : List Piece} {expand : Context → Render σ Output}
    (hlays : Reading.LaysOut home readings)
    (hparts : parts.map Fragment.sketch = Reading.sketches request slot false readings)
    (hshows : Shows home content pieces)
    (hrun : ∀ child, .nested child ∈ pieces → Agrees engine request home history
      (fun context => run (.template context)) expand child)
    (hholds : s.Holds engine.read slot content t) (hcollects : s.Collects request home log history)
    (h : exec (renderFragments (runDeferred (engine.perform run)) parts) s = (.ok text, s')) :
    ∃ output t', exec (expandPieces expand home pieces) t = (.ok output, t') ∧
      text = Reading.fill ⟨output.text, log ++ output.routed⟩ false readings := by
  have hliteral : ∀ fragment ∈ parts, fragment.priority = .normal →
      ∃ text, fragment.payload = .literal text := by
    intro fragment hmem hnormal
    obtain ⟨text, rfl⟩ := parts_normal hparts hmem hnormal
    exact ⟨text, rfl⟩
  rw [renderFragments_eq (parts_priority hparts) hliteral, ranked_parts_nested hparts] at h
  have hnone : exec (produceAll (runDeferred (engine.perform run)) []) s = (.ok [], s) := rfl
  rw [exec_bind_ok hnone] at h
  obtain ⟨contents, s₁, hcontents, hrest⟩ := exec_bind_eq_ok h
  obtain ⟨sections, s₂, hsections, hlast⟩ := exec_bind_eq_ok hrest
  cases hlast
  obtain ⟨output, t', hexpand, hcollects', hcontents⟩ :=
    exec_content_part hlays hparts hshows hrun hholds hcollects hcontents
  have hplaced := map_sketch_ranked .printedSection parts
  rw [hparts, Reading.sketches_section] at hplaced
  have hshown : ∀ name ∈ (readings.filterMap Reading.section?).map Prod.fst,
      (s₁.sections request).shown name = Sections.literalsFor name (log ++ output.routed) :=
    fun name hname => hcollects'.routed.shown name fun heq => hlays.apart (heq ▸ hname)
  have hsections := exec_printed_sections ⟨output.text, log ++ output.routed⟩ _ hplaced
    hlays.distinct hcollects'.live hshown hsections
  exact ⟨output, t', hexpand, assemble_parts hparts _ hcontents hsections⟩

end Laid

end TemplateEngine
