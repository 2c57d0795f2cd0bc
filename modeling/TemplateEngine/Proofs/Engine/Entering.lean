import TemplateEngine.Proofs.Engine.Echoing
import TemplateEngine.Proofs.Engine.Readers

/-!
# `Engine` · Layouts are entered

The content of a page is rendered when its layout has been entered, where there are more values and
slots than there would be without a layout.

* **`Store.Resembles`**: what a page can see in one store is in another one as well.
* **`Store.Placed.past`**: then the one store is placed in the other, and what is made next has its
  place behind all that was made for the layout.
* **`exec_enterLayout_provides`**: the data of a layout has the content.
-/

namespace TemplateEngine

open Render TemplateEngine.Text TemplateEngine.Template

variable {σ : Type} {engine : Engine σ} {refs : Refs σ} {known : SlotId → Prop} {slot : SlotId}
  {page : Context} {written filePath : String} {s s' t u : Store σ}

/-! ## Motions -/

/-- Everything stays where it is; values refer to known slots only. -/
def Motion.still (refs : Refs σ) (known : SlotId → Prop) : Motion σ where
  toPlacement := .still known
  host := refs
  programs := .parsed

/-- What is made next has its place behind a larger store. -/
def Motion.past (refs : Refs σ) (known : SlotId → Prop) (e e' : Extent) : Motion σ where
  toPlacement := .past known e e'
  host := refs
  programs := .parsed

/-! ## Stores -/

/-- All that is in a store is in another one, in which there may be more. -/
structure Store.Resembles (known : SlotId → Prop) (s t : Store σ) : Prop where
  /-- All values are there, at the same places. -/
  graph : s.graph.IsPrefix t.graph
  /-- Programs are kept as they are parsed. -/
  programs : s.programs.Parsed → t.programs.Parsed
  /-- The state of the host is the same. -/
  host : t.host = s.host
  /-- There are as many requests. -/
  requests : t.requests.size = s.requests.size
  /-- The same redirects were asked for. -/
  redirect : ∀ id, t.redirect id = s.redirect id
  /-- The known slots are as far. -/
  slot : ∀ id, known id → t.slots[id.index]?.map Slot.state = s.slots[id.index]?.map Slot.state

theorem Store.Resembles.trans (h : s.Resembles known t) (h' : t.Resembles known u) :
    s.Resembles known u where
  graph := h.graph.trans h'.graph
  programs := h'.programs ∘ h.programs
  host := h'.host.trans h.host
  requests := h'.requests.trans h.requests
  redirect id := (h'.redirect id).trans (h.redirect id)
  slot id hid := (h'.slot id hid).trans (h.slot id hid)

/-- A template has come to its content, which is in a slot to which no value refers. -/
theorem Store.Reaches.resembles {read : String → Except Error String} {context : Context}
    {fragments : List (Fragment Deferred)} (h : s.Reaches read context slot fragments u)
    (hslot : ∀ id, known id → id.index ≠ slot.index) : s.Resembles known u where
  graph := h.graph
  programs := h.programs
  host := h.host
  requests := h.requests
  redirect := h.redirect
  slot id hid := by rw [h.slots id.index (hslot id hid)]

namespace Store.Placed

theorem graph_eq (h : s.Placed (.still refs known) t) : t.graph = s.graph :=
  h.graph.eq_of_still

theorem resembles (h : s.Placed (.still refs known) t) : s.Resembles known t where
  graph := by
    rw [h.graph_eq]
    exact .refl _
  programs _ := h.programs.2
  host := h.host.trans (refs.fixed (Placement.fixes_still known s.graph.extent) h.within)
  requests := h.requests
  redirect := h.redirect
  slot := h.slot

/-- A store is placed in each one that resembles it. -/
theorem past (h : s.Placed (.still refs known) t) (hu : s.Resembles known u) :
    s.Placed (.past refs known s.graph.extent u.graph.extent) u where
  graph := by
    refine hu.graph.placed_past h.graph.closed (fun callable hcallable => ?_) fun state hstate => ?_
    · have hknown := h.graph.callable callable hcallable
      cases callable <;> exact hknown
    · have hknown := h.graph.state state hstate
      cases state with
      | pending work => cases work <;> exact hknown
      | running => trivial
      | settled result => trivial
  programs := ⟨h.programs.1, hu.programs h.programs.1⟩
  host := hu.host.trans (refs.fixed (Placement.fixes_past known _ _) h.within).symm
  within := h.within
  requests := hu.requests
  redirect := hu.redirect
  slot := hu.slot
  idle := h.idle
  exists_slot := h.exists_slot

end Store.Placed

/-- Fragments that correspond while everything stays where it is correspond when what is made next
has its place elsewhere. -/
theorem EchoedFragments.past {contexts : Context → Prop} {e e' : Extent}
    {fragments fragments' : List (Fragment Deferred)}
    (h : EchoedFragments (.still known) e contexts fragments fragments') :
    EchoedFragments (.past known e e') e contexts fragments fragments' := by
  refine h.imp fun fragment fragment' hechoed => ?_
  cases hechoed with
  | literal text => exact .literal text
  | @nested child hknown hwithin slot template template' token token' =>
    have hstill : Refs.context.placed (.still known) child = child :=
      Refs.context.fixed (Placement.fixes_still known e) hwithin
    have hpast : Refs.context.placed (.past known e e') child = child :=
      Refs.context.fixed (Placement.fixes_past known e e') hwithin
    have hecho : child.echo (.still known) slot = child.echo (.past known e e') slot := by
      unfold Context.echo
      rw [hstill, hpast]
    rw [hecho]
    exact .nested hknown hwithin slot template template' token token'

/-! ## Layouts -/

/-- The data of a layout is a new object with a function that reads the content. -/
theorem Graph.provides_newLibrary (g : Graph) (slot : SlotId) :
    (g.newLibrary [(Config.content, .content slot)]).2.Provides
      (g.newLibrary [(Config.content, .content slot)]).1 ⟨g.functions.size⟩ slot where
  member := by
    show ((g.objects.push (Dictionary.empty.insert Config.content
      (.function ⟨g.functions.size⟩)))[g.objects.size]?).bind _ = _
    rw [Array.getElem?_push_size]
    rfl
  function := Array.getElem?_push_size

/-- The names of an invocation are made behind all that there is. -/
theorem exec_viewBuiltins_prefix (attributes : List (String × String)) (request : RequestId)
    (s : Store σ) :
    ∃ builtins graph, exec (viewBuiltins attributes request) s =
      (.ok builtins, { s with graph := graph }) ∧ s.graph.IsPrefix graph := by
  refine ⟨_, _, exec_changeGraph _ _, ?_⟩
  have hattrs := (Graph.IsPrefix.refl s.graph).newObject (textMembers attributes)
  obtain ⟨hlibrary, hid⟩ := hattrs.newLibrary
    (standardCallables ++ [("attr", .attribute attributes), ("redirect", .redirect request)])
  refine hlibrary.write ?_ "attrs" _
  rw [hid]
  exact size_le_of_isPrefix hattrs.objects

/-- A layout is entered: the content is in a new slot, which its data has. -/
theorem exec_enterLayout_provides (hpath : engine.resolvePath page written = .ok filePath)
    (state : SlotState) (s : Store σ) :
    ∃ context graph id, exec (engine.enterLayout page written state) s =
        (.ok context, { s with slots := s.slots.push ⟨state, false⟩, graph := graph }) ∧
      s.graph.IsPrefix graph ∧ graph.Provides context.data id ⟨s.slots.size⟩ ∧
      context.data.index = s.graph.objects.size ∧ id.index = s.graph.functions.size ∧
      context.filePath = filePath ∧ context.request = page.request ∧
      context.defaultSection = engine.config.defaultSection ∧
      context.slot = some ⟨s.slots.size⟩ ∧ context.depth = page.depth + 1 := by
  let library := s.graph.newLibrary [(Config.content, .content ⟨s.slots.size⟩)]
  let entered : Store σ := { s with slots := s.slots.push ⟨state, false⟩, graph := library.2 }
  obtain ⟨builtins, graph, hbuiltins, hgrown⟩ :=
    exec_viewBuiltins_prefix [] page.request entered
  have hlibrary : exec (changeGraph fun graph =>
      graph.newLibrary [(Config.content, .content ⟨s.slots.size⟩)])
        { s with slots := s.slots.push ⟨state, false⟩ } = (.ok library.1, entered) := rfl
  obtain ⟨hnew, -⟩ := (Graph.IsPrefix.refl s.graph).newLibrary
    [(Config.content, .content ⟨s.slots.size⟩)]
  have hprovides := (s.graph.provides_newLibrary ⟨s.slots.size⟩).of_isPrefix hgrown
  unfold Engine.enterLayout Engine.layoutContext
  rw [hpath]
  refine ⟨_, graph, _, (exec_bind_ok (exec_ofExcept _ _) _).trans
    ((exec_bind_ok (exec_newSlot _ _) _).trans ((exec_bind_ok hlibrary _).trans
      (exec_bind_ok hbuiltins _))), hnew.trans hgrown, hprovides, ?_⟩
  exact ⟨rfl, rfl, rfl, rfl, rfl, rfl, rfl⟩

/-- A page can see the same when its layout is entered. -/
theorem Store.Resembles.entered (hknown : ∀ id, known id → id.index < s.slots.size) {graph : Graph}
    (hgraph : s.graph.IsPrefix graph) (state : SlotState) :
    s.Resembles known { s with slots := s.slots.push ⟨state, false⟩, graph := graph } where
  graph := hgraph
  programs hparsed := hparsed
  host := rfl
  requests := rfl
  redirect _ := rfl
  slot id hid := by
    rw [Array.getElem?_push_lt (hknown id hid), Array.getElem?_eq_getElem (hknown id hid)]

end TemplateEngine
