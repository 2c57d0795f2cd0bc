import TemplateEngine.Proofs.Engine.Moving
import TemplateEngine.Proofs.Graph.Prefix

/-!
# `Engine` · Views are isolated

A view gets data and names of its own. Whatever its expressions do, they do among the objects that
were made for it and those that they make themselves.

* **`Graph.followedBy`**: a graph with another one behind it, whose references are moved by the
  size of the first. The first one is a prefix of it, and nothing in the second one refers to it.
* **`Walk.enterView`**: a view is prepared with its attributes, its texts and its parameters, and
  then expressions are evaluated with its data.
* **`enterView_isolated`**: this does the same as it would if there were no other objects at all.
  The graph of the caller is then in front of all that the view has made, as it was before.
-/

namespace TemplateEngine

open Render TemplateEngine.Template

variable {σ α β : Type}

/-! ## Graphs behind others -/

/-- Behind a graph; nothing refers to slots or to native functions. -/
def Placement.behind (front : Graph) : Placement where
  object i := front.objects.size + i
  function i := front.functions.size + i
  promise i := front.promises.size + i
  object_injective _ _ := Nat.add_left_cancel
  function_injective _ _ := Nat.add_left_cancel
  promise_injective _ _ := Nat.add_left_cancel
  slot _ := False
  native _ := False

namespace Graph

/-- A graph with another one behind it. -/
def followedBy (front own : Graph) : Graph where
  objects := front.objects ++ own.objects.map (Refs.members.placed (.behind front))
  functions := front.functions ++ own.functions
  promises := front.promises ++ own.promises.map (Refs.state.placed (.behind front))

/-- Behind a graph, nothing has been made yet. -/
theorem placed_empty (front : Graph) : empty.Placed (.behind front) front where
  objects := ⟨fun i => Array.getElem?_eq_none (Nat.le_add_right _ i), fun k => by
    rw [empty, List.size_toArray, List.length_nil, Nat.zero_add, Placement.behind]⟩
  functions := ⟨fun i => Array.getElem?_eq_none (Nat.le_add_right _ i), fun k => by
    rw [empty, List.size_toArray, List.length_nil, Nat.zero_add, Placement.behind]⟩
  promises := ⟨fun i => Array.getElem?_eq_none (Nat.le_add_right _ i), fun k => by
    rw [empty, List.size_toArray, List.length_nil, Nat.zero_add, Placement.behind]⟩
  closed := ⟨nofun, nofun⟩
  callable := nofun
  state := nofun

/-- What stands behind an array that was not touched is appended to it. -/
theorem eq_append_of_stands {f : α → β} {a : Array α} {front b : Array β}
    (hstands : Stands (front.size + ·) f a b) (hkept : Kept (front.size + ·) front b) :
    b = front ++ a.map f := by
  refine Array.ext_getElem? fun i => ?_
  rw [Array.getElem?_append]
  split
  · next hi => exact hkept i fun j hj => absurd (hj ▸ hi) (Nat.not_lt.2 (Nat.le_add_right _ j))
  · next hi =>
    obtain ⟨k, rfl⟩ := Nat.exists_eq_add_of_le (Nat.le_of_not_lt hi)
    rw [Nat.add_sub_cancel_left, Array.getElem?_map]
    exact hstands.getElem? k

theorem eq_followedBy {front own after : Graph} (hplaced : own.Placed (.behind front) after)
    (hbeside : Beside (.behind front) front after) : after = front.followedBy own := by
  obtain ⟨objects, functions, promises⟩ := after
  have hfunctions := eq_append_of_stands hplaced.functions hbeside.functions
  rw [Array.map_id'] at hfunctions
  unfold followedBy
  rw [← eq_append_of_stands hplaced.objects hbeside.objects, ← hfunctions,
    ← eq_append_of_stands hplaced.promises hbeside.promises]

theorem isPrefix_followedBy (front own : Graph) : front.IsPrefix (front.followedBy own) := by
  unfold followedBy
  constructor <;> simp

end Graph

/-! ## Stores -/

/-- Requests are their sections and their redirects. -/
theorem Store.requests_ext {s t : Store σ} (hsize : t.requests.size = s.requests.size)
    (hsections : ∀ id, t.sections id = s.sections id)
    (hredirect : ∀ id, t.redirect id = s.redirect id) : t.requests = s.requests := by
  refine Array.ext hsize fun i hi hi' => ?_
  have hrequest : ∀ (u : Store σ) (h : i < u.requests.size),
      u.requests[i] = ⟨u.sections ⟨i⟩, u.redirect ⟨i⟩⟩ := by
    intro u h
    unfold Store.sections Store.redirect
    rw [Array.getElem?_eq_getElem h, Option.getD_some]
  rw [hrequest t hi, hrequest s hi', hsections, hredirect]

/-- A store without values stands behind the graph of any store that is like it otherwise. -/
def Motion.behind (front : Graph) : Motion σ where
  toPlacement := .behind front
  host := .free
  programs := .same

theorem Store.placed_empty (store : Store σ) (front : Graph) :
    ({ store with graph := .empty } : Store σ).Placed (.behind front)
      { store with graph := front } where
  graph := Graph.placed_empty front
  programs := rfl
  host := rfl
  within := trivial
  requests := rfl
  redirect _ := rfl
  slot _ := False.elim
  idle _ _ := False.elim
  exists_slot _ := False.elim

/-- Behind a graph, a store has gone on as it does by itself. -/
theorem Advance.eq_followedBy {store s' t' : Store σ} {front : Graph}
    (h : Advance (.behind front) { store with graph := .empty } { store with graph := front } s' t') :
    t' = { s' with graph := front.followedBy s'.graph } := by
  have hgraph : t'.graph = front.followedBy s'.graph := Graph.eq_followedBy h.placed.graph h.beside
  have hrequests : t'.requests = s'.requests :=
    Store.requests_ext h.placed.requests
      (fun id => (h.right.rests.sections id).trans (h.left.rests.sections id).symm)
      h.placed.redirect
  have hslots : t'.slots = s'.slots := h.right.slots.trans h.left.slots.symm
  have htemplates : t'.templates = s'.templates := h.right.templates.trans h.left.templates.symm
  have hprograms : t'.programs = s'.programs := h.placed.programs.symm
  have hhost : t'.host = s'.host := h.placed.host
  have hjournal : t'.journal = s'.journal := by
    obtain ⟨events, hs, ht⟩ := h.journal
    rw [hs, ht]
  obtain ⟨graph, requests, slots, templates, programs, host, journal⟩ := t'
  dsimp only at hgraph hrequests hslots htemplates hprograms hhost hjournal
  rw [hgraph, hrequests, hslots, htemplates, hprograms, hhost, hjournal]

/-! ## Views -/

/-- What entering a view has given: its context, and the values of expressions. -/
abbrev Entered := Context × List (Except Error Value)

/-- The references of what was entered. -/
abbrev Refs.entered : Refs Entered := Refs.context.pair Refs.value.result.list

/-- The texts of the values. -/
def Entered.texts (entered : Entered) : List (Except Error String) :=
  entered.2.map (Except.map Value.text)

theorem Entered.texts_placed (p : Placement) (entered : Entered) :
    texts (Refs.entered.placed p entered) = entered.texts := by
  unfold texts Refs.entered Refs.pair Refs.list
  rw [List.map_map]
  refine List.map_congr_left fun result _ => ?_
  cases result with
  | ok value => exact congrArg Except.ok (Value.text_placed value)
  | error error => rfl

/-- Enters a view: it is prepared as it is invoked, and then expressions are evaluated one by one
with its data, whether those before have failed or not. -/
def Walk.enterView (engine : Engine σ) (wait : PromiseId → Render σ Value) (walk : Walk)
    (invocation : Invocation) (sources : List String) : Render σ Entered := do
  let child ← walk.prepare engine wait { invocation with kind := .fresh }
  let values ← sources.mapM fun source => attempt (engine.evaluateValue wait child.scope source)
  return (child, values)

/-- A view does not look at the data and the names of its caller. -/
theorem Walk.enterView_placed (engine : Engine σ) (wait : PromiseId → Render σ Value)
    (walk : Walk) (p : Placement) (invocation : Invocation) (sources : List String) :
    ({ walk with context := Refs.context.placed p walk.context } : Walk).enterView engine wait
      invocation sources = walk.enterView engine wait invocation sources := by
  unfold enterView prepare
  rw [Engine.resolvePath_placed]
  rfl

theorem Render.Moves.enterView {m : Motion σ} {e : Extent} {engine : Engine σ}
    {wait wait' : PromiseId → Render σ Value} (hengine : engine.Interprets)
    (hhost : engine.host.Parametric m.host m.toPlacement) (hwait : Waits m wait wait') (walk : Walk)
    (invocation : Invocation) (sources : List String) :
    Moves m e Refs.entered (walk.enterView engine wait invocation sources)
      (walk.enterView engine wait' invocation sources) := by
  rw [← walk.enterView_placed engine wait' m.toPlacement]
  let walk' : Walk := { walk with context := Refs.context.placed m.toPlacement walk.context }
  have hfresh : ({ invocation with kind := .fresh } : Invocation).kind = .shared →
      Refs.object.Within e walk.context.data := nofun
  refine (prepare hengine hhost hwait walk walk' rfl rfl _ hfresh).bind fun _ child _ hchild => ?_
  have hvalues := mapM sources fun source => (evaluateValue hengine hhost hwait hchild source).attempt
  exact hvalues.bind fun _ values he hvalues => pure rfl ⟨Refs.context.mono he hchild, hvalues⟩

/-- Entering a view does on a store with any values what it does on one without values, and leaves
what it has made behind them. So the values of the caller stay as they are, nothing that the view
has made refers to them, and with other values of the caller the results are the same. -/
theorem enterView_isolated (config : Config) (read : String → Except Error String) (host : Host σ)
    (run : Task → Render σ String) (walk : Walk) (invocation : Invocation) (sources : List String)
    (store : Store σ) (front : Graph) :
    let engine := Engine.interpreting config read host
    let enter := walk.enterView engine (waitFor engine run) invocation sources
    let alone := exec enter { store with graph := .empty }
    let entered := exec enter { store with graph := front }
    entered = (alone.1.map (Refs.entered.placed (.behind front)),
        { alone.2 with graph := front.followedBy alone.2.graph }) ∧
      front.IsPrefix entered.2.graph ∧
      entered.1.map Entered.texts = alone.1.map Entered.texts := by
  intro engine enter alone entered
  have hengine : engine.Interprets := Engine.interprets_interpreting config read host
  let m : Motion σ := .behind front
  have hhost : engine.host.Parametric m.host m.toPlacement := fun _ hid => hid.elim
  have hmoves : Moves m Graph.empty.extent Refs.entered enter enter :=
    .enterView hengine hhost (Moves.waitFor hhost) walk invocation sources
  obtain ⟨result, s', t', halone, hentered, hadvance, -⟩ :=
    hmoves _ _ (store.placed_empty front) (Extent.le_refl _)
  have halone : alone = (result, s') := halone
  have hentered : entered = (result.map (Refs.entered.placed (.behind front)), t') := hentered
  rw [hadvance.eq_followedBy] at hentered
  rw [hentered, halone]
  refine ⟨rfl, Graph.isPrefix_followedBy front s'.graph, ?_⟩
  cases result with
  | ok entered => exact congrArg Except.ok (entered.texts_placed _)
  | error stop => rfl

end TemplateEngine
