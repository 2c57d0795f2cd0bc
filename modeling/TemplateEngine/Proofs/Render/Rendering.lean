import TemplateEngine.Engine.Render
import TemplateEngine.Proofs.Render.Operations
import TemplateEngine.Proofs.Section.Production

/-!
# `Render` · Scopes that are rendered

What the render of a scope runs, and when. Renderers may do anything with the store, so that a
render is described by the stores that it goes through.

* **`Ran`** is a renderer that ran, with the store that it found and the one that it left, and
  **`Consecutive`** says that some ran one after another and nothing happened between them.
* **`Rendering`** is what the render of fragments comes to: the renderers that ran, in the order of
  production (`Earlier`), up to the first one that failed; and, if none did, the texts of all
  fragments in the order in which they were appended.
* **`Sections.Appends`** follows a scope while fragments are appended to it. Those that come while
  it is rendered go behind the others (`Consecutive.zipIdx`), and only a later render has them
  (`renderScope_in_order`).
-/

namespace TemplateEngine

open Render

variable {σ δ : Type}

/-! ## Runs -/

/-- A renderer that ran. -/
structure Ran (σ δ : Type) where
  /-- The renderer. -/
  renderer : δ
  /-- The priority of its fragment. -/
  priority : Priority
  /-- The place of its fragment. -/
  place : Nat
  /-- The store that it found. -/
  before : Store σ
  /-- What it gave. -/
  result : Except Stop String
  /-- The store that it left. -/
  after : Store σ

/-- The fragment of a renderer that ran, with its place. -/
def Ran.placed (ran : Ran σ δ) : Fragment δ × Nat :=
  (⟨.deferred ran.renderer, ran.priority⟩, ran.place)

/-- Renderers run one after another: each finds the store that the one before has left. -/
inductive Consecutive (run : δ → Render σ String) : Store σ → List (Ran σ δ) → Store σ → Prop where
  /-- None runs. -/
  | nil (s : Store σ) : Consecutive run s [] s
  /-- One runs, and then the others. -/
  | cons (ran : Ran σ δ) {others : List (Ran σ δ)} {t : Store σ}
    (hrun : exec (run ran.renderer) ran.before = (ran.result, ran.after))
    (hothers : Consecutive run ran.after others t) : Consecutive run ran.before (ran :: others) t

/-- The fragment has a renderer. -/
def Fragment.isDeferred (fragment : Fragment δ) : Bool :=
  match fragment.payload with
  | .literal _ => false
  | .deferred _ => true

/-- What the render of fragments comes to, if `ran` are the renderers that it runs. -/
structure Rendering (run : δ → Render σ String) (fragments : List (Fragment δ)) (s : Store σ)
    (ran : List (Ran σ δ)) (outcome : Except Stop String × Store σ) : Prop where
  /-- They run one after another, and nothing else changes the store. -/
  consecutive : Consecutive run s ran outcome.2
  /-- They are renderers of the fragments. -/
  present : ∀ r ∈ ran, fragments[r.place]? = some r.placed.1
  /-- They run in the order of production, hence none runs twice. -/
  order : ran.Pairwise fun a b => Earlier a.placed b.placed
  /-- If the render fails, then the last one has failed, and only it. All others come later. -/
  failed : ∀ stop, outcome.1 = .error stop → ∃ earlier last, ran = earlier ++ [last] ∧
    last.result = .error stop ∧ (∀ r ∈ earlier, ∃ text, r.result = .ok text) ∧
      ∀ fragment, ∀ place : Nat, fragments[place]? = some fragment → fragment.isDeferred →
        (∃ r ∈ ran, r.place = place) ∨ Earlier last.placed (fragment, place)
  /-- Otherwise all of them have run, and the output has the texts of the fragments in the order in
  which these were appended. -/
  produced : ∀ html, outcome.1 = .ok html →
    (∀ fragment, ∀ place : Nat, fragments[place]? = some fragment → fragment.isDeferred →
      ∃ r ∈ ran, r.place = place) ∧
    ∃ texts : List String, texts.length = fragments.length ∧
      (∀ text priority, ∀ place : Nat,
        fragments[place]? = some (⟨.literal text, priority⟩ : Fragment δ) →
          texts[place]? = some text) ∧
      (∀ r ∈ ran, ∃ text, r.result = .ok text ∧ texts[r.place]? = some text) ∧
        html = String.join texts

/-- The text of a placed literal is among texts with places. -/
def HasLiterals (placed : List (Fragment δ × Nat)) (texts : List (String × Nat)) : Prop :=
  ∀ text priority place, (⟨.literal text, priority⟩, place) ∈ placed → (text, place) ∈ texts

theorem HasLiterals.literal {placed : List (Fragment δ × Nat)} {texts : List (String × Nat)}
    (h : HasLiterals placed texts) (text : String) (priority : Priority) (place : Nat) :
    HasLiterals ((⟨.literal text, priority⟩, place) :: placed) ((text, place) :: texts) := by
  intro other priority' place' hmem
  rcases List.mem_cons.1 hmem with heq | hmem
  · cases heq
    exact List.mem_cons_self
  · exact List.mem_cons_of_mem _ (h other priority' place' hmem)

theorem HasLiterals.deferred {placed : List (Fragment δ × Nat)} {texts : List (String × Nat)}
    (h : HasLiterals placed texts) (renderer : δ) (priority : Priority) (place : Nat)
    (text : String × Nat) :
    HasLiterals ((⟨.deferred renderer, priority⟩, place) :: placed) (text :: texts) := by
  intro other priority' place' hmem
  rcases List.mem_cons.1 hmem with heq | hmem
  · cases heq
  · exact List.mem_cons_of_mem _ (h other priority' place' hmem)

/-- The renderers of fragments run one after another, until one fails. -/
theorem ensures_produceAll (run : δ → Render σ String) (placed : List (Fragment δ × Nat))
    (s : Store σ) :
    Ensures (produceAll run placed) s
      (fun texts t => ∃ ran, Consecutive run s ran t ∧
        ran.map Ran.placed = placed.filter (·.1.isDeferred) ∧
        texts.map (·.2) = placed.map (·.2) ∧ HasLiterals placed texts ∧
          ∀ r ∈ ran, ∃ text, r.result = .ok text ∧ (text, r.place) ∈ texts)
      fun stop t => ∃ earlier last, Consecutive run s (earlier ++ [last]) t ∧
        (earlier ++ [last]).map Ran.placed <+: placed.filter (·.1.isDeferred) ∧
          last.result = .error stop ∧ ∀ r ∈ earlier, ∃ text, r.result = .ok text := by
  induction placed generalizing s with
  | nil =>
    refine .pure ⟨[], .nil s, rfl, rfl, nofun, nofun⟩
  | cons first rest ih =>
    obtain ⟨⟨payload, priority⟩, place⟩ := first
    cases payload with
    | literal text =>
      have hfilter : (((⟨.literal text, priority⟩, place) :: rest : List (Fragment δ × Nat))).filter
          (·.1.isDeferred) = rest.filter (·.1.isDeferred) := rfl
      simp only [produceAll, pure_bind, hfilter]
      refine Ensures.bind (ih s) ?_
      rintro texts t ⟨ran, hran, hplaced, hplaces, hliterals, hresults⟩
      refine .pure ⟨ran, hran, hplaced, ?_, hliterals.literal text priority place, ?_⟩
      · rw [List.map_cons, List.map_cons, hplaces]
      · intro r hr
        obtain ⟨result, hresult, hmem⟩ := hresults r hr
        exact ⟨result, hresult, List.mem_cons_of_mem _ hmem⟩
    | deferred renderer =>
      have hfilter : (((⟨.deferred renderer, priority⟩, place) :: rest :
          List (Fragment δ × Nat))).filter (·.1.isDeferred) =
            (⟨.deferred renderer, priority⟩, place) :: rest.filter (·.1.isDeferred) := rfl
      simp only [produceAll, hfilter]
      rcases hrun : exec (run renderer) s with ⟨stop | text, middle⟩
      · let last : Ran σ δ := ⟨renderer, priority, place, s, .error stop, middle⟩
        refine .of_error (exec_bind_error hrun _) ⟨[], last, ?_, ?_, rfl, nofun⟩
        · exact .cons last hrun (.nil middle)
        · exact List.prefix_append [last.placed] _
      · let next : Ran σ δ := ⟨renderer, priority, place, s, .ok text, middle⟩
        refine .bind_ok hrun (.bind ((ih middle).mono (fun _ _ h => h) ?_) ?_)
        · rintro stop t ⟨earlier, last, hran, hplaced, hlast, hearlier⟩
          refine ⟨next :: earlier, last, .cons next hrun hran, ?_, hlast, ?_⟩
          · exact List.cons_prefix_cons.2 ⟨rfl, hplaced⟩
          · intro r hr
            rcases List.mem_cons.1 hr with rfl | hr
            · exact ⟨text, rfl⟩
            · exact hearlier r hr
        · rintro texts t ⟨ran, hran, hplaced, hplaces, hliterals, hresults⟩
          refine .pure ⟨next :: ran, .cons next hrun hran, ?_, ?_,
            hliterals.deferred renderer priority place _, ?_⟩
          · rw [List.map_cons, hplaced]
            rfl
          · rw [List.map_cons, List.map_cons, hplaces]
          · intro r hr
            rcases List.mem_cons.1 hr with rfl | hr
            · exact ⟨text, rfl, List.mem_cons_self⟩
            · obtain ⟨result, hresult, hmem⟩ := hresults r hr
              exact ⟨result, hresult, List.mem_cons_of_mem _ hmem⟩

/-- The fragments with renderers are those that the order of production has. -/
theorem mem_filter_productionOrder {fragments : List (Fragment δ)} {fragment : Fragment δ}
    {place : Nat} (h : fragments[place]? = some fragment) (hdeferred : fragment.isDeferred) :
    (fragment, place) ∈ (productionOrder fragments).filter (·.1.isDeferred) :=
  List.mem_filter.2 ⟨mem_productionOrder_iff.2 h, hdeferred⟩

theorem pairwise_filter_productionOrder (fragments : List (Fragment δ)) :
    ((productionOrder fragments).filter (·.1.isDeferred)).Pairwise Earlier :=
  (pairwise_productionOrder fragments).filter _

section Prefix

variable {fragments : List (Fragment δ)}

/-- Renderers that are first in the order of production are renderers of the fragments. -/
theorem present_of_prefix {ran : List (Ran σ δ)}
    (h : ran.map Ran.placed <+: (productionOrder fragments).filter (·.1.isDeferred)) :
    ∀ r ∈ ran, fragments[r.place]? = some r.placed.1 := by
  intro r hr
  have hmem := h.subset (List.mem_map_of_mem hr)
  exact mem_productionOrder_iff.1 (List.mem_of_mem_filter hmem)

/-- They run in this order. -/
theorem pairwise_of_prefix {ran : List (Ran σ δ)}
    (h : ran.map Ran.placed <+: (productionOrder fragments).filter (·.1.isDeferred)) :
    ran.Pairwise fun a b => Earlier a.placed b.placed :=
  List.pairwise_map.1 ((pairwise_filter_productionOrder fragments).sublist h.sublist)

/-- All others come behind the last of them. -/
theorem ran_or_later {earlier : List (Ran σ δ)} {last : Ran σ δ}
    (h : (earlier ++ [last]).map Ran.placed <+: (productionOrder fragments).filter (·.1.isDeferred))
    {fragment : Fragment δ} {place : Nat} (hfragment : fragments[place]? = some fragment)
    (hdeferred : fragment.isDeferred) :
    (∃ r ∈ earlier ++ [last], r.place = place) ∨ Earlier last.placed (fragment, place) := by
  have hmem := mem_filter_productionOrder hfragment hdeferred
  have horder := pairwise_filter_productionOrder fragments
  obtain ⟨later, hlater⟩ := h
  rw [← hlater] at hmem horder
  rcases List.mem_append.1 hmem with hmem | hmem
  · left
    obtain ⟨r, hr, heq⟩ := List.mem_map.1 hmem
    exact ⟨r, hr, congrArg Prod.snd heq⟩
  · right
    have hlast : last.placed ∈ (earlier ++ [last]).map Ran.placed :=
      List.mem_map_of_mem (List.mem_append_right _ (List.mem_singleton_self last))
    exact (List.pairwise_append.1 horder).2.2 _ hlast _ hmem

end Prefix

/-- The render of fragments runs their renderers in the order of production up to the first failure,
and joins the texts in the order in which the fragments were appended. -/
theorem rendering_renderFragments (run : δ → Render σ String) (fragments : List (Fragment δ))
    (s : Store σ) :
    ∃ ran, Rendering run fragments s ran (exec (renderFragments run fragments) s) := by
  have hall := ensures_produceAll run (productionOrder fragments) s
  unfold renderFragments
  rcases hexec : exec (produceAll run (productionOrder fragments)) s with ⟨stop | texts, t⟩
  · obtain ⟨earlier, last, hran, hplaced, hlast, hearlier⟩ := hall.error hexec
    rw [exec_bind_error hexec]
    refine ⟨earlier ++ [last], hran, present_of_prefix hplaced, pairwise_of_prefix hplaced, ?_,
      nofun⟩
    rintro _ ⟨⟩
    refine ⟨earlier, last, rfl, hlast, hearlier, fun fragment place hfragment hdeferred => ?_⟩
    exact ran_or_later hplaced hfragment hdeferred
  · obtain ⟨ran, hran, hplaced, hplaces, hliterals, hresults⟩ := hall.ok hexec
    rw [exec_bind_ok hexec, exec_pure]
    have hprefix : ran.map Ran.placed <+: (productionOrder fragments).filter (·.1.isDeferred) :=
      hplaced ▸ List.prefix_refl _
    refine ⟨ran, hran, present_of_prefix hprefix, pairwise_of_prefix hprefix, nofun, ?_⟩
    rintro _ ⟨⟩
    constructor
    · intro fragment place hfragment hdeferred
      have hmem := mem_filter_productionOrder hfragment hdeferred
      rw [← hplaced] at hmem
      obtain ⟨r, hr, heq⟩ := List.mem_map.1 hmem
      exact ⟨r, hr, congrArg Prod.snd heq⟩
    · have hperm : (texts.map (·.2)).Perm (List.range fragments.length) := by
        rw [hplaces, List.range_eq_range', ← List.zipIdx_map_snd 0 fragments]
        exact (ordered_perm _).map _
      obtain ⟨row, hlength, hrow, hhtml⟩ := assemble_eq_join hperm
      refine ⟨row, hlength, ?_, ?_, hhtml⟩
      · intro text priority place hliteral
        exact hrow _ _ (hliterals text priority place (mem_productionOrder_iff.2 hliteral))
      · intro r hr
        obtain ⟨text, hresult, hmem⟩ := hresults r hr
        exact ⟨text, hresult, hrow _ _ hmem⟩

/-! ## Scopes that grow -/

namespace Sections

/-- A scope changes by appends only. What is appended is listed with the places that it gets. -/
inductive Appends (scope : ScopeId) (S : Sections δ) :
    List (Fragment δ × Nat) → Sections δ → Prop where
  /-- Nothing has changed. -/
  | refl : Appends scope S [] S
  /-- Something changes, and the fragments of the scope stay. -/
  | other {appended : List (Fragment δ × Nat)} {T U : Sections δ} (h : Appends scope S appended T)
    (hsame : U.fragments scope = T.fragments scope) : Appends scope S appended U
  /-- A fragment is appended to the scope. -/
  | append {appended : List (Fragment δ × Nat)} {T : Sections δ} (h : Appends scope S appended T)
    (hscope : scope.index < T.scopes.size) (fragment : Fragment δ) :
    Appends scope S (appended ++ [(fragment, (T.addTo scope fragment).1)])
      (T.addTo scope fragment).2

/-- A fragment gets the next free place of the scope. -/
theorem addTo_fst (S : Sections δ) (scope : ScopeId) (fragment : Fragment δ) :
    (S.addTo scope fragment).1 = (S.fragments scope).length := by
  obtain ⟨scopes, named⟩ := S
  unfold addTo fragments scope?
  dsimp only
  cases scopes[scope.index]? with
  | none => rfl
  | some found => exact Array.length_toList.symm

/-- What is appended to a scope goes behind the fragments that it has. -/
theorem Appends.zipIdx {scope : ScopeId} {S T : Sections δ} {appended : List (Fragment δ × Nat)}
    (h : Appends scope S appended T) :
    (T.fragments scope).zipIdx = (S.fragments scope).zipIdx ++ appended := by
  induction h with
  | refl => rw [List.append_nil]
  | other h hsame ih => rw [hsame, ih]
  | append h hscope fragment ih =>
    rw [fragments_addTo_self hscope, List.zipIdx_append, ih, addTo_fst, List.append_assoc,
      List.zipIdx_singleton, Nat.zero_add]

end Sections

/-- What renderers append to a scope, one after another, goes behind the fragments that it has. -/
theorem Consecutive.zipIdx {run : δ → Render σ String} {s t : Store σ} {ran : List (Ran σ δ)}
    {request : RequestId} {scope : ScopeId} {appended : Ran σ δ → List (Fragment Deferred × Nat)}
    (h : Consecutive run s ran t)
    (happended : ∀ r ∈ ran,
      Sections.Appends scope (r.before.sections request) (appended r) (r.after.sections request)) :
    ((t.sections request).fragments scope).zipIdx =
      ((s.sections request).fragments scope).zipIdx ++ ran.flatMap appended := by
  induction h with
  | nil s => rw [List.flatMap_nil, List.append_nil]
  | @cons first others t hrun hothers ih =>
    have hfirst := (happended first List.mem_cons_self).zipIdx
    rw [ih fun r hr => happended r (List.mem_cons_of_mem first hr), hfirst, List.append_assoc,
      List.flatMap_cons]

/-- A scope is rendered with the fragments that it has now. -/
theorem exec_renderScope (run : Task → Render σ String) (request : RequestId) (scope : ScopeId)
    (s : Store σ) :
    exec (renderScope run request scope) s =
      exec (renderFragments (runDeferred run) ((s.sections request).fragments scope)) s :=
  exec_bind_ok (exec_withSections request _ s) _

/-- The output of a scope has the fragments that the scope has when it is asked for, even if the
render starts later. Those that the renderers append meanwhile get the next free places, and every
later render has them. -/
theorem renderScope_in_order (run : Task → Render σ String) (request : RequestId) (scope : ScopeId)
    (called started : Store σ) :
    let fragments := (called.sections request).fragments scope
    let outcome := exec (renderFragments (runDeferred run) fragments) started
    exec (renderScope run request scope) called =
        exec (renderFragments (runDeferred run) fragments) called ∧
      ∃ ran, Rendering (runDeferred run) fragments started ran outcome ∧
        ∀ appended : Ran σ Deferred → List (Fragment Deferred × Nat),
          (∀ r ∈ ran, Sections.Appends scope (r.before.sections request) (appended r)
            (r.after.sections request)) →
          ((outcome.2.sections request).fragments scope).zipIdx =
              ((started.sections request).fragments scope).zipIdx ++ ran.flatMap appended ∧
            ∀ later : Store σ,
              (outcome.2.sections request).fragments scope <+:
                (later.sections request).fragments scope →
              (∀ piece ∈ ran.flatMap appended,
                ((later.sections request).fragments scope)[piece.2]? = some piece.1) ∧
              ∃ ranLater, Rendering (runDeferred run) ((later.sections request).fragments scope)
                later ranLater (exec (renderScope run request scope) later) := by
  intro fragments outcome
  obtain ⟨ran, hran⟩ := rendering_renderFragments (runDeferred run) fragments started
  refine ⟨exec_renderScope run request scope called, ran, hran, fun appended happended => ?_⟩
  have hgrown := hran.consecutive.zipIdx happended
  refine ⟨hgrown, fun later hlater => ⟨fun piece hpiece => ?_, ?_⟩⟩
  · have hmem : piece ∈ ((outcome.2.sections request).fragments scope).zipIdx :=
      hgrown ▸ List.mem_append_right _ hpiece
    have hplace := List.mem_zipIdx_iff_getElem?.1 hmem
    obtain ⟨more, hmore⟩ := hlater
    rw [← hmore, List.getElem?_append_left (List.getElem?_eq_some_iff.1 hplace).1]
    exact hplace
  · rw [exec_renderScope]
    exact rendering_renderFragments (runDeferred run) _ later

end TemplateEngine
