import Mathlib.Data.Finset.Lattice.Fold
import Mathlib.Data.List.Dedup
import Mathlib.Data.Set.Finite.Basic
import TemplateEngine.Proofs.Engine.Budget
import TemplateEngine.Proofs.Engine.Contract
import TemplateEngine.Proofs.Engine.Request

/-!
# `Engine` · Rendering ends

However templates nest and whatever sections they print, some fuel suffices for a request, and more
of it changes nothing.

* **`Engine.exists_rated`**: if there are only finitely many sources, then templates have a greatest
  length, and so have those that a cache keeps.
* **`Rates.exists_fits`**: what a store holds when a request starts fits below some limit, and the
  limit depends neither on the host nor on the path.
* **`renderView_bounded`**: with that limit as its fuel, no request reaches the end of the fuel, and
  a template that is nested too deep is not even read.
-/

namespace TemplateEngine

open Render TemplateEngine.Template

variable {σ : Type}

/-! ## Lengths of templates -/

/-- How many parts a source has; none if it is malformed. -/
def partCount (source : String) : Nat :=
  match tokenize source with
  | .ok tokens => tokens.length
  | .error _ => 0

theorem length_tokens_of_compile {path source : String} {template : CompiledTemplate}
    (h : CompiledTemplate.compile path source = .ok template) :
    template.tokens.length = partCount source := by
  unfold CompiledTemplate.compile at h
  unfold partCount
  rcases htokens : tokenize source with ⟨fault, offset⟩ | tokens
  · rw [htokens] at h
    cases h
  · rw [htokens] at h
    cases h
    rfl

/-- A cache keeps finitely many templates, of which one is the longest. -/
theorem TemplateCache.exists_within (cache : TemplateCache) : ∃ parts, cache.Within parts := by
  rcases hstore : cache.store with _ | store
  · refine ⟨0, fun found hfound => ?_⟩
    rw [hstore] at hfound
    cases hfound
  · refine ⟨(store.entries.map fun entry => entry.2.2.tokens.length).sum, fun found hfound => ?_⟩
    rw [hstore] at hfound
    cases hfound
    intro path kept hkept
    exact List.le_sum_of_mem (List.mem_map_of_mem hkept)

theorem TemplateCache.Within.mono {cache : TemplateCache} {parts most : Nat}
    (h : cache.Within parts) (hle : parts ≤ most) : cache.Within most :=
  fun store hstore path kept hkept => Nat.le_trans (h store hstore path kept hkept) hle

/-- Of finitely many sources one is the longest. -/
theorem exists_parts {read : String → Except Error String}
    (h : {source | ∃ path, read path = .ok source}.Finite) :
    ∃ parts, ∀ {path source template}, read path = .ok source →
      CompiledTemplate.compile path source = .ok template → template.tokens.length ≤ parts := by
  refine ⟨h.toFinset.sup partCount, fun {path source template} hread hcompile => ?_⟩
  rw [length_tokens_of_compile hcompile]
  exact Finset.le_sup (h.mem_toFinset.2 ⟨path, hread⟩)

/-! ## The start of a request -/

/-- The places of a store are finitely many. -/
theorem Store.exists_holders (store : Store σ) :
    ∃ holders : List Holder, holders.Nodup ∧ ∀ holder, holder ∈ holders ↔ holder.Made store := by
  let scopes : List Holder := (List.range store.requests.size).flatMap fun request =>
    (List.range (store.sections ⟨request⟩).scopes.size).map fun id => .scope ⟨request⟩ ⟨id⟩
  let slots : List Holder := (List.range store.slots.size).map fun id => .slot ⟨id⟩
  refine ⟨(scopes ++ slots).dedup, List.nodup_dedup _, fun holder => ?_⟩
  rw [List.mem_dedup, List.mem_append]
  cases holder with
  | scope request id =>
    simp only [scopes, slots, List.mem_flatMap, List.mem_map, List.mem_range, reduceCtorEq, and_false,
      exists_false, or_false, Holder.made_scope]
    constructor
    · rintro ⟨place, _, index, hindex, heq⟩
      cases heq
      exact hindex
    · intro hid
      refine ⟨request.index, Nat.lt_of_not_le fun hle => ?_, id.index, hid, rfl⟩
      rw [Store.sections_of_le hle] at hid
      exact Nat.not_lt_zero _ hid
  | slot id =>
    simp only [scopes, slots, List.mem_flatMap, List.mem_map, List.mem_range, reduceCtorEq, and_false,
      exists_false, false_or, Holder.made_slot]
    constructor
    · rintro ⟨index, hindex, heq⟩
      cases heq
      exact hindex
    · intro hid
      exact ⟨id.index, hid, rfl⟩

/-- What may be printed at the start is whatever there is. -/
theorem Rates.exists_fits (rates : Rates) {store : Store σ} (hsize : store.requests.size = rates.requests)
    (htidy : store.Tidy) (htemplates : store.templates.Within rates.parts) (reserve : Nat) :
    ∃ limit, rates.Fits limit store [] reserve := by
  obtain ⟨loose, honce, hmade⟩ := store.exists_holders
  refine ⟨_, loose, ⟨hsize, htidy, fun {request name id} hmem => ?_, fun {id} hheld => ?_, honce,
    List.nodup_nil, fun hmem => (hmade _).1 hmem, fun hmem => (nomatch hmem), htemplates⟩,
    Nat.le_refl _⟩
  · obtain ⟨gone, hgone⟩ := htidy request
    exact (hmade _).2 (Holder.made_scope.2 (hgone.made hmem))
  · rw [hmade]
    by_contra hnot
    exact hheld (Store.held_of_not_made hnot)

/-- The functions that are made for a request do not matter. -/
theorem Rates.Fits.withRequest {rates : Rates} {store : Store σ} {limit reserve : Nat}
    (h : rates.Fits limit (store.withRequest store.graph) [] reserve) (graph : Graph) :
    rates.Fits limit (store.withRequest graph) [] reserve := by
  have hsame : rates.Narrows 0 (store.withRequest store.graph) (store.withRequest graph) :=
    .of_same rfl (fun _ => rfl) rfl rfl (Nat.le_refl _)
  exact hsame.fits (by rwa [Nat.zero_add])

/-- A request starts with nothing in its sections. -/
theorem Store.Tidy.withRequest {store : Store σ} (h : store.Tidy) (graph : Graph) :
    (store.withRequest graph).Tidy := by
  intro id
  have hsections : (store.withRequest graph).sections id = store.sections id := by
    unfold Store.sections Store.withRequest
    rw [Array.getElem?_push]
    split
    · next hid =>
      rw [Array.getElem?_eq_none (Nat.le_of_eq hid.symm)]
      rfl
    · rfl
  rw [hsections]
  exact h id

/-! ## Requests -/

/-- A whole request for the view at a path, whose output is produced by `run`. -/
def Engine.renderViewBy (engine : Engine σ) (run : Task → Render σ String) (path : String)
    (data : ObjectId) : Render σ Rendered := do
  let context ← engine.context path data
  let result ← attempt (run (.template context))
  let redirect ← withRequest context.request Request.redirect
  ofExcept (outcome redirect result)

theorem Engine.renderView_eq (engine : Engine σ) (fuel : Nat) (path : String) (data : ObjectId) :
    engine.renderView fuel path data = engine.renderViewBy (engine.produce fuel) path data := rfl

/-- Two ways to produce output that agree on the template of a request agree on the request. -/
theorem Engine.agree_renderViewBy {rates : Rates} (engine : Engine σ) {limit : Nat}
    {run run' : Task → Render σ String} (path : String) (data : ObjectId) {store : Store σ}
    (hrun : ∀ task, rates.Affords limit (rates.task task) (run task) (run' task))
    (h : rates.Fits limit (store.withRequest store.graph) [] (rates.level (rates.depth + 1))) :
    rates.Agree limit store [] 0 (engine.renderViewBy run path data)
      (engine.renderViewBy run' path data) .plain := by
  obtain ⟨context, graph, hcontext, -, htop, -⟩ := exec_context engine path data store
  refine .step hcontext ?_
  have hprice : rates.task (.template context) = rates.level (rates.depth + 1) := by
    rw [Rates.task, htop.depth]
    rfl
  have hredirect : rates.Affords (σ := σ) limit 0 (withRequest context.request Request.redirect)
      (withRequest context.request Request.redirect) := .of_narrows fun s => .refl s
  have hrequest := (Rates.Affords.attempt (hrun (.template context))).bind fun result =>
    hredirect.free fun redirect => .ofExcept (outcome redirect result)
  refine hrequest (store.withRequest graph) [] 0 ?_
  rw [hprice]
  exact h.withRequest graph

/-- Rendering ends. For finitely many sources and a store in which every scope is in one place, there
is a bound such that no request, whatever it evaluates, nests its output deeper (`limit` would
produce what is deeper), nor reads more templates, takes more scopes away or makes more slots, of
which each is rendered once at most. A request that waits for itself does nothing more, and so ends
here as well. The store stays as it has to be for the next request. And a template that is nested
deeper than the settings allow is neither read nor walked. -/
theorem renderView_bounded (config : Config) (read : String → Except Error String)
    (hread : {source | ∃ path, read path = .ok source}.Finite) (store : Store σ)
    (hstore : store.Tidy) :
    ∃ bound, ∀ (host : Host σ) (path : String) (data : ObjectId),
      let engine := Engine.interpreting config read host
      (∀ limit fuel, bound ≤ fuel →
        exec (engine.renderViewBy (engine.produceUpTo limit fuel) path data) store =
          exec (engine.renderView bound path data) store) ∧
      (exec (engine.renderView bound path data) store).2.work ≤ bound ∧
      (exec (engine.renderView bound path data) store).2.Tidy ∧
      ∀ context, config.maxDepth < context.depth → ∀ run s,
        exec (engine.renderTemplate run context) s = (.error (.raised (.structural
          (.tooDeep context.depth config.maxDepth context.viewPath))), s) := by
  obtain ⟨parts, hparts⟩ := exists_parts hread
  obtain ⟨kept, hkept⟩ := store.templates.exists_within
  let rates : Rates := ⟨store.requests.size + 1, max parts kept, config.maxDepth⟩
  have hsize : (store.withRequest store.graph).requests.size = rates.requests := Array.size_push _
  obtain ⟨bound, hbound⟩ := rates.exists_fits hsize (hstore.withRequest _)
    (hkept.mono (Nat.le_max_right parts kept)) (rates.level (rates.depth + 1))
  refine ⟨bound, fun host path data => ?_⟩
  intro engine
  have hrated : engine.Rated rates :=
    ⟨fun hsource hcompile => Nat.le_trans (hparts hsource hcompile) (Nat.le_max_left parts kept), rfl⟩
  have hagree := fun limit limit' => engine.agree_renderViewBy path data
    (Rates.Affords.produceUpTo hrated (Engine.interprets_interpreting config read host) limit limit'
      bound) hbound
  have hproduce : engine.renderView bound path data =
      engine.renderViewBy (engine.produceUpTo (fun _ => throw .exhausted) bound) path data := by
    rw [Engine.renderView_eq, Engine.produce_eq_produceUpTo]
  have hleft : ∃ held, rates.Fits bound (exec (engine.renderView bound path data) store).2 held 0 := by
    have hfits := (hagree (fun _ => throw .exhausted) fun _ => throw .exhausted).fits
    rw [← hproduce] at hfits
    rcases hexec : exec (engine.renderView bound path data) store with ⟨stop | rendered, after⟩
    · exact ⟨_, hfits.error hexec⟩
    · exact ⟨_, (hfits.ok hexec).2⟩
  obtain ⟨held, hfits⟩ := hleft
  refine ⟨fun limit fuel hfuel => ?_, hfits.work_le, ?_,
    fun context hdeep run s => Engine.exec_renderTemplate_of_deep hdeep run s⟩
  · obtain ⟨more, rfl⟩ := Nat.exists_eq_add_of_le' hfuel
    rw [hproduce, Engine.produceUpTo_add]
    exact (hagree _ _).same
  · obtain ⟨loose, hstock, -⟩ := hfits
    exact hstock.tidy

/-- A page that includes itself. -/
def endlessPages : List (String × String) := [("/p.html", "A$\x7b#include p\x7d")]

/-- Such a page is read as often as the settings allow, and no limit is reached with some fuel. -/
theorem renderView_bounded_page :
    let config : Config := { Config.standard with maxDepth := 2, cacheSize := 0 }
    let engine := Engine.inMemory config endlessPages
    let store : Store Unit := Store.fresh .nothing ()
    {source | ∃ path, engine.read path = .ok source}.Finite ∧ store.Tidy ∧
      (exec (engine.renderView 4 "/p" ⟨0⟩) store).2.work = 3 ∧
      ∃ bound, ∀ limit fuel, bound ≤ fuel →
        exec (engine.renderViewBy (engine.produceUpTo limit fuel) "/p" ⟨0⟩) store =
          exec (engine.renderView bound "/p" ⟨0⟩) store := by
  intro config engine store
  have hfinite : {source | ∃ path, engine.read path = .ok source}.Finite := by
    refine ((endlessPages.map Prod.snd).finite_toSet).subset ?_
    rintro source ⟨path, hsource⟩
    obtain ⟨entry, hentry, rfl⟩ := MemorySource.mem_of_read hsource
    exact List.mem_map_of_mem hentry
  have htidy : store.Tidy := fun _ => ⟨[], Sections.distinct_empty⟩
  obtain ⟨bound, hbound⟩ := renderView_bounded config engine.read hfinite store htidy
  exact ⟨hfinite, htidy, by decide +kernel, bound, (hbound Host.none "/p" ⟨0⟩).1⟩

end TemplateEngine
