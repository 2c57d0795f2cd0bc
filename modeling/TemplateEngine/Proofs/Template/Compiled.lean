import TemplateEngine.Template.Compiled

/-!
# `Template` · What is kept of templates

A template that is kept under a path stands for what the file at the path compiles to.

* **`TemplateCache.All`**: what holds of all templates that are kept and of what is compiled goes on
  to hold, however the cache is used.
* **`TemplateCache.Honest`**: a kept template that has the digest of the source at its path is what
  that source compiles to. A cache can be wrong only if two sources have one digest.
* **`load_of_honest`**: then it makes no difference whether a template was kept, and the cache stays
  honest.
-/

namespace TemplateEngine

namespace Recent

variable {α : Type} {store : Recent α}

/-- A value that is found was kept under its key. -/
theorem mem_of_get? {key : String} {value : α} (h : (store.get? key).1 = some value) :
    (key, value) ∈ store.entries := by
  unfold get? at h
  rcases hfind : store.entries.lookup key with _ | found
  · rw [hfind] at h
    cases h
  · rw [hfind] at h
    cases h
    obtain ⟨before, rest, hentries, -⟩ := List.lookup_eq_some_iff.1 hfind
    rw [hentries]
    exact List.mem_append_right _ (List.mem_cons_self ..)

theorem mem_of_mem_others {entry : String × α} {key : String} (h : entry ∈ store.others key) :
    entry ∈ store.entries :=
  (List.mem_filter.1 h).1

/-- Looking a value up keeps no others than before. -/
theorem mem_of_mem_get? {entry : String × α} {key : String}
    (h : entry ∈ (store.get? key).2.entries) : entry ∈ store.entries := by
  rcases hfind : store.entries.lookup key with _ | found
  · have hsame : (store.get? key).2 = store := by
      unfold get?
      rw [hfind]
    rw [hsame] at h
    exact h
  · have hget : (store.get? key).1 = some found := by
      unfold get?
      rw [hfind]
    have hentries : (store.get? key).2.entries = (key, found) :: store.others key := by
      unfold get?
      rw [hfind]
    rw [hentries] at h
    rcases List.mem_cons.1 h with rfl | h
    · exact mem_of_get? hget
    · exact mem_of_mem_others h

theorem mem_of_mem_put {entry : String × α} {key : String} {value : α}
    (h : entry ∈ (store.put key value).entries) : entry = (key, value) ∨ entry ∈ store.entries := by
  rcases List.mem_cons.1 (List.mem_of_mem_take h) with rfl | h
  · exact .inl rfl
  · exact .inr (mem_of_mem_others h)

end Recent

/-- A source that compiles is cut into the parts of the template. -/
theorem CompiledTemplate.parts_of_compile {path source : String} {template : CompiledTemplate}
    (h : compile path source = .ok template) :
    template.path = path ∧ template.source = source ∧
      Template.tokenize source = .ok template.tokens := by
  unfold compile at h
  rcases htokens : Template.tokenize source with ⟨fault, offset⟩ | tokens
  · rw [htokens] at h
    cases h
  · rw [htokens] at h
    cases h
    exact ⟨rfl, rfl, rfl⟩

namespace TemplateCache

variable {read : String → Except Error String} {cache : TemplateCache}
  {P : String → CompiledTemplate → Prop}

/-! ## What holds of all templates that are kept -/

/-- Something holds of every template that is kept, and its path. -/
def All (P : String → CompiledTemplate → Prop) (cache : TemplateCache) : Prop :=
  ∀ store, cache.store = some store → ∀ path kept, (path, kept) ∈ store.entries → P path kept.2

theorem all_nothing : nothing.All P := nofun

theorem all_keeping (capacity : Nat) : (keeping capacity).All P := by
  intro store hstore path kept hkept
  cases hstore
  cases hkept

theorem All.get? (h : cache.All P) (path : String) : (cache.get? path).2.All P := by
  unfold TemplateCache.get?
  rcases hstore : cache.store with _ | store
  · exact h
  · intro after hafter other kept hkept
    cases hafter
    exact h store hstore other kept (Recent.mem_of_mem_get? hkept)

/-- A template that is found was kept. -/
theorem All.of_get? (h : cache.All P) {path : String} {kept : Nat × CompiledTemplate}
    (hget : (cache.get? path).1 = some kept) : P path kept.2 := by
  unfold TemplateCache.get? at hget
  rcases hstore : cache.store with _ | store
  · rw [hstore] at hget
    cases hget
  · rw [hstore] at hget
    exact h store hstore path kept (Recent.mem_of_get? hget)

/-- Compiling a source gives what it compiles to, which is then kept. -/
theorem All.compile (h : cache.All P) {path source : String}
    (hnew : ∀ template, CompiledTemplate.compile path source = .ok template → P path template) :
    (cache.compile path path source).1.map Prod.snd = CompiledTemplate.compile path source ∧
      (cache.compile path path source).2.All P := by
  unfold TemplateCache.compile
  rcases hcompile : CompiledTemplate.compile path source with error | template
  · exact ⟨rfl, h⟩
  · refine ⟨rfl, ?_⟩
    intro after hafter other kept hkept
    rcases hstore : cache.store with _ | store
    · simp only [put, hstore] at hafter
      cases hafter
    · simp only [put, hstore, Option.map_some, Option.some.injEq] at hafter
      subst hafter
      rcases Recent.mem_of_mem_put hkept with hold | hold
      · cases hold
        exact hnew template hcompile
      · exact h store hstore other kept hold

/-- A template that is loaded was kept under its path or compiled from the source just read. -/
theorem All.load (h : cache.All P) (path source : String)
    (hnew : ∀ template, CompiledTemplate.compile path source = .ok template → P path template) :
    (((cache.load path source).1.map Prod.snd = CompiledTemplate.compile path source) ∨
      ∃ template, (cache.load path source).1.map Prod.snd = .ok template ∧ P path template ∧
        template.isFor source) ∧ (cache.load path source).2.All P := by
  have hafter := h.get? path
  unfold TemplateCache.load
  rcases hget : cache.get? path with ⟨_ | ⟨number, template⟩, after⟩
  · rw [hget] at hafter
    exact (hafter.compile hnew).imp_left .inl
  · rw [hget] at hafter
    dsimp only
    split
    · next hfor => exact ⟨.inr ⟨template, rfl, h.of_get? (congrArg Prod.fst hget), hfor⟩, hafter⟩
    · exact (hafter.compile hnew).imp_left .inl

/-! ## Honest caches -/

/-- What is kept under a path is what the source at the path compiles to, if it has its digest. -/
def Honest (read : String → Except Error String) (cache : TemplateCache) : Prop :=
  ∀ store, cache.store = some store → ∀ path kept, (path, kept) ∈ store.entries →
    ∀ source, read path = .ok source → kept.2.isFor source →
      CompiledTemplate.compile path source = .ok kept.2

theorem honest_iff_all : cache.Honest read ↔ cache.All fun path template => ∀ source,
    read path = .ok source → template.isFor source →
      CompiledTemplate.compile path source = .ok template := Iff.rfl

/-- A cache that keeps nothing is honest. -/
theorem honest_nothing : nothing.Honest read := honest_iff_all.2 all_nothing

/-- A cache that keeps nothing so far is honest. -/
theorem honest_keeping (capacity : Nat) : (keeping capacity).Honest read :=
  honest_iff_all.2 (all_keeping capacity)

/-- An honest cache gives what the source compiles to, and stays honest. -/
theorem load_of_honest (h : cache.Honest read) {path source : String}
    (hread : read path = .ok source) :
    (cache.load path source).1.map Prod.snd = CompiledTemplate.compile path source ∧
      (cache.load path source).2.Honest read := by
  have hload := (honest_iff_all.1 h).load path source fun template hcompile source' hread' _ => by
    cases hread.symm.trans hread'
    exact hcompile
  refine ⟨?_, hload.2⟩
  rcases hload.1 with hcompiled | ⟨template, hkept, hhonest, hfor⟩
  · exact hcompiled
  · rw [hkept]
    exact (hhonest source hread hfor).symm

end TemplateCache

end TemplateEngine
