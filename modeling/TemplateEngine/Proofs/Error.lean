import TemplateEngine.Engine.Render

/-!
# Errors and what is put around them

On its way out an error gets layers: the expression, the places in templates, and the mark of a
shared result.

* **`Error.Similar`**: the same root cause, and a redirect on its way out to the same target. No
  layer that the engine puts around an error makes a difference to it (`similar_located` and its
  like).
* **`Error.IsClear`**: if the root cause is a redirect, then nothing hides it.
* **`Error.IsOwn`**: a failure that the library itself finds, other than an imbalance of sections.
-/

namespace TemplateEngine

open TemplateEngine.Template

namespace Error

/-- The same root cause, and the same redirect. -/
structure Similar (a b : Error) : Prop where
  /-- The innermost errors are the same. -/
  root : a.rootCause = b.rootCause
  /-- They are redirects to the same target, or both are none. -/
  target : a.redirectTarget? = b.redirectTarget?

theorem Similar.refl (a : Error) : Similar a a := ⟨rfl, rfl⟩

theorem Similar.symm {a b : Error} (h : Similar a b) : Similar b a := ⟨h.root.symm, h.target.symm⟩

theorem Similar.trans {a b c : Error} (h : Similar a b) (h' : Similar b c) : Similar a c :=
  ⟨h.root.trans h'.root, h.target.trans h'.target⟩

theorem similar_shared (error : Error) : Similar error (.shared error) := ⟨rfl, rfl⟩

/-- A layer that hides what it is around may be put around what is no redirect. -/
theorem redirectTarget?_eq_none {error : Error} (h : ¬error.isRedirect) :
    error.redirectTarget? = none := by
  unfold isRedirect at h
  rcases ht : error.redirectTarget? with _ | target
  · rfl
  · rw [ht] at h
    exact absurd rfl h

theorem similar_evaluationError (source rooted : String) (error : Error) :
    Similar error (evaluationError source rooted error) := by
  unfold evaluationError
  split
  · exact .refl error
  · next h => exact ⟨rfl, redirectTarget?_eq_none h⟩

theorem similar_locate (template : CompiledTemplate) (token : Nat) (error : Error) :
    Similar error (locate template token error) := by
  unfold locate
  split
  · exact .refl error
  · next h => exact ⟨rfl, redirectTarget?_eq_none h⟩

theorem similar_locateLayout (template : CompiledTemplate) (token : Nat) (error : Error) :
    Similar error (locateLayout template token error) := by
  unfold locateLayout
  split
  · exact .refl _
  · exact similar_locate template token error

/-! ## Redirects -/

/-- If the root cause is a redirect, then the error is one on its way out. -/
def IsClear (error : Error) : Prop :=
  ∀ target, error.rootCause = .redirect target → error.isRedirect

theorem IsClear.similar {a b : Error} (ha : a.IsClear) (h : Similar a b) : b.IsClear := by
  intro target hb
  unfold isRedirect
  rw [← h.target]
  exact ha target (h.root.trans hb)

theorem isClear_redirect (target : String) : (Error.redirect target).IsClear := fun _ _ => rfl

/-! ## Failures of the library -/

/-- The sections are not as the pushes and pops of the engine should leave them. -/
def IsImbalance : Error → Prop
  | .structural .tooManyPops => True
  | .structural (.popOfUnused _) => True
  | .structural (.unbalancedBody _ _) => True
  | _ => False

/-- A failure that the library finds, other than an imbalance of sections. -/
def IsOwn (error : Error) : Prop :=
  match error with
  | .parse .. => True
  | .structural fault => ¬(Error.structural fault).IsImbalance
  | .expression _ => True
  | .resolution _ => True
  | _ => False

theorem IsOwn.rootCause {error : Error} (h : error.IsOwn) : error.rootCause = error := by
  cases error with
  | parse | structural | expression | resolution => rfl
  | _ => exact h.elim

theorem IsOwn.isClear {error : Error} (h : error.IsOwn) : error.IsClear := by
  intro target hroot
  rw [h.rootCause] at hroot
  subst hroot
  exact h.elim

theorem IsOwn.not_isImbalance {error : Error} (h : error.IsOwn) :
    ¬error.rootCause.IsImbalance := by
  rw [h.rootCause]
  cases error with
  | structural fault => exact h
  | parse | expression | resolution => exact id
  | _ => exact h.elim

/-! ## Failures of steps -/

theorem isOwn_resolveDirectory {context : Context} {path : String} {error : Error}
    (h : Engine.resolveDirectory context path = .error error) : error.IsOwn := by
  unfold Engine.resolveDirectory at h
  split at h
  · dsimp only at h
    split at h
    · cases h
    · cases h
      exact trivial
  · cases h

theorem isOwn_resolvePath {σ : Type} {engine : Engine σ} {context : Context} {path : String}
    {error : Error} (h : engine.resolvePath context path = .error error) : error.IsOwn := by
  unfold Engine.resolvePath at h
  rcases hd : Engine.resolveDirectory context (Text.trimString path) with e | directory
  · rw [hd] at h
    cases h
    exact isOwn_resolveDirectory hd
  · rw [hd] at h
    cases h

theorem isOwn_checkDepth {σ : Type} {engine : Engine σ} {context : Context} {error : Error}
    (h : engine.checkDepth context = .error error) : error.IsOwn := by
  unfold Engine.checkDepth at h
  split at h
  · cases h
    exact id
  · cases h

theorem isOwn_add {tag : String} {p : Invocation.Parameters} {named : String × String}
    {fault : StructuralFault} (h : p.add tag named = .error fault) :
    (Error.structural fault).IsOwn := by
  unfold Invocation.Parameters.add at h
  dsimp only at h
  split at h
  · cases h
  · split at h
    · cases h
    · split at h
      · cases h
      · split at h
        · cases h
          exact id
        · cases h

theorem isOwn_foldlM_add {tag : String} {attributes : List (String × String)}
    {p : Invocation.Parameters} {fault : StructuralFault}
    (h : attributes.foldlM (Invocation.Parameters.add tag) p = .error fault) :
    (Error.structural fault).IsOwn := by
  induction attributes generalizing p with
  | nil => cases h
  | cons named rest ih =>
    rw [List.foldlM_cons] at h
    rcases hadd : p.add tag named with fault' | q
    · rw [hadd] at h
      cases h
      exact isOwn_add hadd
    · rw [hadd] at h
      exact ih h

theorem isOwn_ofTag {tag : ServerTag} {body : Option SlotId} {fault : StructuralFault}
    (h : Invocation.ofTag tag body = .error fault) : (Error.structural fault).IsOwn := by
  unfold Invocation.ofTag at h
  split at h
  · cases h
    exact id
  · next kind _ =>
    rcases hp : tag.attributes.foldlM (Invocation.Parameters.add tag.name) ⟨none, [], [], []⟩ with
      fault' | p
    · rw [hp] at h
      cases h
      exact isOwn_foldlM_add hp
    · rw [hp] at h
      rcases hpath : p.path with _ | path
      · simp only [bind, Except.bind, hpath] at h
        cases h
        exact id
      · simp only [bind, Except.bind, hpath] at h
        split at h
        · cases h
          exact id
        · cases h

end Error

theorem isOwn_compile {path source : String} {error : Error}
    (h : CompiledTemplate.compile path source = .error error) : error.IsOwn := by
  unfold CompiledTemplate.compile at h
  split at h
  · cases h
  · cases h
    exact trivial

theorem isOwn_load {cache : TemplateCache} {path source : String} {error : Error}
    (h : (cache.load path source).1 = .error error) : error.IsOwn := by
  have hcompile : ∀ cache : TemplateCache, (cache.compile path path source).1 = .error error →
      error.IsOwn := by
    intro cache h
    unfold TemplateCache.compile at h
    split at h
    · next hc =>
      cases h
      exact isOwn_compile hc
    · cases h
  unfold TemplateCache.load at h
  split at h
  · split at h
    · cases h
    · exact hcompile _ h
  · exact hcompile _ h

end TemplateEngine
