import Mathlib.Data.List.Induction
import TemplateEngine.Path

/-!
# Normalized paths

What the normal form of a path consists of.

* **`IsSegment`**: a name between slashes that is neither empty nor one of those that lead nowhere or
  upwards. The segments of a normalized path are such names (`isSegment_of_mem_normalSegments`),
  whatever the path was.
* **`ofSegments`** writes them with a slash in front of each; behind the first slash they are
  separated by slashes (`splitOnP_ofSegments`).
-/

namespace TemplateEngine.Path

variable {parts before : List (List Char)} {segment cs : List Char}

/-- A name between the slashes of a normalized path. -/
structure IsSegment (segment : List Char) : Prop where
  /-- It is not empty. -/
  ne_nil : segment ≠ []
  /-- It does not stand for the directory itself. -/
  ne_dot : segment ≠ ['.']
  /-- It does not stand for the directory above. -/
  ne_dots : segment ≠ ['.', '.']
  /-- It is not cut. -/
  plain : ∀ c ∈ segment, isSeparator c = false

/-- No piece of a cut text holds one of the characters at which it was cut. -/
theorem forall_mem_splitOnP {α : Type} (p : α → Bool) (xs : List α) :
    ∀ piece ∈ xs.splitOnP p, ∀ x ∈ piece, p x = false := by
  induction xs with
  | nil => simp
  | cons x xs ih =>
    rw [List.splitOnP_cons_eq_if_modifyHead]
    split
    · exact List.forall_mem_cons.2 ⟨nofun, ih⟩
    · next hx =>
      obtain ⟨head, rest, hsplit⟩ := List.exists_cons_of_ne_nil (List.splitOnP_ne_nil p xs)
      rw [hsplit] at ih ⊢
      obtain ⟨hhead, hrest⟩ := List.forall_mem_cons.1 ih
      exact List.forall_mem_cons.2
        ⟨List.forall_mem_cons.2 ⟨Bool.eq_false_iff.2 hx, hhead⟩, hrest⟩

/-- The other characters stand in some piece. -/
theorem mem_splitOnP_iff {α : Type} {p : α → Bool} {x : α} (hx : p x = false) (xs : List α) :
    x ∈ xs ↔ ∃ piece ∈ xs.splitOnP p, x ∈ piece := by
  induction xs with
  | nil => simp
  | cons y ys ih =>
    rw [List.splitOnP_cons_eq_if_modifyHead, List.mem_cons, ih]
    split
    · next hy =>
      have hne : x ≠ y := by
        rintro rfl
        rw [hx] at hy
        cases hy
      simp [hne]
    · obtain ⟨head, rest, hsplit⟩ := List.exists_cons_of_ne_nil (List.splitOnP_ne_nil p ys)
      rw [hsplit]
      simp [or_assoc]

theorem isSegment_of_mem_push (hbefore : ∀ s ∈ before, IsSegment s)
    (hsegment : ∀ c ∈ segment, isSeparator c = false) : ∀ s ∈ push before segment, IsSegment s := by
  unfold push
  split
  · exact hbefore
  · next hstay =>
    split
    · exact fun s hs => hbefore s (List.mem_of_mem_tail hs)
    · next hup =>
      obtain ⟨hnil, hdot⟩ := not_or.1 hstay
      exact List.forall_mem_cons.2 ⟨⟨hnil, hdot, hup, hsegment⟩, hbefore⟩

/-- A normalized path has only names that lead downwards. -/
theorem isSegment_of_mem_normalSegments : ∀ s ∈ normalSegments cs, IsSegment s := by
  have hfold : ∀ (pieces before : List (List Char)), (∀ s ∈ before, IsSegment s) →
      (∀ piece ∈ pieces, ∀ c ∈ piece, isSeparator c = false) →
        ∀ s ∈ pieces.foldl push before, IsSegment s := by
    intro pieces
    induction pieces with
    | nil => exact fun before hbefore _ => hbefore
    | cons piece pieces ih =>
      intro before hbefore hpieces
      obtain ⟨hpiece, hpieces⟩ := List.forall_mem_cons.1 hpieces
      exact ih _ (isSegment_of_mem_push hbefore hpiece) hpieces
  intro s hs
  exact hfold (segments cs) [] nofun (forall_mem_splitOnP isSeparator cs) s (List.mem_reverse.1 hs)

/-- The names of a path in its normal form. -/
def normalNames (path : String) : List String := (normalSegments path.toList).map String.ofList

/-- A segment has no slash. -/
theorem IsSegment.slash (h : IsSegment segment) : ∀ c ∈ segment, (c == '/') = false := by
  intro c hc
  have hplain := h.plain c hc
  unfold isSeparator at hplain
  exact (Bool.or_eq_false_iff.1 hplain).1

/-- Rooted pieces are found where they were written, with nothing in front of the first slash. -/
theorem splitOnP_flatMap_slash {p : Char → Bool} (hslash : p '/')
    (h : ∀ s ∈ parts, ∀ c ∈ s, p c = false) :
    (parts.flatMap ('/' :: ·)).splitOnP p = [] :: parts := by
  induction parts using List.reverseRecOn with
  | nil => simp
  | append_singleton parts last ih =>
    have hparts : ∀ s ∈ parts, ∀ c ∈ s, p c = false := fun s hs =>
      h s (List.mem_append_left _ hs)
    have hlast : ∀ c ∈ last, p c = false := h last (by simp)
    rw [List.flatMap_append, List.flatMap_singleton, List.splitOnP_append_cons _ _ hslash,
      ih hparts, List.splitOnP_eq_singleton hlast, List.cons_append]

/-- Behind the slashes at its front, a normalized path is empty or its segments between slashes. -/
theorem splitOnP_ofSegments (h : ∀ s ∈ parts, IsSegment s) :
    ((ofSegments parts).dropWhile (· == '/')).splitOnP (· == '/') =
      if parts = [] then [[]] else parts := by
  cases parts with
  | nil => rfl
  | cons first later =>
    have hfirst := h first List.mem_cons_self
    obtain ⟨c, cs, hcs⟩ := List.exists_cons_of_ne_nil hfirst.ne_nil
    have hc := hfirst.slash c (hcs ▸ List.mem_cons_self)
    have hwritten : ofSegments (first :: later) = '/' :: (first ++ later.flatMap ('/' :: ·)) := rfl
    have hfront : (ofSegments (first :: later)).dropWhile (· == '/') =
        first ++ later.flatMap ('/' :: ·) := by
      rw [hwritten, List.dropWhile_cons_of_pos rfl, hcs, List.cons_append,
        List.dropWhile_cons_of_neg (by simp [hc])]
    have hsplit := splitOnP_flatMap_slash (p := (· == '/')) rfl fun s hs => (h s hs).slash
    rw [List.flatMap_cons, List.cons_append, List.splitOnP_cons_eq_if_modifyHead,
      if_pos (beq_self_eq_true '/')] at hsplit
    rw [if_neg (List.cons_ne_nil _ _), hfront]
    exact (List.cons.inj hsplit).2

end TemplateEngine.Path
