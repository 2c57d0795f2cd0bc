import Mathlib.Data.List.Forall2
import Mathlib.Data.List.Induction
import TemplateEngine.Section.Scope

/-!
# `Section` · Production and placement

* **Ordering** neither loses nor repeats an item (`ordered_perm`), and of items with one rank the
  first stays in front (`ordered_eq_descending`).
* Items that correspond are ordered in the same way (`ordered_rel`, `productionOrder_rel`).
* **Production** goes through the priorities from the highest to the lowest
  (`productionOrder_eq`).
* **Placement** undoes the order of production: texts that stand at different places are joined in
  the order of these (`assemble_of_perm`).
-/

namespace TemplateEngine

variable {α δ : Type} {precedes : α → α → Bool}

/-! ## Ordering -/

theorem insertOrdered_perm (item : α) (items : List α) :
    (insertOrdered precedes item items).Perm (item :: items) := by
  induction items with
  | nil => exact .refl _
  | cons head rest ih =>
    unfold insertOrdered
    split
    · exact .refl _
    · exact (ih.cons head).trans (.swap item head rest)

theorem foldl_insertOrdered_perm (items sorted : List α) :
    (items.foldl (fun sorted item => insertOrdered precedes item sorted) sorted).Perm
      (sorted ++ items) := by
  induction items generalizing sorted with
  | nil => rw [List.append_nil, List.foldl_nil]
  | cons item rest ih =>
    rw [List.foldl_cons]
    have hmiddle : (sorted ++ item :: rest).Perm (item :: (sorted ++ rest)) := List.perm_middle
    exact (ih _).trans (((insertOrdered_perm item sorted).append_right rest).trans hmiddle.symm)

/-- Ordering neither loses nor repeats an item. -/
theorem ordered_perm (items : List α) : (ordered precedes items).Perm items :=
  foldl_insertOrdered_perm items []

/-- The last item is inserted last. -/
theorem ordered_concat (items : List α) (item : α) :
    ordered precedes (items ++ [item]) = insertOrdered precedes item (ordered precedes items) := by
  unfold ordered
  rw [List.foldl_append]
  rfl

/-- An item goes behind those that it does not precede. -/
theorem insertOrdered_append {item : α} {items : List α} (h : ∀ a ∈ items, precedes item a = false)
    (rest : List α) :
    insertOrdered precedes item (items ++ rest) = items ++ insertOrdered precedes item rest := by
  induction items with
  | nil => rfl
  | cons head items ih =>
    have hhead : precedes item head = false := h head (List.mem_cons_self ..)
    have hitems : ∀ a ∈ items, precedes item a = false := fun a ha =>
      h a (List.mem_cons_of_mem head ha)
    rw [List.cons_append, insertOrdered, if_neg (by rw [hhead]; exact Bool.false_ne_true),
      ih hitems, List.cons_append]

/-- An item goes in front of those that it precedes. -/
theorem insertOrdered_of_precedes {item : α} {items : List α}
    (h : ∀ a ∈ items, precedes item a = true) :
    insertOrdered precedes item items = item :: items := by
  cases items with
  | nil => rfl
  | cons head rest => rw [insertOrdered, if_pos (h head (List.mem_cons_self ..))]

/-! ## Descending ranks -/

section Ranks

variable {rank : α → Nat}

/-- The items whose rank is at most `bound`, from the highest rank to the lowest. -/
def descending (rank : α → Nat) : Nat → List α → List α
  | 0, items => items.filter (rank · = 0)
  | bound + 1, items => items.filter (rank · = bound + 1) ++ descending rank bound items

theorem rank_le_of_mem_descending {bound : Nat} {items : List α} {a : α}
    (h : a ∈ descending rank bound items) : rank a ≤ bound := by
  induction bound with
  | zero => exact Nat.le_of_eq (of_decide_eq_true (List.mem_filter.1 h).2)
  | succ bound ih =>
    rcases List.mem_append.1 h with h | h
    · exact Nat.le_of_eq (of_decide_eq_true (List.mem_filter.1 h).2)
    · exact Nat.le_succ_of_le (ih h)

/-- An item of a higher rank is left out. -/
theorem descending_concat_of_lt {bound : Nat} {item : α} (h : bound < rank item) (items : List α) :
    descending rank bound (items ++ [item]) = descending rank bound items := by
  induction bound with
  | zero => simp [descending, Nat.ne_of_gt h]
  | succ bound ih => simp [descending, Nat.ne_of_gt h, ih (Nat.lt_of_succ_lt h)]

/-- An item is inserted behind those of its own rank. -/
theorem insertOrdered_descending {bound : Nat} {item : α} (h : rank item ≤ bound)
    (items : List α) :
    insertOrdered (fun a b => rank b < rank a) item (descending rank bound items) =
      descending rank bound (items ++ [item]) := by
  induction bound with
  | zero =>
    have hrank : rank item = 0 := Nat.le_zero.1 h
    have hbehind : ∀ a ∈ descending rank 0 items, decide (rank a < rank item) = false := by
      intro a _
      rw [hrank]
      exact decide_eq_false (Nat.not_lt_zero _)
    have hlast : insertOrdered (fun a b => rank b < rank a) item (descending rank 0 items ++ []) =
        descending rank 0 items ++ [item] := insertOrdered_append hbehind []
    rw [List.append_nil] at hlast
    rw [hlast]
    simp [descending, hrank]
  | succ bound ih =>
    have hbehind : ∀ a ∈ items.filter (rank · = bound + 1), decide (rank a < rank item) = false := by
      intro a ha
      have ha : rank a = bound + 1 := of_decide_eq_true (List.mem_filter.1 ha).2
      exact decide_eq_false (by omega)
    unfold descending
    rw [insertOrdered_append hbehind]
    rcases Nat.lt_or_eq_of_le h with hlt | heq
    · rw [ih (Nat.le_of_lt_succ hlt)]
      simp [Nat.ne_of_lt hlt]
    · have hfront : ∀ a ∈ descending rank bound items, decide (rank a < rank item) = true := by
        intro a ha
        have ha := rank_le_of_mem_descending ha
        exact decide_eq_true (by omega)
      rw [insertOrdered_of_precedes hfront, descending_concat_of_lt (by omega)]
      simp [heq]

/-- Ordering by falling ranks keeps the order within a rank. -/
theorem ordered_eq_descending {bound : Nat} {items : List α} (h : ∀ a ∈ items, rank a ≤ bound) :
    ordered (fun a b => rank b < rank a) items = descending rank bound items := by
  induction items using List.reverseRecOn with
  | nil =>
    clear h
    induction bound with
    | zero => rfl
    | succ bound ih => exact ih
  | append_singleton items item ih =>
    have hitems : ∀ a ∈ items, rank a ≤ bound := fun a ha => h a (List.mem_append_left _ ha)
    have hitem : rank item ≤ bound := h item (List.mem_append_right _ (List.mem_singleton_self _))
    rw [ordered_concat, ih hitems, insertOrdered_descending hitem]

end Ranks

/-! ## Production -/

/-- What is produced is one of the fragments. -/
theorem mem_of_mem_productionOrder {fragments : List (Fragment δ)} {piece : Fragment δ × Nat}
    (h : piece ∈ productionOrder fragments) : piece.1 ∈ fragments := by
  have hmem : piece ∈ fragments.zipIdx := (ordered_perm _).mem_iff.1 h
  obtain ⟨fragment, place⟩ := piece
  exact List.fst_mem_of_mem_zipIdx hmem

/-- The places of items increase. -/
theorem pairwise_zipIdx (items : List α) : items.zipIdx.Pairwise fun a b => a.2 < b.2 := by
  rw [← List.pairwise_map (f := Prod.snd), List.zipIdx_map_snd]
  exact List.pairwise_lt_range'

/-- One placed fragment is produced before another one: its priority is higher, or is the same and
it was appended earlier. -/
def Earlier (a b : Fragment δ × Nat) : Prop :=
  b.1.priority < a.1.priority ∨ a.1.priority = b.1.priority ∧ a.2 < b.2

/-- A fragment that was appended after all others goes to its place among them. -/
theorem pairwise_earlier_insertOrdered {item : Fragment δ × Nat} {items : List (Fragment δ × Nat)}
    (h : items.Pairwise Earlier) (hlast : ∀ a ∈ items, a.2 < item.2) :
    (insertOrdered (fun a b => b.1.priority < a.1.priority) item items).Pairwise Earlier := by
  induction items with
  | nil => exact List.pairwise_singleton _ _
  | cons head rest ih =>
    obtain ⟨hhead, hrest⟩ := List.pairwise_cons.1 h
    unfold insertOrdered
    split
    · next hprecedes =>
      have hlt : head.1.priority < item.1.priority := of_decide_eq_true hprecedes
      refine List.pairwise_cons.2 ⟨fun a ha => .inl ?_, h⟩
      rcases List.mem_cons.1 ha with rfl | ha
      · exact hlt
      · rcases hhead a ha with hlower | ⟨hsame, -⟩
        · exact Nat.lt_trans hlower hlt
        · exact hsame ▸ hlt
    · next hnot =>
      have hle : item.1.priority ≤ head.1.priority :=
        Nat.le_of_not_lt fun hlt => hnot (decide_eq_true hlt)
      have hitems : ∀ a ∈ rest, a.2 < item.2 := fun a ha => hlast a (List.mem_cons_of_mem _ ha)
      refine List.pairwise_cons.2 ⟨fun a ha => ?_, ih hrest hitems⟩
      rcases List.mem_cons.1 ((insertOrdered_perm item rest).mem_iff.1 ha) with rfl | ha
      · rcases Nat.lt_or_eq_of_le hle with hlt | heq
        · exact .inl hlt
        · exact .inr ⟨heq.symm, hlast head List.mem_cons_self⟩
      · exact hhead a ha

/-- Fragments are produced in the order of decreasing priority, and of equal priorities in the order
in which they were appended. -/
theorem pairwise_productionOrder (fragments : List (Fragment δ)) :
    (productionOrder fragments).Pairwise Earlier := by
  have hplaced : ∀ placed : List (Fragment δ × Nat), placed.Pairwise (fun a b => a.2 < b.2) →
      (ordered (fun a b => b.1.priority < a.1.priority) placed).Pairwise Earlier := by
    intro placed hplaces
    induction placed using List.reverseRecOn with
    | nil => exact .nil
    | append_singleton placed last ih =>
      obtain ⟨hbefore, -, hlast⟩ := List.pairwise_append.1 hplaces
      rw [ordered_concat]
      apply pairwise_earlier_insertOrdered (ih hbefore)
      intro a ha
      exact hlast a ((ordered_perm placed).mem_iff.1 ha) last (List.mem_singleton_self last)
  exact hplaced _ (pairwise_zipIdx fragments)

/-- A fragment is produced for each place. -/
theorem mem_productionOrder_iff {fragments : List (Fragment δ)} {fragment : Fragment δ}
    {place : Nat} :
    (fragment, place) ∈ productionOrder fragments ↔ fragments[place]? = some fragment := by
  rw [productionOrder, (ordered_perm _).mem_iff, List.mem_zipIdx_iff_getElem?]

/-- The placed fragments of a priority. -/
def ranked (priority : Priority) (placed : List (Fragment δ × Nat)) : List (Fragment δ × Nat) :=
  placed.filter (·.1.priority = priority)

/-- Nested templates are produced first, then the content, then sections, and texts last. -/
theorem productionOrder_eq {fragments : List (Fragment δ)}
    (h : ∀ fragment ∈ fragments, fragment.priority ≤ Priority.nestedView) :
    productionOrder fragments =
      ranked .nestedView fragments.zipIdx ++ (ranked .printedContent fragments.zipIdx ++
        (ranked .printedSection fragments.zipIdx ++ ranked .normal fragments.zipIdx)) := by
  have hplaced : ∀ piece ∈ fragments.zipIdx, piece.1.priority ≤ 3 := by
    rintro ⟨fragment, place⟩ hpiece
    exact h fragment (List.fst_mem_of_mem_zipIdx hpiece)
  exact ordered_eq_descending hplaced

/-! ## Corresponding items -/

section Rel

variable {β δ' : Type} {precedes' : β → β → Bool} {R : α → β → Prop}

theorem insertOrdered_rel (h : ∀ a b, R a b → ∀ a' b', R a' b' → precedes a a' = precedes' b b')
    {a : α} {b : β} (hab : R a b) {items : List α} {items' : List β}
    (hitems : List.Forall₂ R items items') :
    List.Forall₂ R (insertOrdered precedes a items) (insertOrdered precedes' b items') := by
  induction hitems with
  | nil => exact .cons hab .nil
  | @cons a' b' rest rest' hhead hrest ih =>
    unfold insertOrdered
    rw [h a b hab a' b' hhead]
    split
    · exact .cons hab (.cons hhead hrest)
    · exact .cons hhead ih

/-- If corresponding items precede the same ones, then the ordered items correspond. -/
theorem ordered_rel (h : ∀ a b, R a b → ∀ a' b', R a' b' → precedes a a' = precedes' b b')
    {items : List α} {items' : List β} (hitems : List.Forall₂ R items items') :
    List.Forall₂ R (ordered precedes items) (ordered precedes' items') := by
  have hfold : ∀ {sorted : List α} {sorted' : List β}, List.Forall₂ R sorted sorted' →
      List.Forall₂ R (items.foldl (fun sorted item => insertOrdered precedes item sorted) sorted)
        (items'.foldl (fun sorted item => insertOrdered precedes' item sorted) sorted') := by
    induction hitems with
    | nil => exact id
    | cons hhead _ ih => exact fun hsorted => ih (insertOrdered_rel h hhead hsorted)
  exact hfold .nil

theorem zipIdx_rel {items : List α} {items' : List β} (hitems : List.Forall₂ R items items')
    (place : Nat) :
    List.Forall₂ (fun a b => R a.1 b.1 ∧ a.2 = b.2) (items.zipIdx place) (items'.zipIdx place) := by
  induction hitems generalizing place with
  | nil => exact .nil
  | cons hhead _ ih => exact .cons ⟨hhead, rfl⟩ (ih (place + 1))

/-- Fragments that correspond, and have the same priorities, are produced in the same order. -/
theorem productionOrder_rel {R : Fragment δ → Fragment δ' → Prop}
    (h : ∀ a b, R a b → a.priority = b.priority) {fragments : List (Fragment δ)}
    {fragments' : List (Fragment δ')} (hfragments : List.Forall₂ R fragments fragments') :
    List.Forall₂ (fun a b => R a.1 b.1 ∧ a.2 = b.2) (productionOrder fragments)
      (productionOrder fragments') := by
  refine ordered_rel (fun a b hab a' b' hab' => ?_) (zipIdx_rel hfragments 0)
  rw [h a.1 b.1 hab.1, h a'.1 b'.1 hab'.1]

end Rel

section Monads

variable {m : Type → Type} [Monad m] [LawfulMonad m] {run : δ → m String}

/-- What is produced first comes first. -/
theorem produceAll_append (first rest : List (Fragment δ × Nat)) :
    produceAll run (first ++ rest) =
      (do return (← produceAll run first) ++ (← produceAll run rest)) := by
  induction first with
  | nil => simp [produceAll]
  | cons piece first ih =>
    obtain ⟨⟨payload, priority⟩, place⟩ := piece
    cases payload with
    | literal text => simp [produceAll, ih]
    | deferred renderer => simp [produceAll, ih]

/-- The texts of fragments that are literals, with their places. -/
def literalTexts (placed : List (Fragment δ × Nat)) : List (String × Nat) :=
  placed.filterMap fun piece =>
    match piece.1.payload with
    | .literal text => some (text, piece.2)
    | .deferred _ => none

/-- Literals are produced as they are. -/
theorem produceAll_literals {placed : List (Fragment δ × Nat)}
    (h : ∀ piece ∈ placed, ∃ text, piece.1.payload = .literal text) :
    produceAll run placed = pure (literalTexts placed) := by
  induction placed with
  | nil => rfl
  | cons piece placed ih =>
    obtain ⟨text, htext⟩ := h piece (List.mem_cons_self ..)
    have hplaced := ih fun other hother => h other (List.mem_cons_of_mem piece hother)
    obtain ⟨⟨payload, priority⟩, place⟩ := piece
    subst htext
    simp [produceAll, literalTexts, hplaced]

/-- The fragments of a priority, in the order in which they were appended. -/
theorem map_fst_ranked (priority : Priority) (fragments : List (Fragment δ)) :
    (ranked priority fragments.zipIdx).map Prod.fst = fragments.filter (·.priority = priority) := by
  have hfilter : (fragments.zipIdx.map Prod.fst).filter (·.priority = priority) =
      (ranked priority fragments.zipIdx).map Prod.fst := List.filter_map ..
  rw [← hfilter, List.zipIdx_map_fst]

/-- The output of fragments of which those of normal priority are literals. -/
theorem renderFragments_eq {fragments : List (Fragment δ)}
    (hpriority : ∀ fragment ∈ fragments, fragment.priority ≤ Priority.nestedView)
    (hliteral : ∀ fragment ∈ fragments, fragment.priority = .normal →
      ∃ text, fragment.payload = .literal text) :
    renderFragments run fragments = (do
      let nested ← produceAll run (ranked .nestedView fragments.zipIdx)
      let contents ← produceAll run (ranked .printedContent fragments.zipIdx)
      let sections ← produceAll run (ranked .printedSection fragments.zipIdx)
      return assemble (nested ++ (contents ++
        (sections ++ literalTexts (ranked .normal fragments.zipIdx))))) := by
  have hnormal : ∀ piece ∈ ranked .normal fragments.zipIdx,
      ∃ text, piece.1.payload = .literal text := by
    rintro ⟨fragment, place⟩ hpiece
    obtain ⟨hmem, hrank⟩ := List.mem_filter.1 hpiece
    exact hliteral fragment (List.fst_mem_of_mem_zipIdx hmem) (of_decide_eq_true hrank)
  unfold renderFragments
  rw [productionOrder_eq hpriority, produceAll_append, produceAll_append, produceAll_append,
    produceAll_literals hnormal]
  simp only [bind_assoc, pure_bind]

/-- The fragment is a text or a nested template. -/
def Fragment.IsPlain (fragment : Fragment δ) : Prop :=
  (∃ text, fragment = ⟨.literal text, .normal⟩) ∨
    ∃ renderer, fragment = ⟨.deferred renderer, .nestedView⟩

/-- The output of texts and nested templates. -/
theorem renderFragments_plain {fragments : List (Fragment δ)}
    (h : ∀ fragment ∈ fragments, fragment.IsPlain) :
    renderFragments run fragments = (do
      let nested ← produceAll run (ranked .nestedView fragments.zipIdx)
      return assemble (nested ++ literalTexts (ranked .normal fragments.zipIdx))) := by
  have hpriority : ∀ fragment ∈ fragments, fragment.priority ≤ Priority.nestedView := by
    intro fragment hmem
    rcases h fragment hmem with ⟨text, rfl⟩ | ⟨renderer, rfl⟩
    · exact Nat.zero_le _
    · exact Nat.le_refl _
  have hliteral : ∀ fragment ∈ fragments, fragment.priority = .normal →
      ∃ text, fragment.payload = .literal text := by
    intro fragment hmem hnormal
    rcases h fragment hmem with ⟨text, rfl⟩ | ⟨renderer, rfl⟩
    · exact ⟨text, rfl⟩
    · cases hnormal
  have hnone : ∀ priority, priority ≠ .normal → priority ≠ .nestedView →
      ranked priority fragments.zipIdx = [] := by
    intro priority hnormal hnested
    refine List.filter_eq_nil_iff.2 ?_
    rintro ⟨fragment, place⟩ hpiece
    rcases h fragment (List.fst_mem_of_mem_zipIdx hpiece) with ⟨text, rfl⟩ | ⟨renderer, rfl⟩
    · exact fun h => hnormal (of_decide_eq_true h).symm
    · exact fun h => hnested (of_decide_eq_true h).symm
  rw [renderFragments_eq hpriority hliteral, hnone .printedContent (by decide) (by decide),
    hnone .printedSection (by decide) (by decide)]
  simp only [produceAll, pure_bind, List.nil_append]

end Monads

/-! ## Placement -/

theorem pairwise_insertOrdered {item : String × Nat} {items : List (String × Nat)}
    (h : items.Pairwise fun a b => a.2 ≤ b.2) :
    (insertOrdered (fun a b => a.2 < b.2) item items).Pairwise fun a b => a.2 ≤ b.2 := by
  induction items with
  | nil => exact List.pairwise_singleton _ _
  | cons head rest ih =>
    obtain ⟨hhead, hrest⟩ := List.pairwise_cons.1 h
    unfold insertOrdered
    split
    · next hlt =>
      have hlt : item.2 < head.2 := of_decide_eq_true hlt
      refine List.pairwise_cons.2 ⟨fun a ha => ?_, h⟩
      rcases List.mem_cons.1 ha with rfl | ha
      · exact Nat.le_of_lt hlt
      · exact Nat.le_trans (Nat.le_of_lt hlt) (hhead a ha)
    · next hnot =>
      have hle : head.2 ≤ item.2 := Nat.le_of_not_lt fun hlt => hnot (decide_eq_true hlt)
      refine List.pairwise_cons.2 ⟨fun a ha => ?_, ih hrest⟩
      rcases List.mem_cons.1 ((insertOrdered_perm item rest).mem_iff.1 ha) with rfl | ha
      · exact hle
      · exact hhead a ha

/-- Texts are ordered by their places. -/
theorem pairwise_ordered (texts : List (String × Nat)) :
    (ordered (fun a b => a.2 < b.2) texts).Pairwise fun a b => a.2 ≤ b.2 := by
  induction texts using List.reverseRecOn with
  | nil => exact .nil
  | append_singleton texts text ih =>
    rw [ordered_concat]
    exact pairwise_insertOrdered ih

/-- Of texts at different places, those at one place are one. -/
theorem eq_of_place_eq {placed : List (String × Nat)} (h : placed.Pairwise fun a b => a.2 < b.2)
    {a b : String × Nat} (ha : a ∈ placed) (hb : b ∈ placed) (hab : a.2 = b.2) : a = b := by
  induction placed with
  | nil => cases ha
  | cons head rest ih =>
    obtain ⟨hhead, hrest⟩ := List.pairwise_cons.1 h
    rcases List.mem_cons.1 ha with hah | ha
    · rcases List.mem_cons.1 hb with hbh | hb
      · rw [hah, hbh]
      · rw [hah] at hab
        exact absurd hab (Nat.ne_of_lt (hhead b hb))
    · rcases List.mem_cons.1 hb with hbh | hb
      · rw [hbh] at hab
        exact absurd hab (Nat.ne_of_gt (hhead a ha))
      · exact ih hrest ha hb

/-- Texts at different places are joined in the order of their places, in whatever order they were
produced. -/
theorem assemble_of_perm {texts placed : List (String × Nat)} (hperm : texts.Perm placed)
    (hplaced : placed.Pairwise fun a b => a.2 < b.2) :
    assemble texts = String.join (placed.map (·.1)) := by
  have hordered : (ordered (fun a b => a.2 < b.2) texts).Perm placed :=
    (ordered_perm texts).trans hperm
  have heq : ordered (fun a b => a.2 < b.2) texts = placed := by
    refine hordered.eq_of_pairwise (fun a b ha hb hab hba => ?_) (pairwise_ordered texts)
      (hplaced.imp Nat.le_of_lt)
    exact eq_of_place_eq hplaced (hordered.mem_iff.1 ha) hb (Nat.le_antisymm hab hba)
  unfold assemble
  rw [heq]

/-- If there is one text for each place, then they are joined in the order of their places. -/
theorem assemble_eq_join {texts : List (String × Nat)} {count : Nat}
    (h : (texts.map (·.2)).Perm (List.range count)) :
    ∃ row : List String, row.length = count ∧
      (∀ text place, (text, place) ∈ texts → row[place]? = some text) ∧
        assemble texts = String.join row := by
  let placed := ordered (fun a b => a.2 < b.2) texts
  have hperm : placed.Perm texts := ordered_perm texts
  have hplaces : placed.map (·.2) = List.range count := by
    apply ((hperm.map _).trans h).eq_of_pairwise
    · intro a b _ _ hab hba
      exact Nat.le_antisymm hab hba
    · exact List.pairwise_map.2 (pairwise_ordered texts)
    · exact List.pairwise_le_range
  refine ⟨placed.map (·.1), ?_, ?_, rfl⟩
  · have hlength := congrArg List.length hplaces
    rw [List.length_map, List.length_range] at hlength
    rw [List.length_map, hlength]
  · intro text place hmem
    obtain ⟨i, hi⟩ := List.mem_iff_getElem?.1 (hperm.mem_iff.2 hmem)
    have hplace : (placed.map (·.2))[i]? = some place := by
      rw [List.getElem?_map, hi]
      rfl
    obtain ⟨hlt, hvalue⟩ := List.getElem?_eq_some_iff.1 (hplaces ▸ hplace)
    rw [List.getElem_range] at hvalue
    rw [← hvalue, List.getElem?_map, hi]
    rfl

/-- Fragments whose texts are known are joined in the order in which they were appended. -/
theorem assemble_productionOrder (value : Fragment δ → String) (fragments : List (Fragment δ)) :
    assemble ((productionOrder fragments).map fun piece => (value piece.1, piece.2)) =
      String.join (fragments.map value) := by
  have hperm : ((productionOrder fragments).map fun piece => (value piece.1, piece.2)).Perm
      (fragments.zipIdx.map fun piece => (value piece.1, piece.2)) := (ordered_perm _).map _
  have hplaces : fragments.zipIdx.Pairwise fun a b => a.2 < b.2 := pairwise_zipIdx fragments
  rw [assemble_of_perm hperm (List.pairwise_map.2 hplaces), List.map_map]
  have hvalues : fragments.map value = (fragments.zipIdx.map Prod.fst).map value := by
    rw [List.zipIdx_map_fst]
  rw [hvalues, List.map_map]
  rfl

/-- Literals have their texts. -/
theorem literalTexts_eq_map (value : Fragment δ → String) {placed : List (Fragment δ × Nat)}
    (h : ∀ piece ∈ placed, piece.1.payload = .literal (value piece.1)) :
    literalTexts placed = placed.map fun piece => (value piece.1, piece.2) := by
  induction placed with
  | nil => rfl
  | cons piece placed ih =>
    have hpiece := h piece (List.mem_cons_self ..)
    have hplaced := ih fun other hother => h other (List.mem_cons_of_mem piece hother)
    unfold literalTexts at hplaced ⊢
    rw [List.filterMap_cons, hpiece, hplaced, List.map_cons]

/-- A scope that has only literals is rendered without running anything. -/
theorem renderFragments_literals {m : Type → Type} [Monad m] [LawfulMonad m] {run : δ → m String}
    {value : Fragment δ → String} {fragments : List (Fragment δ)}
    (h : ∀ fragment ∈ fragments, fragment.payload = .literal (value fragment)) :
    renderFragments run fragments = pure (String.join (fragments.map value)) := by
  have hplaced : ∀ piece ∈ productionOrder fragments, piece.1.payload = .literal (value piece.1) :=
    fun piece hpiece => h piece.1 (mem_of_mem_productionOrder hpiece)
  unfold renderFragments
  rw [produceAll_literals fun piece hpiece => ⟨_, hplaced piece hpiece⟩,
    literalTexts_eq_map value hplaced, pure_bind, assemble_productionOrder]

/-- Texts that stand at different places from `place` on, and what they are joined to. -/
def Places (place : Nat) (texts : List (String × Nat)) (text : String) : Prop :=
  ∃ placed : List (String × Nat), placed.Pairwise (fun a b => a.2 < b.2) ∧
    (∀ a ∈ placed, place ≤ a.2) ∧ texts.Perm placed ∧ text = String.join (placed.map (·.1))

namespace Places

variable {place : Nat} {texts : List (String × Nat)} {text : String}

theorem nil (place : Nat) : Places place [] "" := ⟨[], .nil, nofun, .nil, rfl⟩

/-- One more text, in front of the others. -/
theorem cons (h : Places (place + 1) texts text) (first : String) {more : List (String × Nat)}
    (hmore : more.Perm ((first, place) :: texts)) : Places place more (first ++ text) := by
  obtain ⟨placed, hplaced, hle, hperm, htext⟩ := h
  refine ⟨(first, place) :: placed, ?_, ?_, hmore.trans (hperm.cons _), ?_⟩
  · exact List.pairwise_cons.2 ⟨fun a ha => hle a ha, hplaced⟩
  · intro a ha
    rcases List.mem_cons.1 ha with rfl | ha
    · exact Nat.le_refl _
    · exact Nat.le_of_succ_le (hle a ha)
  · rw [List.map_cons, String.join_cons, htext]

theorem assemble_eq (h : Places place texts text) : assemble texts = text := by
  obtain ⟨placed, hplaced, -, hperm, htext⟩ := h
  rw [assemble_of_perm hperm hplaced, htext]

end Places

end TemplateEngine
