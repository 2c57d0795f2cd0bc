import Mathlib.Data.List.TakeWhile
import TemplateEngine.Text.Blank

/-!
# `Text` · Where cuts are made

A text that is cut along a class of characters comes apart where the class begins or ends.

* **`takeWhile_append_boundary`**, **`dropWhile_append_boundary`**: a front of the class is taken
  whole, and nothing behind it.
* **`Trimmed`** texts start and end with no blank; `trim` takes the blanks around one off and leaves
  the text (`trim_padded`).
* **Pieces**: `cutAtBlank`, `cutAt` and `words` find the first blank, the first mark and all words
  where they stand (`cutAtBlank_append`, `cutAt_append`, `words_pair`).
-/

namespace TemplateEngine.Text

section Boundary

variable {α : Type} {p : α → Bool} {front rest : List α}

theorem takeWhile_eq_nil (hrest : ∀ x ∈ rest.head?, ¬p x) : rest.takeWhile p = [] := by
  cases rest with
  | nil => rfl
  | cons x rest => exact List.takeWhile_cons_of_neg (hrest x rfl)

theorem dropWhile_eq_self_of_head (hrest : ∀ x ∈ rest.head?, ¬p x) : rest.dropWhile p = rest := by
  cases rest with
  | nil => rfl
  | cons x rest => exact List.dropWhile_cons_of_neg (hrest x rfl)

/-- Up to the first other element all is taken. -/
theorem takeWhile_append_boundary (hfront : ∀ x ∈ front, p x) (hrest : ∀ x ∈ rest.head?, ¬p x) :
    (front ++ rest).takeWhile p = front := by
  rw [List.takeWhile_append_of_pos hfront, takeWhile_eq_nil hrest, List.append_nil]

/-- From the first other element on all is left. -/
theorem dropWhile_append_boundary (hfront : ∀ x ∈ front, p x) (hrest : ∀ x ∈ rest.head?, ¬p x) :
    (front ++ rest).dropWhile p = rest := by
  rw [List.dropWhile_append_of_pos hfront, dropWhile_eq_self_of_head hrest]

/-- What is left starts with another element. -/
theorem not_of_mem_head?_dropWhile {xs : List α} : ∀ x ∈ (xs.dropWhile p).head?, ¬p x := by
  intro x hx hp
  have hfalse := List.head?_dropWhile_not p xs
  rw [hx] at hfalse
  exact Bool.noConfusion (hp.symm.trans hfalse)

end Boundary

/-! ## White space at the ends -/

/-- A text that starts and ends with no blank. -/
def Trimmed (cs : List Char) : Prop :=
  (∀ c ∈ cs.head?, ¬isBlank c) ∧ ∀ c ∈ cs.getLast?, ¬isBlank c

variable {left cs right : List Char}

theorem trimStart_padded (hleft : ∀ c ∈ left, isBlank c) (h : ∀ c ∈ cs.head?, ¬isBlank c) :
    trimStart (left ++ cs) = cs :=
  dropWhile_append_boundary hleft h

theorem trimEnd_padded (hright : ∀ c ∈ right, isBlank c) (h : ∀ c ∈ cs.getLast?, ¬isBlank c) :
    trimEnd (cs ++ right) = cs := by
  unfold trimEnd
  rw [List.reverse_append, dropWhile_append_boundary, List.reverse_reverse]
  · exact fun c hc => hright c (List.mem_reverse.1 hc)
  · rwa [List.head?_reverse]

/-- Blanks around a trimmed text are taken off. -/
theorem trim_padded (hleft : ∀ c ∈ left, isBlank c) (hright : ∀ c ∈ right, isBlank c)
    (h : Trimmed cs) : trim (left ++ cs ++ right) = cs := by
  unfold trim
  cases cs with
  | nil =>
    have hblanks : ∀ c ∈ left ++ right, isBlank c := by
      intro c hc
      rcases List.mem_append.1 hc with hc | hc
      · exact hleft c hc
      · exact hright c hc
    have hempty : trimStart (left ++ right) = [] := List.dropWhile_eq_nil_iff.2 hblanks
    rw [List.append_nil, hempty]
    rfl
  | cons c cs =>
    have hstart : trimStart (left ++ (c :: cs ++ right)) = c :: cs ++ right :=
      trimStart_padded hleft h.1
    rw [List.append_assoc, hstart, trimEnd_padded hright h.2]

theorem trim_append_blanks (hright : ∀ c ∈ right, isBlank c) (h : Trimmed cs) :
    trim (cs ++ right) = cs :=
  trim_padded (List.forall_mem_nil _) hright h

theorem trim_blanks_append (hleft : ∀ c ∈ left, isBlank c) (h : Trimmed cs) :
    trim (left ++ cs) = cs := by
  have htrim := trim_padded hleft (List.forall_mem_nil _) h
  rwa [List.append_nil] at htrim

theorem trim_of_trimmed (h : Trimmed cs) : trim cs = cs :=
  trim_blanks_append (List.forall_mem_nil _) h

theorem trimEnd_of_last (h : ∀ c ∈ cs.getLast?, ¬isBlank c) : trimEnd cs = cs := by
  have htrim := trimEnd_padded (List.forall_mem_nil _) h
  rwa [List.append_nil] at htrim

theorem Trimmed.append {mid : List Char} (hcs : cs ≠ []) (hright : right ≠ []) (h : Trimmed cs)
    (h' : Trimmed right) : Trimmed (cs ++ mid ++ right) := by
  constructor
  · intro c hc
    obtain ⟨d, cs, rfl⟩ := List.exists_cons_of_ne_nil hcs
    exact h.1 c hc
  · intro c hc
    obtain ⟨right, d, rfl⟩ := (List.eq_nil_or_concat right).resolve_left hright
    exact h'.2 c (by simpa using hc)

/-- A text is what is left of it when it is trimmed, with blanks around. -/
theorem exists_trim (cs : List Char) : ∃ left right, (∀ c ∈ left, isBlank c) ∧
    (∀ c ∈ right, isBlank c) ∧ Trimmed (trim cs) ∧ cs = left ++ trim cs ++ right := by
  let start := trimStart cs
  have hstart : trimEnd start ++ (start.reverse.takeWhile isBlank).reverse = start := by
    unfold trimEnd
    rw [← List.reverse_append, List.takeWhile_append_dropWhile, List.reverse_reverse]
  refine ⟨cs.takeWhile isBlank, (start.reverse.takeWhile isBlank).reverse, ?_, ?_, ⟨?_, ?_⟩, ?_⟩
  · exact fun c hc => List.mem_takeWhile_imp hc
  · exact fun c hc => List.mem_takeWhile_imp (List.mem_reverse.1 hc)
  · intro c hc
    have hfirst : (trimEnd start).head? = some c := hc
    have hmem : c ∈ start.head? := by
      rw [← hstart, List.head?_append, hfirst]
      rfl
    exact not_of_mem_head?_dropWhile c hmem
  · intro c hc
    unfold trim trimEnd at hc
    rw [List.getLast?_reverse] at hc
    exact not_of_mem_head?_dropWhile c hc
  · show cs = cs.takeWhile isBlank ++ trimEnd start ++ _
    rw [List.append_assoc, hstart]
    exact List.takeWhile_append_dropWhile.symm

theorem trim_trim (cs : List Char) : trim (trim cs) = trim cs := by
  obtain ⟨-, -, -, -, htrimmed, -⟩ := exists_trim cs
  exact trim_of_trimmed htrimmed

/-- Blanks are taken off in front of a mark and at its end. -/
theorem trim_append_mark {mark : Char} (hmark : ¬isBlank mark) (cs rest : List Char) :
    trim (cs ++ mark :: rest) = trimStart cs ++ mark :: trimEnd rest := by
  have hstart : trimStart (cs ++ mark :: rest) = trimStart cs ++ mark :: rest := by
    unfold trimStart
    rw [List.dropWhile_append]
    split
    · next hempty => simp [List.isEmpty_iff.1 hempty, hmark]
    · rfl
  have hend : ∀ front, trimEnd (front ++ mark :: rest) = front ++ mark :: trimEnd rest := by
    intro front
    unfold trimEnd
    rw [List.reverse_append, List.reverse_cons, List.append_assoc, List.dropWhile_append]
    split
    · next hempty => simp [List.isEmpty_iff.1 hempty, hmark]
    · simp
  unfold trim
  rw [hstart, hend]

/-- A text without blanks is trimmed. -/
theorem trimmed_of_forall (h : ∀ c ∈ cs, ¬isBlank c) : Trimmed cs :=
  ⟨fun c hc => h c (List.mem_of_mem_head? hc), fun c hc => h c (List.mem_of_getLast? hc)⟩

/-! ## Pieces -/

/-- A word stands before the first blank. -/
theorem cutAtBlank_append {word : List Char} (hword : ∀ c ∈ word, ¬isBlank c) {gap : Char}
    (hgap : isBlank gap) (rest : List Char) :
    cutAtBlank (word ++ gap :: rest) = (word, some rest) := by
  have hinside : ∀ c ∈ word, (!isBlank c) := fun c hc => by simpa using hword c hc
  have hbreak : ∀ c ∈ (gap :: rest).head?, ¬(!isBlank c) := by simp [hgap]
  unfold cutAtBlank
  rw [dropWhile_append_boundary hinside hbreak, takeWhile_append_boundary hinside hbreak]

theorem cutAtBlank_word {word : List Char} (hword : ∀ c ∈ word, ¬isBlank c) :
    cutAtBlank word = (word, none) := by
  have hall : word.dropWhile (fun c => !isBlank c) = [] :=
    List.dropWhile_eq_nil_iff.2 fun c hc => by simpa using hword c hc
  unfold cutAtBlank
  rw [hall]

/-- What stands before the first mark does not hold it. -/
theorem cutAt_append {mark : Char} (hcs : mark ∉ cs) (rest : List Char) :
    cutAt mark (cs ++ mark :: rest) = (cs, some rest) := by
  have hinside : ∀ c ∈ cs, (c != mark) := fun c hc => bne_iff_ne.2 fun heq => hcs (heq ▸ hc)
  have hbreak : ∀ c ∈ (mark :: rest).head?, ¬(c != mark) := by simp
  unfold cutAt
  rw [dropWhile_append_boundary hinside hbreak, takeWhile_append_boundary hinside hbreak]

theorem cutAt_free {mark : Char} (hcs : mark ∉ cs) : cutAt mark cs = (cs, none) := by
  have hall : cs.dropWhile (fun c => c != mark) = [] :=
    List.dropWhile_eq_nil_iff.2 fun c hc => bne_iff_ne.2 fun heq => hcs (heq ▸ hc)
  unfold cutAt
  rw [hall]

theorem words_append_blank {gap : Char} (hgap : isBlank gap) (cs rest : List Char) :
    words (cs ++ gap :: rest) = words cs ++ words rest := by
  unfold words
  rw [List.splitOnP_append_cons cs rest hgap, List.filter_append]

theorem words_blanks_append (hleft : ∀ c ∈ left, isBlank c) (cs : List Char) :
    words (left ++ cs) = words cs := by
  induction left with
  | nil => rfl
  | cons c left ih =>
    have hfirst := words_append_blank (hleft c (List.mem_cons_self ..)) [] (left ++ cs)
    have hnone : words [] = [] := by simp [words]
    rw [hnone] at hfirst
    exact hfirst.trans (ih fun d hd => hleft d (List.mem_cons_of_mem c hd))

theorem words_append_blanks (hright : ∀ c ∈ right, isBlank c) (cs : List Char) :
    words (cs ++ right) = words cs := by
  cases right with
  | nil => rw [List.append_nil]
  | cons c right =>
    have hnone : words right = [] := by
      have hblanks := words_blanks_append (fun d hd => hright d (List.mem_cons_of_mem c hd)) []
      rw [List.append_nil] at hblanks
      rw [hblanks]
      simp [words]
    rw [words_append_blank (hright c List.mem_cons_self), hnone, List.append_nil]

theorem words_trim (cs : List Char) : words (trim cs) = words cs := by
  obtain ⟨left, right, hleft, hright, -, hcs⟩ := exists_trim cs
  have hwords : words cs = words (left ++ trim cs ++ right) := congrArg words hcs
  rw [hwords, words_append_blanks hright, words_blanks_append hleft]

theorem words_word {word : List Char} (hne : word ≠ []) (hword : ∀ c ∈ word, ¬isBlank c) :
    words word = [word] := by
  unfold words
  rw [List.splitOnP_eq_singleton fun c hc => by simpa using hword c hc]
  simp [hne]

/-- Two words with blanks between them. -/
theorem words_pair {first second gap : List Char} (hfirst : first ≠ [] ∧ ∀ c ∈ first, ¬isBlank c)
    (hsecond : second ≠ [] ∧ ∀ c ∈ second, ¬isBlank c) (hgap : gap ≠ [] ∧ ∀ c ∈ gap, isBlank c) :
    words (first ++ gap ++ second) = [first, second] := by
  obtain ⟨c, gap, rfl⟩ := List.exists_cons_of_ne_nil hgap.1
  rw [List.append_assoc, List.cons_append, words_append_blank (hgap.2 c (List.mem_cons_self ..)),
    words_blanks_append fun d hd => hgap.2 d (List.mem_cons_of_mem c hd),
    words_word hfirst.1 hfirst.2, words_word hsecond.1 hsecond.2]
  rfl

end TemplateEngine.Text
