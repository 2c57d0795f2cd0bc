import Mathlib.Data.List.Infix
import TemplateEngine.Proofs.Expr.Regions
import TemplateEngine.Proofs.Expr.Rooting

/-!
# `Expr` · Roots written twice

A text in which the roots are written has none left to write.

* **`Pass`** says what the pass writes for a text, one step after the other: a region is left alone,
  a path gets its root, doubled braces become one, and any other character stays (`Stays`). The pass
  is the only way to do so (`Pass.writeRootsFrom_eq`, `exists_pass`).
* **`Pass.head?_cases`**: what is written begins as the text does, unless a path starts there. This
  is all that a decision can see of what lies ahead, and neither a dot nor a dollar sign counts for
  the decisions on other characters.
* **`Pass.again`**: the text that was written is left as it is, step by step, because each step sees
  the same text behind it and a text that begins in the same way ahead.
-/

namespace TemplateEngine.RootPath

open TemplateEngine.Text TemplateEngine.Template TemplateEngine.Lexeme

variable {written text rest out : List Char} {afterRegex : Bool} {c : Char}

/-! ## Steps -/

/-- A slash in front of `rest` starts a regular expression. -/
def startsRegex (written : List Char) (afterRegex : Bool) (rest : List Char) : Bool :=
  !afterRegex && regexAllowed written && rest.head? != some '/'

/-- A dot in front of `rest` starts a path. -/
def startsRoot (written : List Char) (afterRegex : Bool) (rest : List Char) : Bool :=
  !afterRegex && wordFollows rest && startsPath written

/-- A character that is written as it is: it starts no region and no path, and is no brace with the
same one behind it. -/
structure Stays (written : List Char) (afterRegex : Bool) (c : Char) (rest : List Char) : Prop where
  /-- No quoted text starts. -/
  quote : isQuote c = false
  /-- A bracket or an opening or closing brace is not doubled. -/
  single : c = '[' ∨ c = '\x7b' ∨ c = '\x7d' → rest.head? ≠ some c
  /-- No regular expression starts. -/
  slash : c = '/' → startsRegex written afterRegex rest = false
  /-- No path starts. -/
  dot : c = '.' → startsRoot written afterRegex rest = false

/-- What the pass writes for a text behind what it has written. -/
inductive Pass : List Char → Bool → List Char → List Char → Prop where
  /-- Nothing is left. -/
  | nil {written : List Char} {afterRegex : Bool} : Pass written afterRegex [] []
  /-- A quoted text. -/
  | quoted {written rest region more out : List Char} {afterRegex : Bool} {c : Char} :
    isQuote c = true → taken (skipString c rest) = (region, more) →
      Pass (region.reverse ++ c :: written) false more out →
        Pass written afterRegex (c :: rest) (c :: (region ++ out))
  /-- Double square brackets. -/
  | brackets {written rest region more out : List Char} {afterRegex : Bool} :
    taken (skipBrackets rest) = (region, more) →
      Pass (region.reverse ++ '[' :: '[' :: written) false more out →
        Pass written afterRegex ('[' :: '[' :: rest) ('[' :: '[' :: (region ++ out))
  /-- A regular expression. -/
  | regex {written rest region more out : List Char} {afterRegex : Bool} :
    startsRegex written afterRegex rest = true → taken (skipRegex false rest) = (region, more) →
      Pass (region.reverse ++ '/' :: written) true more out →
        Pass written afterRegex ('/' :: rest) ('/' :: (region ++ out))
  /-- A path, which gets its root. -/
  | path {written rest out : List Char} {afterRegex : Bool} :
    startsRoot written afterRegex rest = true → Pass ('.' :: '$' :: written) false rest out →
      Pass written afterRegex ('.' :: rest) ('$' :: '.' :: out)
  /-- Two braces, of which one is left. -/
  | brace {written rest out : List Char} {afterRegex : Bool} {c : Char} :
    c = '\x7b' ∨ c = '\x7d' → Pass (c :: written) false rest out →
      Pass written afterRegex (c :: c :: rest) (c :: out)
  /-- Any other character. -/
  | stays {written rest out : List Char} {afterRegex : Bool} {c : Char} :
    Stays written afterRegex c rest → Pass (c :: written) false rest out →
      Pass written afterRegex (c :: rest) (c :: out)

theorem Stays.writeRootsFrom_eq (h : Stays written afterRegex c rest) :
    writeRootsFrom written afterRegex (c :: rest) = writeRootsFrom (c :: written) false rest := by
  obtain ⟨hquote, hsingle, hslash, hdot⟩ := h
  rw [writeRootsFrom.eq_def]
  simp only [hquote, Bool.false_eq_true, if_false]
  split
  · exact absurd rfl (hsingle (.inl rfl))
  · exact absurd rfl (hsingle (.inr (.inl rfl)))
  · exact absurd rfl (hsingle (.inr (.inr rfl)))
  · rw [if_neg]
    exact Bool.eq_false_iff.1 (hslash rfl)
  · rw [if_neg]
    exact Bool.eq_false_iff.1 (hdot rfl)
  · rfl

/-- The text that the pass writes, behind what it had written before. -/
theorem Pass.writeRootsFrom_eq (h : Pass written afterRegex text out) :
    writeRootsFrom written afterRegex text = out.reverse ++ written := by
  induction h with
  | nil =>
    rw [writeRootsFrom.eq_def]
    rfl
  | quoted hc hregion _ ih =>
    obtain ⟨rfl, rfl⟩ := Prod.mk.inj hregion
    rw [writeRootsFrom.eq_def]
    simp [hc, ih]
  | brackets hregion _ ih =>
    obtain ⟨rfl, rfl⟩ := Prod.mk.inj hregion
    rw [writeRootsFrom.eq_def]
    simp [isQuote, isTagQuote, ih]
  | regex hstarts hregion _ ih =>
    obtain ⟨rfl, rfl⟩ := Prod.mk.inj hregion
    rw [writeRootsFrom.eq_def]
    unfold startsRegex at hstarts
    simp [isQuote, isTagQuote, hstarts, ih]
  | path hstarts _ ih =>
    rw [writeRootsFrom.eq_def]
    unfold startsRoot at hstarts
    simp [isQuote, isTagQuote, hstarts, ih]
  | brace hc _ ih =>
    rw [writeRootsFrom.eq_def]
    rcases hc with rfl | rfl <;> simp [isQuote, isTagQuote, ih]
  | stays hstays _ ih =>
    rw [hstays.writeRootsFrom_eq, ih]
    simp

theorem exists_pass (written : List Char) (afterRegex : Bool) (text : List Char) :
    ∃ out, Pass written afterRegex text out := by
  fun_induction writeRootsFrom written afterRegex text with
  | case1 => exact ⟨[], .nil⟩
  | case2 written afterRegex c rest hc region more hmore hread ih =>
    obtain ⟨out, hout⟩ := ih
    exact ⟨_, .quoted hc (congrArg taken hread) hout⟩
  | case3 written afterRegex rest region more hmore hread hc ih =>
    obtain ⟨out, hout⟩ := ih
    exact ⟨_, .brackets (congrArg taken hread) hout⟩
  | case4 written afterRegex rest hc ih =>
    obtain ⟨out, hout⟩ := ih
    exact ⟨_, .brace (.inl rfl) hout⟩
  | case5 written afterRegex rest hc ih =>
    obtain ⟨out, hout⟩ := ih
    exact ⟨_, .brace (.inr rfl) hout⟩
  | case6 written afterRegex rest hstarts region more hmore hread hc ih =>
    obtain ⟨out, hout⟩ := ih
    exact ⟨_, .regex hstarts (congrArg taken hread) hout⟩
  | case7 written afterRegex rest hstarts hc ih =>
    obtain ⟨out, hout⟩ := ih
    refine ⟨_, .stays ⟨rfl, by simp, fun _ => ?_, by simp⟩ hout⟩
    exact Bool.eq_false_iff.2 hstarts
  | case8 written afterRegex rest hstarts hc ih =>
    obtain ⟨out, hout⟩ := ih
    exact ⟨_, .path hstarts hout⟩
  | case9 written afterRegex rest hstarts hc ih =>
    obtain ⟨out, hout⟩ := ih
    refine ⟨_, .stays ⟨rfl, by simp, by simp, fun _ => ?_⟩ hout⟩
    exact Bool.eq_false_iff.2 hstarts
  | case10 written afterRegex c rest hbracket hopen hclose hslash hdot hc ih =>
    obtain ⟨out, hout⟩ := ih
    refine ⟨_, .stays ⟨Bool.eq_false_iff.2 hc, fun hdoubled hhead => ?_,
      fun h => absurd h hslash, fun h => absurd h hdot⟩ hout⟩
    obtain ⟨later, rfl⟩ := List.head?_eq_some_iff.1 hhead
    rcases hdoubled with rfl | rfl | rfl
    · exact hbracket _ rfl rfl
    · exact hopen _ rfl rfl
    · exact hclose _ rfl rfl

/-! ## What lies ahead -/

/-- Behind a root no path starts: none of the words after which one may start has a dollar sign. -/
theorem startsPath_root (written : List Char) : startsPath ('$' :: written) = false := by
  have hnone : operandWords.contains (lastWord ('$' :: written)) = false := by
    have hwords : operandWords.all (fun word => !word.toList.contains '$') = true := by decide
    refine Bool.eq_false_iff.2 fun hcontains => ?_
    have hword := List.all_eq_true.1 hwords _ (List.contains_iff_mem.1 hcontains)
    have hmem : '$' ∈ (lastWord ('$' :: written)).toList := by
      rw [lastWord, List.takeWhile_cons_of_pos rfl, String.toList_ofList, List.mem_reverse]
      exact List.mem_cons_self
    rw [List.contains_iff_mem.2 hmem] at hword
    cases hword
  exact hnone

/-- The text that is written begins like the other one, or with a root. -/
theorem Pass.head?_cases (h : Pass written afterRegex text out) :
    out.head? = text.head? ∨ (startsRoot written afterRegex text.tail = true ∧
      text.head? = some '.' ∧ out.head? = some '$') := by
  cases h with
  | path hstarts _ => exact .inr ⟨hstarts, rfl, rfl⟩
  | nil | quoted | brackets | regex | brace | stays => exact .inl rfl

/-- Where no path can start, it begins like the other one. -/
theorem Pass.head?_eq (h : Pass written afterRegex text out)
    (hnone : afterRegex = true ∨ startsPath written = false) : out.head? = text.head? := by
  rcases h.head?_cases with hsame | ⟨hstarts, -, -⟩
  · exact hsame
  · unfold startsRoot at hstarts
    rcases hnone with hnone | hnone <;> simp [hnone] at hstarts

/-- A character other than those two stands in front of both texts or of none. -/
theorem Pass.head?_eq_some_iff (h : Pass written afterRegex text out) (hdot : c ≠ '.')
    (hroot : c ≠ '$') : out.head? = some c ↔ text.head? = some c := by
  rcases h.head?_cases with hsame | ⟨-, htext, hout⟩
  · rw [hsame]
  · rw [htext, hout]
    exact iff_of_false (fun heq => hroot (Option.some.inj heq).symm)
      fun heq => hdot (Option.some.inj heq).symm

theorem Pass.eq_nil (h : Pass written afterRegex text out) (htext : text = []) : out = [] := by
  subst htext
  cases h
  rfl

theorem wordFollows_congr (h : text.head? = rest.head?) : wordFollows text = wordFollows rest := by
  cases text <;> cases rest <;> simp_all [wordFollows]

theorem startsRegex_congr (h : text.head? = some '/' ↔ rest.head? = some '/') :
    startsRegex written afterRegex text = startsRegex written afterRegex rest := by
  unfold startsRegex
  have hsame : (text.head? != some '/') = (rest.head? != some '/') := by
    rw [Bool.eq_iff_iff]
    simpa using not_congr h
  rw [hsame]

/-! ## The second pass -/

/-- No brace has the same one behind it. -/
structure Undoubled (text : List Char) : Prop where
  /-- No opening brace is doubled. -/
  opening : ¬['\x7b', '\x7b'] <:+: text
  /-- No closing brace is doubled. -/
  closing : ¬['\x7d', '\x7d'] <:+: text

/-- What is left of a text behind a region has no doubled brace either. -/
theorem Undoubled.behind {region more : List Char} (h : Undoubled text)
    (hjoin : region ++ more = text) : Undoubled more := by
  have hmore : more <:+: text := hjoin ▸ (List.suffix_append region more).isInfix
  exact ⟨fun hpair => h.opening (hpair.trans hmore), fun hpair => h.closing (hpair.trans hmore)⟩

theorem Undoubled.tail (h : Undoubled (c :: rest)) : Undoubled rest :=
  h.behind List.singleton_append

/-- A character that stays in front of a text stays in front of what is written for it. -/
theorem Stays.again (h : Stays written afterRegex c rest)
    (hpass : Pass (c :: written) false rest out) : Stays written afterRegex c out where
  quote := h.quote
  single hc := by
    have hother : c ≠ '.' ∧ c ≠ '$' := by rcases hc with rfl | rfl | rfl <;> decide
    exact mt (hpass.head?_eq_some_iff hother.1 hother.2).1 (h.single hc)
  slash hc := by
    rw [startsRegex_congr (hpass.head?_eq_some_iff (by decide) (by decide))]
    exact h.slash hc
  dot hc := by
    subst hc
    have hsame := hpass.head?_eq (.inr rfl)
    unfold startsRoot
    rw [wordFollows_congr hsame]
    exact h.dot rfl

/-- A root that was written stays, and so does the dot behind it. -/
theorem Pass.root (afterRegex : Bool) (h : Pass ('.' :: '$' :: written) false text out) :
    Pass written afterRegex ('$' :: '.' :: text) ('$' :: '.' :: out) := by
  have hdot : startsRoot ('$' :: written) false text = false := by
    unfold startsRoot
    rw [startsPath_root, Bool.and_false]
  exact .stays ⟨rfl, by simp, by simp, by simp⟩
    (.stays ⟨rfl, by simp, by simp, fun _ => hdot⟩ h)

/-- What the pass writes is left as it is by another one. By induction over the first pass; what
has been written is the same in both at every step. -/
theorem Pass.again (h : Pass written afterRegex text out) (hundoubled : Undoubled text) :
    Pass written afterRegex out out := by
  induction h with
  | nil => exact .nil
  | quoted hc hregion hpass ih =>
    have hmore := hundoubled.tail.behind (skipString_join hregion)
    exact .quoted hc (skipString_append hregion hpass.eq_nil) (ih hmore)
  | brackets hregion hpass ih =>
    have hmore := hundoubled.tail.tail.behind (skipBrackets_join hregion)
    exact .brackets (skipBrackets_append hregion hpass.eq_nil) (ih hmore)
  | @regex written rest region more out afterRegex hstarts hregion hpass ih =>
    have hjoin := skipRegex_join hregion
    have hsame : out.head? = more.head? := hpass.head?_eq (.inl rfl)
    have hahead : (region ++ out).head? = rest.head? := by
      rw [← hjoin, List.head?_append, List.head?_append, hsame]
    refine .regex ?_ (skipRegex_append hregion hsame) (ih (hundoubled.tail.behind hjoin))
    exact (startsRegex_congr (by rw [hahead])).trans hstarts
  | path hstarts hpass ih =>
    exact (ih hundoubled.tail).root _
  | brace hc _ _ =>
    rcases hc with rfl | rfl
    · exact absurd (List.prefix_append _ _).isInfix hundoubled.opening
    · exact absurd (List.prefix_append _ _).isInfix hundoubled.closing
  | stays hstays hpass ih =>
    exact .stays (hstays.again hpass) (ih hundoubled.tail)

/-- **Roots written twice.** Writing the roots into an expression in which no brace is doubled, and
writing them once more into what that gives, is the same as writing them once. -/
theorem writeRoots_writeRoots {source : String} (hopening : ¬['\x7b', '\x7b'] <:+: source.toList)
    (hclosing : ¬['\x7d', '\x7d'] <:+: source.toList) :
    writeRoots (writeRoots source) = writeRoots source := by
  obtain ⟨out, hpass⟩ := exists_pass [] false source.toList
  have hagain : Pass [] false out out := hpass.again ⟨hopening, hclosing⟩
  have hwritten : writeRoots source = String.ofList out := by
    rw [writeRoots, writeRootsChars, hpass.writeRootsFrom_eq, List.append_nil, List.reverse_reverse]
  rw [hwritten, writeRoots, writeRootsChars, String.toList_ofList, hagain.writeRootsFrom_eq,
    List.append_nil, List.reverse_reverse]

/-- Regions of all kinds, the last of them not closed, with paths around them. -/
theorem writeRoots_writeRoots_regions :
    writeRoots "[[ .a ]].b + in.c / .d + /.e\n+ .f + /[/]./i.g + '.h\\' .i" =
        "[[ .a ]].b + in$.c / $.d + /.e\n+ $.f + /[/]./i.g + '.h\\' .i" ∧
      writeRoots "[[ .a ]].b + in$.c / $.d + /.e\n+ $.f + /[/]./i.g + '.h\\' .i" =
        "[[ .a ]].b + in$.c / $.d + /.e\n+ $.f + /[/]./i.g + '.h\\' .i" := by
  have hwritten : writeRoots "[[ .a ]].b + in.c / .d + /.e\n+ .f + /[/]./i.g + '.h\\' .i" =
      "[[ .a ]].b + in$.c / $.d + /.e\n+ $.f + /[/]./i.g + '.h\\' .i" := by decide +kernel
  refine ⟨hwritten, ?_⟩
  rw [← hwritten]
  exact writeRoots_writeRoots (by decide) (by decide)

end TemplateEngine.RootPath
