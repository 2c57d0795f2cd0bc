import TemplateEngine.Expr.RootPath
import TemplateEngine.Proofs.Template.Quoting
import TemplateEngine.Proofs.Text.Cutting

/-!
# `Expr` · Regions that are left alone

The regions of an expression that the pass which writes the roots does not look into: quoted texts,
double square brackets and regular expressions.

* **`taken`** is what a reader takes from the front of a text and what it leaves. Both together are
  the text (`skipString_join`, `skipBrackets_join`, `skipRegex_join`).
* **`skipString_append`**, **`skipBrackets_append`**, **`skipRegex_append`**: a region ends at the
  same place if something else follows. A region that reaches to the end may be followed by nothing,
  and a regular expression, to which the letters behind it belong and which a new line ends, only by
  something that begins in the same way.
-/

namespace TemplateEngine.RootPath

open TemplateEngine.Text TemplateEngine.Template

variable {quote c : Char} {inClass : Bool} {cs rest text more after : List Char}

/-- What is taken from a text and what is left of it. -/
def taken (read : List Char × NoLonger cs) : List Char × List Char := (read.1, read.2.val)

/-! ## Quoted texts -/

theorem skipString_escape (h : taken (skipString quote rest) = (text, more)) (c : Char) :
    taken (skipString quote ('\\' :: c :: rest)) = ('\\' :: c :: text, more) :=
  congrArg (Prod.map ('\\' :: c :: ·) id) h

theorem skipString_close (hquote : quote ≠ '\\') (rest : List Char) :
    taken (skipString quote (quote :: rest)) = ([quote], rest) := by
  rw [skipString]
  · rw [if_pos rfl]
    rfl
  all_goals simp [hquote]

theorem skipString_cons (hslash : c ≠ '\\') (hquote : c ≠ quote)
    (h : taken (skipString quote rest) = (text, more)) :
    taken (skipString quote (c :: rest)) = (c :: text, more) := by
  rw [skipString]
  · rw [if_neg hquote]
    exact congrArg (Prod.map (c :: ·) id) h
  all_goals simp [hslash]

theorem skipString_join (h : taken (skipString quote cs) = (text, more)) : text ++ more = cs := by
  fun_induction skipString quote cs generalizing text with
  | case1 | case2 | case4 =>
    cases h
    rfl
  | case3 c rest inner left hread ih =>
    cases h
    exact congrArg ('\\' :: c :: ·) (ih (congrArg taken hread))
  | case5 c rest _ _ _ inner left hread ih =>
    cases h
    exact congrArg (c :: ·) (ih (congrArg taken hread))

theorem skipString_append (h : taken (skipString quote cs) = (text, more))
    (hafter : more = [] → after = []) :
    taken (skipString quote (text ++ after)) = (text, after) := by
  fun_induction skipString quote cs generalizing text with
  | case1 | case2 =>
    cases h
    rw [hafter rfl]
    rfl
  | case3 c rest inner left hread ih =>
    cases h
    exact skipString_escape (ih (congrArg taken hread)) c
  | case4 rest hlast hescape =>
    cases h
    exact skipString_close (ne_backslash hlast hescape) after
  | case5 c rest hlast hescape hquote inner left hread ih =>
    cases h
    exact skipString_cons (ne_backslash hlast hescape) hquote (ih (congrArg taken hread))

/-! ## Double square brackets -/

theorem skipBrackets_cons (hc : c = ']' → rest.head? ≠ some ']')
    (h : taken (skipBrackets rest) = (text, more)) :
    taken (skipBrackets (c :: rest)) = (c :: text, more) := by
  rw [skipBrackets]
  · exact congrArg (Prod.map (c :: ·) id) h
  · rintro inner rfl rfl
    exact hc rfl rfl

theorem skipBrackets_join (h : taken (skipBrackets cs) = (text, more)) : text ++ more = cs := by
  fun_induction skipBrackets cs generalizing text with
  | case1 | case2 =>
    cases h
    rfl
  | case3 c rest _ inner left hread ih =>
    cases h
    exact congrArg (c :: ·) (ih (congrArg taken hread))

/-- Only of an empty text nothing is taken. -/
theorem skipBrackets_nil (h : taken (skipBrackets cs) = ([], more)) : more = [] := by
  fun_induction skipBrackets cs with
  | case1 =>
    cases h
    rfl
  | case2 => cases h
  | case3 => cases h

theorem skipBrackets_append (h : taken (skipBrackets cs) = (text, more))
    (hafter : more = [] → after = []) :
    taken (skipBrackets (text ++ after)) = (text, after) := by
  fun_induction skipBrackets cs generalizing text with
  | case1 =>
    cases h
    rw [hafter rfl]
    rfl
  | case2 =>
    cases h
    rfl
  | case3 c rest hopen inner left hread ih =>
    cases h
    refine skipBrackets_cons (fun hc hnext => ?_) (ih (congrArg taken hread))
    have hjoin := skipBrackets_join (congrArg taken hread)
    cases inner with
    | nil =>
      rw [hafter (skipBrackets_nil (congrArg taken hread))] at hnext
      cases hnext
    | cons d inner =>
      cases hnext
      exact hopen _ hc hjoin.symm

/-! ## Regular expressions -/

theorem skipRegex_escape (h : taken (skipRegex inClass rest) = (text, more)) (c : Char) :
    taken (skipRegex inClass ('\\' :: c :: rest)) = ('\\' :: c :: text, more) :=
  congrArg (Prod.map ('\\' :: c :: ·) id) h

theorem skipRegex_eq (hslash : c ≠ '\\') (rest : List Char) :
    taken (skipRegex inClass (c :: rest)) =
      if c = '/' ∧ !inClass then (c :: rest.takeWhile isAsciiLetter, rest.dropWhile isAsciiLetter)
      else if c = '\n' then ([], c :: rest)
      else (taken (skipRegex (if c = '[' then true else if c = ']' then false else inClass)
        rest)).map (c :: ·) id := by
  rw [skipRegex]
  · split
    · rfl
    · split
      · rfl
      · rfl
  all_goals simp [hslash]

theorem skipRegex_join (h : taken (skipRegex inClass cs) = (text, more)) : text ++ more = cs := by
  fun_induction skipRegex inClass cs generalizing text with
  | case1 | case2 | case5 =>
    cases h
    rfl
  | case3 inClass c rest inner left hread ih =>
    cases h
    exact congrArg ('\\' :: c :: ·) (ih (congrArg taken hread))
  | case4 inClass c rest =>
    cases h
    exact congrArg (c :: ·) List.takeWhile_append_dropWhile
  | case6 inClass c rest _ _ _ _ inner left hread ih =>
    cases h
    exact congrArg (c :: ·) (ih (congrArg taken hread))

theorem skipRegex_append (h : taken (skipRegex inClass cs) = (text, more))
    (hafter : after.head? = more.head?) :
    taken (skipRegex inClass (text ++ after)) = (text, after) := by
  fun_induction skipRegex inClass cs generalizing text with
  | case1 | case2 =>
    cases h
    rw [List.head?_eq_none_iff.1 hafter]
    rfl
  | case3 inClass c rest inner left hread ih =>
    cases h
    exact skipRegex_escape (ih (congrArg taken hread)) c
  | case4 inClass c rest hlast hescape hclose =>
    cases h
    -- The letters behind the slash end where they ended.
    have hletters : ∀ d ∈ rest.takeWhile isAsciiLetter, isAsciiLetter d := fun d hd =>
      List.mem_takeWhile_imp hd
    have hend : ∀ d ∈ after.head?, ¬isAsciiLetter d := by
      rw [hafter]
      exact not_of_mem_head?_dropWhile
    rw [List.cons_append, skipRegex_eq (ne_backslash hlast hescape), if_pos hclose,
      takeWhile_append_boundary hletters hend, dropWhile_append_boundary hletters hend]
  | case5 inClass rest hlast hescape hclose =>
    cases h
    obtain ⟨later, rfl⟩ := List.head?_eq_some_iff.1 hafter
    rfl
  | case6 inClass c rest hlast hescape hclose hline inner left hread ih =>
    cases h
    rw [List.cons_append, skipRegex_eq (ne_backslash hlast hescape), if_neg hclose, if_neg hline,
      ih (congrArg taken hread)]
    rfl

end TemplateEngine.RootPath
