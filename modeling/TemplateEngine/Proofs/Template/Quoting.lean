import TemplateEngine.Template.Part

/-!
# `Template` · Quoted text

What stands outside of quoted text, and where a scan for it ends.

* **`Quoting.bare`** reads a text character by character and leaves the quoted texts out, with their
  quotes. In a quoted text a backslash takes the next character with it, and a text that is not
  closed reaches to the end.
* **`quoted?`**, which takes a whole quoted text at once, ends where `bare` gets outside again
  (`quoted?_eq_some`).
* **`braced`** ends at the first place where as many braces are closed as were opened, and
  **`tagEnd`** at the first `>`, both outside of quoted text (`braced_eq_ok`, `tagEnd_eq_ok`).
-/

namespace TemplateEngine.Template

open TemplateEngine.Text

/-! ## What stands outside -/

/-- Where a character stands. -/
inductive Quoting where
  /-- Outside of quoted text. -/
  | outside
  /-- In a quoted text with the given quote. -/
  | within (quote : Char)
  /-- There, behind a backslash. -/
  | escaped (quote : Char)
  deriving Repr, DecidableEq

/-- The characters that stand outside of quoted text. -/
def Quoting.bare (isQuote : Char → Bool) : Quoting → List Char → List Char
  | _, [] => []
  | .outside, c :: cs => if isQuote c then bare isQuote (.within c) cs else c :: bare isQuote .outside cs
  | .within quote, c :: cs =>
    if c = '\\' then bare isQuote (.escaped quote) cs
    else if c = quote then bare isQuote .outside cs
    else bare isQuote (.within quote) cs
  | .escaped quote, _ :: cs => bare isQuote (.within quote) cs

/-- The number of braces outside of quoted text that a text opens and does not close. -/
def openBraces (cs : List Char) : Int :=
  (Quoting.bare isQuote .outside cs).count '\x7b' - (Quoting.bare isQuote .outside cs).count '\x7d'

section Bare

variable {isQuote : Char → Bool} {quote c : Char} {cs text : List Char}

@[simp] theorem Quoting.bare_nil (state : Quoting) : state.bare isQuote [] = [] := by
  cases state <;> rfl

theorem Quoting.bare_outside_quote (h : isQuote c) :
    Quoting.outside.bare isQuote (c :: cs) = (Quoting.within c).bare isQuote cs := by
  simp [bare, h]

theorem Quoting.bare_outside (h : ¬isQuote c) :
    Quoting.outside.bare isQuote (c :: cs) = c :: Quoting.outside.bare isQuote cs := by
  simp [bare, h]

theorem Quoting.bare_within (hslash : c ≠ '\\') (hquote : c ≠ quote) :
    (Quoting.within quote).bare isQuote (c :: cs) = (Quoting.within quote).bare isQuote cs := by
  simp [bare, hslash, hquote]

theorem Quoting.bare_escape :
    (Quoting.within quote).bare isQuote ('\\' :: c :: cs) =
      (Quoting.within quote).bare isQuote cs := by
  simp [bare]

theorem Quoting.bare_close (hquote : quote ≠ '\\') :
    (Quoting.within quote).bare isQuote (quote :: cs) = Quoting.outside.bare isQuote cs := by
  simp [bare, hquote]

/-- A character that is neither the last backslash nor one with a character behind it. -/
theorem ne_backslash (hlast : c = '\\' → cs = [] → False)
    (hescape : ∀ d ds, c = '\\' → cs = d :: ds → False) : c ≠ '\\' := by
  rintro rfl
  cases cs with
  | nil => exact hlast rfl rfl
  | cons d ds => exact hescape d ds rfl rfl

/-- A quoted text ends where a scan of it gets outside, and not before. -/
theorem quoted?_eq_some (isQuote : Char → Bool) {rest : Shorter cs} (hquote : quote ≠ '\\')
    (h : quoted? quote cs = some (text, rest)) :
    cs = text ++ rest.val ∧
      (∀ more, (Quoting.within quote).bare isQuote (text ++ more) =
        Quoting.outside.bare isQuote more) ∧
      ∀ front, front <+: text → (Quoting.within quote).bare isQuote front = [] := by
  fun_induction quoted? quote cs generalizing text with
  | case1 => cases h
  | case2 => cases h
  | case3 c cs ih =>
    obtain ⟨⟨inner, more⟩, hinner, heq⟩ := Option.map_eq_some_iff.1 h
    cases heq
    obtain ⟨hsplit, hbare, hfront⟩ := ih hinner
    refine ⟨congrArg ('\\' :: c :: ·) hsplit, fun after => ?_, fun front hstarts => ?_⟩
    · exact Quoting.bare_escape.trans (hbare after)
    · rcases List.prefix_cons_iff.1 hstarts with rfl | ⟨front', rfl, hstarts'⟩
      · simp
      rcases List.prefix_cons_iff.1 hstarts' with rfl | ⟨front'', rfl, hstarts''⟩
      · simp [Quoting.bare]
      · exact Quoting.bare_escape.trans (hfront front'' hstarts'')
  | case4 cs =>
    cases h
    refine ⟨rfl, fun after => Quoting.bare_close hquote, fun front hstarts => ?_⟩
    rcases List.prefix_cons_iff.1 hstarts with rfl | ⟨front', rfl, hstarts'⟩
    · simp
    · rw [Quoting.bare_close hquote, List.prefix_nil.1 hstarts', Quoting.bare_nil]
  | case5 c cs hlast hescape hother ih =>
    have hslash : c ≠ '\\' := ne_backslash hlast hescape
    obtain ⟨⟨inner, more⟩, hinner, heq⟩ := Option.map_eq_some_iff.1 h
    cases heq
    obtain ⟨hsplit, hbare, hfront⟩ := ih hinner
    refine ⟨congrArg (c :: ·) hsplit, fun after => ?_, fun front hstarts => ?_⟩
    · exact (Quoting.bare_within hslash hother).trans (hbare after)
    · rcases List.prefix_cons_iff.1 hstarts with rfl | ⟨front', rfl, hstarts'⟩
      · simp
      · exact (Quoting.bare_within hslash hother).trans (hfront front' hstarts')

/-- A prefix of two texts is one of the first, or the first and a prefix of the second. -/
theorem prefix_append_cases {α : Type} {front xs ys : List α} (h : front <+: xs ++ ys) :
    front <+: xs ∨ ∃ front', front = xs ++ front' ∧ front' <+: ys := by
  obtain ⟨rest, hrest⟩ := h
  rcases List.append_eq_append_iff.1 hrest with ⟨as, rfl, -⟩ | ⟨bs, rfl, rfl⟩
  · exact .inl ⟨as, rfl⟩
  · exact .inr ⟨bs, rfl, rest, rfl⟩

/-- What an image was made from. -/
theorem except_map_eq_ok {ε α β : Type} {f : α → β} {x : Except ε α} {b : β}
    (h : x.map f = .ok b) : ∃ a, x = .ok a ∧ f a = b := by
  cases x with
  | error e => cases h
  | ok a => exact ⟨a, rfl, Except.ok.inj h⟩

/-- Different results have different images. -/
theorem except_map_injective {ε α β : Type} {f : α → β} (hf : Function.Injective f) :
    Function.Injective (Except.map f : Except ε α → Except ε β) := by
  rintro (e | a) (e' | a') h
  · simpa [Except.map] using h
  · cases h
  · cases h
  · rw [hf (Except.ok.inj h)]

/-- An image of an image is one of what that was made from. -/
theorem except_map_map {ε α β γ : Type} (f : β → γ) (g : α → β) (x : Except ε α) :
    (x.map g).map f = x.map (f ∘ g) := by
  cases x <;> rfl

end Bare

/-! ## Ends of tokens -/

variable {c : Char} {cs text : List Char}

theorem ne_backslash_of_isTagQuote (h : isTagQuote c) : c ≠ '\\' := by
  rintro rfl
  revert h
  decide

theorem not_isBlank_of_isTagQuote (hc : isTagQuote c) : ¬isBlank c := by
  simp only [isTagQuote, Bool.or_eq_true, beq_iff_eq] at hc
  rcases hc with rfl | rfl <;> decide

theorem ne_backslash_of_isQuote (h : isQuote c) : c ≠ '\\' := by
  rintro rfl
  revert h
  decide

@[simp] theorem openBraces_nil : openBraces [] = 0 := rfl

/-- A quoted text opens and closes nothing. -/
theorem openBraces_quoted {rest : Shorter cs} {inner : List Char} (hc : isQuote c)
    (h : quoted? c cs = some (inner, rest)) (more : List Char) :
    openBraces (c :: (inner ++ more)) = openBraces more := by
  obtain ⟨-, hbare, -⟩ := quoted?_eq_some isQuote (ne_backslash_of_isQuote hc) h
  unfold openBraces
  rw [Quoting.bare_outside_quote hc, hbare]

theorem openBraces_cons (hc : ¬isQuote c) :
    openBraces (c :: cs) =
      (if c = '\x7b' then 1 else if c = '\x7d' then -1 else 0) + openBraces cs := by
  unfold openBraces
  rw [Quoting.bare_outside hc, List.count_cons, List.count_cons]
  by_cases hopen : c = '\x7b'
  · subst hopen
    simp
    omega
  by_cases hclose : c = '\x7d'
  · subst hclose
    simp
    omega
  · simp [hopen, hclose]

/-- An expression ends where all its braces are closed for the first time. -/
theorem braced_eq_ok {depth : Nat} {rest : Shorter cs} (hdepth : 0 < depth)
    (h : braced depth cs = .ok (text, rest)) :
    cs = text ++ rest.val ∧ (∃ inner, text = inner ++ ['\x7d']) ∧ depth + openBraces text = 0 ∧
      ∀ front, front <+: text → front ≠ text → 0 < depth + openBraces front := by
  fun_induction braced depth cs generalizing text with
  | case1 => cases h
  | case2 => cases h
  | case3 depth c cs hc inner more hmore hquoted ih =>
    obtain ⟨⟨tail, final⟩, htail, heq⟩ := except_map_eq_ok h
    cases heq
    obtain ⟨hsplit, ⟨last, hlast⟩, hclosed, hfirst⟩ := ih hdepth htail
    obtain ⟨hinner, -, hfront⟩ := quoted?_eq_some isQuote (ne_backslash_of_isQuote hc) hquoted
    refine ⟨?_, ⟨c :: (inner ++ last), by simp [hlast]⟩, ?_, fun front hstarts hproper => ?_⟩
    · simpa [Shorter.trans, Shorter.cons, hinner] using hsplit
    · rwa [openBraces_quoted hc hquoted]
    · rcases List.prefix_cons_iff.1 hstarts with rfl | ⟨front', rfl, hstarts'⟩
      · simpa using hdepth
      -- A part of the quoted text opens nothing, and behind it the count goes on as before.
      rcases prefix_append_cases hstarts' with hwithin | ⟨front'', rfl, hstarts''⟩
      · unfold openBraces
        rw [Quoting.bare_outside_quote hc, hfront front' hwithin]
        simpa using hdepth
      · rw [openBraces_quoted hc hquoted]
        exact hfirst front'' hstarts'' fun heq => hproper (by rw [heq])
  | case4 depth c cs hc hend =>
    cases h
    obtain ⟨rfl, hle⟩ := hend
    obtain rfl : depth = 1 := by omega
    refine ⟨rfl, ⟨[], rfl⟩, by decide, fun front hstarts hproper => ?_⟩
    rcases List.prefix_cons_iff.1 hstarts with rfl | ⟨front', rfl, hstarts'⟩
    · decide
    · rw [List.prefix_nil.1 hstarts'] at hproper
      exact absurd rfl hproper
  | case5 depth c cs hc hend deeper =>
    rename_i ih
    obtain ⟨⟨tail, final⟩, htail, heq⟩ := except_map_eq_ok h
    cases heq
    -- The depth that the scan goes on with counts the braces so far.
    have hdeeper : 0 < deeper ∧
        (deeper : Int) = depth + (if c = '\x7b' then 1 else if c = '\x7d' then -1 else 0) := by
      simp only [deeper]
      split
      · omega
      · split
        · next hclose =>
          have : ¬depth ≤ 1 := fun hle => hend ⟨hclose, hle⟩
          omega
        · omega
    obtain ⟨hsplit, ⟨last, hlast⟩, hclosed, hfirst⟩ := ih hdeeper.1 htail
    refine ⟨congrArg (c :: ·) hsplit, ⟨c :: last, by simp [hlast]⟩, ?_, fun front hstarts hproper => ?_⟩
    · rw [openBraces_cons hc, ← Int.add_assoc, ← hdeeper.2, hclosed]
    · rcases List.prefix_cons_iff.1 hstarts with rfl | ⟨front', rfl, hstarts'⟩
      · simpa using hdepth
      · rw [openBraces_cons hc, ← Int.add_assoc, ← hdeeper.2]
        exact hfirst front' hstarts' fun heq => hproper (by rw [heq])

/-- An opening tag ends at the first `>` that stands outside of quoted text. -/
theorem tagEnd_eq_ok {rest : Shorter cs} (h : tagEnd cs = .ok (text, rest)) :
    cs = text ++ rest.val ∧ ∃ inner, text = inner ++ ['>'] ∧
      '>' ∉ Quoting.outside.bare isTagQuote inner ∧ '>' ∈ Quoting.outside.bare isTagQuote text := by
  fun_induction tagEnd cs generalizing text with
  | case1 => cases h
  | case2 => cases h
  | case3 c cs hc inner more hmore hquoted ih =>
    obtain ⟨⟨tail, final⟩, htail, heq⟩ := except_map_eq_ok h
    cases heq
    obtain ⟨hsplit, last, rfl, hfirst, hlast⟩ := ih htail
    obtain ⟨hinner, hbare, -⟩ := quoted?_eq_some isTagQuote (ne_backslash_of_isTagQuote hc) hquoted
    refine ⟨?_, c :: (inner ++ last), by simp, ?_, ?_⟩
    · simpa [Shorter.trans, Shorter.cons, hinner] using hsplit
    · rwa [Quoting.bare_outside_quote hc, hbare]
    · rwa [Quoting.bare_outside_quote hc, hbare]
  | case4 cs hc =>
    cases h
    exact ⟨rfl, [], rfl, by decide, by decide⟩
  | case5 c cs hc hend ih =>
    obtain ⟨⟨tail, final⟩, htail, heq⟩ := except_map_eq_ok h
    cases heq
    obtain ⟨hsplit, last, rfl, hfirst, hlast⟩ := ih htail
    refine ⟨congrArg (c :: ·) hsplit, c :: last, rfl, ?_, ?_⟩
    · rw [Quoting.bare_outside hc, List.mem_cons, not_or]
      exact ⟨Ne.symm hend, hfirst⟩
    · rw [Quoting.bare_outside hc]
      exact List.mem_cons_of_mem c hlast

end TemplateEngine.Template
