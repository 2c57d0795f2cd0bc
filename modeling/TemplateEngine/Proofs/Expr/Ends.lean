import Mathlib.Data.List.Basic
import TemplateEngine.Proofs.Expr.Lexing
import TemplateEngine.Proofs.Expr.Literals

/-!
# `Expr` · Where lexemes end

What is a lexeme by itself, and what may stand behind it.

* **`Spells`** lists the texts that are lexemes, **`Ends`** says behind which of them a text leaves
  them as they are. A lexeme is read off the front of a text if and only if both hold
  (`spells_of_next`, `next_of_spells`).
* **Punctuators.** The one that counts is the longest that fits (`punct?_eq_some_iff`).
* **`ahead`** is all that a lexeme looks at behind its end: the next character, and behind a point
  whether a digit follows (`Ends.congr`). A blank ends every lexeme (`Spells.ends_blank`), and none
  starts or ends with one (`Spells.trimmed`).
-/

namespace TemplateEngine

open TemplateEngine.Text TemplateEngine.Template

namespace Lexeme

variable {c quote : Char} {cs ds text value rest after : List Char} {l : Lexeme} {p q : String}
  {offset : Nat}

/-! ## Texts of lexemes -/

/-- A quoted text behind its opening quote, up to the closing one, and its value. -/
inductive Quotes (quote : Char) : List Char → List Char → Prop where
  /-- The quote closes it. -/
  | close : Quotes quote [quote] []
  /-- Behind a backslash stands any character. -/
  | escape {text value : List Char} (c : Char) :
    Quotes quote text value → Quotes quote ('\\' :: c :: text) (unescape c :: value)
  /-- All other characters stand for themselves. -/
  | plain {text value : List Char} {c : Char} : c ≠ '\\' → c ≠ quote →
    Quotes quote text value → Quotes quote (c :: text) (c :: value)

/-- A number starts with a digit, or with a point in front of one. -/
def StartsNumber (c : Char) (cs : List Char) : Prop :=
  isAsciiDigit c ∨ c = '.' ∧ startsWithDigit cs

/-- A text is a lexeme. -/
inductive Spells : List Char → Lexeme → Prop where
  /-- A number, which is read without its underscores. -/
  | number {c : Char} {cs : List Char} {x : Float} : StartsNumber c cs →
    (∀ d ∈ cs, isNumberChar d) → Decimal.parse? ((c :: cs).filter (· != '_')) = some x →
    Spells (c :: cs) (.number x)
  /-- A word. -/
  | word {c : Char} {cs : List Char} : isWordStart c → (∀ d ∈ cs, isWordChar d) →
    Spells (c :: cs) (.word (String.ofList (c :: cs)))
  /-- A text in quotes. -/
  | string {quote : Char} {text value : List Char} : isQuote quote → Quotes quote text value →
    Spells (quote :: text) (.string (String.ofList value))
  /-- A punctuator. -/
  | punct {p : String} : p ∈ punctuators → Spells p.toList (.punct p)

/-- A lexeme ends where a text follows that does not belong to it. -/
def Ends : Lexeme → List Char → Prop
  | .number _, after => ∀ d ∈ after.head?, isNumberChar d = false
  | .word _, after => ∀ d ∈ after.head?, isWordChar d = false
  | .string _, _ => True
  | .punct p, after =>
    (p = "." → startsWithDigit after = false) ∧ punct? (p.toList ++ after) = some p

/-! ## Quoted texts -/

theorem quotes_of_stringEnd? {left : Shorter cs} (h : stringEnd? quote cs = some (value, left)) :
    ∃ text, Quotes quote text value ∧ cs = text ++ left.val := by
  fun_induction stringEnd? quote cs generalizing value with
  | case1 | case2 => exact nomatch h
  | case3 c cs ih =>
    obtain ⟨⟨inner, more⟩, hinner, heq⟩ := Option.map_eq_some_iff.1 h
    cases heq
    obtain ⟨text, htext, hcs⟩ := ih hinner
    exact ⟨'\\' :: c :: text, htext.escape c, congrArg ('\\' :: c :: ·) hcs⟩
  | case4 =>
    cases h
    exact ⟨[quote], .close, rfl⟩
  | case5 c cs hlast hescape hother ih =>
    obtain ⟨⟨inner, more⟩, hinner, heq⟩ := Option.map_eq_some_iff.1 h
    cases heq
    obtain ⟨text, htext, hcs⟩ := ih hinner
    exact ⟨c :: text, htext.plain (ne_backslash hlast hescape) hother, congrArg (c :: ·) hcs⟩

theorem Quotes.stringEnd? (h : Quotes quote text value) (hquote : quote ≠ '\\')
    (rest : List Char) :
    ∃ left, Lexeme.stringEnd? quote (text ++ rest) = some (value, left) ∧ left.val = rest := by
  induction h with
  | close =>
    refine ⟨.tail quote rest, ?_, rfl⟩
    simp [Lexeme.stringEnd?, hquote]
  | escape c _ ih =>
    obtain ⟨left, hleft, hrest⟩ := ih
    refine ⟨left.cons.cons, ?_, hrest⟩
    simp [Lexeme.stringEnd?, hleft]
  | plain hslash hother _ ih =>
    obtain ⟨left, hleft, hrest⟩ := ih
    refine ⟨left.cons, ?_, hrest⟩
    simp [Lexeme.stringEnd?, hslash, hother, hleft]

/-- A quoted text ends with its quote. -/
theorem Quotes.getLast? (h : Quotes quote text value) : text.getLast? = some quote := by
  induction h with
  | close => rfl
  | escape _ _ ih | plain _ _ _ ih => simp [List.getLast?_cons, ih]

/-! ## Punctuators -/

/-- A punctuator that stands at the front of a text, and is not cut by a number. -/
theorem isSome_afterPunctuator?_iff : (afterPunctuator? p cs).isSome ↔
    ∃ rest, cs = p.toList ++ rest ∧ (p = "?." → startsWithDigit rest = false) := by
  unfold afterPunctuator?
  rcases hfront : p.toList.isPrefixOf? cs with _ | found
  · simp only [Option.isSome_none, Bool.false_eq_true, false_iff]
    rintro ⟨rest, rfl, -⟩
    rw [List.isPrefixOf?_eq_some_iff_append_eq.2 rfl] at hfront
    exact nomatch hfront
  · obtain rfl := List.append_eq_of_isPrefixOf?_eq_some hfront
    simp

/-- No punctuator starts one that stands behind it in the list. -/
theorem pairwise_punctuators : punctuators.Pairwise fun p q => ¬p.toList <+: q.toList := by
  decide +kernel

/-- If a punctuator goes on behind another one, then so does the other with one more character. -/
theorem punctuators_grow : ∀ p ∈ punctuators, ∀ q ∈ punctuators,
    p.toList <+: q.toList → p.length < q.length →
      String.ofList (q.toList.take (p.length + 1)) ∈ punctuators ∧
        (String.ofList (q.toList.take (p.length + 1)) = "?." → q = "?.") := by
  decide +kernel

/-- No character of a punctuator starts a lexeme of another kind, and none is a blank. -/
theorem punctuators_chars : ∀ p ∈ punctuators, p.toList ≠ [] ∧
    ∀ d ∈ p.toList, isBlank d = false ∧ isAsciiDigit d = false ∧ isWordStart d = false ∧
      isQuote d = false := by
  -- With `List.all`, since a quantifier over characters can be decided by a search of all of them.
  have hall : ∀ p ∈ punctuators, p.toList ≠ [] ∧ p.toList.all fun d =>
      !isBlank d && !isAsciiDigit d && !isWordStart d && !isQuote d := by
    decide +kernel
  simpa only [List.all_eq_true, Bool.and_eq_true, Bool.not_eq_true', and_assoc] using hall

/-- Only one punctuator starts with a point. -/
theorem punctuators_point : ∀ p ∈ punctuators, p.toList.head? = some '.' → p = "." := by
  decide +kernel

/-- The punctuator that counts is the longest one that fits. -/
theorem punct?_eq_some_iff : punct? cs = some p ↔
    p ∈ punctuators ∧ (afterPunctuator? p cs).isSome ∧
      ∀ q ∈ punctuators, (afterPunctuator? q cs).isSome → q.length ≤ p.length := by
  have hbegins : ∀ {q}, (afterPunctuator? q cs).isSome → q.toList <+: cs := by
    intro q hq
    obtain ⟨rest, rfl, -⟩ := isSome_afterPunctuator?_iff.1 hq
    exact List.prefix_append q.toList rest
  have hfirst : ∀ {p}, punct? cs = some p → p ∈ punctuators ∧ (afterPunctuator? p cs).isSome ∧
      ∀ q ∈ punctuators, (afterPunctuator? q cs).isSome → q.length ≤ p.length := by
    intro p h
    obtain ⟨hp, front, behind, hsplit, hnone⟩ := List.find?_eq_some_iff_append.1 h
    refine ⟨List.mem_of_find?_eq_some h, hp, fun q hq hfits => ?_⟩
    have hpairwise := pairwise_punctuators
    rw [hsplit] at hq hpairwise
    rcases List.mem_append.1 hq with hq | hq
    · have hnot := hnone q hq
      rw [hfits] at hnot
      exact nomatch hnot
    rcases List.mem_cons.1 hq with rfl | hq
    · exact le_rfl
    · have hnot := List.rel_of_pairwise_cons (List.pairwise_append.1 hpairwise).2.1 hq
      by_contra hlonger
      apply hnot
      apply List.prefix_of_prefix_length_le (hbegins hp) (hbegins hfits)
      simp only [String.length_toList]
      omega
  constructor
  · exact hfirst
  · rintro ⟨hp, hfits, hlongest⟩
    obtain ⟨found, hfound⟩ : ∃ found, punct? cs = some found :=
      Option.isSome_iff_exists.1 (List.find?_isSome.2 ⟨p, hp, hfits⟩)
    obtain ⟨hmem, hfits', hlongest'⟩ := hfirst hfound
    have hlength : found.toList.length = p.toList.length := by
      simp only [String.length_toList]
      exact le_antisymm (hlongest found hmem hfits') (hlongest' p hp hfits)
    have hsame : found.toList = p.toList :=
      (List.prefix_of_prefix_length_le (hbegins hfits') (hbegins hfits) hlength.le).eq_of_length
        hlength
    rw [hfound, String.toList_injective hsame]

/-! ## What a lexeme looks at -/

/-- The next character, and whether it is a point in front of a digit. -/
def ahead : List Char → Option Char × Bool
  | [] => (none, false)
  | c :: cs => (some c, c == '.' && startsWithDigit cs)

theorem startsWithDigit_eq (cs : List Char) :
    startsWithDigit cs = cs.head?.any isAsciiDigit := by
  cases cs <;> rfl

theorem head?_of_ahead (h : ahead cs = ahead ds) : cs.head? = ds.head? := by
  have hfst : ∀ cs, (ahead cs).1 = cs.head? := by
    intro cs
    cases cs <;> rfl
  rw [← hfst, h, hfst]

theorem startsWithDigit_of_ahead (h : ahead cs = ahead ds) :
    startsWithDigit cs = startsWithDigit ds := by
  rw [startsWithDigit_eq, startsWithDigit_eq, head?_of_ahead h]

/-- A longer punctuator goes on with the next character. -/
theorem exists_grown (hp : p ∈ punctuators) (hq : q ∈ punctuators) (hlonger : p.length < q.length)
    (h : p.toList ++ cs = q.toList ++ rest) :
    ∃ d more, q.toList = p.toList ++ d :: more ∧ cs = d :: (more ++ rest) ∧
      String.ofList (p.toList ++ [d]) ∈ punctuators ∧
        (String.ofList (p.toList ++ [d]) = "?." → q = "?.") := by
  have hfront : p.toList <+: q.toList := by
    apply List.prefix_of_prefix_length_le ⟨cs, rfl⟩ ⟨rest, h.symm⟩
    simpa only [String.length_toList] using hlonger.le
  have hgrow := punctuators_grow p hp q hq hfront hlonger
  obtain ⟨grown, hgrown⟩ := hfront
  obtain ⟨d, more, rfl⟩ : ∃ d more, grown = d :: more := by
    apply List.exists_cons_of_ne_nil
    rintro rfl
    rw [← String.length_toList, ← String.length_toList, ← hgrown, List.append_nil] at hlonger
    exact lt_irrefl _ hlonger
  have htake : q.toList.take (p.length + 1) = p.toList ++ [d] := by
    rw [← hgrown, ← String.length_toList, List.take_length_add_append]
    rfl
  rw [htake] at hgrow
  refine ⟨d, more, hgrown.symm, ?_, hgrow⟩
  rw [← hgrown, List.append_assoc] at h
  exact List.append_cancel_left h

/-- The longest punctuator depends on what it looks at behind its end. -/
theorem punct?_congr (h : punct? (p.toList ++ cs) = some p) (hahead : ahead cs = ahead ds) :
    punct? (p.toList ++ ds) = some p := by
  obtain ⟨hp, hfits, hlongest⟩ := punct?_eq_some_iff.1 h
  obtain ⟨_, hcs, hdigit⟩ := isSome_afterPunctuator?_iff.1 hfits
  obtain rfl := List.append_cancel_left hcs
  rw [startsWithDigit_of_ahead hahead] at hdigit
  refine punct?_eq_some_iff.2
    ⟨hp, isSome_afterPunctuator?_iff.2 ⟨ds, rfl, hdigit⟩, fun q hq hfits' => ?_⟩
  by_contra hlonger
  obtain ⟨rest, hrest, hdigit'⟩ := isSome_afterPunctuator?_iff.1 hfits'
  obtain ⟨d, more, hgrown, rfl, hmem, hquestion⟩ := exists_grown hp hq (not_le.1 hlonger) hrest
  obtain ⟨cs', rfl⟩ := List.head?_eq_some_iff.1 (head?_of_ahead hahead)
  -- In front of `cs`, the punctuator with the next character is longer, unless a number cuts it.
  have hfits'' : (afterPunctuator? (String.ofList (p.toList ++ [d]))
      (p.toList ++ d :: cs')).isSome := by
    refine isSome_afterPunctuator?_iff.2 ⟨cs', by simp, fun heq => ?_⟩
    have hchars : p.toList ++ [d] = ['?'] ++ ['.'] := by
      rw [← String.toList_ofList (l := p.toList ++ [d]), heq]
      rfl
    obtain ⟨hp', hd⟩ := List.append_inj' hchars rfl
    obtain rfl := hquestion heq
    obtain rfl : more = [] := by
      rw [hp', List.singleton_append] at hgrown
      exact (List.cons.inj (List.cons.inj hgrown).2).2.symm
    have hsecond := congrArg Prod.snd hahead
    simp only [ahead, List.singleton_inj.1 hd, beq_self_eq_true, Bool.true_and] at hsecond
    rw [hsecond]
    exact hdigit' rfl
  have hle := hlongest _ hmem hfits''
  rw [String.length_ofList, List.length_append, String.length_toList] at hle
  exact absurd hle (Nat.not_succ_le_self p.length)

/-- A lexeme depends on what it looks at behind its end. -/
theorem Ends.congr (h : Ends l cs) (hahead : ahead cs = ahead ds) : Ends l ds := by
  cases l with
  | number | word =>
    intro d hd
    rw [← head?_of_ahead hahead] at hd
    exact h d hd
  | string => trivial
  | punct p =>
    obtain ⟨hpoint, hfirst⟩ := h
    rw [startsWithDigit_of_ahead hahead] at hpoint
    exact ⟨hpoint, punct?_congr hfirst hahead⟩

/-! ## Blanks -/

theorem isBlank_eq_false_of_isNumberChar (h : isNumberChar c) : isBlank c = false := by
  by_cases hdot : c = '.'
  · rw [hdot]
    decide
  · exact isBlank_eq_false_of_isWordChar (RootPath.isWordChar_of_isNumberChar h hdot)

theorem isBlank_eq_false_of_isQuote (h : isQuote c) : isBlank c = false := by
  simp only [isQuote, isTagQuote, Bool.or_eq_true, beq_iff_eq] at h
  rcases h with (rfl | rfl) | rfl <;> decide

theorem StartsNumber.isNumberChar (h : StartsNumber c cs) : isNumberChar c := by
  rcases h with h | ⟨rfl, -⟩
  · exact isNumberChar_of_isAsciiDigit h
  · decide

theorem Spells.ne_nil (h : Spells text l) : text ≠ [] := by
  cases h with
  | number | word | string => exact List.cons_ne_nil _ _
  | punct hp => exact (punctuators_chars _ hp).1

/-- A lexeme starts and ends with no blank. -/
theorem Spells.trimmed (h : Spells text l) : Trimmed text := by
  cases h with
  | number hstart hcs =>
    apply trimmed_of_forall
    intro d hd
    rcases List.mem_cons.1 hd with rfl | hd
    · simp [isBlank_eq_false_of_isNumberChar hstart.isNumberChar]
    · simp [isBlank_eq_false_of_isNumberChar (hcs d hd)]
  | word hstart hcs =>
    apply trimmed_of_forall
    intro d hd
    rcases List.mem_cons.1 hd with rfl | hd
    · simp [isBlank_eq_false_of_isWordChar (isWordChar_of_isWordStart hstart)]
    · simp [isBlank_eq_false_of_isWordChar (hcs d hd)]
  | string hquote htext =>
    constructor
    · simp [isBlank_eq_false_of_isQuote hquote]
    · simp [List.getLast?_cons, htext.getLast?, isBlank_eq_false_of_isQuote hquote]
  | punct hp =>
    apply trimmed_of_forall
    intro d hd
    simp [((punctuators_chars _ hp).2 d hd).1]

/-- What blanks follow on is followed by nothing of a class without blanks. -/
theorem head_not_of_blank {p : Char → Bool} (hp : ∀ d, p d → isBlank d = false)
    (hafter : ∀ d ∈ after.head?, isBlank d) : ∀ d ∈ after.head?, p d = false := by
  intro d hd
  apply Bool.eq_false_iff.2
  intro hpd
  have hblank := hafter d hd
  rw [hp d hpd] at hblank
  exact nomatch hblank

theorem startsWithDigit_of_blank (hafter : ∀ d ∈ after.head?, isBlank d) :
    startsWithDigit after = false := by
  rw [startsWithDigit_eq, Option.any_eq_false]
  apply head_not_of_blank _ hafter
  intro d hd
  exact isBlank_eq_false_of_isNumberChar (isNumberChar_of_isAsciiDigit hd)

/-- A blank ends every lexeme, and so does the end of the text. -/
theorem Spells.ends_blank (h : Spells text l) (hafter : ∀ d ∈ after.head?, isBlank d) :
    Ends l after := by
  cases h with
  | number => exact head_not_of_blank (fun _ => isBlank_eq_false_of_isNumberChar) hafter
  | word => exact head_not_of_blank (fun _ => isBlank_eq_false_of_isWordChar) hafter
  | string => trivial
  | @punct p hp =>
    have hdigit := startsWithDigit_of_blank hafter
    refine ⟨fun _ => hdigit, punct?_eq_some_iff.2
      ⟨hp, isSome_afterPunctuator?_iff.2 ⟨after, rfl, fun _ => hdigit⟩, fun q hq hfits => ?_⟩⟩
    by_contra hlonger
    obtain ⟨rest, hrest, -⟩ := isSome_afterPunctuator?_iff.1 hfits
    obtain ⟨d, more, hgrown, rfl, -⟩ := exists_grown hp hq (not_le.1 hlonger) hrest
    have hblank := hafter d rfl
    rw [((punctuators_chars q hq).2 d (by simp [hgrown])).1] at hblank
    exact nomatch hblank

/-- A point by itself is a punctuator. -/
theorem Spells.eq_punct (h : Spells ['.'] l) : l = .punct "." := by
  generalize htext : ['.'] = text at h
  cases h with
  | number hstart =>
    obtain ⟨rfl, rfl⟩ := List.cons.inj htext
    rcases hstart with hdigit | ⟨-, hdigit⟩
    · exact nomatch hdigit
    · exact nomatch hdigit
  | word hstart =>
    obtain ⟨rfl, rfl⟩ := List.cons.inj htext
    exact nomatch hstart
  | string hquote =>
    obtain ⟨rfl, rfl⟩ := List.cons.inj htext
    exact nomatch hquote
  | @punct p hp => rw [punctuators_point p hp (by rw [← htext]; rfl)]

/-! ## Reading a lexeme -/

theorem next_number (h : StartsNumber c cs) (offset : Nat) :
    next offset c cs =
      match Decimal.parse? ((c :: cs.takeWhile isNumberChar).filter (· != '_')) with
      | some x => .ok (.number x, dropLeading isNumberChar cs)
      | none => .error (.badNumber (String.ofList
          ((c :: cs.takeWhile isNumberChar).filter (· != '_'))) offset) := by
  unfold next
  exact if_pos (by simpa [StartsNumber] using h)

theorem next_word (hnumber : ¬StartsNumber c cs) (hword : isWordStart c) (offset : Nat) :
    next offset c cs =
      .ok (.word (String.ofList (c :: cs.takeWhile isWordChar)), dropLeading isWordChar cs) := by
  unfold next
  rw [if_neg (by simpa [StartsNumber] using hnumber), if_pos hword]

theorem next_punct (hnumber : ¬StartsNumber c cs) (hword : ¬isWordStart c) (hquote : ¬isQuote c)
    (offset : Nat) :
    next offset c cs =
      match punct? (c :: cs) with
      | some p => .ok (.punct p, .drop (p.length - 1) cs)
      | none => .error (.badCharacter c offset) := by
  unfold next
  rw [if_neg (by simpa [StartsNumber] using hnumber), if_neg hword, if_neg hquote]
  rfl

theorem startsWithDigit_takeWhile (h : startsWithDigit cs) :
    startsWithDigit (cs.takeWhile isNumberChar) := by
  cases cs with
  | nil => exact h
  | cons d cs =>
    rw [List.takeWhile_cons_of_pos (isNumberChar_of_isAsciiDigit h)]
    exact h

theorem StartsNumber.append (h : StartsNumber c cs) (rest : List Char) :
    StartsNumber c (cs ++ rest) := by
  apply h.imp_right
  rintro ⟨hpoint, hdigit⟩
  cases cs with
  | nil => exact nomatch hdigit
  | cons d cs => exact ⟨hpoint, hdigit⟩

/-- What is read is a lexeme, and it ends where the rest follows. -/
theorem spells_of_next {left : NoLonger cs} (h : next offset c cs = .ok (l, left)) :
    ∃ text, cs = text ++ left.val ∧ Spells (c :: text) l ∧ Ends l left.val := by
  have hrun : ∀ p : Char → Bool, cs = cs.takeWhile p ++ cs.dropWhile p ∧
      (∀ d ∈ cs.takeWhile p, p d) ∧ ∀ d ∈ (cs.dropWhile p).head?, p d = false := by
    intro p
    refine ⟨List.takeWhile_append_dropWhile.symm, fun d hd => List.mem_takeWhile_imp hd, ?_⟩
    intro d hd
    exact Bool.eq_false_iff.2 (not_of_mem_head?_dropWhile d hd)
  by_cases hnumber : StartsNumber c cs
  · rw [next_number hnumber] at h
    split at h
    · next x hx =>
      cases h
      obtain ⟨hsplit, hinside, hbehind⟩ := hrun isNumberChar
      have hstart := hnumber.imp_right (And.imp_right startsWithDigit_takeWhile)
      exact ⟨_, hsplit, .number hstart hinside hx, hbehind⟩
    · exact nomatch h
  by_cases hword : isWordStart c
  · rw [next_word hnumber hword] at h
    cases h
    obtain ⟨hsplit, hinside, hbehind⟩ := hrun isWordChar
    exact ⟨_, hsplit, .word hword hinside, hbehind⟩
  by_cases hquote : isQuote c
  · rw [next_quote hquote] at h
    split at h
    · next value rest hend =>
      cases h
      obtain ⟨text, htext, hcs⟩ := quotes_of_stringEnd? hend
      exact ⟨text, hcs, .string hquote htext, trivial⟩
    · exact nomatch h
  rw [next_punct hnumber hword hquote] at h
  split at h
  · next p hp =>
    cases h
    obtain ⟨hmem, hfits, -⟩ := punct?_eq_some_iff.1 hp
    obtain ⟨rest, hrest, -⟩ := isSome_afterPunctuator?_iff.1 hfits
    obtain ⟨d, text, hchars⟩ := List.exists_cons_of_ne_nil (punctuators_chars p hmem).1
    rw [hchars, List.cons_append] at hrest
    obtain ⟨rfl, rfl⟩ := List.cons.inj hrest
    have hleft : (NoLonger.drop (p.length - 1) (text ++ rest)).val = rest := by
      simp [NoLonger.drop, ← String.length_toList, hchars]
    rw [hleft]
    refine ⟨text, rfl, hchars ▸ .punct hmem, fun hpoint => ?_, by rwa [hchars]⟩
    -- A point in front of a digit would have been read as a number.
    rw [hpoint] at hchars
    obtain ⟨rfl, rfl⟩ := List.cons.inj hchars
    exact Bool.eq_false_iff.2 fun hdigit => hnumber (.inr ⟨rfl, hdigit⟩)
  · exact nomatch h

/-- A lexeme that ends where the rest follows is read. -/
theorem next_of_spells (h : Spells (c :: text) l) (hends : Ends l rest) (offset : Nat) :
    ∃ left, next offset c (text ++ rest) = .ok (l, left) ∧ left.val = rest := by
  have hrun : ∀ {p : Char → Bool}, (∀ d ∈ text, p d) → (∀ d ∈ rest.head?, p d = false) →
      (text ++ rest).takeWhile p = text ∧ (dropLeading p (text ++ rest)).val = rest :=
    span_run
  generalize htext : c :: text = spelled at h
  cases h with
  | number hstart hinside hx =>
    obtain ⟨rfl, rfl⟩ := List.cons.inj htext
    obtain ⟨htake, hdrop⟩ := hrun hinside hends
    rw [next_number (hstart.append rest), htake, hx]
    exact ⟨_, rfl, hdrop⟩
  | word hstart hinside =>
    obtain ⟨rfl, rfl⟩ := List.cons.inj htext
    obtain ⟨htake, hdrop⟩ := hrun hinside hends
    have hnumber : ¬StartsNumber c (text ++ rest) := by
      rintro (hdigit | ⟨rfl, -⟩)
      · rw [isAsciiDigit_eq_false_of_isWordStart hstart] at hdigit
        exact nomatch hdigit
      · exact nomatch hstart
    rw [next_word hnumber hstart, htake]
    exact ⟨_, rfl, hdrop⟩
  | string hquote hquotes =>
    obtain ⟨rfl, rfl⟩ := List.cons.inj htext
    obtain ⟨left, hleft, hrest⟩ := hquotes.stringEnd? (ne_backslash_of_isQuote hquote) rest
    rw [next_quote hquote, hleft]
    exact ⟨_, rfl, hrest⟩
  | @punct p hmem =>
    obtain ⟨hpoint, hfirst⟩ := hends
    obtain ⟨-, hdigit, hword, hquote⟩ := (punctuators_chars p hmem).2 c (by simp [← htext])
    have hnumber : ¬StartsNumber c (text ++ rest) := by
      rintro (hc | ⟨rfl, hc⟩)
      · rw [hdigit] at hc
        exact nomatch hc
      · obtain rfl := punctuators_point p hmem (by rw [← htext]; rfl)
        obtain rfl := (List.cons.inj htext).2
        rw [List.nil_append, hpoint rfl] at hc
        exact nomatch hc
    rw [← htext] at hfirst
    rw [next_punct hnumber (by simp [hword]) (by simp [hquote]), ← List.cons_append, hfirst]
    refine ⟨_, rfl, ?_⟩
    simp [NoLonger.drop, ← String.length_toList, ← htext]

end Lexeme

end TemplateEngine
