import TemplateEngine.Proofs.Expr.Spelling

/-!
# `Expr` · Roots in a spelling

Writing the roots into the spelling of an expression puts one in front of each member of the root,
and changes nothing else.

* **Steps**: what is written for the next characters of a text (`writeRootsFrom_plain` and those
  after it).
* **Contexts**: the text so far asks for an operand (`Expecting`), or ends with one (`Ended`).
  Between the lexemes of a spelling it is always clear which: a dot or a slash behind an operand is
  none that starts a path or a regular expression.
* **`writeRoots_spell`**: by induction over the syntax, with the context as the invariant.
-/

namespace TemplateEngine

open TemplateEngine.Text TemplateEngine.Template TemplateEngine.Lexeme

/-! ## Characters -/

/-- The code points of blanks. -/
def blankCodes : List Nat :=
  [9, 10, 11, 12, 13, 32, 133, 160, 5760, 8192, 8193, 8194, 8195, 8196, 8197, 8198, 8199, 8200,
    8201, 8202, 8232, 8233, 8239, 8287, 12288]

theorem mem_blankCodes {c : Char} (h : isBlank c) : c.toNat ∈ blankCodes := by
  simp only [isBlank, Bool.or_eq_true, Bool.and_eq_true, decide_eq_true_eq, beq_iff_eq] at h
  simp only [blankCodes, List.mem_cons, List.not_mem_nil, or_false]
  omega

/-- No blank is a character of a word. -/
theorem isBlank_eq_false_of_isWordChar {c : Char} (h : isWordChar c) : isBlank c = false := by
  have hcodes : blankCodes.all (fun n => !isWordChar (Char.ofNat n)) = true := by decide +kernel
  refine Bool.eq_false_iff.2 fun hblank => ?_
  have hc := List.all_eq_true.1 hcodes _ (mem_blankCodes hblank)
  rw [Char.ofNat_toNat, h] at hc
  cases hc

theorem isWordChar_of_isWordStart {c : Char} (h : isWordStart c) : isWordChar c := by
  simp only [isWordStart, isWordChar, isAlphanumeric, Bool.or_eq_true] at h ⊢
  exact h.imp_left (Or.imp_left .inl)

theorem Expr.IsWord.chars {name : String} (h : Expr.IsWord name) :
    ∀ c ∈ name.toList, isWordChar c := by
  obtain ⟨c, rest, hname, hc, hrest⟩ := h
  rw [hname]
  exact List.forall_mem_cons.2 ⟨isWordChar_of_isWordStart hc, hrest⟩

theorem Expr.IsWord.ne_nil {name : String} (h : Expr.IsWord name) : name.toList ≠ [] := by
  obtain ⟨c, rest, hname, -, -⟩ := h
  rw [hname]
  exact List.cons_ne_nil c rest

namespace RootPath

variable {written rest text : List Char} {c : Char}

/-! ## Steps -/

/-- A character that is written as it is, whatever stands around it. -/
def isPlain (c : Char) : Bool :=
  !(isQuote c || c == '[' || c == '\x7b' || c == '\x7d' || c == '/' || c == '.')

theorem writeRootsFrom_plain (hc : isPlain c) :
    writeRootsFrom written false (c :: rest) = writeRootsFrom (c :: written) false rest := by
  simp only [isPlain, Bool.not_eq_true', Bool.or_eq_false_iff, beq_eq_false_iff_ne, ne_eq] at hc
  rw [writeRootsFrom.eq_def]
  simp [hc]

/-- A bracket or brace that is not doubled. -/
theorem writeRootsFrom_bracket (hc : c = '[' ∨ c = '\x7b' ∨ c = '\x7d')
    (hrest : rest.head? ≠ some c) :
    writeRootsFrom written false (c :: rest) = writeRootsFrom (c :: written) false rest := by
  rw [writeRootsFrom.eq_def]
  cases rest with
  | nil => rcases hc with rfl | rfl | rfl <;> simp [isQuote, isTagQuote]
  | cons d rest =>
    rw [List.head?_cons, ne_eq, Option.some.injEq] at hrest
    rcases hc with rfl | rfl | rfl <;> simp [isQuote, isTagQuote, hrest]

theorem writeRootsFrom_slash (h : regexAllowed written = false) :
    writeRootsFrom written false ('/' :: rest) = writeRootsFrom ('/' :: written) false rest := by
  rw [writeRootsFrom.eq_def]
  simp [isQuote, isTagQuote, h]

theorem writeRootsFrom_dot (h : wordFollows rest = false ∨ startsPath written = false) :
    writeRootsFrom written false ('.' :: rest) = writeRootsFrom ('.' :: written) false rest := by
  rw [writeRootsFrom.eq_def]
  rcases h with h | h <;> simp [isQuote, isTagQuote, h]

theorem writeRootsFrom_path (h : startsPath written = true) (hrest : wordFollows rest = true) :
    writeRootsFrom written false ('.' :: rest) =
      writeRootsFrom ('.' :: '$' :: written) false rest := by
  rw [writeRootsFrom.eq_def]
  simp [isQuote, isTagQuote, h, hrest]

theorem writeRootsFrom_quote {more : List Char} (hc : isQuote c)
    (htext : (skipString c rest).1 = text) (hmore : (skipString c rest).2.val = more) :
    writeRootsFrom written false (c :: rest) =
      writeRootsFrom (text.reverse ++ c :: written) false more := by
  rw [writeRootsFrom.eq_def]
  subst htext hmore
  simp [hc]

/-- A text of plain characters. -/
theorem writeRootsFrom_text (h : text.all isPlain) :
    writeRootsFrom written false (text ++ rest) =
      writeRootsFrom (text.reverse ++ written) false rest := by
  induction text generalizing written with
  | nil => rfl
  | cons c text ih =>
    obtain ⟨hc, htext⟩ := List.all_cons.symm.trans h |> Bool.and_eq_true_iff.1
    rw [List.cons_append, writeRootsFrom_plain hc, ih htext, List.reverse_cons, List.append_assoc]
    rfl

theorem isPlain_of_isWordChar (h : isWordChar c) : isPlain c := by
  refine Bool.not_eq_true' _ ▸ Bool.eq_false_iff.2 fun hspecial => ?_
  simp only [isQuote, isTagQuote, Bool.or_eq_true, beq_iff_eq] at hspecial
  rcases hspecial with ((((((rfl | rfl) | rfl) | rfl) | rfl) | rfl) | rfl) | rfl <;> cases h

theorem writeRootsFrom_word {name : String} (h : Expr.IsWord name) :
    writeRootsFrom written false (name.toList ++ rest) =
      writeRootsFrom (name.toList.reverse ++ written) false rest :=
  writeRootsFrom_text (List.all_eq_true.2 fun c hc => isPlain_of_isWordChar (h.chars c hc))

/-- The escapes in a quoted text are not taken for its end. -/
theorem skipString_escaped (cs rest : List Char) :
    (skipString '\x27' (escaped cs ++ '\x27' :: rest)).1 = escaped cs ++ ['\x27'] ∧
      (skipString '\x27' (escaped cs ++ '\x27' :: rest)).2.val = rest := by
  induction cs with
  | nil => simp [escaped, skipString, Shorter.tail, Shorter.noLonger]
  | cons c cs ih =>
    by_cases hc : c = '\\' ∨ c = '\x27'
    · rw [escaped, if_pos hc]
      simpa [skipString, Shorter.cons, Shorter.noLonger, NoLonger.cons] using ih
    · obtain ⟨hslash, hquote⟩ := not_or.1 hc
      rw [escaped, if_neg hc]
      simpa [skipString, hslash, hquote, Shorter.cons, Shorter.noLonger, NoLonger.cons] using ih

theorem writeRootsFrom_quoted (s : String) :
    writeRootsFrom written false (quoted s ++ rest) =
      writeRootsFrom ((quoted s).reverse ++ written) false rest := by
  obtain ⟨htext, hmore⟩ := skipString_escaped s.toList rest
  unfold quoted
  rw [List.cons_append, List.append_assoc, List.singleton_append,
    writeRootsFrom_quote (by decide) htext hmore]
  simp

/-! ## Contexts -/

section Contexts

variable {closers : Char → Bool} {name : String} {w ds : List Char}

/-- A text, given backwards, that does not end with a character of a word. -/
def Fresh (w : List Char) : Prop := ∀ c ∈ w.head?, isWordChar c = false

theorem Fresh.takeWhile (h : Fresh w) : w.takeWhile isWordChar = [] := by
  cases w with
  | nil => rfl
  | cons c w => exact List.takeWhile_cons_of_neg (by simp [h c rfl])

@[simp] theorem expectsOperand_space :
    expectsOperand closers (' ' :: w) = expectsOperand closers w := rfl

theorem expectsOperand_sign (hc : isBlank c = false) (hword : isWordChar c = false) :
    expectsOperand closers (c :: w) = !closers c := by
  simp [expectsOperand, hc, hword]

/-- Behind a word it depends on the word. -/
theorem expectsOperand_word (h : Expr.IsWord name) (hw : Fresh w) :
    expectsOperand closers (name.toList.reverse ++ w) = operandWords.contains name := by
  have hchars : ∀ c ∈ name.toList.reverse, isWordChar c := fun c hc =>
    h.chars c (List.mem_reverse.1 hc)
  have hword : (name.toList.reverse ++ w).takeWhile isWordChar = name.toList.reverse := by
    rw [List.takeWhile_append_of_pos hchars, hw.takeWhile, List.append_nil]
  obtain ⟨c, cs, hcs⟩ := List.exists_cons_of_ne_nil (mt List.reverse_eq_nil_iff.1 h.ne_nil)
  have hc : isWordChar c := hchars c (hcs ▸ List.mem_cons_self ..)
  rw [hcs, List.cons_append] at hword ⊢
  unfold expectsOperand
  rw [List.dropWhile_cons_of_neg (by simp [isBlank_eq_false_of_isWordChar hc])]
  simp only [hc, if_true, lastWord, hword, ← hcs, List.reverse_reverse, String.ofList_toList]

/-- A text, given backwards, that ends with an operand. -/
def Ended (w : List Char) : Prop := expectsOperand endsOperand w = false

theorem Ended.regexAllowed (h : Ended w) : regexAllowed w = false := h

theorem Ended.startsPath (h : Ended w) : startsPath w = false := by
  refine Bool.and_eq_false_imp.2 fun _ => ?_
  unfold Ended expectsOperand at h
  unfold expectsOperand
  cases htrimmed : w.dropWhile isBlank with
  | nil => simp [htrimmed] at h
  | cons c cs =>
    rw [htrimmed] at h
    dsimp only at h ⊢
    split at h
    · next hc => rwa [if_pos hc]
    · next hc => simp_all

theorem Ended.space (h : Ended w) : Ended (' ' :: w) := h

theorem ended_sign (hc : endsOperand c) : Ended (c :: w) := by
  have hsign : isBlank c = false ∧ isWordChar c = false := by
    simp only [endsOperand, isQuote, isTagQuote, Bool.or_eq_true, beq_iff_eq] at hc
    rcases hc with ((rfl | rfl) | rfl) | ((rfl | rfl) | rfl) <;> decide
  rw [Ended, expectsOperand_sign hsign.1 hsign.2, hc]
  rfl

theorem ended_name (h : Expr.IsWord name) (hends : name ∉ operandWords) (hw : Fresh w) :
    Ended (name.toList.reverse ++ w) := by
  rw [Ended, expectsOperand_word h hw]
  simpa using hends

/-- A text, given backwards, behind which an operand is expected and a path may start. -/
structure Expecting (w : List Char) : Prop where
  /-- A dot would start a path. -/
  startsPath : startsPath w = true
  /-- A word would not go on. -/
  fresh : Fresh w

theorem expecting_nil : Expecting [] := ⟨rfl, nofun⟩

/-- A sign that asks for an operand. -/
def asks (c : Char) : Bool := !(isBlank c || isWordChar c || endsOperand c || c == '.')

theorem expecting_sign (hc : asks c) : Expecting (' ' :: c :: w) := by
  simp only [asks, Bool.not_eq_true', Bool.or_eq_false_iff] at hc
  obtain ⟨⟨⟨hblank, hword⟩, hends⟩, hdot⟩ := hc
  refine ⟨?_, fun d hd => Option.mem_some.1 hd ▸ by decide⟩
  simp [RootPath.startsPath, expectsOperand_sign hblank hword, hends, hdot]

theorem expecting_word (h : Expr.IsWord name) (hasks : name ∈ operandWords) (hw : Fresh w) :
    Expecting (' ' :: (name.toList.reverse ++ w)) := by
  refine ⟨?_, fun d hd => Option.mem_some.1 hd ▸ by decide⟩
  simpa [RootPath.startsPath, expectsOperand_word h hw] using hasks

end Contexts

/-! ## Lexemes -/

/-- The pass takes a text with `rest` behind it to `out`. -/
def Takes (written text out rest : List Char) : Prop :=
  writeRootsFrom written false (text ++ rest) = writeRootsFrom (out.reverse ++ written) false rest

section Takes

variable {w out more mout rest : List Char} {name : String}

theorem Takes.nil : Takes w [] [] rest := rfl

theorem Takes.append (h : Takes w text out (more ++ rest))
    (hmore : Takes (out.reverse ++ w) more mout rest) :
    Takes w (text ++ more) (out ++ mout) rest := by
  unfold Takes at *
  rw [List.append_assoc, h, hmore, List.reverse_append, List.append_assoc]

/-- A character that is written as it is. -/
theorem Takes.copied (hc : writeRootsFrom w false (c :: (text ++ rest)) =
    writeRootsFrom (c :: w) false (text ++ rest)) (h : Takes (c :: w) text out rest) :
    Takes w (c :: text) (c :: out) rest := by
  unfold Takes at *
  rw [List.cons_append, hc, h, List.reverse_cons, List.append_assoc]
  rfl

theorem Takes.cons (hc : isPlain c) (h : Takes (c :: w) text out rest) :
    Takes w (c :: text) (c :: out) rest :=
  h.copied (writeRootsFrom_plain hc)

theorem Takes.bracket (hc : c = '[' ∨ c = '\x7b' ∨ c = '\x7d')
    (hnext : (text ++ rest).head? ≠ some c) (h : Takes (c :: w) text out rest) :
    Takes w (c :: text) (c :: out) rest :=
  h.copied (writeRootsFrom_bracket hc hnext)

/-- A slash behind an operand starts no regular expression. -/
theorem Takes.slash (hw : Ended w) (h : Takes ('/' :: w) text out rest) :
    Takes w ('/' :: text) ('/' :: out) rest :=
  h.copied (writeRootsFrom_slash hw.regexAllowed)

/-- A dot behind an operand starts no path. -/
theorem Takes.dot (hw : wordFollows (text ++ rest) = false ∨ startsPath w = false)
    (h : Takes ('.' :: w) text out rest) :
    Takes w ('.' :: text) ('.' :: out) rest :=
  h.copied (writeRootsFrom_dot hw)

theorem takes_plain (h : text.all isPlain) : Takes w text text rest := writeRootsFrom_text h

theorem takes_word (h : Expr.IsWord name) : Takes w name.toList name.toList rest :=
  writeRootsFrom_word h

theorem takes_quoted (s : String) : Takes w (quoted s) (quoted s) rest := writeRootsFrom_quoted s

theorem isWordChar_of_isNumberChar (h : isNumberChar c) (hdot : c ≠ '.') : isWordChar c := by
  simp only [isNumberChar, Bool.or_eq_true, beq_iff_eq, hdot, or_false] at h
  rcases h with ((h | rfl) | rfl) | rfl
  · have hsmall : c.toNat < 128 := by
      simp only [isAsciiDigit, Bool.and_eq_true, decide_eq_true_eq] at h
      omega
    simp [isWordChar, isAlphanumeric, isNumeric, hsmall, h]
  · decide
  · decide
  · decide

/-- The start of a number does not end with a word after which an operand is expected. -/
theorem startsPath_number {ds : List Char} (hds : ∀ d ∈ ds, isNumberChar d) (hne : ds ≠ [])
    (hw : Fresh w) : startsPath (ds ++ w) = false := by
  have hlast : ∀ c ∈ (ds ++ w).takeWhile isWordChar, isNumberChar c := by
    intro c hc
    rw [List.takeWhile_append, hw.takeWhile] at hc
    split at hc
    · exact hds c (by simpa using hc)
    · exact hds c ((List.takeWhile_prefix _).subset hc)
  have hnone : operandWords.contains (lastWord (ds ++ w)) = false := by
    -- Each of these words has a character that no number has.
    have hwords : operandWords.all (fun word => word.toList.any (!isNumberChar ·)) = true := by
      decide
    refine Bool.eq_false_iff.2 fun hcontains => ?_
    have hany := List.all_eq_true.1 hwords _ (List.contains_iff_mem.1 hcontains)
    obtain ⟨c, hc, hnot⟩ := List.any_eq_true.1 hany
    rw [lastWord, String.toList_ofList, List.mem_reverse] at hc
    simp [hlast c hc] at hnot
  obtain ⟨d, ds, rfl⟩ := List.exists_cons_of_ne_nil hne
  rw [List.cons_append] at hnone ⊢
  refine Bool.and_eq_false_imp.2 fun _ => ?_
  by_cases hdot : d = '.'
  · subst hdot
    rfl
  · have hd : isWordChar d := isWordChar_of_isNumberChar (hds d (List.mem_cons_self ..)) hdot
    unfold expectsOperand
    rw [List.dropWhile_cons_of_neg (by simp [isBlank_eq_false_of_isWordChar hd])]
    exact (if_pos hd).trans hnone

/-- The digits of a number, behind those in `front`. -/
theorem takes_number {ds front : List Char} (hds : ∀ d ∈ ds, isNumberChar d)
    (hfront : ∀ d ∈ front, isNumberChar d) (hne : front ≠ []) (hw : Fresh w) :
    Takes (front ++ w) ds ds rest := by
  induction ds generalizing front with
  | nil => exact Takes.nil
  | cons d ds ih =>
    have hd := hds d (List.mem_cons_self ..)
    have hlater : Takes (d :: front ++ w) ds ds rest :=
      ih (fun c hc => hds c (List.mem_cons_of_mem d hc)) (List.forall_mem_cons.2 ⟨hd, hfront⟩)
        (List.cons_ne_nil d front)
    by_cases hdot : d = '.'
    · subst hdot
      exact hlater.dot (.inr (startsPath_number hfront hne hw))
    · exact hlater.cons (isPlain_of_isWordChar (isWordChar_of_isNumberChar hd hdot))

/-- The dot of an optional link has no word behind it. -/
theorem takes_optional : Takes w " ?. ".toList " ?. ".toList rest :=
  .cons (by decide) (.cons (by decide) (.dot (.inl rfl) (.cons (by decide) .nil)))

theorem takes_link (optional : Bool) :
    Takes w (Expr.linkText optional) (Expr.linkText optional) rest := by
  cases optional with
  | true => exact takes_optional
  | false => exact takes_plain rfl

theorem takes_gap {α : Type} (later : List α) :
    Takes w (Expr.gap later) (Expr.gap later) rest := by
  cases later with
  | nil => exact takes_plain rfl
  | cons e later => exact takes_plain rfl

/-- The sign of an operator behind an operand. -/
theorem takes_operator (op : Operator) (hw : Ended w) :
    Takes w op.text.toList op.text.toList rest := by
  cases op with
  | binary op =>
    cases op with
    | div => exact .slash hw .nil
    | _ => exact takes_plain rfl
  | logical op => cases op <;> exact takes_plain rfl

theorem expecting_operator (op : Operator) : Expecting (' ' :: (op.text.toList.reverse ++ w)) := by
  rcases op with op | op <;> cases op <;> exact expecting_sign rfl

theorem expecting_unary (op : UnaryOp) (hw : Fresh w) :
    Expecting (' ' :: (op.text.toList.reverse ++ w)) := by
  cases op with
  | typeOf => exact expecting_word (.of_text rfl) (by decide) hw
  | _ => exact expecting_sign rfl

theorem expecting_await (hw : Fresh w) : Expecting (' ' :: ("await".toList.reverse ++ w)) :=
  expecting_word (.of_text rfl) (by decide) hw

end Takes

/-! ## Expressions -/

section Expressions

open TemplateEngine.Expr

variable {digits : Float → List Char} {e left right holder : Expr} {w rest more mout : List Char}
  {name : String} {c : Char}

/-- Where an operand is expected, the pass writes the roots of an expression, and a chain ends as an
operand. -/
structure Rooted (digits : Float → List Char) (e : Expr) : Prop where
  /-- The roots are written. A closing brace at the end has no other one behind it. -/
  takes {w rest : List Char} : Expecting w → rest.head? ≠ some '\x7d' →
    Takes w (e.spell digits []) (e.spell digits ['$']) rest
  /-- A chain ends as an operand. -/
  ended {w : List Char} : e.isChain → Expecting w → Ended ((e.spell digits ['$']).reverse ++ w)

theorem Rooted.wrapped (h : Rooted digits e) (hw : Expecting w)
    (hrest : rest.head? ≠ some '\x7d') :
    Takes w (wrapped e (e.spell digits [])) (wrapped e (e.spell digits ['$'])) rest := by
  unfold Expr.wrapped
  by_cases hchain : e.isChain
  · rw [if_pos hchain, if_pos hchain]
    exact h.takes hw hrest
  · rw [if_neg hchain, if_neg hchain]
    have hinner := h.takes (expecting_sign (w := w) (c := '(') rfl)
      (by simp : ([' ', ')'] ++ rest).head? ≠ some '\x7d')
    exact .cons (by decide) (.cons (by decide) (hinner.append (takes_plain rfl)))

theorem Rooted.ended_wrapped (h : Rooted digits e) (hw : Expecting w) :
    Ended ((Expr.wrapped e (e.spell digits ['$'])).reverse ++ w) := by
  unfold Expr.wrapped
  by_cases hchain : e.isChain
  · rw [if_pos hchain]
    exact h.ended hchain hw
  · rw [if_neg hchain, List.reverse_cons, List.reverse_cons, List.reverse_append]
    exact ended_sign rfl

/-- An operation with two operands. -/
theorem takes_operation (op : Operator) (hleft : Rooted digits left) (hright : Rooted digits right)
    (hw : Expecting w) (hrest : rest.head? ≠ some '\x7d') :
    Takes w
      (wrapped left (left.spell digits []) ++ ' ' ::
        (op.text.toList ++ ' ' :: wrapped right (right.spell digits [])))
      (wrapped left (left.spell digits ['$']) ++ ' ' ::
        (op.text.toList ++ ' ' :: wrapped right (right.spell digits ['$']))) rest := by
  refine (hleft.wrapped hw (by simp)).append (.cons (by decide) ?_)
  refine (takes_operator op (hleft.ended_wrapped hw).space).append (.cons (by decide) ?_)
  exact hright.wrapped (expecting_operator op) hrest

/-- A sign between two operands that is not a slash. -/
theorem Rooted.signed (h : Rooted digits e) (hc : isPlain c) (hw : Expecting w) :
    Takes w (Expr.wrapped e (e.spell digits []) ++ [' ', c, ' '])
      (Expr.wrapped e (e.spell digits ['$']) ++ [' ', c, ' ']) rest := by
  exact (h.wrapped hw (by simp)).append (.cons (by decide) (.cons hc (.cons (by decide) .nil)))

theorem expecting_signed (hc : asks c) : Expecting ((more ++ [' ', c, ' ']).reverse ++ w) := by
  rw [List.reverse_append]
  exact expecting_sign hc

/-- A name behind a dot or a blank. -/
theorem ended_member (h : Expr.IsName name) (hc : isWordChar c = false) :
    Ended (name.toList.reverse ++ c :: w) :=
  ended_name h.word h.ends fun _ hd => Option.mem_some.1 hd ▸ hc

theorem wordFollows_word (h : Expr.IsWord name) : wordFollows (name.toList ++ rest) = true := by
  obtain ⟨d, ds, hname, hd, -⟩ := h
  rw [hname]
  exact hd

/-- A path at the root. -/
theorem takes_path (hname : Expr.IsWord name) (hw : Expecting w) :
    Takes w ('.' :: name.toList) ('$' :: '.' :: name.toList) rest := by
  refine (writeRootsFrom_path hw.startsPath (wordFollows_word hname)).trans ?_
  exact (writeRootsFrom_word hname).trans (by simp)

theorem rooted_member (h : Rooted digits holder) (hname : Expr.IsName name) (optional : Bool) :
    Rooted digits (.member holder name optional) where
  takes {w rest} hw hrest := by
    cases optional with
    | true =>
      rw [spell_member_optional, spell_member_optional]
      exact ((h.wrapped hw (by simp)).append takes_optional).append (takes_word hname.word)
    | false =>
      rw [spell_member, spell_member]
      by_cases hroot : holder.isRoot
      · -- The root is not spelled, and this is the one place where it is written.
        rw [if_pos hroot, if_pos hroot]
        exact takes_path hname.word hw
      · rw [if_neg hroot, if_neg hroot]
        exact (h.wrapped hw (by simp)).append
          (.dot (.inr (h.ended_wrapped hw).startsPath) (takes_word hname.word))
  ended {w} _ hw := by
    cases optional with
    | true =>
      rw [spell_member_optional, List.reverse_append, List.reverse_append, List.append_assoc]
      exact ended_member hname (by decide : isWordChar ' ' = false)
    | false =>
      rw [spell_member, List.reverse_append, List.reverse_cons, List.append_assoc,
        List.append_assoc]
      exact ended_member hname (by decide : isWordChar '.' = false)

/-- A bracket behind an object or a callee. -/
theorem Rooted.linked (h : Rooted digits e) (optional : Bool) (hw : Expecting w) :
    Takes w (Expr.wrapped e (e.spell digits []) ++ linkText optional)
      (Expr.wrapped e (e.spell digits ['$']) ++ linkText optional) rest := by
  refine (h.wrapped hw ?_).append (takes_link optional)
  cases optional <;> simp [linkText]

theorem takes_entry (key : String) (h : Rooted digits e) (hrest : rest.head? ≠ some '\x7d') :
    Takes w (quoted key ++ " : ".toList ++ e.spell digits [])
      (quoted key ++ " : ".toList ++ e.spell digits ['$']) rest :=
  ((takes_quoted key).append (takes_plain rfl)).append (h.takes (expecting_signed rfl) hrest)

mutual

theorem rooted : (e : Expr) → Spellable digits e → Rooted digits e
  | .number x, h => by
    obtain ⟨⟨c, ds, hdigits, hc, hds⟩, -⟩ := h
    have hnumber : isNumberChar c := by simp [isNumberChar, hc]
    have hdot : c ≠ '.' := by rintro rfl; cases hc
    refine ⟨fun {w _} hw _ => ?_, nofun⟩
    rw [spell_number, spell_number, hdigits]
    have hlater : ∀ rest, Takes ([c] ++ w) ds ds rest := fun _ =>
      takes_number hds (List.forall_mem_singleton.2 hnumber) (List.cons_ne_nil c []) hw.fresh
    exact (hlater _).cons (isPlain_of_isWordChar (isWordChar_of_isNumberChar hnumber hdot))
  | .string s, _ => ⟨fun _ _ => takes_quoted s, nofun⟩
  | .bool b, _ => ⟨fun _ _ => by cases b <;> exact takes_plain rfl, nofun⟩
  | .null, _ => ⟨fun _ _ => takes_plain rfl, nofun⟩
  | .undefined, _ => ⟨fun _ _ => takes_plain rfl, nofun⟩
  | .root, _ => ⟨fun _ _ => takes_plain rfl, fun _ hw =>
      ended_name (.of_text rfl) (by decide : "$" ∉ operandWords) hw.fresh⟩
  | .ident name, h => ⟨fun _ _ => takes_word h.1.word, fun _ hw =>
      ended_name h.1.word h.1.ends hw.fresh⟩
  | .array items, h => ⟨fun _ _ =>
      .bracket (.inl rfl) (by simp) (.cons (by decide)
        ((rootedItems items h (expecting_sign rfl)).append (takes_plain rfl))), nofun⟩
  | .object entries, h => ⟨fun _ hrest =>
      .bracket (.inr (.inl rfl)) (by simp) (.cons (by decide)
        ((rootedEntries entries h (expecting_sign rfl)).append
          (.bracket (.inr (.inr rfl)) hrest .nil))), nofun⟩
  | .member holder name optional, h => rooted_member (rooted holder h.1) h.2 optional
  | .index holder key optional, h => by
    refine ⟨fun hw _ => ((rooted holder h.1).linked optional hw).append ?_, fun _ _ => ?_⟩
    · exact .bracket (.inl rfl) (by simp) (.cons (by decide)
        (((rooted key h.2).takes (expecting_sign rfl) (by simp)).append (takes_plain rfl)))
    · simp only [spell_index, List.reverse_append, List.reverse_cons, List.append_assoc]
      exact ended_sign rfl
  | .call callee args optional, h => by
    refine ⟨fun hw _ => ((rooted callee h.1).linked optional hw).append ?_, fun _ _ => ?_⟩
    · exact .cons (by decide) (.cons (by decide)
        ((rootedItems args h.2 (expecting_sign rfl)).append (takes_plain rfl)))
    · simp only [spell_call, List.reverse_append, List.reverse_cons, List.append_assoc]
      exact ended_sign rfl
  | .unary op operand, h => ⟨fun hw hrest =>
      (takes_plain (by cases op <;> rfl)).append (.cons (by decide)
        ((rooted operand h).wrapped (expecting_unary op hw.fresh) hrest)), nofun⟩
  | .await operand, h => ⟨fun hw hrest =>
      (takes_plain rfl).append (.cons (by decide)
        ((rooted operand h).wrapped (expecting_await hw.fresh) hrest)), nofun⟩
  | .binary op left right, h =>
    ⟨takes_operation (.binary op) (rooted left h.1) (rooted right h.2), nofun⟩
  | .logical op left right, h =>
    ⟨takes_operation (.logical op) (rooted left h.1) (rooted right h.2), nofun⟩
  | .conditional test consequent alternate, h => by
    refine ⟨fun {_ rest} hw hrest => ?_, nofun⟩
    have hlast : ∀ {w}, Expecting w → Takes w _ _ rest := fun hw =>
      (rooted alternate h.2.2).wrapped hw hrest
    have hwhole := ((rooted test h.1).signed (c := '?') (by decide) hw).append
      (((rooted consequent h.2.1).signed (c := ':') (by decide) (expecting_signed rfl)).append
        (hlast (expecting_signed rfl)))
    simpa [spell_conditional] using hwhole
  | .assign target value, h => ⟨fun hw hrest =>
      ((rooted target h.2.1).signed (c := '=') (by decide) hw).append
        ((rooted value h.2.2).wrapped (expecting_signed rfl) hrest), nofun⟩

theorem rootedItems : (items : List Expr) → AllSpellable digits items →
    ∀ {w rest : List Char}, Expecting w →
      Takes w (spellItems digits [] items) (spellItems digits ['$'] items) rest
  | [], _, _, _, _ => .nil
  | [e], h, _, _, hw =>
    (((rooted e h.1).takes hw (by simp [gap])).append (takes_gap [])).append .nil
  | e :: next :: later, h, _, _, hw =>
    (((rooted e h.1).takes hw (by simp [gap])).append (takes_gap (next :: later))).append
      (rootedItems (next :: later) h.2 (expecting_signed rfl))

theorem rootedEntries : (entries : List (String × Expr)) → EntriesSpellable digits entries →
    ∀ {w rest : List Char}, Expecting w →
      Takes w (spellEntries digits [] entries) (spellEntries digits ['$'] entries) rest
  | [], _, _, _, _ => .nil
  | [(key, e)], h, _, _, hw =>
    ((takes_entry key (rooted e h.1) (by simp [gap])).append (takes_gap [])).append .nil
  | (key, e) :: next :: later, h, _, _, hw =>
    ((takes_entry key (rooted e h.1) (by simp [gap])).append (takes_gap (next :: later))).append
      (rootedEntries (next :: later) h.2 (expecting_signed rfl))

end

/-- Writing the roots into the spelling of an expression puts them in front of its paths. -/
theorem writeRoots_spell (h : Spellable digits e) :
    writeRoots (String.ofList (e.spell digits [])) = String.ofList (e.spell digits ['$']) := by
  have hpass : Takes [] _ _ [] := (rooted e h).takes expecting_nil nofun
  unfold Takes at hpass
  rw [List.append_nil, List.append_nil] at hpass
  rw [writeRoots, writeRootsChars, String.toList_ofList, hpass, writeRootsFrom,
    List.reverse_reverse]

end Expressions

end RootPath

end TemplateEngine
