import TemplateEngine.Proofs.Template.Partition

/-!
# `Template` · Expressions between literals

A text whose braces and quotes are closed can be put into a template as an expression, and is cut
out of it again.

* **`Balanced`**: the scan for the closing brace passes the text, however many braces are open.
  Texts without braces and quotes are balanced, quoted ones, balanced ones in braces, and balanced
  ones in a row (`Nests.balanced`).
* **`literal_append`**: no opener reaches from a literal into the next one.
* **`partsFrom_embedded`**: the parts of a literal and an expression, in front of others.
-/

namespace TemplateEngine.Template

open TemplateEngine.Text

variable {c : Char} {cs text more front behind inner after : List Char} {depth : Nat}

/-! ## Balanced texts -/

/-- The scan for the closing brace takes `inner` and leaves `after`. -/
def Closes (depth : Nat) (cs inner after : List Char) : Prop :=
  ∃ left, braced depth cs = .ok (inner, left) ∧ left.val = after

/-- The scan for the closing brace passes the text. -/
def Balanced (text : List Char) : Prop :=
  ∀ (depth : Nat) (rest inner after : List Char), 0 < depth → Closes depth rest inner after →
    Closes depth (text ++ rest) (text ++ inner) after

theorem closes_end : Closes 1 ('\x7d' :: cs) ['\x7d'] cs := by
  refine ⟨.tail _ cs, ?_, rfl⟩
  rw [braced, if_neg (by decide), if_pos ⟨rfl, Nat.le_refl 1⟩]

theorem Closes.opening (h : Closes (depth + 1) cs inner after) :
    Closes depth ('\x7b' :: cs) ('\x7b' :: inner) after := by
  obtain ⟨left, hcs, hleft⟩ := h
  refine ⟨left.cons, ?_, hleft⟩
  rw [braced, if_neg (by decide), if_neg (by simp)]
  simp only [if_true, hcs]
  rfl

theorem Closes.closing (hdepth : 0 < depth) (h : Closes depth cs inner after) :
    Closes (depth + 1) ('\x7d' :: cs) ('\x7d' :: inner) after := by
  obtain ⟨left, hcs, hleft⟩ := h
  refine ⟨left.cons, ?_, hleft⟩
  rw [braced, if_neg (by decide), if_neg (by omega)]
  simp [hcs, Except.map]

theorem Closes.quoted {quote : Char} {within : List Char} {rest : Shorter cs}
    (hquote : isQuote quote) (hwithin : quoted? quote cs = some (within, rest))
    (h : Closes depth rest.val inner after) : Closes depth (quote :: cs) (quote :: (within ++ inner)) after := by
  obtain ⟨left, hcs, hleft⟩ := h
  obtain ⟨rest, hrest⟩ := rest
  refine ⟨(Shorter.trans ⟨rest, hrest⟩ left).cons, ?_, hleft⟩
  rw [braced, if_pos hquote]
  simp only [hwithin, hcs]
  rfl

/-- A character that is neither a brace nor a quote. -/
def isBare (c : Char) : Bool := !(isQuote c || c == '\x7b' || c == '\x7d')

theorem Closes.bare (hc : isBare c) (h : Closes depth cs inner after) :
    Closes depth (c :: cs) (c :: inner) after := by
  simp only [isBare, Bool.not_eq_true', Bool.or_eq_false_iff, beq_eq_false_iff_ne, ne_eq] at hc
  obtain ⟨⟨hquote, hopen⟩, hclose⟩ := hc
  obtain ⟨left, hcs, hleft⟩ := h
  refine ⟨left.cons, ?_, hleft⟩
  rw [braced, if_neg (by simp [hquote]), if_neg fun h => hclose h.1]
  simp [hopen, hclose, hcs, Except.map]

theorem Balanced.nil : Balanced [] := fun _ _ _ _ _ h => h

theorem Balanced.append (h : Balanced text) (hmore : Balanced more) : Balanced (text ++ more) := by
  intro depth rest inner after hdepth hrest
  rw [List.append_assoc, List.append_assoc]
  exact h _ _ _ _ hdepth (hmore _ _ _ _ hdepth hrest)

theorem Balanced.cons (hc : isBare c) (h : Balanced text) : Balanced (c :: text) :=
  fun _ _ _ _ hdepth hrest => (h _ _ _ _ hdepth hrest).bare hc

theorem balanced_bare (h : text.all isBare) : Balanced text := by
  induction text with
  | nil => exact .nil
  | cons c text ih =>
    obtain ⟨hc, htext⟩ := Bool.and_eq_true_iff.1 (List.all_cons ▸ h)
    exact (ih htext).cons hc

theorem Balanced.braces (h : Balanced text) : Balanced ('\x7b' :: (text ++ ['\x7d'])) := by
  intro depth rest inner after hdepth hrest
  have hclosed := h _ _ _ _ (Nat.succ_pos depth) (hrest.closing hdepth)
  simpa using hclosed.opening

/-- A quoted text without backslashes ends at its quote. -/
theorem quoted?_plain {quote : Char} {within : List Char} (hquote : quote ≠ '\\')
    (hslash : '\\' ∉ within) (hfree : quote ∉ within) (rest : List Char) :
    ∃ left, quoted? quote (within ++ quote :: rest) = some (within ++ [quote], left) ∧
      left.val = rest := by
  induction within with
  | nil =>
    refine ⟨.tail _ rest, ?_, rfl⟩
    show quoted? quote (quote :: rest) = _
    rw [quoted?, if_pos rfl]
    all_goals simp [hquote]
  | cons c within ih =>
    rw [List.mem_cons, not_or] at hslash hfree
    obtain ⟨left, hleft, hval⟩ := ih hslash.2 hfree.2
    refine ⟨left.cons, ?_, hval⟩
    show quoted? quote (c :: (within ++ quote :: rest)) = _
    rw [quoted?, if_neg (Ne.symm hfree.1), hleft]
    · rfl
    all_goals simp [Ne.symm hslash.1]

theorem Balanced.quoted {quote : Char} {within : List Char} (hquote : isQuote quote)
    (hslash : '\\' ∉ within) (hfree : quote ∉ within) :
    Balanced (quote :: (within ++ [quote])) := by
  intro depth rest inner after _ hrest
  obtain ⟨left, hleft, hval⟩ := quoted?_plain (ne_backslash_of_isQuote hquote) hslash hfree rest
  rw [← hval] at hrest
  simpa using hrest.quoted hquote hleft

/-- Texts whose quotes and braces are closed, where no backslash counts. -/
inductive Nests : List Char → Prop where
  /-- Nothing. -/
  | nil : Nests []
  /-- A character that is neither a brace nor a quote. -/
  | bare {c : Char} {cs : List Char} (hc : isBare c) (h : Nests cs) : Nests (c :: cs)
  /-- A text in quotes. -/
  | quoted {quote : Char} {within cs : List Char} (hquote : isQuote quote) (hfree : quote ∉ within)
      (h : Nests cs) : Nests (quote :: (within ++ quote :: cs))
  /-- A text in braces. -/
  | braces {within cs : List Char} (hwithin : Nests within) (h : Nests cs) :
      Nests ('\x7b' :: (within ++ '\x7d' :: cs))

theorem Nests.bare_append (htext : text.all isBare) (h : Nests cs) : Nests (text ++ cs) := by
  induction text with
  | nil => exact h
  | cons c text ih =>
    obtain ⟨hc, htext⟩ := Bool.and_eq_true_iff.1 (List.all_cons ▸ htext)
    exact .bare hc (ih htext)

/-- Without backslashes such a text is balanced. -/
theorem Nests.balanced (h : Nests cs) (hslash : '\\' ∉ cs) : Balanced cs := by
  induction h with
  | nil => exact .nil
  | bare hc _ ih => exact (ih fun hmem => hslash (List.mem_cons_of_mem _ hmem)).cons hc
  | @quoted quote within cs hquote hfree _ ih =>
    have hquoted : Balanced (quote :: (within ++ [quote])) :=
      .quoted hquote (fun hmem => hslash (by simp [hmem])) hfree
    simpa using hquoted.append (ih fun hmem => hslash (by simp [hmem]))
  | @braces within cs _ _ ihwithin ih =>
    have hbraces := (ihwithin fun hmem => hslash (by simp [hmem])).braces
    simpa using hbraces.append (ih fun hmem => hslash (by simp [hmem]))

/-- A balanced text in the braces of an expression. -/
theorem Balanced.isExpression (h : Balanced text) :
    IsExpression (['$', '\x7b'] ++ text ++ ['\x7d']) := by
  have hend : Closes 1 ['\x7d'] ['\x7d'] [] := closes_end
  obtain ⟨left, hbraced, -⟩ := h 1 _ _ _ Nat.one_pos hend
  have hexpression := isExpression_of_braced hbraced
  rwa [Kind.opening, ← List.append_assoc] at hexpression

/-! ## Parts -/

/-- What starts in front of a seam ends there, if nothing that it ends with goes on behind it. -/
theorem prefix_of_append {opening : List Char} (hfront : front ≠ [])
    (h : opening <+: front ++ more)
    (hseam : ∀ before after, before ++ after = opening → before ≠ [] → after ≠ [] →
      ¬after <+: more) : opening <+: front := by
  rcases prefix_append_cases h with h | ⟨after, rfl, hafter⟩
  · exact h
  · by_cases hend : after = []
    · simp [hend]
    · exact absurd hafter (hseam front after rfl hfront hend)

/-- An opener starts with a dollar sign and a brace, or with an angle bracket. -/
theorem Opens.starts {kind : Kind} (h : Opens kind cs) :
    (∃ rest, cs = '$' :: '\x7b' :: rest) ∨ ∃ rest, cs = '<' :: rest := by
  cases kind with
  | literal => exact h.elim
  | expression =>
    obtain ⟨rest, rfl⟩ := h
    exact .inl ⟨rest, rfl⟩
  | openTag =>
    obtain ⟨c, -, rest, rfl⟩ := h
    exact .inr ⟨_, rfl⟩
  | closeTag =>
    obtain ⟨c, -, rest, rfl⟩ := h
    exact .inr ⟨_, rfl⟩

/-- An opener in front of another one ends there. -/
theorem Opens.of_append {kind other : Kind} (hfront : front ≠ []) (hmore : Opens other more)
    (h : Opens kind (front ++ more)) : Opens kind front := by
  cases kind with
  | literal => exact h
  | expression =>
    refine prefix_of_append hfront h fun before after heq hbefore hafter => ?_
    rcases hmore.starts with ⟨rest, rfl⟩ | ⟨rest, rfl⟩ <;>
      rcases before with _ | ⟨a, _ | ⟨b, before⟩⟩ <;> simp_all
  | openTag =>
    obtain ⟨c, hc, hstarts⟩ := h
    have hother : c ≠ '$' ∧ c ≠ '<' := by
      constructor <;> (rintro rfl; cases hc)
    refine ⟨c, hc, prefix_of_append hfront hstarts fun before after heq hbefore hafter => ?_⟩
    rcases hmore.starts with ⟨rest, rfl⟩ | ⟨rest, rfl⟩ <;>
      rcases before with _ | ⟨a, _ | ⟨b, _ | ⟨d, _ | ⟨f, before⟩⟩⟩⟩ <;> simp_all
  | closeTag =>
    obtain ⟨c, hc, hstarts⟩ := h
    have hother : c ≠ '$' ∧ c ≠ '<' := by
      constructor <;> (rintro rfl; cases hc)
    refine ⟨c, hc, prefix_of_append hfront hstarts fun before after heq hbefore hafter => ?_⟩
    rcases hmore.starts with ⟨rest, rfl⟩ | ⟨rest, rfl⟩ <;>
      rcases before with _ | ⟨a, _ | ⟨b, _ | ⟨d, _ | ⟨f, _ | ⟨g, before⟩⟩⟩⟩⟩ <;> simp_all

/-- A literal reaches up to the next opener. -/
theorem literal_append {kind : Kind} (h : IsLiteral front) (hmore : Opens kind more) :
    ∃ left, literal (front ++ more) = (front, left) ∧ left.val = more := by
  induction front with
  | nil =>
    cases more with
    | nil => exact absurd (isSome_opener? hmore) (by simp [opener?])
    | cons c more => exact ⟨.all _, if_pos (isSome_opener? hmore), rfl⟩
  | cons c front ih =>
    have hlater : IsLiteral front := fun before after kind heq =>
      h (c :: before) after kind (congrArg (c :: ·) heq)
    obtain ⟨left, hleft, hval⟩ := ih hlater
    have hnone : (opener? (c :: (front ++ more))).isSome = false := by
      refine Bool.eq_false_iff.2 fun hsome => ?_
      obtain ⟨⟨other, opener, rest⟩, hopener⟩ := Option.isSome_iff_exists.1 hsome
      have hopens := (opens_of_opener? hopener).1
      exact h [] (c :: front) other rfl (Opens.of_append (List.cons_ne_nil c front) hmore hopens)
    have hcons : literal (c :: (front ++ more)) = (c :: front, left.cons.noLonger) := by
      rw [literal, if_neg (by simp [hnone]), hleft]
    exact ⟨left.cons.noLonger, hcons, hval⟩

/-- A literal is one part. -/
theorem partsFrom_literal (h : IsLiteral cs) (offset : Nat) :
    partsFrom offset cs = .ok [⟨.literal, cs⟩] := by
  obtain ⟨hsplit, -, hend⟩ := literal_spec cs
  have hrest : (literal cs).2.val = [] := by
    rcases hend with hend | hend
    · exact hend
    · obtain ⟨⟨kind, opener, rest⟩, hopener⟩ := Option.isSome_iff_exists.1 hend
      exact absurd (opens_of_opener? hopener).1 (h _ _ kind hsplit)
  have htext : (literal cs).1 = cs := by simpa [hrest] using hsplit.symm
  have hnone : opener? (literal cs).2.val = none := by rw [hrest]; rfl
  rw [partsFrom_eq_literal rfl hnone, htext]

/-- An expression behind a literal, in front of more parts. -/
theorem partsFrom_embedded (hfront : IsLiteral front) (htext : Balanced text)
    (offset : Nat) (behind : List Char) :
    ∃ next, partsFrom offset (front ++ '$' :: '\x7b' :: (text ++ '\x7d' :: behind)) =
      (partsFrom next behind).map fun later =>
        ⟨.literal, front⟩ :: ⟨.expression, '$' :: '\x7b' :: (text ++ ['\x7d'])⟩ :: later := by
  have hopens : Opens .expression ('$' :: '\x7b' :: (text ++ '\x7d' :: behind)) := ⟨_, rfl⟩
  obtain ⟨⟨_, hrest⟩, hliteral, rfl⟩ := literal_append hfront hopens
  obtain ⟨⟨_, hmore⟩, hbraced, rfl⟩ := htext 1 _ _ _ Nat.one_pos closes_end
  exact ⟨_, partsFrom_eq_token hliteral rfl hbraced⟩

/-- An expression between two literals. -/
theorem parts_embedded (hfront : IsLiteral front) (htext : Balanced text)
    (hbehind : IsLiteral behind) :
    parts (front ++ '$' :: '\x7b' :: (text ++ '\x7d' :: behind)) =
      .ok [⟨.literal, front⟩, ⟨.expression, '$' :: '\x7b' :: (text ++ ['\x7d'])⟩,
        ⟨.literal, behind⟩] := by
  obtain ⟨next, hparts⟩ := partsFrom_embedded hfront htext 0 behind
  rw [parts, hparts, partsFrom_literal hbehind]
  rfl

end TemplateEngine.Template
