import TemplateEngine.Proofs.Expr.Parsing
import TemplateEngine.Proofs.Template.Embedding
import TemplateEngine.Template.Directive

/-!
# `Expr` · Reading a spelling back

An expression that is spelled in a template is read back from it.

* **Cutting**: a spelling is balanced (`balanced_spell`), so it is cut out of the template between
  two literals as it is.
* **No directive**: a spelling starts neither with a blank nor with a number sign
  (`parse_directive_spell`).
* **`spelling_readBack`** puts these together with `RootPath.writeRoots_spell` and `parse_spell`.
-/

namespace TemplateEngine

open TemplateEngine.Text TemplateEngine.Template TemplateEngine.Lexeme

namespace Expr

variable {digits : Float → List Char} {front text more rest : List Char} {e left right : Expr}
  {c : Char} {name : String}

/-! ## Braces and quotes -/

theorem isBare_of_isPlain (h : RootPath.isPlain c) : isBare c := by
  simp only [RootPath.isPlain, Bool.not_eq_true', Bool.or_eq_false_iff] at h
  simp [isBare, h]

theorem isBare_of_isWordChar (h : isWordChar c) : isBare c :=
  isBare_of_isPlain (RootPath.isPlain_of_isWordChar h)

theorem isBare_of_isNumberChar (h : isNumberChar c) : isBare c := by
  by_cases hdot : c = '.'
  · subst hdot
    rfl
  · exact isBare_of_isWordChar (RootPath.isWordChar_of_isNumberChar h hdot)

theorem balanced_word (h : IsWord name) : Balanced name.toList :=
  balanced_bare (List.all_eq_true.2 fun c hc => isBare_of_isWordChar (h.chars c hc))

theorem balanced_digits {x : Float} (h : Writes text x) : Balanced text := by
  obtain ⟨⟨c, ds, rfl, hc, hds⟩, -⟩ := h
  refine .cons (isBare_of_isNumberChar (isNumberChar_of_isAsciiDigit hc)) ?_
  exact balanced_bare (List.all_eq_true.2 fun d hd => isBare_of_isNumberChar (hds d hd))

/-- The closing quote of a text is found. -/
theorem quoted?_escaped (cs rest : List Char) :
    ∃ left, quoted? '\x27' (escaped cs ++ '\x27' :: rest) = some (escaped cs ++ ['\x27'], left) ∧
      left.val = rest := by
  induction cs with
  | nil => exact ⟨_, rfl, rfl⟩
  | cons c cs ih =>
    obtain ⟨left, ih, hleft⟩ := ih
    by_cases hc : c = '\\' ∨ c = '\x27'
    · rw [escaped, if_pos hc]
      refine ⟨left.cons.cons, ?_, hleft⟩
      simp [quoted?, ih]
    · obtain ⟨hslash, hquote⟩ := not_or.1 hc
      rw [escaped, if_neg hc]
      refine ⟨left.cons, ?_, hleft⟩
      simp [quoted?, hslash, hquote, ih]

theorem balanced_quoted (s : String) : Balanced (quoted s) := by
  intro depth rest inner after _ hrest
  obtain ⟨left, hquoted, hleft⟩ := quoted?_escaped s.toList rest
  have hbehind : Closes depth left.val inner after := by rw [hleft]; exact hrest
  simpa [quoted] using hbehind.quoted (by decide) hquoted

theorem balanced_wrapped (h : Balanced text) : Balanced (wrapped e text) := by
  unfold wrapped
  split
  · exact h
  · exact .cons rfl (.cons rfl (h.append (balanced_bare rfl)))

theorem balanced_link (optional : Bool) : Balanced (linkText optional) := by
  cases optional <;> exact balanced_bare rfl

theorem balanced_gap {α : Type} (later : List α) : Balanced (gap later) := by
  cases later <;> exact balanced_bare rfl

theorem balanced_operation (op : Operator) (hleft : Balanced text) (hright : Balanced more) :
    Balanced (wrapped left text ++ ' ' :: (op.text.toList ++ ' ' :: wrapped right more)) := by
  have hop : op.text.toList.all isBare := by
    rcases op with op | op <;> cases op <;> rfl
  exact (balanced_wrapped hleft).append
    (.cons rfl ((balanced_bare hop).append (.cons rfl (balanced_wrapped hright))))

mutual

theorem balanced_spell (hfront : Balanced front) :
    (e : Expr) → Spellable digits e → Balanced (spell digits front e)
  | .number _, h => balanced_digits h
  | .string s, _ => balanced_quoted s
  | .bool b, _ => by cases b <;> exact balanced_bare rfl
  | .null, _ => balanced_bare rfl
  | .undefined, _ => balanced_bare rfl
  | .root, _ => balanced_bare rfl
  | .ident _, h => balanced_word h.1.word
  | .array items, h => .cons rfl (.cons rfl
      ((balanced_items hfront items h).append (balanced_bare rfl)))
  | .object entries, h => (Balanced.cons rfl (balanced_entries hfront entries h)).braces
  | .member holder name optional, h => by
    have hholder := balanced_wrapped (e := holder) (balanced_spell hfront holder h.1)
    cases optional with
    | true => exact (hholder.append (balanced_bare rfl)).append (balanced_word h.2.word)
    | false =>
      rw [spell_member]
      split
      · exact hfront.append (.cons rfl (balanced_word h.2.word))
      · exact hholder.append (.cons rfl (balanced_word h.2.word))
  | .index holder key optional, h =>
    ((balanced_wrapped (balanced_spell hfront holder h.1)).append (balanced_link optional)).append
      (.cons rfl (.cons rfl ((balanced_spell hfront key h.2).append (balanced_bare rfl))))
  | .call callee args optional, h =>
    ((balanced_wrapped (balanced_spell hfront callee h.1)).append (balanced_link optional)).append
      (.cons rfl (.cons rfl ((balanced_items hfront args h.2).append (balanced_bare rfl))))
  | .unary op operand, h =>
    (balanced_bare (by cases op <;> rfl)).append
      (.cons rfl (balanced_wrapped (balanced_spell hfront operand h)))
  | .await operand, h =>
    (balanced_bare rfl).append (.cons rfl (balanced_wrapped (balanced_spell hfront operand h)))
  | .binary op left right, h => balanced_operation (.binary op)
      (balanced_spell hfront left h.1) (balanced_spell hfront right h.2)
  | .logical op left right, h => balanced_operation (.logical op)
      (balanced_spell hfront left h.1) (balanced_spell hfront right h.2)
  | .conditional test consequent alternate, h =>
    have hchoice := ((balanced_wrapped (balanced_spell hfront test h.1)).append
      (balanced_bare rfl)).append (balanced_wrapped (balanced_spell hfront consequent h.2.1))
    (hchoice.append (balanced_bare rfl)).append
      (balanced_wrapped (balanced_spell hfront alternate h.2.2))
  | .assign target value, h =>
    ((balanced_wrapped (balanced_spell hfront target h.2.1)).append (balanced_bare rfl)).append
      (balanced_wrapped (balanced_spell hfront value h.2.2))

theorem balanced_items (hfront : Balanced front) : (items : List Expr) → AllSpellable digits items →
    Balanced (spellItems digits front items)
  | [], _ => .nil
  | e :: later, h => ((balanced_spell hfront e h.1).append (balanced_gap later)).append
      (balanced_items hfront later h.2)

theorem balanced_entries (hfront : Balanced front) : (entries : List (String × Expr)) →
    EntriesSpellable digits entries → Balanced (spellEntries digits front entries)
  | [], _ => .nil
  | (key, e) :: later, h =>
    ((((balanced_quoted key).append (balanced_bare rfl)).append
      (balanced_spell hfront e h.1)).append (balanced_gap later)).append
        (balanced_entries hfront later h.2)

end

/-! ## No directive -/

/-- A text starts neither with a blank nor with a number sign. -/
def Begins (text : List Char) : Prop := ∃ c cs, text = c :: cs ∧ isBlank c = false ∧ c ≠ '#'

theorem begins_cons (hc : isBlank c = false ∧ c ≠ '#') : Begins (c :: text) :=
  ⟨c, text, rfl, hc.1, hc.2⟩

theorem Begins.append (h : Begins text) : Begins (text ++ more) := by
  obtain ⟨c, cs, rfl, hc⟩ := h
  exact ⟨c, cs ++ more, rfl, hc⟩

theorem begins_word (h : IsWord name) : Begins name.toList := by
  obtain ⟨c, cs, hname, hc, -⟩ := h
  rw [hname]
  refine begins_cons ⟨isBlank_eq_false_of_isWordChar (isWordChar_of_isWordStart hc), ?_⟩
  rintro rfl
  cases hc

theorem begins_wrapped (h : Begins text) : Begins (wrapped e text) := by
  unfold wrapped
  split
  · exact h
  · exact begins_cons (by decide)

theorem begins_spell : (e : Expr) → Spellable digits e → Begins (spell digits [] e)
  | .number _, h => by
    obtain ⟨⟨c, ds, hdigits, hc, -⟩, -⟩ := h
    rw [spell_number, hdigits]
    refine begins_cons ⟨isBlank_eq_false_of_isWordChar (isWordChar_of_isAsciiDigit hc), ?_⟩
    rintro rfl
    cases hc
  | .string _, _ => begins_cons (by decide)
  | .bool b, _ => by cases b <;> exact begins_cons (by decide)
  | .null, _ => begins_cons (by decide)
  | .undefined, _ => begins_cons (by decide)
  | .root, _ => begins_cons (by decide)
  | .ident _, h => begins_word h.1.word
  | .array _, _ => begins_cons (by decide)
  | .object _, _ => begins_cons (by decide)
  | .member holder _ optional, h => by
    have hholder := begins_wrapped (e := holder) (begins_spell holder h.1)
    cases optional with
    | true => exact hholder.append.append
    | false =>
      rw [spell_member]
      split
      · exact begins_cons (by decide)
      · exact hholder.append
  | .index holder _ _, h => (begins_wrapped (begins_spell holder h.1)).append.append
  | .call callee _ _, h => (begins_wrapped (begins_spell callee h.1)).append.append
  | .unary op _, _ => by cases op <;> exact begins_cons (by decide)
  | .await _, _ => begins_cons (by decide)
  | .binary _ left _, h => (begins_wrapped (begins_spell left h.1)).append
  | .logical _ left _, h => (begins_wrapped (begins_spell left h.1)).append
  | .conditional test _ _, h => (begins_wrapped (begins_spell test h.1)).append.append.append.append
  | .assign target _, h => (begins_wrapped (begins_spell target h.2.1)).append.append

theorem Begins.parse_directive (h : Begins text) :
    Directive.parse (String.ofList text) = .ok none := by
  obtain ⟨c, cs, rfl, hblank, hsign⟩ := h
  unfold Directive.parse trimStart
  rw [String.toList_ofList, List.dropWhile_cons_of_neg (by simp [hblank])]
  split
  · next heq => exact absurd (List.cons.inj heq).1 hsign
  · rfl

/-! ## Reading back -/

/-- The spelling of an expression in a template. -/
def spelling (digits : Float → List Char) (e : Expr) : String := String.ofList (e.spell digits [])

/-- The token of an expression in a template. -/
def token (digits : Float → List Char) (e : Expr) (offset : Nat) : Token :=
  ⟨.expression, "$\x7b" ++ e.spelling digits ++ "\x7d", offset⟩

theorem toList_token (offset : Nat) : (e.token digits offset).text.toList =
    '$' :: '\x7b' :: (e.spell digits [] ++ ['\x7d']) := by
  simp [token, spelling]

theorem body_token (offset : Nat) : (e.token digits offset).body = e.spelling digits := by
  unfold Token.body
  rw [toList_token]
  simp [token, spelling]

/-- A spelling between two literals is cut out as one token. -/
theorem tokenize_spelling (h : Spellable digits e) {before behind : String}
    (hbefore : IsLiteral before.toList) (hbehind : IsLiteral behind.toList) :
    tokenize (before ++ "$\x7b" ++ e.spelling digits ++ "\x7d" ++ behind) =
      .ok [⟨.literal, before, 0⟩, e.token digits before.utf8ByteSize,
        ⟨.literal, behind, before.utf8ByteSize + (e.spelling digits).utf8ByteSize + 3⟩] := by
  have hsource : (before ++ "$\x7b" ++ e.spelling digits ++ "\x7d" ++ behind).toList =
      before.toList ++ '$' :: '\x7b' :: (e.spell digits [] ++ '\x7d' :: behind.toList) := by
    simp [spelling]
  have htext : '$' :: '\x7b' :: (e.spell digits [] ++ ['\x7d']) =
      (e.token digits before.utf8ByteSize).text.toList := (toList_token _).symm
  have hsize : (e.token digits before.utf8ByteSize).text.utf8ByteSize =
      (e.spelling digits).utf8ByteSize + 3 := by
    have hopening : "$\x7b".utf8ByteSize = 2 := rfl
    have hclosing : "\x7d".utf8ByteSize = 1 := rfl
    rw [token, String.utf8ByteSize_append, String.utf8ByteSize_append, hopening, hclosing]
    omega
  rw [tokenize, hsource, parts_embedded hbefore (balanced_spell .nil e h) hbehind, htext]
  simp only [Except.map, place, String.ofList_toList, byteLength_toList, hsize, Nat.zero_add,
    Nat.add_assoc]
  rfl

/-- An expression that is spelled between two literals is the one token there. It is no directive,
and with its roots written out it is a program of the expression and nothing else. -/
theorem spelling_readBack (h : Spellable digits e) {before behind : String}
    (hbefore : IsLiteral before.toList) (hbehind : IsLiteral behind.toList) :
    tokenize (before ++ "$\x7b" ++ e.spelling digits ++ "\x7d" ++ behind) =
        .ok [⟨.literal, before, 0⟩, e.token digits before.utf8ByteSize,
          ⟨.literal, behind, before.utf8ByteSize + (e.spelling digits).utf8ByteSize + 3⟩] ∧
      (e.token digits before.utf8ByteSize).body = e.spelling digits ∧
      Directive.parse (e.spelling digits) = .ok none ∧
      Program.parse (RootPath.writeRoots (e.spelling digits)) = .ok [e] := by
  refine ⟨tokenize_spelling h hbefore hbehind, body_token _, (begins_spell e h).parse_directive, ?_⟩
  rw [spelling, RootPath.writeRoots_spell h]
  exact parse_spell h

/-- The name of a user, or else a text with a quote in it. -/
def nameOrText : Expr :=
  .logical .or (.member (.member .root "user" false) "name" false)
    (.binary .add (.number (Decimal.ofDecimal 1 0)) (.string "it's"))

theorem spelling_nameOrText :
    spelling (fun _ => ['1']) nameOrText = ".user.name || ( ( 1 ) + ( 'it\\'s' ) )" := rfl

theorem spelling_readBack_nameOrText :
    (tokenize ("Dear " ++ "$\x7b" ++ ".user.name || ( ( 1 ) + ( 'it\\'s' ) )" ++ "\x7d" ++ ",") =
        .ok [⟨.literal, "Dear ", 0⟩, nameOrText.token (fun _ => ['1']) 5, ⟨.literal, ",", 45⟩] ∧
      (nameOrText.token (fun _ => ['1']) 5).body = ".user.name || ( ( 1 ) + ( 'it\\'s' ) )" ∧
      Directive.parse ".user.name || ( ( 1 ) + ( 'it\\'s' ) )" = .ok none ∧
      Program.parse (RootPath.writeRoots ".user.name || ( ( 1 ) + ( 'it\\'s' ) )") =
        .ok [nameOrText]) := by
  have huser : IsName "user" := ⟨.of_text rfl, by decide⟩
  have hname : IsName "name" := ⟨.of_text rfl, by decide⟩
  have hone : Writes ['1'] (Decimal.ofDecimal 1 0) := ⟨⟨'1', [], rfl, by decide, nofun⟩, rfl⟩
  have hspellable : Spellable (fun _ => ['1']) nameOrText :=
    ⟨⟨⟨trivial, huser⟩, hname⟩, hone, trivial⟩
  have hdear : IsLiteral "Dear ".toList := (literal_spec "Dear ".toList).2.1
  have hcomma : IsLiteral ",".toList := (literal_spec ",".toList).2.1
  have hread := spelling_readBack hspellable hdear hcomma
  rwa [spelling_nameOrText] at hread

end Expr

end TemplateEngine
