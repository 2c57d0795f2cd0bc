import TemplateEngine.Proofs.Expr.Rooting

/-!
# `Expr` · Lexemes of a spelling

The spelling of an expression is split into its lexemes.

* **`Splits`**: a text with a given rest behind it is split into given lexemes, whatever their
  offsets are, and splitting goes on with the rest. Such texts can be put behind each other.
* **`Follows`**: a blank may follow every expression, a dot only one that needs no parentheses as
  an operand. A digit or a letter would belong to the number or name in front of it.
* **`split_spell`**: by induction over the syntax.
-/

namespace TemplateEngine

open TemplateEngine.Text TemplateEngine.Template

namespace Lexeme

variable {text more cs rest : List Char} {ls ms : List Lexeme} {l : Lexeme} {c : Char}
  {p : String}

/-! ## Texts in a row -/

theorem splitFrom_nil (offset : Nat) : splitFrom offset [] = .ok [] := by rw [splitFrom.eq_def]

theorem splitFrom_blank (offset : Nat) (hc : isBlank c) :
    splitFrom offset (c :: cs) = splitFrom (offset + c.utf8Size) cs := by
  rw [splitFrom.eq_def]
  exact if_pos hc

theorem splitFrom_next {offset : Nat} {left : NoLonger cs} (hc : isBlank c = false)
    (hnext : next offset c cs = .ok (l, left)) :
    splitFrom offset (c :: cs) =
      (splitFrom (offset + (byteLength (c :: cs) - byteLength left.val)) left.val).map fun later =>
        (l, offset) :: later := by
  rw [splitFrom.eq_def]
  simp only [hc, Bool.false_eq_true, if_false, hnext]

/-- A text with `rest` behind it is split into lexemes and the rest. -/
def Splits (text : List Char) (ls : List Lexeme) (rest : List Char) : Prop :=
  ∀ offset, ∃ ts later, ts.map Prod.fst = ls ∧
    splitFrom offset (text ++ rest) = (splitFrom later rest).map (ts ++ ·)

theorem Splits.nil : Splits [] [] rest := by
  intro offset
  refine ⟨[], offset, rfl, ?_⟩
  cases h : splitFrom offset rest <;> simp [Except.map, h]

theorem Splits.append (h : Splits text ls (more ++ rest)) (hmore : Splits more ms rest) :
    Splits (text ++ more) (ls ++ ms) rest := by
  intro offset
  obtain ⟨ts, middle, rfl, hts⟩ := h offset
  obtain ⟨us, later, rfl, hus⟩ := hmore middle
  refine ⟨ts ++ us, later, List.map_append, ?_⟩
  rw [List.append_assoc, hts, hus]
  cases splitFrom later rest <;> simp [Except.map]

theorem Splits.space (h : Splits text ls rest) : Splits (' ' :: text) ls rest := by
  intro offset
  obtain ⟨ts, later, hls, hts⟩ := h (offset + ' '.utf8Size)
  refine ⟨ts, later, hls, ?_⟩
  rw [List.cons_append, splitFrom_blank offset (by decide), hts]

/-- A text with nothing behind it. -/
theorem Splits.split (h : Splits text ls []) :
    ∃ ts, split (String.ofList text) = .ok ts ∧ ts.map Prod.fst = ls := by
  obtain ⟨ts, later, hls, hts⟩ := h 0
  refine ⟨ts, ?_, hls⟩
  rw [List.append_nil, splitFrom_nil] at hts
  rw [Lexeme.split, String.toList_ofList, hts]
  simp [Except.map]

/-- A text of one lexeme. -/
theorem Splits.single (hc : isBlank c = false)
    (hnext : ∀ offset, ∃ after, next offset c (cs ++ rest) = .ok (l, after) ∧ after.val = rest) :
    Splits (c :: cs) [l] rest := by
  intro offset
  obtain ⟨⟨after, h⟩, hnext, hafter⟩ := hnext offset
  obtain rfl : after = rest := hafter
  refine ⟨[(l, offset)], offset + (byteLength (c :: (cs ++ after)) - byteLength after), rfl, ?_⟩
  rw [List.cons_append, splitFrom_next hc hnext]
  rfl

/-! ## Words and numbers -/

/-- A run of characters of a class ends where one that is not in it follows. -/
theorem span_run {p : Char → Bool} (hcs : ∀ d ∈ cs, p d) (hrest : ∀ d ∈ rest.head?, p d = false) :
    (cs ++ rest).takeWhile p = cs ∧ (cs ++ rest).dropWhile p = rest := by
  rw [List.takeWhile_append_of_pos hcs, List.dropWhile_append_of_pos hcs]
  cases rest with
  | nil => simp
  | cons d rest => simp [hrest d rfl]

theorem isNumberChar_of_isAsciiDigit (h : isAsciiDigit c) : isNumberChar c := by
  simp [isNumberChar, h]

theorem isWordChar_of_isAsciiDigit (h : isAsciiDigit c) : isWordChar c :=
  RootPath.isWordChar_of_isNumberChar (isNumberChar_of_isAsciiDigit h) (by rintro rfl; cases h)

theorem isAsciiDigit_eq_false_of_isWordStart (h : isWordStart c) : isAsciiDigit c = false := by
  refine Bool.eq_false_iff.2 fun hdigit => ?_
  simp only [isWordStart, isLetter, isAsciiLetter, Bool.or_eq_true, beq_iff_eq] at h
  simp only [isAsciiDigit, Bool.and_eq_true, decide_eq_true_eq] at hdigit
  rcases h with (h | rfl) | rfl
  · rw [if_pos (by omega)] at h
    simp only [Bool.or_eq_true, Bool.and_eq_true, decide_eq_true_eq] at h
    omega
  · revert hdigit; decide
  · revert hdigit; decide

theorem splits_word {name : String} (h : Expr.IsWord name)
    (hrest : ∀ d ∈ rest.head?, isWordChar d = false) : Splits name.toList [.word name] rest := by
  obtain ⟨c, cs, hname, hc, hcs⟩ := h
  obtain ⟨htake, hdrop⟩ := span_run hcs hrest
  have hdot : (c == '.') = false := beq_false_of_ne (by rintro rfl; cases hc)
  rw [hname]
  refine .single (isBlank_eq_false_of_isWordChar (isWordChar_of_isWordStart hc)) fun offset => ?_
  unfold next
  rw [if_neg (by simp [isAsciiDigit_eq_false_of_isWordStart hc, hdot]), if_pos hc, htake, ← hname,
    String.ofList_toList]
  exact ⟨_, rfl, hdrop⟩

theorem splits_number {x : Float} (h : Expr.Writes text x)
    (hrest : ∀ d ∈ rest.head?, isNumberChar d = false) : Splits text [.number x] rest := by
  obtain ⟨⟨c, cs, rfl, hc, hcs⟩, hvalue⟩ := h
  obtain ⟨htake, hdrop⟩ := span_run hcs hrest
  refine .single (isBlank_eq_false_of_isWordChar (isWordChar_of_isAsciiDigit hc)) fun offset => ?_
  unfold next
  rw [if_pos (by simp [hc]), htake]
  simp only [hvalue]
  exact ⟨_, rfl, hdrop⟩

/-! ## Texts -/

/-- A text is read back from behind its opening quote. -/
theorem stringEnd?_escaped (cs rest : List Char) :
    ∃ after, stringEnd? '\x27' (escaped cs ++ '\x27' :: rest) = some (cs, after) ∧
      after.val = rest := by
  induction cs with
  | nil => exact ⟨_, rfl, rfl⟩
  | cons c cs ih =>
    obtain ⟨after, ih, hafter⟩ := ih
    by_cases hc : c = '\\' ∨ c = '\x27'
    · have hescape : unescape c = c := by rcases hc with rfl | rfl <;> rfl
      rw [escaped, if_pos hc]
      refine ⟨after.cons.cons, ?_, hafter⟩
      simp [stringEnd?, ih, hescape]
    · obtain ⟨hslash, hquote⟩ := not_or.1 hc
      rw [escaped, if_neg hc]
      refine ⟨after.cons, ?_, hafter⟩
      simp [stringEnd?, hslash, hquote, ih]

theorem splits_quoted (s : String) : Splits (quoted s) [.string s] rest := by
  refine .single (by decide) fun offset => ?_
  obtain ⟨after, hend, hafter⟩ := stringEnd?_escaped s.toList rest
  unfold next
  rw [if_neg (by simp [isAsciiDigit]), if_neg (by decide), if_pos (by decide), List.append_assoc,
    List.singleton_append]
  simp only [hend, String.ofList_toList]
  exact ⟨_, rfl, hafter⟩

/-! ## Punctuators -/

/-- A character that only a punctuator starts with. -/
def isSign (c : Char) : Bool := !(isBlank c || isAsciiDigit c || isWordStart c || isQuote c)

/-- The first of the punctuators that a text starts with. -/
def punct? (cs : List Char) : Option String :=
  punctuators.find? fun p => (afterPunctuator? p cs).isSome

/-- A punctuator that is the first one of those that the text starts with. -/
theorem splits_punct (hp : p.toList = c :: cs) (hc : isSign c)
    (hdot : (c == '.' && startsWithDigit (cs ++ rest)) = false)
    (hfirst : punct? (c :: (cs ++ rest)) = some p) :
    Splits p.toList [.punct p] rest := by
  unfold punct? at hfirst
  simp only [isSign, Bool.not_eq_true', Bool.or_eq_false_iff] at hc
  obtain ⟨⟨⟨hblank, hdigit⟩, hword⟩, hquote⟩ := hc
  rw [hp]
  refine .single hblank fun offset => ?_
  unfold next
  rw [if_neg (by simp [hdot, hdigit]), if_neg (by simp [hword]), if_neg (by simp [hquote]), hfirst]
  refine ⟨_, rfl, ?_⟩
  have hlength : p.length - 1 = cs.length := by rw [← String.length_toList, hp]; rfl
  simp only [hlength, List.drop_left]

/-- A punctuator of one character. -/
theorem Splits.sign (hp : p.toList = [c]) (hc : isSign c)
    (hdot : (c == '.' && startsWithDigit (text ++ rest)) = false)
    (hfirst : punct? (c :: (text ++ rest)) = some p)
    (h : Splits text ls rest) : Splits (c :: text) (.punct p :: ls) rest := by
  have hsign := splits_punct hp hc hdot hfirst
  rw [hp] at hsign
  exact hsign.append h

theorem splits_operator (op : Operator) :
    Splits op.text.toList [.punct op.text] (' ' :: rest) := by
  rcases op with op | op <;> cases op <;> exact splits_punct rfl rfl rfl rfl

theorem splits_unary (op : UnaryOp) :
    Splits op.text.toList [Expr.unaryLexeme op] (' ' :: rest) := by
  cases op with
  | typeOf =>
    exact splits_word (.of_text rfl) fun _ hd => Option.mem_some.1 hd ▸ rfl
  | _ => exact splits_punct rfl rfl rfl rfl

theorem splits_await : Splits "await".toList [.word "await"] (' ' :: rest) :=
  splits_word (.of_text rfl) fun _ hd => Option.mem_some.1 hd ▸ rfl

theorem splits_optional : Splits " ?. ".toList [.punct "?."] rest := by
  have hpunct : Splits "?.".toList [.punct "?."] (' ' :: rest) := splits_punct rfl rfl rfl rfl
  exact .space (hpunct.append (.space .nil))

theorem splits_link (optional : Bool) :
    Splits (Expr.linkText optional) (Expr.linkLexemes optional) rest := by
  cases optional with
  | true => exact splits_optional
  | false => exact .space .nil

theorem splits_gap {α : Type} (later : List α) :
    Splits (Expr.gap later) (Expr.gapLexemes later) rest := by
  cases later with
  | nil => exact .space .nil
  | cons e later => exact .space (.sign rfl rfl rfl rfl (.space .nil))

/-! ## Expressions -/

section Expressions

open TemplateEngine.Expr

variable {digits : Float → List Char} {e left right holder : Expr} {name : String}

/-- What may follow an expression. -/
def Follows (e : Expr) (rest : List Char) : Prop :=
  ∀ d ∈ rest.head?, d = ' ' ∨ d = '.' ∧ e.isChain

@[simp] theorem follows_nil : Follows e [] := nofun

@[simp] theorem follows_space : Follows e (' ' :: rest) := fun _ hd =>
  .inl (Option.mem_some.1 hd).symm

theorem Follows.not_isWordChar (h : Follows e rest) : ∀ d ∈ rest.head?, isWordChar d = false := by
  intro d hd
  rcases h d hd with rfl | ⟨rfl, -⟩ <;> decide

theorem Follows.not_isNumberChar (h : Follows e rest) (he : e.isChain = false) :
    ∀ d ∈ rest.head?, isNumberChar d = false := by
  intro d hd
  rcases h d hd with rfl | ⟨-, hchain⟩
  · decide
  · rw [he] at hchain
    cases hchain

theorem Follows.space_or_dot (h : Follows e rest) : ∀ d ∈ rest.head?, d = ' ' ∨ d = '.' :=
  fun d hd => (h d hd).imp_right And.left

/-- The spelling of an expression is split into its lexemes, whatever may follow it. -/
def Lexed (digits : Float → List Char) (e : Expr) : Prop :=
  ∀ rest, Follows e rest → Splits (e.spell digits ['$']) (lexemes e) rest

theorem Lexed.wrapped (h : Lexed digits e) (hrest : ∀ d ∈ rest.head?, d = ' ' ∨ d = '.') :
    Splits (wrapped e (e.spell digits ['$'])) (wrappedLexemes e (lexemes e)) rest := by
  unfold Expr.wrapped wrappedLexemes
  by_cases hchain : e.isChain
  · rw [if_pos hchain, if_pos hchain]
    exact h rest fun d hd => (hrest d hd).imp_right fun hdot => ⟨hdot, hchain⟩
  · rw [if_neg hchain, if_neg hchain]
    exact .sign rfl rfl rfl rfl (.space ((h _ follows_space).append
      (.space (.sign rfl rfl rfl rfl .nil))))

theorem Lexed.operand (h : Lexed digits e) :
    Splits (Expr.wrapped e (e.spell digits ['$'])) (wrappedLexemes e (lexemes e)) (' ' :: rest) :=
  h.wrapped fun _ hd => .inl (Option.mem_some.1 hd).symm

/-- A sign between two operands. -/
theorem Lexed.signed (h : Lexed digits e) (hp : p.toList = [c]) (hc : isSign c)
    (hdot : (c == '.') = false)
    (hfirst : punct? (c :: ' ' :: rest) = some p) :
    Splits (Expr.wrapped e (e.spell digits ['$']) ++ [' ', c, ' '])
      (wrappedLexemes e (lexemes e) ++ [.punct p]) rest :=
  h.operand.append (.space (.sign hp hc (by rw [hdot, Bool.false_and]) hfirst (.space .nil)))

theorem splits_operation (op : Operator) (hleft : Lexed digits left) (hright : Lexed digits right)
    (hrest : ∀ d ∈ rest.head?, d = ' ' ∨ d = '.') :
    Splits
      (wrapped left (left.spell digits ['$']) ++ ' ' ::
        (op.text.toList ++ ' ' :: wrapped right (right.spell digits ['$'])))
      (wrappedLexemes left (lexemes left) ++ .punct op.text ::
        wrappedLexemes right (lexemes right)) rest :=
  hleft.operand.append (.space ((splits_operator op).append (.space (hright.wrapped hrest))))

theorem lexed_linked (h : Lexed digits e) (optional : Bool) :
    Splits (wrapped e (e.spell digits ['$']) ++ linkText optional)
      (wrappedLexemes e (lexemes e) ++ linkLexemes optional) rest := by
  refine (h.wrapped ?_).append (splits_link optional)
  cases optional <;> simp [linkText]

/-- The root in front of a member is spelled as every other object. -/
theorem spell_holder :
    (if holder.isRoot then ['$'] else wrapped holder (holder.spell digits ['$'])) =
      wrapped holder (holder.spell digits ['$']) := by
  cases holder <;> rfl

theorem lexed_member (h : Lexed digits holder) (hname : IsWord name) (optional : Bool) :
    Lexed digits (.member holder name optional) := by
  intro rest hrest
  have hword : Splits name.toList [.word name] rest := splits_word hname hrest.not_isWordChar
  cases optional with
  | true =>
    rw [spell_member_optional, List.append_assoc]
    exact h.operand.append (splits_optional.append hword)
  | false =>
    -- A dot and a digit would be a number.
    have hdigit : startsWithDigit (name.toList ++ rest) = false := by
      obtain ⟨c, cs, hcs, hc, -⟩ := hname
      rw [hcs]
      exact isAsciiDigit_eq_false_of_isWordStart hc
    rw [spell_member, spell_holder]
    exact (h.wrapped (by simp)).append (.sign rfl rfl hdigit rfl hword)

theorem follows_gap {α : Type} (later : List α) : Follows e (gap later ++ rest) := by
  cases later <;> exact follows_space

mutual

theorem lexed : (e : Expr) → Spellable digits e → Lexed digits e
  | .number _, h => fun _ hrest => splits_number h (hrest.not_isNumberChar rfl)
  | .string s, _ => fun _ _ => splits_quoted s
  | .bool b, _ => fun _ hrest => by
    cases b with
    | true => exact splits_word (.of_text rfl) hrest.not_isWordChar
    | false => exact splits_word (.of_text rfl) hrest.not_isWordChar
  | .null, _ => fun _ hrest =>
    splits_word (.of_text rfl) hrest.not_isWordChar
  | .undefined, _ => fun _ hrest =>
    splits_word (.of_text rfl) hrest.not_isWordChar
  | .root, _ => fun _ hrest => splits_word (.of_text rfl) hrest.not_isWordChar
  | .ident _, h => fun _ hrest => splits_word h.1.word hrest.not_isWordChar
  | .array items, h => fun _ _ => .sign rfl rfl rfl rfl (.space
      ((lexedItems items h).append (.sign rfl rfl rfl rfl .nil)))
  | .object entries, h => fun _ _ => .sign rfl rfl rfl rfl (.space
      ((lexedEntries entries h).append (.sign rfl rfl rfl rfl .nil)))
  | .member holder name optional, h => lexed_member (lexed holder h.1) h.2.word optional
  | .index holder key optional, h => fun _ _ =>
    (lexed_linked (lexed holder h.1) optional).append (.sign rfl rfl rfl rfl (.space
      ((lexed key h.2 _ follows_space).append (.space (.sign rfl rfl rfl rfl .nil)))))
  | .call callee args optional, h => fun _ _ =>
    (lexed_linked (lexed callee h.1) optional).append (.sign rfl rfl rfl rfl (.space
      ((lexedItems args h.2).append (.sign rfl rfl rfl rfl .nil))))
  | .unary op operand, h => fun _ hrest =>
    (splits_unary op).append (.space ((lexed operand h).wrapped hrest.space_or_dot))
  | .await operand, h => fun _ hrest =>
    splits_await.append (.space ((lexed operand h).wrapped hrest.space_or_dot))
  | .binary op left right, h => fun _ hrest =>
    splits_operation (.binary op) (lexed left h.1) (lexed right h.2) hrest.space_or_dot
  | .logical op left right, h => fun _ hrest =>
    splits_operation (.logical op) (lexed left h.1) (lexed right h.2) hrest.space_or_dot
  | .conditional test consequent alternate, h => fun _ hrest => by
    have hwhole := ((lexed test h.1).signed (p := "?") (c := '?') rfl rfl rfl rfl).append
      (((lexed consequent h.2.1).signed (p := ":") (c := ':') rfl rfl rfl rfl).append
        ((lexed alternate h.2.2).wrapped hrest.space_or_dot))
    simpa [spell_conditional, lexemes] using hwhole
  | .assign target value, h => fun _ hrest => by
    have hwhole := ((lexed target h.2.1).signed (p := "=") (c := '=') rfl rfl rfl rfl).append
      ((lexed value h.2.2).wrapped hrest.space_or_dot)
    simpa [spell_assign, lexemes] using hwhole

theorem lexedItems : (items : List Expr) → AllSpellable digits items →
    ∀ {rest : List Char}, Splits (spellItems digits ['$'] items) (itemLexemes items) rest
  | [], _, _ => .nil
  | e :: later, h, _ =>
    ((lexed e h.1 _ (follows_gap later)).append (splits_gap later)).append (lexedItems later h.2)

theorem lexedEntries : (entries : List (String × Expr)) → EntriesSpellable digits entries →
    ∀ {rest : List Char}, Splits (spellEntries digits ['$'] entries) (entryLexemes entries) rest
  | [], _, _ => .nil
  | (key, e) :: later, h, rest => by
    have hvalue : Splits (spell digits ['$'] e ++ gap later ++ spellEntries digits ['$'] later)
        (lexemes e ++ gapLexemes later ++ entryLexemes later) rest :=
      ((lexed e h.1 _ (follows_gap later)).append (splits_gap later)).append
        (lexedEntries later h.2)
    have hentry := (splits_quoted key).append
      (.space (.sign (p := ":") (c := ':') rfl rfl rfl rfl (.space hvalue)))
    simpa [spellEntries_cons, entryLexemes] using hentry

end

/-- The spelling of an expression is split into its lexemes. -/
theorem split_spell (h : Spellable digits e) :
    ∃ ts, split (String.ofList (e.spell digits ['$'])) = .ok ts ∧ ts.map Prod.fst = lexemes e :=
  (lexed e h [] follows_nil).split

end Expressions

end Lexeme

end TemplateEngine
