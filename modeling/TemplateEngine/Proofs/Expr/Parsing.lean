import TemplateEngine.Proofs.Expr.Lexing

/-!
# `Expr` · The tree of a spelling

The lexemes of the spelling of an expression are read as this expression.

* **`Parses`**: a step of the reader gives something and leaves a rest. Its rules follow the
  functions of the reader.
* **`Heads`**: what the lexemes of an operand are read as goes on as a chain with whatever links
  follow. This is what an induction over chains needs, since a chain is read from its front.
* **`parsed`**: by induction over the syntax, every expression is read as a statement if nothing
  that follows could belong to it, and every chain is the head of longer ones.
-/

namespace TemplateEngine

variable {α β : Type} {p q : Lexemes → Prop} {ts rest more after : Lexemes} {offset : Nat}

/-! ## Steps -/

/-- A step of the reader gives `a` and leaves `rest`. -/
def Parses (x : Except ParseFault (α × { r : Lexemes // p r })) (a : α) (rest : Lexemes) : Prop :=
  ∃ left, x = .ok (a, left) ∧ left.val = rest

theorem Parses.bind {x : Except ParseFault (α × { r : Lexemes // p r })} {a : α}
    {f : α × { r : Lexemes // p r } → Except ParseFault (β × { r : Lexemes // q r })} {b : β}
    (hx : Parses x a rest) (hf : ∀ h, Parses (f (a, ⟨rest, h⟩)) b after) :
    Parses (x >>= f) b after := by
  obtain ⟨⟨rest, h⟩, rfl, rfl⟩ := hx
  exact hf h

theorem parses_ok {a : α} (h : p rest) :
    Parses (.ok (a, (⟨rest, h⟩ : { r : Lexemes // p r }))) a rest :=
  ⟨_, rfl, rfl⟩

variable {text sign : String}

theorem take?_punct :
    take? text ((.punct text, offset) :: rest) = some ⟨rest, Nat.lt_succ_self _⟩ :=
  if_pos rfl

theorem take?_other (h : sign ≠ text) : take? text ((.punct sign, offset) :: rest) = none :=
  if_neg h

theorem expect_punct :
    expect text ((.punct text, offset) :: rest) = .ok ⟨rest, Nat.lt_succ_self _⟩ := by
  rw [expect, take?_punct]

/-! ## Rules of the reader -/

variable {e whole left right first : Expr} {level : Level} {tighter before : List Level}
  {op : Operator} {lexeme : Lexeme} {name : String} {key : String} {later : List Expr}

theorem parses_postfixed (hfirst : Parses (operand ts) first rest)
    (hwhole : Parses (links first rest) whole after) : Parses (postfixed ts) whole after := by
  rw [postfixed]
  exact hfirst.bind fun _ => hwhole.bind fun _ => parses_ok _

/-- An operand without an operator in front of it. -/
theorem parses_prefixed (hop : unaryOp? lexeme = none) (hawait : (lexeme == .word "await") = false)
    (h : Parses (postfixed ((lexeme, offset) :: ts)) e rest) :
    Parses (prefixed ((lexeme, offset) :: ts)) e rest := by
  rw [prefixed]
  simp only [hop, hawait]
  exact h

theorem parses_unary {op : UnaryOp} (hop : unaryOp? lexeme = some op)
    (h : Parses (prefixed ts) e rest) :
    Parses (prefixed ((lexeme, offset) :: ts)) (.unary op e) rest := by
  rw [prefixed]
  simp only [hop]
  exact h.bind fun _ => parses_ok _

theorem parses_await (h : Parses (prefixed ts) e rest) :
    Parses (prefixed ((.word "await", offset) :: ts)) (.await e) rest := by
  rw [prefixed]
  exact h.bind fun _ => parses_ok _

/-- No operator of the level follows. -/
theorem parses_left (h : operator? level rest = none) :
    Parses (operands level tighter left rest) left rest := by
  rw [operands]
  simp only [h]
  exact parses_ok _

/-- Levels whose operators do not follow change nothing. -/
theorem parses_operation (h : Parses (operation tighter ts) e rest)
    (hnone : ∀ level ∈ before, operator? level rest = none) :
    Parses (operation (before ++ tighter) ts) e rest := by
  induction before with
  | nil => exact h
  | cons level before ih =>
    obtain ⟨hlevel, hbefore⟩ := List.forall_mem_cons.1 hnone
    rw [List.cons_append, operation]
    exact (ih hbefore).bind fun _ => (parses_left hlevel).bind fun _ => parses_ok _

/-- An operand, an operator and an operand. -/
theorem parses_operator (hleft : Parses (operation tighter ts) left
      ((.punct sign, offset) :: more))
    (hop : level.lookup sign = some op)
    (hright : Parses (operation tighter more) right rest)
    (hnone : operator? level rest = none) :
    Parses (operation (level :: tighter) ts) (op.apply left right) rest := by
  have hmore : Parses (operands level tighter left ((.punct sign, offset) :: more))
      (op.apply left right) rest := by
    rw [operands]
    simp only [operator?, hop, Option.map_some]
    exact hright.bind fun _ => (parses_left hnone).bind fun _ => parses_ok _
  rw [operation]
  exact hleft.bind fun _ => hmore.bind fun _ => parses_ok _

theorem parses_conditional (h : Parses (operation levels ts) e rest)
    (hquestion : take? "?" rest = none) : Parses (conditional ts) e rest := by
  rw [conditional]
  refine h.bind fun _ => ?_
  simp only [hquestion]
  exact parses_ok _

theorem parses_choice {consequent alternate : Expr} {colon : Nat} {last : Lexemes}
    (htest : Parses (operation levels ts) e ((.punct "?", offset) :: more))
    (hconsequent : Parses (statement more) consequent ((.punct ":", colon) :: last))
    (halternate : Parses (statement last) alternate rest) :
    Parses (conditional ts) (.conditional e consequent alternate) rest := by
  rw [conditional]
  refine htest.bind fun _ => ?_
  simp only [take?_punct]
  refine hconsequent.bind fun _ => ?_
  simp only [expect_punct]
  exact halternate.bind fun _ => parses_ok _

theorem parses_statement (h : Parses (conditional ts) e rest)
    (hequals : take? "=" rest = none) : Parses (statement ts) e rest := by
  rw [statement]
  refine h.bind fun _ => ?_
  simp only [hequals]
  exact parses_ok _

theorem parses_assign (htarget : Parses (conditional ts) left
      ((.punct "=", offset) :: more))
    (hleft : left.isTarget) (hvalue : Parses (statement more) right rest) :
    Parses (statement ts) (.assign left right) rest := by
  rw [statement]
  refine htarget.bind fun _ => ?_
  simp only [take?_punct, hleft, if_true]
  exact hvalue.bind fun _ => parses_ok _

/-! Links. -/

theorem parses_member {dot word : Nat}
    (h : Parses (links (.member e name false) rest) whole after) :
    Parses (links e ((.punct ".", dot) :: (.word name, word) :: rest)) whole after := by
  rw [links]
  exact Parses.bind (parses_ok _) fun _ => h.bind fun _ => parses_ok _

theorem parses_memberOptional {dot word : Nat}
    (h : Parses (links (.member e name true) rest) whole after) :
    Parses (links e ((.punct "?.", dot) :: (.word name, word) :: rest)) whole after := by
  rw [links]
  exact Parses.bind (parses_ok _) fun _ => h.bind fun _ => parses_ok _

theorem parses_index {close : Nat}
    (hkey : Parses (statement more) right ((.punct "]", close) :: rest))
    (h : Parses (links (.index e right false) rest) whole after) :
    Parses (links e ((.punct "[", offset) :: more)) whole after := by
  rw [links]
  refine hkey.bind fun _ => ?_
  simp only [expect_punct]
  exact h.bind fun _ => parses_ok _

theorem parses_indexOptional {dot close : Nat}
    (hkey : Parses (statement more) right ((.punct "]", close) :: rest))
    (h : Parses (links (.index e right true) rest) whole after) :
    Parses (links e ((.punct "?.", dot) :: (.punct "[", offset) :: more)) whole after := by
  rw [links]
  simp only [take?_punct]
  refine hkey.bind fun _ => ?_
  simp only [expect_punct]
  exact h.bind fun _ => parses_ok _

theorem parses_call {args : List Expr} (hargs : Parses (arguments more) args rest)
    (h : Parses (links (.call e args false) rest) whole after) :
    Parses (links e ((.punct "(", offset) :: more)) whole after := by
  rw [links]
  exact hargs.bind fun _ => h.bind fun _ => parses_ok _

theorem parses_callOptional {args : List Expr} {dot : Nat}
    (hargs : Parses (arguments more) args rest)
    (h : Parses (links (.call e args true) rest) whole after) :
    Parses (links e ((.punct "?.", dot) :: (.punct "(", offset) :: more)) whole after := by
  rw [links]
  simp only [take?_punct, take?_other (show "(" ≠ "[" by decide)]
  exact hargs.bind fun _ => h.bind fun _ => parses_ok _

/-! Operands. -/

theorem parses_number {x : Float} :
    Parses (operand ((.number x, offset) :: rest)) (.number x) rest := by
  rw [operand]
  exact parses_ok _

theorem parses_string : Parses (operand ((.string text, offset) :: rest)) (.string text) rest := by
  rw [operand]
  exact parses_ok _

theorem parses_word : Parses (operand ((.word name, offset) :: rest)) (wordExpr name) rest := by
  rw [operand]
  exact parses_ok _

theorem parses_parenthesized {close : Nat}
    (h : Parses (statement ts) e ((.punct ")", close) :: rest)) :
    Parses (operand ((.punct "(", offset) :: ts)) e rest := by
  rw [operand]
  refine h.bind fun _ => ?_
  simp only [expect_punct]
  exact parses_ok _

theorem parses_array (h : Parses (items ts) later rest) :
    Parses (operand ((.punct "[", offset) :: ts)) (.array later) rest := by
  rw [operand]
  exact h.bind fun _ => parses_ok _

theorem parses_object {fields : List (String × Expr)} (h : Parses (entries ts) fields rest) :
    Parses (operand ((.punct "\x7b", offset) :: ts)) (.object fields) rest := by
  rw [operand]
  exact h.bind fun _ => parses_ok _

/-! Lists. -/

theorem parses_items_nil : Parses (items ((.punct "]", offset) :: rest)) [] rest := by
  rw [items]
  simp only [take?_punct]
  exact parses_ok _

theorem parses_items_last (h : Parses (statement ts) e ((.punct "]", offset) :: rest))
    (hclose : take? "]" ts = none) : Parses (items ts) [e] rest := by
  rw [items]
  simp only [hclose]
  refine h.bind fun _ => ?_
  simp only [take?_punct]
  exact parses_ok _

theorem parses_items_cons (h : Parses (statement ts) e ((.punct ",", offset) :: more))
    (hclose : take? "]" ts = none) (hlater : Parses (items more) later rest) :
    Parses (items ts) (e :: later) rest := by
  rw [items]
  simp only [hclose]
  refine h.bind fun _ => ?_
  simp only [take?_other (show "," ≠ "]" by decide), expect_punct]
  exact hlater.bind fun _ => parses_ok _

theorem parses_arguments_nil : Parses (arguments ((.punct ")", offset) :: rest)) [] rest := by
  rw [arguments]
  simp only [take?_punct]
  exact parses_ok _

theorem parses_arguments (h : Parses (moreArguments ts) later rest) (hclose : take? ")" ts = none) :
    Parses (arguments ts) later rest := by
  rw [arguments]
  simp only [hclose]
  exact h

theorem parses_arguments_last
    (h : Parses (statement ts) e ((.punct ")", offset) :: rest)) :
    Parses (moreArguments ts) [e] rest := by
  rw [moreArguments]
  refine h.bind fun _ => ?_
  simp only [take?_punct]
  exact parses_ok _

theorem parses_arguments_cons
    (h : Parses (statement ts) e ((.punct ",", offset) :: more))
    (hlater : Parses (moreArguments more) later rest) :
    Parses (moreArguments ts) (e :: later) rest := by
  rw [moreArguments]
  refine h.bind fun _ => ?_
  simp only [take?_other (show "," ≠ ")" by decide), expect_punct]
  exact hlater.bind fun _ => parses_ok _

theorem parses_entries_nil : Parses (entries ((.punct "\x7d", offset) :: rest)) [] rest := by
  rw [entries]
  simp only [take?_punct]
  exact parses_ok _

theorem parses_entryValue {colon : Nat} (h : Parses (statement ts) e rest) :
    Parses (entryValue key ((.punct ":", colon) :: ts)) e rest := by
  rw [entryValue]
  simp only [take?_punct]
  exact h.bind fun _ => parses_ok _

/-- An entry is read as a key and a value, and no closing brace stands in its place. -/
def ParsesEntry (ts : Lexemes) (key : String) (value : Expr) (rest : Lexemes) : Prop :=
  take? "\x7d" ts = none ∧
    ∃ more, Parses (entryKey ts) key more ∧ Parses (entryValue key more) value rest

theorem ParsesEntry.string {colon : Nat} (h : Parses (statement ts) e rest) :
    ParsesEntry ((.string key, offset) :: (.punct ":", colon) :: ts) key e rest :=
  ⟨rfl, _, parses_ok _, parses_entryValue h⟩

theorem parses_entries_last (h : ParsesEntry ts key e ((.punct "\x7d", offset) :: rest)) :
    Parses (entries ts) [(key, e)] rest := by
  obtain ⟨hclose, more, hkey, hvalue⟩ := h
  rw [entries]
  simp only [hclose]
  refine hkey.bind fun _ => hvalue.bind fun _ => ?_
  simp only [take?_punct]
  exact parses_ok _

theorem parses_entries_cons {fields : List (String × Expr)}
    (h : ParsesEntry ts key e ((.punct ",", offset) :: more))
    (hlater : Parses (entries more) fields rest) :
    Parses (entries ts) ((key, e) :: fields) rest := by
  obtain ⟨hclose, middle, hkey, hvalue⟩ := h
  rw [entries]
  simp only [hclose]
  refine hkey.bind fun _ => hvalue.bind fun _ => ?_
  simp only [take?_other (show "," ≠ "\x7d" by decide), expect_punct]
  exact hlater.bind fun _ => parses_ok _

/-! ## What follows -/

/-- The signs that a link starts with. -/
def linkSigns : List String := [".", "?.", "[", "("]

/-- The signs that an expression goes on with. -/
def goingOn : List String :=
  linkSigns ++ levels.flatMap (·.map Prod.fst) ++ ["?", "="]

/-- None of the signs stands at the front. -/
def Clear (signs : List String) (ts : Lexemes) : Prop := ∀ sign ∈ signs, take? sign ts = none

theorem clear_nil {signs : List String} : Clear signs [] := fun _ _ => rfl

theorem clear_punct {signs : List String} (h : sign ∉ signs) :
    Clear signs ((.punct sign, offset) :: rest) := fun _ hother =>
  take?_other fun heq => h (heq ▸ hother)

theorem Clear.ne {signs : List String} (h : Clear signs rest) (hsign : sign ∈ signs) :
    ∀ offset more, rest = (.punct sign, offset) :: more → False := by
  rintro offset more rfl
  rw [Clear] at h
  have htake := h sign hsign
  rw [take?_punct] at htake
  cases htake

theorem Clear.links (h : Clear linkSigns rest) : Parses (links e rest) e rest := by
  rw [links.eq_5 e rest (h.ne (by decide)) (h.ne (by decide)) (h.ne (by decide)) (h.ne (by decide))]
  exact parses_ok _

theorem Clear.operator?_eq_none (h : Clear (level.map Prod.fst) rest) :
    operator? level rest = none := by
  unfold operator?
  split
  · next sign offset more =>
    rw [Option.map_eq_none_iff, List.lookup_eq_none_iff]
    intro entry hentry
    simp only [bne_iff_ne]
    rintro rfl
    exact h.ne (List.mem_map_of_mem hentry) offset more rfl
  · rfl

theorem Clear.mono {signs others : List String} (h : Clear signs rest) (hsub : others ⊆ signs) :
    Clear others rest := fun sign hsign => h sign (hsub hsign)

/-- No operator follows. -/
theorem Clear.operators {signs : List String} (h : Clear signs rest)
    (hsub : levels.flatMap (·.map Prod.fst) ⊆ signs) :
    ∀ level ∈ levels, operator? level rest = none := by
  intro level hlevel
  refine Clear.operator?_eq_none (h.mono fun sign hsign => hsub ?_)
  exact List.mem_flatMap.2 ⟨level, hlevel, hsign⟩

/-- An operand that nothing goes on with. -/
theorem parses_unjoined (h : Parses (prefixed ts) e rest)
    (hnone : ∀ level ∈ before, operator? level rest = none) :
    Parses (operation before ts) e rest := by
  have hoperand : Parses (operation [] ts) e rest := by rwa [operation]
  simpa using parses_operation hoperand hnone

/-- An operation that nothing goes on with. -/
theorem parses_end (h : Parses (operation levels ts) e rest) (hends : Clear goingOn rest) :
    Parses (statement ts) e rest :=
  parses_statement (parses_conditional h (hends "?" (by decide))) (hends "=" (by decide))

/-! The front of a statement. -/

/-- The punctuators that an expression starts with. -/
def starters : List String := ["(", "[", "\x7b", "!", "-", "+"]

/-- What is no operand is no statement. -/
theorem statement_eq_error {fault : ParseFault} (hprefixed : prefixed ts = postfixed ts)
    (h : operand ts = .error fault) : statement ts = .error fault := by
  have hoperation : ∀ before, operation before ts = .error fault := by
    intro before
    induction before with
    | nil =>
      rw [operation, hprefixed, postfixed, h]
      rfl
    | cons level before ih =>
      rw [operation, ih]
      rfl
  rw [statement, conditional, hoperation]
  rfl

theorem Parses.not_nil (h : Parses (statement ts) e rest) : ts ≠ [] := by
  rintro rfl
  obtain ⟨left, hleft, -⟩ := h
  rw [statement_eq_error (by rw [prefixed]) operand.eq_1] at hleft
  cases hleft

/-- A sign that no expression starts with does not stand at the front of a statement. -/
theorem Parses.front (h : Parses (statement ts) e rest) (hsign : sign ∉ starters) :
    take? sign ts = none := by
  simp only [starters, List.mem_cons, List.not_mem_nil, or_false, not_or] at hsign
  unfold take?
  split
  · next other offset more =>
    refine if_neg ?_
    rintro rfl
    have hop : unaryOp? (.punct other) = none := by
      unfold unaryOp?
      split <;> simp_all
    obtain ⟨left, hleft, -⟩ := h
    rw [statement_eq_error (by rw [prefixed, hop]; rfl)
      (operand.eq_8 other offset more hsign.1 hsign.2.1 hsign.2.2.1)] at hleft
    cases hleft
  · rfl

/-- A statement starts with a lexeme that is no semicolon. -/
theorem Parses.starts (h : Parses (statement ts) e rest) :
    ∃ t more, ts = t :: more ∧ ∀ offset, t = (.punct ";", offset) → False := by
  cases ts with
  | nil => exact absurd rfl h.not_nil
  | cons t more =>
    refine ⟨t, more, rfl, ?_⟩
    rintro offset rfl
    have hfront := h.front (by decide : ";" ∉ starters)
    rw [take?_punct] at hfront
    cases hfront

theorem parses_program (h : Parses (statement ts) e []) : program ts = .ok [e] := by
  obtain ⟨t, more, rfl, hsemicolon⟩ := h.starts
  obtain ⟨⟨_, hleft⟩, hstatement, rfl⟩ := h
  rw [program.eq_3 t more hsemicolon, hstatement]

/-! ## Expressions -/

namespace Expr

variable {ls ms : List Lexeme} {l : Lexeme} {digits : Float → List Char}

theorem map_fst_eq_cons {ts : Lexemes} (h : ts.map Prod.fst = l :: ls) :
    ∃ offset later, ts = (l, offset) :: later ∧ later.map Prod.fst = ls := by
  obtain ⟨⟨_, offset⟩, later, rfl, rfl, hlater⟩ := List.map_eq_cons_iff.1 h
  exact ⟨offset, later, rfl, hlater⟩

theorem map_fst_eq_append_cons {ts : Lexemes} (h : ts.map Prod.fst = ls ++ l :: ms) :
    ∃ first offset later, ts = first ++ (l, offset) :: later ∧ first.map Prod.fst = ls ∧
      later.map Prod.fst = ms := by
  obtain ⟨first, last, rfl, hfirst, hlast⟩ := List.map_eq_append_iff.1 h
  obtain ⟨offset, later, rfl, hlater⟩ := map_fst_eq_cons hlast
  exact ⟨first, offset, later, rfl, hfirst, hlater⟩

theorem map_fst_eq_concat {ts : Lexemes} (h : ts.map Prod.fst = ls ++ [l]) :
    ∃ first offset, ts = first ++ [(l, offset)] ∧ first.map Prod.fst = ls := by
  obtain ⟨first, offset, later, rfl, hfirst, hlater⟩ := map_fst_eq_append_cons h
  obtain rfl := List.map_eq_nil_iff.1 hlater
  exact ⟨first, offset, rfl, hfirst⟩

/-- A chain that starts with the lexemes of an operand is read on with the links behind them. -/
def Heads (e : Expr) (ls : List Lexeme) : Prop :=
  ∀ (ts rest after : Lexemes) (whole : Expr), ts.map Prod.fst = ls →
    Parses (links e rest) whole after → Parses (prefixed (ts ++ rest)) whole after

/-- The lexemes of an expression are read as this expression. -/
structure Parsed (e : Expr) : Prop where
  /-- It is a statement if nothing goes on with it. -/
  reads (ts rest : Lexemes) : ts.map Prod.fst = lexemes e → Clear goingOn rest →
    Parses (statement (ts ++ rest)) e rest
  /-- A chain is the front of longer ones. -/
  heads : e.isChain → Heads e (lexemes e)

theorem Parsed.followed {ts : Lexemes} (h : Parsed e) (sign : String) (offset : Nat)
    (rest : Lexemes) (hts : ts.map Prod.fst = lexemes e) (hsign : sign ∉ goingOn) :
    Parses (statement (ts ++ (.punct sign, offset) :: rest)) e ((.punct sign, offset) :: rest) :=
  h.reads ts _ hts (clear_punct hsign)

/-! Operands. -/

theorem Heads.operand {ts rest : Lexemes} (h : Heads e ls) (hts : ts.map Prod.fst = ls)
    (hrest : Clear linkSigns rest) : Parses (prefixed (ts ++ rest)) e rest :=
  h ts rest rest e hts hrest.links

/-- What stands alone behind the signs in front of it is a statement. -/
theorem parses_alone {ts rest : Lexemes} (h : Parses (prefixed ts) e rest)
    (hrest : Clear goingOn rest) : Parses (TemplateEngine.statement ts) e rest :=
  parses_end (parses_unjoined h (hrest.operators (by decide))) hrest

theorem Heads.statement {ts rest : Lexemes} (h : Heads e ls) (hts : ts.map Prod.fst = ls)
    (hrest : Clear goingOn rest) : Parses (TemplateEngine.statement (ts ++ rest)) e rest :=
  parses_alone (h.operand hts (hrest.mono (by decide))) hrest

/-- An operand with a sign behind it that is none of tighter operators. -/
theorem Heads.separated {ts rest : Lexemes} (h : Heads e ls) (hts : ts.map Prod.fst = ls)
    (hlink : sign ∉ linkSigns) (hnone : ∀ level ∈ before, level.lookup sign = none) :
    Parses (operation before (ts ++ (.punct sign, offset) :: rest)) e
      ((.punct sign, offset) :: rest) := by
  refine parses_unjoined (h.operand hts (clear_punct hlink)) fun level hlevel => ?_
  rw [operator?, hnone level hlevel]
  rfl

theorem Heads.parsed (h : Heads e (lexemes e)) : Parsed e :=
  ⟨fun _ _ hts hrest => h.statement hts hrest, fun _ => h⟩

/-- An operand of one lexeme. -/
theorem heads_single (hop : unaryOp? l = none) (hawait : (l == .word "await") = false)
    (h : ∀ offset rest, Parses (operand ((l, offset) :: rest)) e rest) : Heads e [l] := by
  intro ts rest after whole hts hlinks
  obtain ⟨offset, later, rfl, hlater⟩ := map_fst_eq_cons hts
  obtain rfl := List.map_eq_nil_iff.1 hlater
  exact parses_prefixed hop hawait (parses_postfixed (h offset rest) hlinks)

theorem wordExpr_eq_ident (h : name ∉ reservedWords) : wordExpr name = .ident name := by
  simp only [reservedWords, List.mem_cons, List.not_mem_nil, or_false, not_or] at h
  unfold wordExpr
  split <;> simp_all

theorem heads_ident (h : name ∉ reservedWords) : Heads (.ident name) [.word name] := by
  have hword := wordExpr_eq_ident h
  simp only [reservedWords, List.mem_cons, List.not_mem_nil, or_false, not_or] at h
  refine heads_single ?_ ?_ fun _ _ => hword ▸ parses_word
  · unfold unaryOp?
    split <;> simp_all
  · exact beq_false_of_ne (a := name) h.2.2.2.2.2.2

/-- An operand in brackets. -/
theorem heads_bracketed {opening closing : String} (hop : unaryOp? (.punct opening) = none)
    (h : ∀ (ts rest : Lexemes) (first last : Nat), ts.map Prod.fst = ls →
      Parses (operand ((.punct opening, first) :: (ts ++ (.punct closing, last) :: rest))) e rest) :
    Heads e (.punct opening :: (ls ++ [.punct closing])) := by
  intro ts rest after whole hts hlinks
  obtain ⟨first, inside, rfl, hinside⟩ := map_fst_eq_cons hts
  obtain ⟨inner, last, rfl, hinner⟩ := map_fst_eq_concat hinside
  have hoperand := h inner rest first last hinner
  rw [List.cons_append, List.append_assoc]
  exact parses_prefixed hop rfl (parses_postfixed hoperand hlinks)

theorem Parsed.wrapped (h : Parsed e) : Heads e (wrappedLexemes e (lexemes e)) := by
  unfold wrappedLexemes
  by_cases hchain : e.isChain
  · rw [if_pos hchain]
    exact h.heads hchain
  · rw [if_neg hchain]
    exact heads_bracketed rfl fun ts rest _ _ hts =>
      parses_parenthesized (h.reads ts _ hts (clear_punct (by decide)))

/-! Chains. -/

theorem Heads.member (h : Heads e ls) (optional : Bool) :
    Heads (.member e name optional)
      (ls ++ [.punct (if optional then "?." else "."), .word name]) := by
  intro ts rest after whole hts hlinks
  obtain ⟨first, dot, last, rfl, hfirst, hlast⟩ := map_fst_eq_append_cons hts
  obtain ⟨word, tail, rfl, htail⟩ := map_fst_eq_cons hlast
  obtain rfl := List.map_eq_nil_iff.1 htail
  rw [List.append_assoc]
  refine h _ _ _ _ hfirst ?_
  cases optional with
  | true => exact parses_memberOptional hlinks
  | false => exact parses_member hlinks

/-- An object or a callee with what links it to the bracket behind it. -/
theorem Heads.linked {ts : Lexemes} (h : Heads e ls) (optional : Bool)
    (hts : ts.map Prod.fst = ls ++ linkLexemes optional)
    (hlinks : ∀ link : Lexemes, link.map Prod.fst = linkLexemes optional →
      Parses (links e (link ++ more)) whole after) :
    Parses (prefixed (ts ++ more)) whole after := by
  obtain ⟨first, link, rfl, hfirst, hlink⟩ := List.map_eq_append_iff.1 hts
  rw [List.append_assoc]
  exact h _ _ _ _ hfirst (hlinks link hlink)

theorem Heads.index (h : Heads e ls)
    (hkey : ∀ ts rest : Lexemes, ts.map Prod.fst = ms → Clear goingOn rest →
      Parses (TemplateEngine.statement (ts ++ rest)) right rest) (optional : Bool) :
    Heads (.index e right optional)
      (ls ++ linkLexemes optional ++ .punct "[" :: (ms ++ [.punct "]"])) := by
  intro ts rest after whole hts hlinks
  obtain ⟨first, bracket, last, rfl, hfirst, hlast⟩ := map_fst_eq_append_cons hts
  obtain ⟨key, closing, rfl, hinner⟩ := map_fst_eq_concat hlast
  have hread := hkey key ((.punct "]", closing) :: rest) hinner (clear_punct (by decide))
  rw [List.append_assoc, List.cons_append, List.append_assoc]
  refine h.linked optional hfirst fun link hlink => ?_
  cases optional with
  | true =>
    obtain ⟨dot, tail, rfl, htail⟩ := map_fst_eq_cons hlink
    obtain rfl := List.map_eq_nil_iff.1 htail
    exact parses_indexOptional hread hlinks
  | false =>
    obtain rfl := List.map_eq_nil_iff.1 hlink
    exact parses_index hread hlinks

theorem Heads.call {args : List Expr} (h : Heads e ls)
    (hargs : ∀ (ts rest : Lexemes) (last : Nat), ts.map Prod.fst = ms →
      Parses (arguments (ts ++ (.punct ")", last) :: rest)) args rest) (optional : Bool) :
    Heads (.call e args optional)
      (ls ++ linkLexemes optional ++ .punct "(" :: (ms ++ [.punct ")"])) := by
  intro ts rest after whole hts hlinks
  obtain ⟨first, bracket, last, rfl, hfirst, hlast⟩ := map_fst_eq_append_cons hts
  obtain ⟨inner, closing, rfl, hinner⟩ := map_fst_eq_concat hlast
  have hread := hargs inner rest closing hinner
  rw [List.append_assoc, List.cons_append, List.append_assoc]
  refine h.linked optional hfirst fun link hlink => ?_
  cases optional with
  | true =>
    obtain ⟨dot, tail, rfl, htail⟩ := map_fst_eq_cons hlink
    obtain rfl := List.map_eq_nil_iff.1 htail
    exact parses_callOptional hread hlinks
  | false =>
    obtain rfl := List.map_eq_nil_iff.1 hlink
    exact parses_call hread hlinks

/-! Operators. -/

/-- An expression that starts with an operator. -/
theorem parsed_of_prefixed (hchain : e.isChain = false)
    (h : ∀ ts rest : Lexemes, ts.map Prod.fst = lexemes e → Clear linkSigns rest →
      Parses (prefixed (ts ++ rest)) e rest) : Parsed e where
  reads ts rest hts hrest :=
    parses_alone (h ts rest hts (hrest.mono (by decide))) hrest
  heads he := absurd he (by simp [hchain])

theorem parsed_unary (op : UnaryOp) (h : Parsed e) : Parsed (.unary op e) := by
  refine parsed_of_prefixed rfl fun ts rest hts hrest => ?_
  obtain ⟨offset, operand, rfl, hoperand⟩ := map_fst_eq_cons hts
  exact parses_unary (by cases op <;> rfl) (h.wrapped.operand hoperand hrest)

theorem parsed_await (h : Parsed e) : Parsed (.await e) := by
  refine parsed_of_prefixed rfl fun ts rest hts hrest => ?_
  obtain ⟨offset, operand, rfl, hoperand⟩ := map_fst_eq_cons hts
  exact parses_await (h.wrapped.operand hoperand hrest)

/-- Every operator has its level. -/
theorem level_of_operator (op : Operator) : ∃ before level tighter,
    levels = before ++ level :: tighter ∧ level.lookup op.text = some op ∧
      ∀ level ∈ tighter, level.lookup op.text = none := by
  let i := levels.findIdx fun level => level.lookup op.text == some op
  refine ⟨levels.take i, levels.getD i [], levels.drop (i + 1), ?_⟩
  rcases op with op | op <;> cases op <;> decide

theorem parsed_operation (op : Operator) (hleft : Parsed left) (hright : Parsed right)
    (hls : lexemes (op.apply left right) = wrappedLexemes left (lexemes left) ++ .punct op.text ::
      wrappedLexemes right (lexemes right)) : Parsed (op.apply left right) where
  reads ts rest hts hrest := by
    obtain ⟨first, offset, second, rfl, hfirst, hsecond⟩ := map_fst_eq_append_cons (hts.trans hls)
    obtain ⟨before, level, tighter, hlevels, hop, hnone⟩ := level_of_operator op
    have hoperators := hrest.operators (by decide)
    rw [hlevels] at hoperators
    obtain ⟨hbefore, hlevel⟩ := List.forall_mem_append.1 hoperators
    obtain ⟨hlevel, htighter⟩ := List.forall_mem_cons.1 hlevel
    have hlink : op.text ∉ linkSigns := by
      rcases op with op | op <;> cases op <;> decide
    -- Both operands are read at the levels below that of the operator.
    have hwhole : Parses (operation (level :: tighter)
        (first ++ (.punct op.text, offset) :: (second ++ rest))) (op.apply left right) rest :=
      parses_operator (hleft.wrapped.separated hfirst hlink hnone) hop
        (parses_unjoined (hright.wrapped.operand hsecond (hrest.mono (by decide))) htighter) hlevel
    rw [List.append_assoc, List.cons_append]
    exact parses_end (hlevels ▸ parses_operation hwhole hbefore) hrest
  heads h := by cases op <;> cases h

theorem parsed_conditional {consequent alternate : Expr} (h : Parsed e)
    (hconsequent : Parsed consequent) (halternate : Parsed alternate) :
    Parsed (.conditional e consequent alternate) where
  reads ts rest hts hrest := by
    obtain ⟨first, question, last, rfl, hfirst, hlast⟩ := map_fst_eq_append_cons hts
    obtain ⟨second, colon, third, rfl, hsecond, hthird⟩ := map_fst_eq_append_cons hlast
    have hcolon : Clear goingOn ((.punct ":", colon) :: (third ++ rest)) := clear_punct (by decide)
    rw [List.append_assoc, List.cons_append, List.append_assoc, List.cons_append]
    refine parses_statement (parses_choice (h.wrapped.separated hfirst (by decide) (by decide))
      (hconsequent.wrapped.statement hsecond hcolon) (halternate.wrapped.statement hthird hrest))
      (hrest "=" (by decide))
  heads he := by cases he

theorem parsed_assign (hleft : Parsed left) (hright : Parsed right) (htarget : left.isTarget) :
    Parsed (.assign left right) where
  reads ts rest hts hrest := by
    obtain ⟨first, equals, last, rfl, hfirst, hlast⟩ := map_fst_eq_append_cons hts
    rw [List.append_assoc, List.cons_append]
    exact parses_assign (parses_conditional
      (hleft.wrapped.separated hfirst (by decide) (by decide)) (take?_other (by decide))) htarget
      (hright.wrapped.statement hlast hrest)
  heads he := by cases he

/-! Lists. -/

theorem itemLexemes_singleton : itemLexemes [e] = lexemes e := by
  simp [itemLexemes, gapLexemes]

theorem itemLexemes_cons {next : Expr} : itemLexemes (e :: next :: later) =
    lexemes e ++ .punct "," :: itemLexemes (next :: later) := by
  simp [itemLexemes, gapLexemes]

theorem entryLexemes_singleton : entryLexemes [(key, e)] =
    .string key :: .punct ":" :: lexemes e := by
  simp [entryLexemes, gapLexemes]

theorem entryLexemes_cons {next : String × Expr} {fields : List (String × Expr)} :
    entryLexemes ((key, e) :: next :: fields) =
      .string key :: .punct ":" :: (lexemes e ++ .punct "," :: entryLexemes (next :: fields)) := by
  simp [entryLexemes, gapLexemes]

/-- Any number of arguments. -/
theorem parses_args (args : List Expr)
    (h : args ≠ [] → ∀ (ts rest : Lexemes) (last : Nat), ts.map Prod.fst = itemLexemes args →
      Parses (moreArguments (ts ++ (.punct ")", last) :: rest)) args rest ∧
        take? ")" (ts ++ (.punct ")", last) :: rest) = none)
    (ts rest : Lexemes) (last : Nat) (hts : ts.map Prod.fst = itemLexemes args) :
    Parses (arguments (ts ++ (.punct ")", last) :: rest)) args rest := by
  cases args with
  | nil =>
    obtain rfl := List.map_eq_nil_iff.1 hts
    exact parses_arguments_nil
  | cons e later =>
    obtain ⟨hmore, hclose⟩ := h nofun ts rest last hts
    exact parses_arguments hmore hclose

/-! All expressions. -/

mutual

theorem parsed : (e : Expr) → Spellable digits e → Parsed e
  | .number _, _ => (heads_single rfl rfl fun _ _ => parses_number).parsed
  | .string _, _ => (heads_single rfl rfl fun _ _ => parses_string).parsed
  | .bool b, _ => by
    cases b with
    | true => exact (heads_single rfl rfl fun _ _ => parses_word).parsed
    | false => exact (heads_single rfl rfl fun _ _ => parses_word).parsed
  | .null, _ => (heads_single rfl rfl fun _ _ => parses_word).parsed
  | .undefined, _ => (heads_single rfl rfl fun _ _ => parses_word).parsed
  | .root, _ => (heads_single rfl rfl fun _ _ => parses_word).parsed
  | .ident _, h => (heads_ident h.2).parsed
  | .array items, h => (heads_bracketed rfl fun ts rest _ last hts =>
      parses_array (parsedItems items h ts rest last hts)).parsed
  | .object entries, h => (heads_bracketed rfl fun ts rest _ last hts =>
      parses_object (parsedEntries entries h ts rest last hts)).parsed
  | .member holder _ optional, h => ((parsed holder h.1).wrapped.member optional).parsed
  | .index holder key optional, h =>
    ((parsed holder h.1).wrapped.index (parsed key h.2).reads optional).parsed
  | .call callee args optional, h =>
    ((parsed callee h.1).wrapped.call (parses_args args fun hne =>
      parsedArguments args hne h.2) optional).parsed
  | .unary op operand, h => parsed_unary op (parsed operand h)
  | .await operand, h => parsed_await (parsed operand h)
  | .binary op left right, h =>
    parsed_operation (.binary op) (parsed left h.1) (parsed right h.2) rfl
  | .logical op left right, h =>
    parsed_operation (.logical op) (parsed left h.1) (parsed right h.2) rfl
  | .conditional test consequent alternate, h =>
    parsed_conditional (parsed test h.1) (parsed consequent h.2.1) (parsed alternate h.2.2)
  | .assign target value, h => parsed_assign (parsed target h.2.1) (parsed value h.2.2) h.1

theorem parsedItems : (items : List Expr) → AllSpellable digits items →
    ∀ (ts rest : Lexemes) (last : Nat), ts.map Prod.fst = itemLexemes items →
      Parses (TemplateEngine.items (ts ++ (.punct "]", last) :: rest)) items rest
  | [], _, ts, rest, last, hts => by
    obtain rfl := List.map_eq_nil_iff.1 hts
    exact parses_items_nil
  | [e], h, ts, rest, last, hts => by
    rw [itemLexemes_singleton] at hts
    have hread := (parsed e h.1).followed "]" last rest hts (by decide)
    exact parses_items_last hread (hread.front (by decide))
  | e :: next :: later, h, ts, rest, last, hts => by
    obtain ⟨first, comma, others, rfl, hfirst, hothers⟩ :=
      map_fst_eq_append_cons (hts.trans itemLexemes_cons)
    have hread := (parsed e h.1).followed "," comma (others ++ (.punct "]", last) :: rest) hfirst
      (by decide)
    rw [List.append_assoc]
    exact parses_items_cons hread (hread.front (by decide))
      (parsedItems (next :: later) h.2 others rest last hothers)

/-- At least one argument, the first of which does not start with the closing parenthesis. -/
theorem parsedArguments : (args : List Expr) → args ≠ [] → AllSpellable digits args →
    ∀ (ts rest : Lexemes) (last : Nat), ts.map Prod.fst = itemLexemes args →
      Parses (moreArguments (ts ++ (.punct ")", last) :: rest)) args rest ∧
        take? ")" (ts ++ (.punct ")", last) :: rest) = none
  | [e], _, h, ts, rest, last, hts => by
    rw [itemLexemes_singleton] at hts
    have hread := (parsed e h.1).followed ")" last rest hts (by decide)
    exact ⟨parses_arguments_last hread, hread.front (by decide)⟩
  | e :: next :: later, _, h, ts, rest, last, hts => by
    obtain ⟨first, comma, others, rfl, hfirst, hothers⟩ :=
      map_fst_eq_append_cons (hts.trans itemLexemes_cons)
    have hread := (parsed e h.1).followed "," comma (others ++ (.punct ")", last) :: rest) hfirst
      (by decide)
    have hlater := parsedArguments (next :: later) nofun h.2 others rest last hothers
    rw [List.append_assoc]
    exact ⟨parses_arguments_cons hread hlater.1, hread.front (by decide)⟩

theorem parsedEntries : (entries : List (String × Expr)) → EntriesSpellable digits entries →
    ∀ (ts rest : Lexemes) (last : Nat), ts.map Prod.fst = entryLexemes entries →
      Parses (TemplateEngine.entries (ts ++ (.punct "\x7d", last) :: rest)) entries rest
  | [], _, ts, rest, last, hts => by
    obtain rfl := List.map_eq_nil_iff.1 hts
    exact parses_entries_nil
  | [(key, e)], h, ts, rest, last, hts => by
    obtain ⟨_, behind, rfl, hbehind⟩ := map_fst_eq_cons (hts.trans entryLexemes_singleton)
    obtain ⟨_, value, rfl, hvalue⟩ := map_fst_eq_cons hbehind
    exact parses_entries_last
      (.string ((parsed e h.1).followed "\x7d" last rest hvalue (by decide)))
  | (key, e) :: next :: later, h, ts, rest, last, hts => by
    obtain ⟨_, behind, rfl, hbehind⟩ := map_fst_eq_cons (hts.trans entryLexemes_cons)
    obtain ⟨_, value, rfl, hvalue⟩ := map_fst_eq_cons hbehind
    obtain ⟨first, comma, others, rfl, hfirst, hothers⟩ := map_fst_eq_append_cons hvalue
    have hread := (parsed e h.1).followed "," comma (others ++ (.punct "\x7d", last) :: rest) hfirst
      (by decide)
    rw [List.cons_append, List.cons_append, List.append_assoc]
    exact parses_entries_cons (.string hread)
      (parsedEntries (next :: later) h.2 others rest last hothers)

end

/-- The spelling of an expression, with its roots written out, is a program of this expression. -/
theorem parse_spell {e : Expr} (h : Spellable digits e) :
    Program.parse (String.ofList (e.spell digits ['$'])) = .ok [e] := by
  obtain ⟨ts, hsplit, hts⟩ := Lexeme.split_spell h
  have hread := (parsed e h).reads ts [] hts clear_nil
  rw [List.append_nil] at hread
  rw [Program.parse, hsplit]
  exact parses_program hread

end Expr

end TemplateEngine
