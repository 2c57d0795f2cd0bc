import TemplateEngine.Proofs.Expr.Grammar

/-!
# `Expr` · What is accepted

The reader accepts the programs of the grammar and nothing else.

* **`Reads`** says how the lexemes of each symbol are read. It depends on what follows them: the
  reader always goes on as far as it can, so it stops behind a symbol only if nothing that follows
  could belong to it.
* **`Continues`**: the lexemes of an operation are read as the left operand of the operators of its
  precedence behind them. The operators of one precedence group to the left, so a statement about
  operations with nothing behind them would not carry an induction.
* **Completeness** (`Derives.reads`, `program_of_isProgram`): by induction over derivations, whose
  cases are the rules of the grammar.
* **`program_eq_ok_iff`** and what follows from it: the program of a sequence of lexemes is unique.
-/

namespace TemplateEngine.Grammar

open TemplateEngine.Expr (Heads map_fst_eq_cons map_fst_eq_append_cons map_fst_eq_concat
  heads_single heads_bracketed)

variable {ls ms : List Lexeme} {ts rest after : Lexemes} {e left right whole : Expr}
  {level : Level} {tighter before : List Level} {op : Operator} {sign : String}

/-! ## Operations -/

theorem operator?_eq_none {offset : Nat} (h : level.lookup sign = none) :
    operator? level ((.punct sign, offset) :: rest) = none := by
  rw [operator?, h]
  rfl

/-- Lexemes are read as an operand of operators of the given levels, and as the left one of those
of the first level. -/
def Continues : List Level → List Lexeme → Expr → Prop
  | [], ls, e => ∀ ts rest : Lexemes, ts.map Prod.fst = ls → Clear linkSigns rest →
      Parses (prefixed (ts ++ rest)) e rest
  | level :: tighter, ls, e => ∀ (ts rest after : Lexemes) (whole : Expr), ts.map Prod.fst = ls →
      Clear linkSigns rest → (∀ other ∈ tighter, operator? other rest = none) →
        Parses (operands level tighter e rest) whole after →
          Parses (operation (level :: tighter) (ts ++ rest)) whole after

/-- An operation that no operator follows. -/
theorem Continues.closed (h : Continues before ls e) (hts : ts.map Prod.fst = ls)
    (hlinks : Clear linkSigns rest) (hnone : ∀ level ∈ before, operator? level rest = none) :
    Parses (operation before (ts ++ rest)) e rest := by
  cases before with
  | nil =>
    rw [operation]
    exact h ts rest hts hlinks
  | cons level tighter =>
    obtain ⟨hlevel, htighter⟩ := List.forall_mem_cons.1 hnone
    exact h ts rest rest e hts hlinks htighter (parses_left hlevel)

theorem Continues.loosened (h : Continues tighter ls e) : Continues (level :: tighter) ls e := by
  intro ts rest after whole hts hlinks hnone hwhole
  rw [operation]
  exact (h.closed hts hlinks hnone).bind fun _ => hwhole.bind fun _ => parses_ok _

theorem Continues.joined (hleft : Continues (level :: tighter) ls left)
    (hright : Continues tighter ms right) (hop : level.lookup sign = some op)
    (hlink : sign ∉ linkSigns) (hother : ∀ other ∈ tighter, other.lookup sign = none) :
    Continues (level :: tighter) (ls ++ .punct sign :: ms) (op.apply left right) := by
  intro ts rest after whole hts hlinks hnone hwhole
  obtain ⟨first, offset, second, rfl, hfirst, hsecond⟩ := map_fst_eq_append_cons hts
  rw [List.append_assoc, List.cons_append]
  refine hleft _ _ _ _ hfirst (clear_punct hlink)
    (fun other hmem => operator?_eq_none (hother other hmem)) ?_
  rw [operands]
  simp only [operator?, hop, Option.map_some]
  exact (hright.closed hsecond hlinks hnone).bind fun _ => hwhole.bind fun _ => parses_ok _

/-- The level of an operator is that of its precedence. -/
theorem drop_precedence (op : Operator) : ∃ level,
    levels.drop op.precedence = level :: levels.drop (op.precedence + 1) ∧
      level.lookup op.text = some op ∧
        ∀ other ∈ levels.drop (op.precedence + 1), other.lookup op.text = none := by
  refine ⟨levels.getD op.precedence [], ?_⟩
  rcases op with op | op <;> cases op <;> decide

/-! ## Symbols -/

/-- How the lexemes of a symbol are read. -/
def Reads : (s : Symbol) → List Lexeme → s.Meaning → Prop
  | .statement, ls, e => ∀ ts rest : Lexemes, ts.map Prod.fst = ls → Clear goingOn rest →
      Parses (statement (ts ++ rest)) e rest
  -- An equality sign behind a choice would belong to its last statement. What can be assigned to
  -- ends with an operand.
  | .conditional, ls, e => ∀ ts rest : Lexemes, ts.map Prod.fst = ls →
      Clear (goingOn.erase "=") rest → e.isTarget ∨ take? "=" rest = none →
        Parses (conditional (ts ++ rest)) e rest
  | .operation precedence, ls, e => precedence ≤ 7 ∧ Continues (levels.drop precedence) ls e
  | .prefixed, ls, e => Continues [] ls e
  | .chain, ls, e => Heads e ls
  | .operand, ls, e => Heads e ls
  | .arguments, ls, args => ∀ (ts rest : Lexemes) (close : Nat), ts.map Prod.fst = ls →
      Parses (arguments (ts ++ (.punct ")", close) :: rest)) args rest
  | .moreArguments, ls, args => ∀ (ts rest : Lexemes) (close : Nat), ts.map Prod.fst = ls →
      Parses (moreArguments (ts ++ (.punct ")", close) :: rest)) args rest ∧
        take? ")" (ts ++ (.punct ")", close) :: rest) = none
  | .items, ls, es => ∀ (ts rest : Lexemes) (close : Nat), ts.map Prod.fst = ls →
      Parses (items (ts ++ (.punct "]", close) :: rest)) es rest
  | .entry, ls, (key, e) => ∀ ts rest : Lexemes, ts.map Prod.fst = ls → Clear goingOn rest →
      take? ":" rest = none → ParsesEntry (ts ++ rest) key e rest
  | .entries, ls, fields => ∀ (ts rest : Lexemes) (close : Nat), ts.map Prod.fst = ls →
      Parses (entries (ts ++ (.punct "\x7d", close) :: rest)) fields rest

theorem Reads.followed (h : Reads .statement ls e) (sign : String) (offset : Nat) (rest : Lexemes)
    (hts : ts.map Prod.fst = ls) (hsign : sign ∉ goingOn) :
    Parses (statement (ts ++ (.punct sign, offset) :: rest)) e ((.punct sign, offset) :: rest) :=
  h ts _ hts (clear_punct hsign)

/-! Statements. -/

theorem clear_goingOn (h : Clear (goingOn.erase "=") rest) (hequals : take? "=" rest = none) :
    Clear goingOn rest := by
  intro sign hsign
  by_cases heq : sign = "="
  · rw [heq]
    exact hequals
  · exact h sign ((List.mem_erase_of_ne heq).2 hsign)

theorem reads_statement (h : Reads .conditional ls e) : Reads .statement ls e := by
  intro ts rest hts hrest
  have hequals := hrest "=" (by decide)
  exact parses_statement (h ts rest hts (hrest.mono (by decide)) (.inr hequals)) hequals

theorem reads_assign (hleft : Reads .conditional ls left) (htarget : left.isTarget)
    (hright : Reads .statement ms right) :
    Reads .statement (ls ++ .punct "=" :: ms) (.assign left right) := by
  intro ts rest hts hrest
  obtain ⟨first, equals, second, rfl, hfirst, hsecond⟩ := map_fst_eq_append_cons hts
  have htest : Parses (conditional (first ++ (.punct "=", equals) :: (second ++ rest))) left
      ((.punct "=", equals) :: (second ++ rest)) :=
    hleft first _ hfirst (clear_punct (by decide)) (.inl htarget)
  rw [List.append_assoc, List.cons_append]
  exact parses_assign htest htarget (hright second rest hsecond hrest)

theorem reads_conditional (h : Reads (.operation 0) ls e) : Reads .conditional ls e := by
  intro ts rest hts hrest _
  refine parses_conditional ?_ (hrest "?" (by decide))
  exact Continues.closed h.2 hts (hrest.mono (by decide)) (hrest.operators (by decide))

theorem reads_choice {ns : List Lexeme} {test consequent alternate : Expr}
    (htest : Reads (.operation 0) ls test) (hconsequent : Reads .statement ms consequent)
    (halternate : Reads .statement ns alternate) :
    Reads .conditional (ls ++ .punct "?" :: (ms ++ .punct ":" :: ns))
      (.conditional test consequent alternate) := by
  intro ts rest hts hrest hend
  obtain ⟨first, question, inner, rfl, hfirst, hinner⟩ := map_fst_eq_append_cons hts
  obtain ⟨second, colon, third, rfl, hsecond, hthird⟩ := map_fst_eq_append_cons hinner
  have hoperators : ∀ level ∈ levels, level.lookup "?" = none := by decide
  have hread : Parses (operation levels
      (first ++ (.punct "?", question) :: (second ++ (.punct ":", colon) :: (third ++ rest)))) test
      ((.punct "?", question) :: (second ++ (.punct ":", colon) :: (third ++ rest))) :=
    Continues.closed htest.2 hfirst (clear_punct (by decide))
      fun level hlevel => operator?_eq_none (hoperators level hlevel)
  have hequals : take? "=" rest = none := hend.resolve_left nofun
  rw [List.append_assoc, List.cons_append, List.append_assoc, List.cons_append]
  exact parses_choice hread (hconsequent.followed ":" colon _ hsecond (by decide))
    (halternate third rest hthird (clear_goingOn hrest hequals))

/-! Operations and operands. -/

theorem reads_tighter {n : Nat} (h : Reads (.operation (n + 1)) ls e) :
    Reads (.operation n) ls e := by
  refine ⟨Nat.le_of_succ_le h.1, ?_⟩
  rw [List.drop_eq_getElem_cons (show n < levels.length from h.1)]
  exact Continues.loosened h.2

theorem reads_joined (op : Operator) (hleft : Reads (.operation op.precedence) ls left)
    (hright : Reads (.operation (op.precedence + 1)) ms right) :
    Reads (.operation op.precedence) (ls ++ .punct op.text :: ms) (op.apply left right) := by
  obtain ⟨level, hdrop, hop, hother⟩ := drop_precedence op
  have hlink : op.text ∉ linkSigns := by
    rcases op with op | op <;> cases op <;> decide
  refine ⟨hleft.1, ?_⟩
  have hcontinues := hleft.2
  rw [hdrop] at hcontinues ⊢
  exact hcontinues.joined hright.2 hop hlink hother

theorem reads_unary (op : UnaryOp) (h : Reads .prefixed ls e) :
    Reads .prefixed (Expr.unaryLexeme op :: ls) (.unary op e) := by
  intro ts rest hts hrest
  obtain ⟨offset, operand, rfl, hoperand⟩ := map_fst_eq_cons hts
  exact parses_unary (by cases op <;> rfl) (h operand rest hoperand hrest)

theorem reads_await (h : Reads .prefixed ls e) :
    Reads .prefixed (.word "await" :: ls) (.await e) := by
  intro ts rest hts hrest
  obtain ⟨offset, operand, rfl, hoperand⟩ := map_fst_eq_cons hts
  exact parses_await (h operand rest hoperand hrest)

theorem reads_word {name : String} (htypeof : name ≠ "typeof") (hawait : name ≠ "await") :
    Reads .operand [.word name] (wordExpr name) := by
  refine heads_single ?_ (beq_false_of_ne (a := name) hawait) fun _ _ => parses_word
  unfold unaryOp?
  split <;> simp_all

/-! Lists. -/

theorem reads_arguments {args : List Expr} (h : Reads .moreArguments ls args) :
    Reads .arguments ls args := by
  intro ts rest close hts
  obtain ⟨hread, hclose⟩ := h ts rest close hts
  exact parses_arguments hread hclose

theorem reads_lastArgument (h : Reads .statement ls e) : Reads .moreArguments ls [e] := by
  intro ts rest close hts
  have hread := h.followed ")" close rest hts (by decide)
  exact ⟨parses_arguments_last hread, hread.front (by decide)⟩

theorem reads_argument {later : List Expr} (h : Reads .statement ls e)
    (hlater : Reads .moreArguments ms later) :
    Reads .moreArguments (ls ++ .punct "," :: ms) (e :: later) := by
  intro ts rest close hts
  obtain ⟨first, comma, others, rfl, hfirst, hothers⟩ := map_fst_eq_append_cons hts
  have hread := h.followed "," comma (others ++ (.punct ")", close) :: rest) hfirst
    (by decide)
  rw [List.append_assoc, List.cons_append]
  exact ⟨parses_arguments_cons hread (hlater others rest close hothers).1,
    hread.front (by decide)⟩

theorem reads_lastItem (h : Reads .statement ls e) : Reads .items ls [e] := by
  intro ts rest close hts
  have hread := h.followed "]" close rest hts (by decide)
  exact parses_items_last hread (hread.front (by decide))

theorem reads_item {later : List Expr} (h : Reads .statement ls e)
    (hlater : Reads .items ms later) :
    Reads .items (ls ++ .punct "," :: ms) (e :: later) := by
  intro ts rest close hts
  obtain ⟨first, comma, others, rfl, hfirst, hothers⟩ := map_fst_eq_append_cons hts
  have hread := h.followed "," comma (others ++ (.punct "]", close) :: rest) hfirst
    (by decide)
  rw [List.append_assoc, List.cons_append]
  exact parses_items_cons hread (hread.front (by decide)) (hlater others rest close hothers)

/-! Entries. -/

variable {l : Lexeme} {key : String}

theorem parses_entryKey {offset : Nat} (h : l.key? = some key) :
    Parses (entryKey ((l, offset) :: rest)) key rest := by
  cases l with
  | punct sign => cases h
  | word name =>
    cases h
    exact parses_ok _
  | string s =>
    cases h
    exact parses_ok _
  | number x =>
    cases h
    exact parses_ok _

theorem take?_key {offset : Nat} (h : l.key? = some key) :
    take? sign ((l, offset) :: rest) = none := by
  cases l with
  | punct sign => cases h
  | word name => rfl
  | string s => rfl
  | number x => rfl

theorem reads_keyed (hl : l.key? = some key) (h : Reads .statement ls e) :
    Reads .entry (l :: .punct ":" :: ls) (key, e) := by
  intro ts rest hts hrest _
  obtain ⟨offset, behind, rfl, hbehind⟩ := map_fst_eq_cons hts
  obtain ⟨colon, value, rfl, hvalue⟩ := map_fst_eq_cons hbehind
  exact ⟨take?_key hl, _, parses_entryKey hl, parses_entryValue (h value rest hvalue hrest)⟩

theorem reads_shorthand (hl : l.key? = some key) : Reads .entry [l] (key, .ident key) := by
  intro ts rest hts _ hcolon
  obtain ⟨offset, behind, rfl, hbehind⟩ := map_fst_eq_cons hts
  obtain rfl := List.map_eq_nil_iff.1 hbehind
  refine ⟨take?_key hl, rest, parses_entryKey hl, ?_⟩
  rw [entryValue]
  simp only [hcolon]
  exact parses_ok _

theorem reads_lastEntry (h : Reads .entry ls (key, e)) : Reads .entries ls [(key, e)] := by
  intro ts rest close hts
  exact parses_entries_last (h ts _ hts (clear_punct (by decide)) (take?_other (by decide)))

theorem reads_entry {fields : List (String × Expr)} (h : Reads .entry ls (key, e))
    (hlater : Reads .entries ms fields) :
    Reads .entries (ls ++ .punct "," :: ms) ((key, e) :: fields) := by
  intro ts rest close hts
  obtain ⟨first, comma, others, rfl, hfirst, hothers⟩ := map_fst_eq_append_cons hts
  have hread := h first ((.punct ",", comma) :: (others ++ (.punct "\x7d", close) :: rest)) hfirst
    (clear_punct (by decide)) (take?_other (by decide))
  rw [List.append_assoc, List.cons_append]
  exact parses_entries_cons hread (hlater others rest close hothers)

/-! ## Derivations -/

/-- Whatever is derived is read. -/
theorem Derives.reads {s : Symbol} {ls : List Lexeme} {a : s.Meaning} (h : Derives s ls a) :
    Reads s ls a := by
  induction h with
  | conditional _ ih => exact reads_statement ih
  | assign _ htarget _ ihtarget ihvalue => exact reads_assign ihtarget htarget ihvalue
  | operation _ ih => exact reads_conditional ih
  | choice _ _ _ ihtest ihconsequent ihalternate =>
    exact reads_choice ihtest ihconsequent ihalternate
  | tighter _ ih => exact reads_tighter ih
  | joined op _ _ ihleft ihright => exact reads_joined op ihleft ihright
  | prefixed _ ih => exact ⟨Nat.le_refl 7, ih⟩
  | unary op _ ih => exact reads_unary op ih
  | await _ ih => exact reads_await ih
  | chain _ ih => exact fun _ _ hts hrest => Heads.operand ih hts hrest
  | operand _ ih => exact ih
  | member optional _ ih => exact Heads.member ih optional
  | index optional _ _ ih ihkey => exact Heads.index ih ihkey optional
  | call optional _ _ ih ihargs => exact Heads.call ih ihargs optional
  | number x => exact heads_single rfl rfl fun _ _ => parses_number
  | string s => exact heads_single rfl rfl fun _ _ => parses_string
  | word htypeof hawait => exact reads_word htypeof hawait
  | parenthesized _ ih =>
    exact heads_bracketed rfl fun ts rest _ _ hts =>
      parses_parenthesized (ih ts _ hts (clear_punct (by decide)))
  | array _ ih =>
    exact heads_bracketed rfl fun ts rest _ last hts => parses_array (ih ts rest last hts)
  | object _ ih =>
    exact heads_bracketed rfl fun ts rest _ last hts => parses_object (ih ts rest last hts)
  | noArguments =>
    intro ts rest close hts
    obtain rfl := List.map_eq_nil_iff.1 hts
    exact parses_arguments_nil
  | someArguments _ ih => exact reads_arguments ih
  | lastArgument _ ih => exact reads_lastArgument ih
  | argument _ _ ih ihlater => exact reads_argument ih ihlater
  | noItems =>
    intro ts rest close hts
    obtain rfl := List.map_eq_nil_iff.1 hts
    exact parses_items_nil
  | lastItem _ ih => exact reads_lastItem ih
  | item _ _ ih ihlater => exact reads_item ih ihlater
  | keyed hl _ ih => exact reads_keyed hl ih
  | shorthand hl => exact reads_shorthand hl
  | noEntries =>
    intro ts rest close hts
    obtain rfl := List.map_eq_nil_iff.1 hts
    exact parses_entries_nil
  | lastEntry _ ih => exact reads_lastEntry ih
  | entry _ _ ih ihlater => exact reads_entry ih ihlater

/-! Programs. -/

theorem program_semicolon {offset : Nat} :
    program ((.punct ";", offset) :: rest) = program rest := by
  rw [program]

/-- A statement with a semicolon and a program behind it. -/
theorem program_cons {offset : Nat} {p : Program}
    (h : Parses (statement ts) e ((.punct ";", offset) :: rest)) (hrest : program rest = .ok p) :
    program ts = .ok (e :: p) := by
  obtain ⟨t, more, rfl, hsemicolon⟩ := h.starts
  obtain ⟨⟨_, hleft⟩, hstatement, rfl⟩ := h
  rw [program.eq_3 t more hsemicolon, hstatement]
  simp only [take?_punct, hrest]
  rfl

/-- Every program of the grammar is read as what it means. -/
theorem program_of_isProgram {p : Program} (h : IsProgram ls p) (hts : ts.map Prod.fst = ls) :
    program ts = .ok p := by
  induction h generalizing ts with
  | nil =>
    obtain rfl := List.map_eq_nil_iff.1 hts
    rw [program]
  | semicolon _ ih =>
    obtain ⟨offset, later, rfl, hlater⟩ := map_fst_eq_cons hts
    rw [program_semicolon]
    exact ih hlater
  | last h =>
    have hread := h.reads ts [] hts clear_nil
    rw [List.append_nil] at hread
    exact parses_program hread
  | cons h _ ih =>
    obtain ⟨first, offset, later, rfl, hfirst, hlater⟩ := map_fst_eq_append_cons hts
    exact program_cons (Reads.followed h.reads ";" offset later hfirst (by decide)) (ih hlater)

/-! ## The reader -/

theorem program_eq_ok_iff {p : Program} : program ts = .ok p ↔ IsProgram (ts.map Prod.fst) p :=
  ⟨isProgram_of_program, fun h => program_of_isProgram h rfl⟩

theorem IsProgram.unique {p q : Program} (hp : IsProgram ls p) (hq : IsProgram ls q) : p = q := by
  have hls : (ls.map fun l => (l, 0)).map Prod.fst = ls := by
    rw [List.map_map]
    exact List.map_id' ls
  have hread := program_of_isProgram hp hls
  rw [program_of_isProgram hq hls] at hread
  cases hread
  rfl

/-- The reader gives a program exactly if the whole sequence of lexemes is derived as this program.
It ends on every sequence: with the only program that is derived from it, or with a fault if there
is none. -/
theorem program_accepts_grammar (ts : Lexemes) :
    (∀ p, program ts = .ok p ↔ IsProgram (ts.map Prod.fst) p) ∧
      ((∃ p, program ts = .ok p ∧ ∀ q, IsProgram (ts.map Prod.fst) q ↔ q = p) ∨
        ∃ fault, program ts = .error fault ∧ ∀ p, ¬IsProgram (ts.map Prod.fst) p) := by
  refine ⟨fun _ => program_eq_ok_iff, ?_⟩
  cases h : program ts with
  | ok p =>
    have hp := isProgram_of_program h
    refine .inl ⟨p, rfl, fun q => ⟨fun hq => hq.unique hp, ?_⟩⟩
    rintro rfl
    exact hp
  | error fault =>
    refine .inr ⟨fault, rfl, fun p hp => ?_⟩
    rw [program_eq_ok_iff.2 hp] at h
    cases h

/-! Texts. -/

theorem parse_of_splits {text : List Char} {p : Program} (h : Lexeme.Splits text ls [])
    (hp : IsProgram ls p) : Program.parse (String.ofList text) = .ok p := by
  obtain ⟨ts, hsplit, hts⟩ := h.split
  rw [Program.parse, hsplit]
  exact program_of_isProgram hp hts

/-- The sum of two texts. -/
theorem parse_sum (a b : String) :
    Program.parse (String.ofList (quoted a ++ " + ".toList ++ quoted b)) =
      .ok [.binary .add (.string a) (.string b)] := by
  have hplus : Lexeme.Splits " + ".toList [.punct "+"] (quoted b ++ []) :=
    .space ((Lexeme.splits_operator (.binary .add)).append (.space .nil))
  refine parse_of_splits (((Lexeme.splits_quoted a).append hplus).append
    (Lexeme.splits_quoted b)) ?_
  have hsum : Derives (.operation 5) ([.string a] ++ .punct "+" :: [.string b])
      (.binary .add (.string a) (.string b)) :=
    .joined (.binary .add) (Derives.unjoined (.operand (.string a)) (by decide))
      (Derives.unjoined (.operand (.string b)) (by decide))
  exact .last hsum.stated

end TemplateEngine.Grammar
