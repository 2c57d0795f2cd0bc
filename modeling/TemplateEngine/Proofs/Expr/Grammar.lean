import TemplateEngine.Proofs.Expr.Parsing

/-!
# `Expr` · The grammar of programs

Which sequences of lexemes are programs, without regard to how they are read.

* **`Grammar.Derives`**: a sequence of lexemes is what a symbol of the grammar stands for, with the
  meaning that this has. Its rules are those of a precedence grammar. Operators of one precedence
  group to the left, because only their left operand may have the same precedence; assignments and
  conditionals group to the right.
* **`Grammar.IsProgram`**: statements with semicolons between them, before them and after them, as
  many as one likes.
* **Soundness** (`covers_statement`, `isProgram_of_program`): what the reader takes off a sequence
  of lexemes is derived, with the meaning that the reader gives. There is one statement for each
  function of the reader, and all of them are one recursion, which follows that of the reader.
-/

namespace TemplateEngine

/-- How tightly an operator binds its operands, from `0` for the loosest one. -/
def Operator.precedence : Operator → Nat
  | .logical .nullish => 0
  | .logical .or => 1
  | .logical .and => 2
  | .binary .strictEq => 3
  | .binary .strictNe => 3
  | .binary .looseEq => 3
  | .binary .looseNe => 3
  | .binary .le => 4
  | .binary .ge => 4
  | .binary .lt => 4
  | .binary .gt => 4
  | .binary .add => 5
  | .binary .sub => 5
  | .binary .mul => 6
  | .binary .div => 6
  | .binary .rem => 6

/-- The key that a lexeme stands for in front of the value of an entry. -/
def Lexeme.key? : Lexeme → Option String
  | .word name => some name
  | .string s => some s
  | .number x => some (Decimal.numberText x)
  | .punct _ => none

namespace Grammar

open TemplateEngine.Expr (linkLexemes unaryLexeme)

/-- What a sequence of lexemes can be. -/
inductive Symbol where
  /-- A conditional or an assignment. -/
  | statement
  /-- An operation, or a choice between two statements. -/
  | conditional
  /-- Operands joined by operators of this precedence or a tighter one. -/
  | operation (precedence : Nat)
  /-- A chain with operators in front of it. -/
  | prefixed
  /-- An operand with members, keys and calls after it. -/
  | chain
  /-- A literal, a name, or a statement in parentheses. -/
  | operand
  /-- The arguments of a call. -/
  | arguments
  /-- At least one argument. -/
  | moreArguments
  /-- The items of an array. -/
  | items
  /-- An entry of an object. -/
  | entry
  /-- The entries of an object. -/
  | entries

/-- What the lexemes of a symbol mean. -/
abbrev Symbol.Meaning : Symbol → Type
  | .arguments => List Expr
  | .moreArguments => List Expr
  | .items => List Expr
  | .entry => String × Expr
  | .entries => List (String × Expr)
  | _ => Expr

/-- Lexemes are derived from a symbol with a meaning. -/
inductive Derives : (s : Symbol) → List Lexeme → s.Meaning → Prop where
  /-- `conditional` -/
  | conditional {ls e} : Derives .conditional ls e → Derives .statement ls e
  /-- `conditional = statement`, where the left side is a name or a member that is not optional. -/
  | assign {ls target ms value} : Derives .conditional ls target → target.isTarget →
      Derives .statement ms value →
        Derives .statement (ls ++ .punct "=" :: ms) (.assign target value)
  /-- `operation` -/
  | operation {ls e} : Derives (.operation 0) ls e → Derives .conditional ls e
  /-- `operation ? statement : statement` -/
  | choice {ls test ms consequent ns alternate} : Derives (.operation 0) ls test →
      Derives .statement ms consequent → Derives .statement ns alternate →
        Derives .conditional (ls ++ .punct "?" :: (ms ++ .punct ":" :: ns))
          (.conditional test consequent alternate)
  /-- An operation of tighter operators. -/
  | tighter {n ls e} : Derives (.operation (n + 1)) ls e → Derives (.operation n) ls e
  /-- The right operand of an operator has tighter operators only. -/
  | joined {ls left ms right} (op : Operator) : Derives (.operation op.precedence) ls left →
      Derives (.operation (op.precedence + 1)) ms right →
        Derives (.operation op.precedence) (ls ++ .punct op.text :: ms) (op.apply left right)
  /-- No operator binds tighter than those in front of an operand. -/
  | prefixed {ls e} : Derives .prefixed ls e → Derives (.operation 7) ls e
  /-- `! prefixed`, `- prefixed`, `+ prefixed`, `typeof prefixed` -/
  | unary {ls e} (op : UnaryOp) : Derives .prefixed ls e →
      Derives .prefixed (unaryLexeme op :: ls) (.unary op e)
  /-- `await prefixed` -/
  | await {ls e} : Derives .prefixed ls e → Derives .prefixed (.word "await" :: ls) (.await e)
  /-- `chain` -/
  | chain {ls e} : Derives .chain ls e → Derives .prefixed ls e
  /-- `operand` -/
  | operand {ls e} : Derives .operand ls e → Derives .chain ls e
  /-- `chain . name`, `chain ?. name` -/
  | member {ls holder name} (optional : Bool) : Derives .chain ls holder →
      Derives .chain (ls ++ [.punct (if optional then "?." else "."), .word name])
        (.member holder name optional)
  /-- `chain [ statement ]`, `chain ?. [ statement ]` -/
  | index {ls holder ms key} (optional : Bool) : Derives .chain ls holder →
      Derives .statement ms key →
        Derives .chain (ls ++ linkLexemes optional ++ .punct "[" :: (ms ++ [.punct "]"]))
          (.index holder key optional)
  /-- `chain ( arguments )`, `chain ?. ( arguments )` -/
  | call {ls callee ms args} (optional : Bool) : Derives .chain ls callee →
      Derives .arguments ms args →
        Derives .chain (ls ++ linkLexemes optional ++ .punct "(" :: (ms ++ [.punct ")"]))
          (.call callee args optional)
  /-- A number. -/
  | number (x : Float) : Derives .operand [.number x] (.number x)
  /-- A text. -/
  | string (s : String) : Derives .operand [.string s] (.string s)
  /-- A name, or the literal that a word stands for. -/
  | word {name} : name ≠ "typeof" → name ≠ "await" → Derives .operand [.word name] (wordExpr name)
  /-- `( statement )` -/
  | parenthesized {ls e} : Derives .statement ls e →
      Derives .operand (.punct "(" :: (ls ++ [.punct ")"])) e
  /-- `[ items ]` -/
  | array {ls es} : Derives .items ls es →
      Derives .operand (.punct "[" :: (ls ++ [.punct "]"])) (.array es)
  /-- The entries in braces. -/
  | object {ls fields} : Derives .entries ls fields →
      Derives .operand (.punct "\x7b" :: (ls ++ [.punct "\x7d"])) (.object fields)
  /-- No arguments. -/
  | noArguments : Derives .arguments [] []
  /-- At least one. -/
  | someArguments {ls args} : Derives .moreArguments ls args → Derives .arguments ls args
  /-- `statement` -/
  | lastArgument {ls e} : Derives .statement ls e → Derives .moreArguments ls [e]
  /-- `statement , moreArguments` -/
  | argument {ls e ms later} : Derives .statement ls e → Derives .moreArguments ms later →
      Derives .moreArguments (ls ++ .punct "," :: ms) (e :: later)
  /-- No items, also after a comma. -/
  | noItems : Derives .items [] []
  /-- `statement` -/
  | lastItem {ls e} : Derives .statement ls e → Derives .items ls [e]
  /-- `statement , items` -/
  | item {ls e ms later} : Derives .statement ls e → Derives .items ms later →
      Derives .items (ls ++ .punct "," :: ms) (e :: later)
  /-- `key : statement` -/
  | keyed {l k ls e} : l.key? = some k → Derives .statement ls e →
      Derives .entry (l :: .punct ":" :: ls) (k, e)
  /-- A key alone stands for the name that it is. -/
  | shorthand {l k} : l.key? = some k → Derives .entry [l] (k, .ident k)
  /-- No entries, also after a comma. -/
  | noEntries : Derives .entries [] []
  /-- `entry` -/
  | lastEntry {ls field} : Derives .entry ls field → Derives .entries ls [field]
  /-- `entry , entries` -/
  | entry {ls field ms fields} : Derives .entry ls field → Derives .entries ms fields →
      Derives .entries (ls ++ .punct "," :: ms) (field :: fields)

/-- Lexemes are the statements of a program with semicolons between them. -/
inductive IsProgram : List Lexeme → Program → Prop where
  /-- Nothing. -/
  | nil : IsProgram [] []
  /-- A semicolon without a statement in front of it. -/
  | semicolon {ls program} : IsProgram ls program → IsProgram (.punct ";" :: ls) program
  /-- The last statement. -/
  | last {ls e} : Derives .statement ls e → IsProgram ls [e]
  /-- A statement and a semicolon. -/
  | cons {ls ms e program} : Derives .statement ls e → IsProgram ms program →
      IsProgram (ls ++ .punct ";" :: ms) (e :: program)

/-! What stands for a symbol also stands for looser ones. -/

section Looser

variable {ls : List Lexeme} {e : Expr} {name : String} {n m : Nat}

theorem Derives.ident (h : name ∉ Expr.reservedWords) :
    Derives .operand [.word name] (.ident name) := by
  have hword := Expr.wordExpr_eq_ident h
  simp only [Expr.reservedWords, List.mem_cons, List.not_mem_nil, or_false, not_or] at h
  exact hword ▸ .word h.2.2.2.2.2.1 h.2.2.2.2.2.2

theorem Derives.loosened (h : Derives (.operation n) ls e) (hm : m ≤ n) :
    Derives (.operation m) ls e := by
  induction hm with
  | refl => exact h
  | step _ ih => exact ih (.tighter h)

/-- A chain is an operation of any precedence. -/
theorem Derives.unjoined (h : Derives .chain ls e) (hn : n ≤ 7) : Derives (.operation n) ls e :=
  (Derives.prefixed (.chain h)).loosened hn

theorem Derives.stated (h : Derives (.operation n) ls e) : Derives .statement ls e :=
  .conditional (.operation (h.loosened (Nat.zero_le n)))

end Looser

/-! ## What the reader takes off -/

section Soundness

variable {ts rest more : Lexemes} {α β : Type} {text : String}

theorem bind_eq_ok {x : Except ParseFault α} {f : α → Except ParseFault β} {b : β}
    (h : x >>= f = .ok b) : ∃ a, x = .ok a ∧ f a = .ok b := by
  cases x with
  | error fault => cases h
  | ok a => exact ⟨a, rfl, h⟩

/-! Single lexemes. -/

variable {hmore : more.length < ts.length}

theorem eq_cons_of_take? (h : take? text ts = some ⟨more, hmore⟩) :
    ∃ offset, ts = (.punct text, offset) :: more := by
  unfold take? at h
  split at h
  · next p offset rest =>
    split at h
    · next hp =>
      cases h
      exact ⟨offset, by rw [hp]⟩
    · cases h
  · cases h

theorem eq_cons_of_expect (h : expect text ts = .ok ⟨more, hmore⟩) :
    ∃ offset, ts = (.punct text, offset) :: more := by
  unfold expect at h
  split at h
  · next rest htake =>
    cases h
    exact eq_cons_of_take? htake
  · cases h

theorem eq_cons_of_memberName {name : String} (h : memberName ts = .ok (name, ⟨more, hmore⟩)) :
    ∃ offset, ts = (.word name, offset) :: more := by
  unfold memberName at h
  split at h
  · next word offset rest =>
    cases h
    exact ⟨offset, rfl⟩
  · cases h

theorem eq_cons_of_entryKey {key : String} (h : entryKey ts = .ok (key, ⟨more, hmore⟩)) :
    ∃ l offset, ts = (l, offset) :: more ∧ l.key? = some key := by
  unfold entryKey at h
  split at h
  case h_4 => cases h
  all_goals
    cases h
    exact ⟨_, _, rfl, rfl⟩

theorem eq_cons_of_operator? {level : Level} {op : Operator}
    (h : operator? level ts = some (op, ⟨more, hmore⟩)) :
    ∃ sign offset, ts = (.punct sign, offset) :: more ∧ level.lookup sign = some op := by
  unfold operator? at h
  split at h
  · next sign offset rest =>
    obtain ⟨other, hother, h⟩ := Option.map_eq_some_iff.1 h
    cases h
    exact ⟨sign, offset, rfl, hother⟩
  · cases h

theorem eq_unaryLexeme {l : Lexeme} {op : UnaryOp} (h : unaryOp? l = some op) :
    l = unaryLexeme op := by
  unfold unaryOp? at h
  split at h
  case h_5 => cases h
  all_goals
    cases h
    rfl

theorem eq_word {l : Lexeme} {name : String} (h : l == .word name) : l = .word name := by
  cases l with
  | word other => exact congrArg Lexeme.word (eq_of_beq (α := String) h)
  | number x => cases h
  | string s => cases h
  | punct sign => cases h

/-- A word that is read as an operand is not reserved. -/
theorem not_reserved {name : String} (hop : unaryOp? (.word name) = none)
    (hawait : ¬Lexeme.word name == .word "await") : name ≠ "typeof" ∧ name ≠ "await" := by
  refine ⟨?_, ?_⟩
  · rintro rfl
    cases hop
  · rintro rfl
    exact hawait rfl

/-! The table of levels. -/

section Levels

variable {n : Nat} {level : Level} {tighter : List Level}

theorem precedence_lt (h : levels.drop n = level :: tighter) : n < 7 := by
  refine Nat.lt_of_not_le fun hle => ?_
  rw [List.drop_eq_nil_of_le (show levels.length ≤ n from hle)] at h
  cases h

theorem drop_succ (h : levels.drop n = level :: tighter) : levels.drop (n + 1) = tighter := by
  rw [← List.drop_drop, h]
  rfl

/-- An operator stands in the level of its precedence, under its sign. -/
theorem precedence_of_lookup {sign : String} {op : Operator}
    (hlevel : levels.drop n = level :: tighter) (h : level.lookup sign = some op) :
    op.precedence = n ∧ op.text = sign := by
  have htable : ∀ n (hn : n < levels.length), ∀ entry ∈ levels[n],
      entry.2.precedence = n ∧ entry.2.text = entry.1 := by decide
  have hn : n < levels.length := precedence_lt hlevel
  rw [List.drop_eq_getElem_cons hn] at hlevel
  cases hlevel
  obtain ⟨first, last, hentries, -⟩ := List.lookup_eq_some_iff.1 h
  refine htable n hn (sign, op) ?_
  rw [hentries]
  simp

end Levels

/-! Sequences of lexemes. -/

/-- The lexemes in front of a rest are derived from a symbol with a meaning. -/
def Covers (s : Symbol) (meaning : s.Meaning) (ts rest : Lexemes) : Prop :=
  ∃ used, ts = used ++ rest ∧ Derives s (used.map Prod.fst) meaning

variable {s s' s'' : Symbol} {a : s.Meaning} {b : s'.Meaning} {c : s''.Meaning} {offset close : Nat}
  {closing : String} {holder callee key test consequent alternate e : Expr} {args : List Expr}
  {last : Lexemes}

theorem Covers.map (h : Covers s a ts rest) (hd : ∀ ls, Derives s ls a → Derives s' ls b) :
    Covers s' b ts rest := by
  obtain ⟨used, hts, hused⟩ := h
  exact ⟨used, hts, hd _ hused⟩

/-- More lexemes behind a sequence. -/
theorem Covers.extended (link : Lexemes) (h : Covers s a ts (link ++ rest))
    (hd : ∀ ls, Derives s ls a → Derives s' (ls ++ link.map Prod.fst) b) : Covers s' b ts rest := by
  obtain ⟨used, rfl, hused⟩ := h
  refine ⟨used ++ link, (List.append_assoc ..).symm, ?_⟩
  rw [List.map_append]
  exact hd _ hused

/-- Two sequences with a sign between them. -/
theorem Covers.separated (h : Covers s a ts ((.punct text, offset) :: more))
    (hmore : Covers s' b more rest)
    (hd : ∀ ls ms, Derives s ls a → Derives s' ms b → Derives s'' (ls ++ .punct text :: ms) c) :
    Covers s'' c ts rest := by
  obtain ⟨used, rfl, hused⟩ := h
  obtain ⟨later, rfl, hlater⟩ := hmore
  refine ⟨used ++ (.punct text, offset) :: later, ?_, ?_⟩
  · rw [List.append_assoc, List.cons_append]
  · rw [List.map_append, List.map_cons]
    exact hd _ _ hused hlater

/-- A sequence in brackets. -/
theorem Covers.bracketed (h : Covers s a ts ((.punct closing, close) :: rest))
    (hd : ∀ ls, Derives s ls a → Derives s' (.punct text :: (ls ++ [.punct closing])) b) :
    Covers s' b ((.punct text, offset) :: ts) rest := by
  obtain ⟨used, rfl, hused⟩ := h
  refine ⟨(.punct text, offset) :: (used ++ [(.punct closing, close)]), ?_, ?_⟩
  · rw [List.cons_append, List.append_assoc, List.singleton_append]
  · rw [List.map_cons, List.map_append]
    exact hd _ hused

/-- A sequence behind a lexeme. -/
theorem Covers.behind {l : Lexeme} (h : Covers s a ts rest)
    (hd : ∀ ls, Derives s ls a → Derives s' (l :: ls) b) :
    Covers s' b ((l, offset) :: ts) rest := by
  obtain ⟨used, rfl, hused⟩ := h
  exact ⟨(l, offset) :: used, rfl, hd _ hused⟩

/-- Two sequences with a link and an opening bracket between them, and a closing one behind. -/
theorem Covers.linked (link : Lexemes) (h : Covers s a ts (link ++ (.punct text, offset) :: more))
    (hmore : Covers s' b more ((.punct closing, close) :: rest))
    (hd : ∀ ls ms, Derives s ls a → Derives s' ms b →
      Derives s'' (ls ++ link.map Prod.fst ++ .punct text :: (ms ++ [.punct closing])) c) :
    Covers s'' c ts rest := by
  obtain ⟨used, rfl, hused⟩ := h
  obtain ⟨inner, rfl, hinner⟩ := hmore
  refine ⟨used ++ link ++ (.punct text, offset) :: (inner ++ [(.punct closing, close)]), ?_, ?_⟩
  · simp
  · simpa using hd _ _ hused hinner

/-- A choice between two statements. -/
theorem covers_choice (htest : Covers (.operation 0) test ts ((.punct "?", offset) :: more))
    (hconsequent : Covers .statement consequent more ((.punct ":", close) :: last))
    (halternate : Covers .statement alternate last rest) :
    Covers .conditional (.conditional test consequent alternate) ts rest := by
  obtain ⟨first, rfl, hfirst⟩ := htest
  obtain ⟨second, rfl, hsecond⟩ := hconsequent
  obtain ⟨third, rfl, hthird⟩ := halternate
  refine ⟨first ++ (.punct "?", offset) :: (second ++ (.punct ":", close) :: third), ?_, ?_⟩
  · simp
  · simpa using Derives.choice hfirst hsecond hthird

/-! ## The functions of the reader

Each of them is sound on lexemes that are not too many if statements are sound on fewer ones, which
is what stands between brackets. -/

/-- What is read as a statement off fewer than `bound` lexemes is derived. -/
def Sound (bound : Nat) : Prop :=
  ∀ {ts rest : Lexemes} {e : Expr} {hrest : rest.length < ts.length}, ts.length < bound →
    statement ts = .ok (e, ⟨rest, hrest⟩) → Covers .statement e ts rest

section

variable {bound : Nat} (hsound : Sound bound)

include hsound

/-! Lists, without the bracket behind them. -/

theorem covers_moreArguments {ts rest : Lexemes} {args : List Expr}
    {hrest : rest.length < ts.length} (hts : ts.length < bound)
    (h : moreArguments ts = .ok (args, ⟨rest, hrest⟩)) :
    ∃ offset, Covers .moreArguments args ts ((.punct ")", offset) :: rest) := by
  rw [moreArguments] at h
  obtain ⟨⟨arg, more, hmore⟩, harg, h⟩ := bind_eq_ok h
  have hcovers := hsound hts harg
  dsimp only at h
  split at h
  · next last hlast hclose =>
    obtain ⟨offset, rfl⟩ := eq_cons_of_take? hclose
    cases h
    exact ⟨offset, hcovers.map fun _ => .lastArgument⟩
  · obtain ⟨⟨last, hlast⟩, hcomma, h⟩ := bind_eq_ok h
    obtain ⟨comma, rfl⟩ := eq_cons_of_expect hcomma
    obtain ⟨⟨later, more, hmore⟩, hlater, h⟩ := bind_eq_ok h
    cases h
    simp only [List.length_cons] at *
    obtain ⟨offset, hlater⟩ := covers_moreArguments (by omega) hlater
    exact ⟨offset, hcovers.separated hlater fun _ _ => .argument⟩
termination_by ts.length
decreasing_by
  simp only [List.length_cons] at *
  omega

theorem covers_arguments {hrest : rest.length < ts.length} (hts : ts.length < bound)
    (h : arguments ts = .ok (args, ⟨rest, hrest⟩)) :
    ∃ offset, Covers .arguments args ts ((.punct ")", offset) :: rest) := by
  rw [arguments] at h
  split at h
  · next close hclose =>
    cases h
    obtain ⟨offset, hts⟩ := eq_cons_of_take? hclose
    exact ⟨offset, [], hts, .noArguments⟩
  · obtain ⟨offset, hcovers⟩ := covers_moreArguments hsound hts h
    exact ⟨offset, hcovers.map fun _ => .someArguments⟩

theorem covers_items {ts rest : Lexemes} {es : List Expr} {hrest : rest.length < ts.length}
    (hts : ts.length < bound) (h : items ts = .ok (es, ⟨rest, hrest⟩)) :
    ∃ offset, Covers .items es ts ((.punct "]", offset) :: rest) := by
  rw [items] at h
  split at h
  · next close hclose =>
    cases h
    obtain ⟨offset, hts⟩ := eq_cons_of_take? hclose
    exact ⟨offset, [], hts, .noItems⟩
  · obtain ⟨⟨item, more, hmore⟩, hitem, h⟩ := bind_eq_ok h
    have hcovers := hsound hts hitem
    dsimp only at h
    split at h
    · next last hlast hclose =>
      obtain ⟨offset, rfl⟩ := eq_cons_of_take? hclose
      cases h
      exact ⟨offset, hcovers.map fun _ => .lastItem⟩
    · obtain ⟨⟨last, hlast⟩, hcomma, h⟩ := bind_eq_ok h
      obtain ⟨comma, rfl⟩ := eq_cons_of_expect hcomma
      obtain ⟨⟨later, more, hmore⟩, hlater, h⟩ := bind_eq_ok h
      cases h
      simp only [List.length_cons] at *
      obtain ⟨offset, hlater⟩ := covers_items (by omega) hlater
      exact ⟨offset, hcovers.separated hlater fun _ _ => .item⟩
termination_by ts.length
decreasing_by
  simp only [List.length_cons] at *
  omega

theorem covers_entry {key : String} {value : Expr} {hmore : more.length < ts.length}
    {hrest : rest.length ≤ more.length} (hts : ts.length < bound)
    (hkey : entryKey ts = .ok (key, ⟨more, hmore⟩))
    (hvalue : entryValue key more = .ok (value, ⟨rest, hrest⟩)) :
    Covers .entry (key, value) ts rest := by
  obtain ⟨l, offset, rfl, hl⟩ := eq_cons_of_entryKey hkey
  rw [entryValue] at hvalue
  split at hvalue
  · next last hlast hcolon =>
    obtain ⟨colon, rfl⟩ := eq_cons_of_take? hcolon
    obtain ⟨⟨value, rest, hrest⟩, hvalue, h⟩ := bind_eq_ok hvalue
    cases h
    simp only [List.length_cons] at *
    obtain ⟨used, rfl, hused⟩ := hsound (by omega) hvalue
    exact ⟨(l, offset) :: (.punct ":", colon) :: used, rfl, .keyed hl hused⟩
  · cases hvalue
    exact ⟨[(l, offset)], rfl, .shorthand hl⟩

theorem covers_entries {ts rest : Lexemes} {fields : List (String × Expr)}
    {hrest : rest.length < ts.length} (hts : ts.length < bound)
    (h : entries ts = .ok (fields, ⟨rest, hrest⟩)) :
    ∃ offset, Covers .entries fields ts ((.punct "\x7d", offset) :: rest) := by
  rw [entries] at h
  split at h
  · next close hclose =>
    cases h
    obtain ⟨offset, hts⟩ := eq_cons_of_take? hclose
    exact ⟨offset, [], hts, .noEntries⟩
  · obtain ⟨⟨key, more, hmore⟩, hkey, h⟩ := bind_eq_ok h
    obtain ⟨⟨value, more, hmore⟩, hvalue, h⟩ := bind_eq_ok h
    have hcovers := covers_entry hsound hts hkey hvalue
    dsimp only at h
    split at h
    · next last hlast hclose =>
      obtain ⟨offset, rfl⟩ := eq_cons_of_take? hclose
      cases h
      exact ⟨offset, hcovers.map fun _ => .lastEntry⟩
    · obtain ⟨⟨last, hlast⟩, hcomma, h⟩ := bind_eq_ok h
      obtain ⟨comma, rfl⟩ := eq_cons_of_expect hcomma
      obtain ⟨⟨later, more, hmore⟩, hlater, h⟩ := bind_eq_ok h
      cases h
      simp only [List.length_cons] at *
      obtain ⟨offset, hlater⟩ := covers_entries (by omega) hlater
      exact ⟨offset, hcovers.separated hlater fun _ _ => .entry⟩
termination_by ts.length
decreasing_by
  simp only [List.length_cons] at *
  omega

/-! Operands and chains. -/

theorem covers_operand {hrest : rest.length < ts.length} (hts : ts.length ≤ bound)
    (hword : ∀ name offset more, ts = (.word name, offset) :: more →
      name ≠ "typeof" ∧ name ≠ "await")
    (h : operand ts = .ok (e, ⟨rest, hrest⟩)) : Covers .operand e ts rest := by
  unfold operand at h
  split at h
  · cases h
  · next x offset more =>
    cases h
    exact ⟨[(.number x, offset)], rfl, .number x⟩
  · next s offset more =>
    cases h
    exact ⟨[(.string s, offset)], rfl, .string s⟩
  · next name offset more =>
    cases h
    obtain ⟨htypeof, hawait⟩ := hword name offset rest rfl
    exact ⟨[(.word name, offset)], rfl, .word htypeof hawait⟩
  · next offset more =>
    obtain ⟨⟨inner, more, hmore⟩, hinner, h⟩ := bind_eq_ok h
    obtain ⟨⟨last, hlast⟩, hclose, h⟩ := bind_eq_ok h
    obtain ⟨close, rfl⟩ := eq_cons_of_expect hclose
    cases h
    exact (hsound hts hinner).bracketed fun _ => .parenthesized
  · next offset more =>
    obtain ⟨⟨elements, more, hmore⟩, helements, h⟩ := bind_eq_ok h
    cases h
    obtain ⟨close, hcovers⟩ := covers_items hsound hts helements
    exact hcovers.bracketed fun _ => .array
  · next offset more =>
    obtain ⟨⟨fields, more, hmore⟩, hfields, h⟩ := bind_eq_ok h
    cases h
    obtain ⟨close, hcovers⟩ := covers_entries hsound hts hfields
    exact hcovers.bracketed fun _ => .object
  · cases h

/-- The links behind a chain that starts further in front. -/
theorem covers_links {all : Lexemes} {chain whole : Expr} {hrest : rest.length ≤ ts.length}
    (hts : ts.length ≤ bound) (hchain : Covers .chain chain all ts)
    (h : links chain ts = .ok (whole, ⟨rest, hrest⟩)) : Covers .chain whole all rest := by
  induction hn : ts.length using Nat.strongRecOn generalizing ts chain with
  | _ n ih
  unfold links at h
  split at h
  · next dot more =>
    obtain ⟨⟨name, more, hmore⟩, hname, h⟩ := bind_eq_ok h
    obtain ⟨word, rfl⟩ := eq_cons_of_memberName hname
    obtain ⟨⟨whole, last, hlast⟩, hwhole, h⟩ := bind_eq_ok h
    cases h
    simp only [List.length_cons] at *
    have hnext := hchain.extended [(.punct ".", dot), (.word name, word)] fun _ => .member false
    exact ih _ (by omega) (by omega) hnext hwhole rfl
  · next dot more =>
    split at h
    · next inner hinner hopen =>
      obtain ⟨bracket, rfl⟩ := eq_cons_of_take? hopen
      obtain ⟨⟨key, more, hmore⟩, hkey, h⟩ := bind_eq_ok h
      obtain ⟨⟨last, hlast⟩, hclose, h⟩ := bind_eq_ok h
      obtain ⟨close, rfl⟩ := eq_cons_of_expect hclose
      obtain ⟨⟨whole, last, hlast⟩, hwhole, h⟩ := bind_eq_ok h
      cases h
      simp only [List.length_cons] at *
      have hnext := hchain.linked [(.punct "?.", dot)] (hsound (by omega) hkey)
        fun _ _ => .index true
      exact ih _ (by omega) (by omega) hnext hwhole rfl
    · split at h
      · next inner hinner hopen =>
        obtain ⟨bracket, rfl⟩ := eq_cons_of_take? hopen
        obtain ⟨⟨args, more, hmore⟩, hargs, h⟩ := bind_eq_ok h
        obtain ⟨⟨whole, last, hlast⟩, hwhole, h⟩ := bind_eq_ok h
        cases h
        simp only [List.length_cons] at *
        obtain ⟨close, hargs⟩ := covers_arguments hsound (by omega) hargs
        have hnext := hchain.linked [(.punct "?.", dot)] hargs fun _ _ => .call true
        exact ih _ (by omega) (by omega) hnext hwhole rfl
      · obtain ⟨⟨name, more, hmore⟩, hname, h⟩ := bind_eq_ok h
        obtain ⟨word, rfl⟩ := eq_cons_of_memberName hname
        obtain ⟨⟨whole, last, hlast⟩, hwhole, h⟩ := bind_eq_ok h
        cases h
        simp only [List.length_cons] at *
        have hnext := hchain.extended [(.punct "?.", dot), (.word name, word)] fun _ => .member true
        exact ih _ (by omega) (by omega) hnext hwhole rfl
  · next bracket more =>
    obtain ⟨⟨key, more, hmore⟩, hkey, h⟩ := bind_eq_ok h
    obtain ⟨⟨last, hlast⟩, hclose, h⟩ := bind_eq_ok h
    obtain ⟨close, rfl⟩ := eq_cons_of_expect hclose
    obtain ⟨⟨whole, last, hlast⟩, hwhole, h⟩ := bind_eq_ok h
    cases h
    simp only [List.length_cons] at *
    have hnext := hchain.linked [] (hsound (by omega) hkey) fun _ _ => .index false
    exact ih _ (by omega) (by omega) hnext hwhole rfl
  · next bracket more =>
    obtain ⟨⟨args, more, hmore⟩, hargs, h⟩ := bind_eq_ok h
    obtain ⟨⟨whole, last, hlast⟩, hwhole, h⟩ := bind_eq_ok h
    cases h
    simp only [List.length_cons] at *
    obtain ⟨close, hargs⟩ := covers_arguments hsound (by omega) hargs
    have hnext := hchain.linked [] hargs fun _ _ => .call false
    exact ih _ (by omega) (by omega) hnext hwhole rfl
  · cases h
    exact hchain

theorem covers_postfixed {hrest : rest.length < ts.length} (hts : ts.length ≤ bound)
    (hword : ∀ name offset more, ts = (.word name, offset) :: more →
      name ≠ "typeof" ∧ name ≠ "await")
    (h : postfixed ts = .ok (e, ⟨rest, hrest⟩)) : Covers .chain e ts rest := by
  rw [postfixed] at h
  obtain ⟨⟨first, more, hmore⟩, hfirst, h⟩ := bind_eq_ok h
  obtain ⟨⟨whole, last, hlast⟩, hwhole, h⟩ := bind_eq_ok h
  cases h
  have hchain := (covers_operand hsound hts hword hfirst).map fun _ => .operand
  exact covers_links hsound (by omega) hchain hwhole

/-! Operators. -/

theorem covers_prefixed {hrest : rest.length < ts.length} (hts : ts.length ≤ bound)
    (h : prefixed ts = .ok (e, ⟨rest, hrest⟩)) : Covers .prefixed e ts rest := by
  induction ts generalizing e with
  | nil => exact absurd hrest (Nat.not_lt_zero _)
  | cons t ts ih =>
    obtain ⟨l, offset⟩ := t
    rw [prefixed] at h
    split at h
    · next op hop =>
      obtain ⟨⟨operand, more, hmore⟩, hoperand, h⟩ := bind_eq_ok h
      cases h
      obtain rfl := eq_unaryLexeme hop
      exact (ih (Nat.le_of_succ_le hts) hoperand).behind fun _ => .unary op
    · next hop =>
      split at h
      · next hawait =>
        obtain ⟨⟨operand, more, hmore⟩, hoperand, h⟩ := bind_eq_ok h
        cases h
        obtain rfl := eq_word hawait
        exact (ih (Nat.le_of_succ_le hts) hoperand).behind fun _ => .await
      · next hawait =>
        refine (covers_postfixed hsound hts ?_ h).map fun _ => .chain
        rintro name other more hfront
        obtain ⟨⟨rfl, -⟩, -⟩ := hfront
        exact not_reserved hop hawait

omit hsound in
theorem covers_operands {n : Nat} {level : Level} {tighter : List Level} {all : Lexemes}
    {left whole : Expr} {hrest : rest.length ≤ ts.length} (hts : ts.length ≤ bound)
    (hlevels : levels.drop n = level :: tighter)
    (htighter : ∀ {ts rest : Lexemes} {e : Expr} {hrest : rest.length < ts.length},
      ts.length ≤ bound → operation tighter ts = .ok (e, ⟨rest, hrest⟩) →
        Covers (.operation (n + 1)) e ts rest)
    (hleft : Covers (.operation n) left all ts)
    (h : operands level tighter left ts = .ok (whole, ⟨rest, hrest⟩)) :
    Covers (.operation n) whole all rest := by
  induction hlength : ts.length using Nat.strongRecOn generalizing ts left with
  | _ k ih
  rw [operands] at h
  split at h
  · cases h
    exact hleft
  · next op more hmore hop =>
    obtain ⟨sign, offset, rfl, hlookup⟩ := eq_cons_of_operator? hop
    obtain ⟨rfl, rfl⟩ := precedence_of_lookup hlevels hlookup
    obtain ⟨⟨right, more, hmore⟩, hright, h⟩ := bind_eq_ok h
    obtain ⟨⟨whole, last, hlast⟩, hwhole, h⟩ := bind_eq_ok h
    cases h
    simp only [List.length_cons] at *
    have hnext := htighter (by omega) hright
    exact ih _ (by omega) (by omega) (hleft.separated hnext fun _ _ => .joined op) hwhole rfl

theorem covers_operation {before : List Level} {n : Nat} {hrest : rest.length < ts.length}
    (hts : ts.length ≤ bound) (hlevels : levels.drop n = before) (hn : n ≤ 7)
    (h : operation before ts = .ok (e, ⟨rest, hrest⟩)) : Covers (.operation n) e ts rest := by
  induction before generalizing n ts rest e with
  | nil =>
    rw [operation] at h
    obtain rfl : n = 7 := Nat.le_antisymm hn (List.drop_eq_nil_iff.1 hlevels)
    exact (covers_prefixed hsound hts h).map fun _ => .prefixed
  | cons level tighter ih =>
    have htighter {ts rest : Lexemes} {e : Expr} {hrest : rest.length < ts.length}
        (hts : ts.length ≤ bound) (h : operation tighter ts = .ok (e, ⟨rest, hrest⟩)) :
        Covers (.operation (n + 1)) e ts rest :=
      ih hts (drop_succ hlevels) (precedence_lt hlevels) h
    rw [operation] at h
    obtain ⟨⟨left, more, hmore⟩, hleft, h⟩ := bind_eq_ok h
    obtain ⟨⟨whole, last, hlast⟩, hwhole, h⟩ := bind_eq_ok h
    cases h
    have hfirst := (htighter hts hleft).map fun _ => .tighter
    exact covers_operands (by omega) hlevels htighter hfirst hwhole

theorem covers_conditional {hrest : rest.length < ts.length} (hts : ts.length ≤ bound)
    (h : conditional ts = .ok (e, ⟨rest, hrest⟩)) : Covers .conditional e ts rest := by
  rw [conditional] at h
  obtain ⟨⟨test, more, hmore⟩, htest, h⟩ := bind_eq_ok h
  have hcovers := covers_operation hsound hts List.drop_zero (Nat.zero_le 7) htest
  dsimp only at h
  split at h
  · cases h
    exact hcovers.map fun _ => .operation
  · next inner hinner hquestion =>
    obtain ⟨question, rfl⟩ := eq_cons_of_take? hquestion
    obtain ⟨⟨consequent, middle, hmiddle⟩, hconsequent, h⟩ := bind_eq_ok h
    obtain ⟨⟨last, hlast⟩, hcolon, h⟩ := bind_eq_ok h
    obtain ⟨colon, rfl⟩ := eq_cons_of_expect hcolon
    obtain ⟨⟨alternate, outer, houter⟩, halternate, h⟩ := bind_eq_ok h
    cases h
    have hfirst : inner.length < bound := Nat.lt_of_lt_of_le (Nat.lt_of_succ_lt hmore) hts
    have hsecond : last.length < bound := Nat.lt_trans (Nat.lt_of_succ_lt hmiddle) hfirst
    exact covers_choice hcovers (hsound hfirst hconsequent) (hsound hsecond halternate)

end

/-- What is read as a statement is derived. -/
theorem covers_statement (bound : Nat) : Sound bound := by
  induction bound with
  | zero => exact fun hts => absurd hts (Nat.not_lt_zero _)
  | succ bound ih =>
    intro ts rest e hrest hts h
    rw [statement] at h
    obtain ⟨⟨target, more, hmore⟩, htarget, h⟩ := bind_eq_ok h
    have hcovers := covers_conditional ih (Nat.le_of_lt_succ hts) htarget
    dsimp only at h
    split at h
    · cases h
      exact hcovers.map fun _ => .conditional
    · next more hmore hequals =>
      obtain ⟨offset, rfl⟩ := eq_cons_of_take? hequals
      split at h
      · next hassign =>
        obtain ⟨⟨value, more, hmore⟩, hvalue, h⟩ := bind_eq_ok h
        cases h
        simp only [List.length_cons] at *
        exact hcovers.separated (ih (by omega) hvalue) fun _ _ ht => .assign ht hassign
      · cases h

/-- What is read as a program is one. -/
theorem isProgram_of_program {p : Program} (h : program ts = .ok p) :
    IsProgram (ts.map Prod.fst) p := by
  fun_induction program ts generalizing p with
  | case1 =>
    cases h
    exact .nil
  | case2 offset rest ih => exact .semicolon (ih h)
  | case3 => cases h
  | case4 t rest hsemicolon first hrest hfirst =>
    cases h
    obtain ⟨used, hts, hused⟩ := covers_statement _ (Nat.lt_succ_self _) hfirst
    rw [hts, List.append_nil]
    exact .last hused
  | case5 t rest hsemicolon first next more hmore hfirst last hlast hsign ih =>
    obtain ⟨used, hts, hused⟩ := covers_statement _ (Nat.lt_succ_self _) hfirst
    obtain ⟨offset, hnext⟩ := eq_cons_of_take? hsign
    cases hlater : program last with
    | error fault =>
      rw [hlater] at h
      cases h
    | ok later =>
      rw [hlater] at h
      cases h
      rw [hts, hnext, List.map_append, List.map_cons]
      exact .cons hused (ih hlater)
  | case6 => cases h

end Soundness

end Grammar

end TemplateEngine
