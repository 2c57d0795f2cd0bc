import Mathlib.Data.List.Basic
import TemplateEngine.Expr.RootPath
import TemplateEngine.Proofs.Expr.Gaps
import TemplateEngine.Proofs.Expr.Grammar
import TemplateEngine.Proofs.Expr.Programs
import TemplateEngine.Proofs.Expr.Walking
import TemplateEngine.RenderCommand

/-!
# `Expr` · Where an `await` is

Whether an expression is walked with or without waiting is decided by a search for a word in its
text, before it is parsed. An `await` never gets to the walk that cannot wait.

* **In the lexemes** (`Grammar.Derives.hasAwait`): the lexemes of a tree with an `await` have the
  word among them, and no number stands directly in front of it. This is an induction over
  derivations. The word alone proves nothing, since it may be the name of a member or a key.
* **In the text** (`awaitAfter_of_laid`): the word is a whole word. What stands directly behind
  it is no character of a word, since a word takes all of them. What stands directly in front of it
  is none either if the lexeme in front of it is no number: a number may end with a digit where a
  word starts.
* **`Evaluator.straying`** is the library's evaluator with a free choice of what the walk without
  waiting does at an `await`. By `evaluateValue_straying` the choice makes no difference.
-/

namespace TemplateEngine

open Render RootPath TemplateEngine.Text TemplateEngine.Template TemplateEngine.Lexeme

/-! ## Lexemes -/

namespace Grammar

/-- The word `await` is one of the lexemes, and no number stands directly in front of it. -/
def HasAwait (ls : List Lexeme) : Prop :=
  ∃ front rest, ls = front ++ .word "await" :: rest ∧ ∀ x, front.getLast? ≠ some (.number x)

variable {ls ms : List Lexeme} {l : Lexeme}

theorem HasAwait.here (ls : List Lexeme) : HasAwait (.word "await" :: ls) := by
  refine ⟨[], ls, rfl, fun x hx => ?_⟩
  cases hx

theorem HasAwait.front (h : HasAwait ls) (ms : List Lexeme) : HasAwait (ls ++ ms) := by
  obtain ⟨front, rest, rfl, hfront⟩ := h
  refine ⟨front, rest ++ ms, ?_, hfront⟩
  rw [List.append_assoc, List.cons_append]

theorem HasAwait.behind (h : HasAwait ms) (ls : List Lexeme) (hl : ∀ x, l ≠ .number x) :
    HasAwait (ls ++ l :: ms) := by
  obtain ⟨front, rest, rfl, hfront⟩ := h
  refine ⟨ls ++ l :: front, rest, by rw [List.append_assoc, List.cons_append], fun x => ?_⟩
  rw [List.getLast?_append, List.getLast?_cons]
  rcases hlast : front.getLast? with _ | last
  · simpa using hl x
  · simpa [hlast] using hfront x

/-- An `await` stands in the meaning of a symbol. -/
def Symbol.awaits : (s : Symbol) → s.Meaning → Bool
  | .statement, e => e.containsAwait
  | .conditional, e => e.containsAwait
  | .operation _, e => e.containsAwait
  | .prefixed, e => e.containsAwait
  | .chain, e => e.containsAwait
  | .operand, e => e.containsAwait
  | .arguments, args => Expr.anyAwait args
  | .moreArguments, args => Expr.anyAwait args
  | .items, es => Expr.anyAwait es
  | .entry, field => field.2.containsAwait
  | .entries, fields => Expr.anyEntryAwait fields

theorem containsAwait_apply (op : Operator) (left right : Expr) :
    (op.apply left right).containsAwait = (left.containsAwait || right.containsAwait) := by
  cases op <;> rfl

theorem containsAwait_wordExpr (name : String) : (wordExpr name).containsAwait = false := by
  unfold wordExpr
  split <;> rfl

theorem unaryLexeme_ne_number (op : UnaryOp) (x : Float) : Expr.unaryLexeme op ≠ .number x := by
  cases op <;> exact nofun

/-- One of two sequences with a sign between them has the word. -/
theorem HasAwait.separated {p q : Bool} (sign : String) (h : (p || q) = true)
    (hp : p = true → HasAwait ls) (hq : q = true → HasAwait ms) :
    HasAwait (ls ++ .punct sign :: ms) := by
  rcases Bool.or_eq_true_iff.1 h with h | h
  · exact (hp h).front _
  · exact (hq h).behind ls nofun

/-- An `await` in the meaning comes from the word among the lexemes. -/
theorem Derives.hasAwait {s : Symbol} {ls : List Lexeme} {a : s.Meaning} (h : Derives s ls a)
    (hawait : s.awaits a = true) : HasAwait ls := by
  induction h with
  | conditional _ ih => exact ih hawait
  | assign _ _ _ ihtarget ihvalue => exact .separated "=" hawait ihtarget ihvalue
  | operation _ ih => exact ih hawait
  | choice _ _ _ ihtest ihconsequent ihalternate =>
    have h := (Bool.or_assoc _ _ _).symm.trans hawait
    exact .separated "?" h ihtest fun hlater => .separated ":" hlater ihconsequent ihalternate
  | tighter _ ih => exact ih hawait
  | joined op _ _ ihleft ihright =>
    have h := (containsAwait_apply op _ _).symm.trans hawait
    exact .separated op.text h ihleft ihright
  | prefixed _ ih => exact ih hawait
  | unary op _ ih => exact (ih hawait).behind [] (unaryLexeme_ne_number op)
  | await _ ih => exact .here _
  | chain _ ih => exact ih hawait
  | operand _ ih => exact ih hawait
  | member optional _ ih => exact (ih hawait).front _
  | index optional _ _ ih ihkey =>
    exact .separated "[" hawait (fun h => (ih h).front _) fun h => (ihkey h).front _
  | call optional _ _ ih ihargs =>
    exact .separated "(" hawait (fun h => (ih h).front _) fun h => (ihargs h).front _
  | number x => cases hawait
  | string s => cases hawait
  | @word name _ _ =>
    have hnone := containsAwait_wordExpr name
    rw [show (wordExpr name).containsAwait = true from hawait] at hnone
    cases hnone
  | parenthesized _ ih => exact ((ih hawait).front _).behind [] nofun
  | array _ ih => exact ((ih hawait).front _).behind [] nofun
  | object _ ih => exact ((ih hawait).front _).behind [] nofun
  | noArguments => cases hawait
  | someArguments _ ih => exact ih hawait
  | lastArgument _ ih => exact ih ((Bool.or_false _).symm.trans hawait)
  | argument _ _ ih ihlater => exact .separated "," hawait ih ihlater
  | noItems => cases hawait
  | lastItem _ ih => exact ih ((Bool.or_false _).symm.trans hawait)
  | item _ _ ih ihlater => exact .separated "," hawait ih ihlater
  | keyed _ _ ih => exact (ih hawait).behind [_] nofun
  | shorthand _ => cases hawait
  | noEntries => cases hawait
  | lastEntry _ ih => exact ih ((Bool.or_false _).symm.trans hawait)
  | entry _ _ ih ihlater => exact .separated "," hawait ih ihlater

theorem IsProgram.hasAwait {program : Program} (h : IsProgram ls program)
    (hawait : Expr.anyAwait program = true) : HasAwait ls := by
  induction h with
  | nil => cases hawait
  | semicolon _ ih => exact (ih hawait).behind [] nofun
  | last h => exact h.hasAwait ((Bool.or_false _).symm.trans hawait)
  | cons h _ ih => exact .separated ";" hawait h.hasAwait ih

end Grammar

/-! ## Texts -/

namespace Lexeme

variable {c : Char} {text : List Char} {l : Lexeme} {name : String}

theorem isWordChar_eq_false_of_isQuote (h : isQuote c = true) : isWordChar c = false := by
  simp only [isQuote, isTagQuote, Bool.or_eq_true, beq_iff_eq] at h
  rcases h with (rfl | rfl) | rfl
  · decide
  · decide
  · decide

/-- No punctuator ends with a character of a word. -/
theorem punctuators_end : ∀ p ∈ punctuators, p.toList.getLast?.any isWordChar = false := by
  decide +kernel

theorem Spells.eq_of_word (h : Spells text (.word name)) : text = name.toList := by
  cases h with
  | word => exact String.toList_ofList.symm

/-- A lexeme ends with no character of a word, unless it is a number or a word. -/
theorem Spells.last (h : Spells text l) : (∃ x, l = .number x) ∨ (∃ name, l = .word name) ∨
    text.getLast?.any isWordChar = false := by
  cases h with
  | number => exact .inl ⟨_, rfl⟩
  | word => exact .inr (.inl ⟨_, rfl⟩)
  | string hquote htext =>
    simp [List.getLast?_cons, htext.getLast?, isWordChar_eq_false_of_isQuote hquote]
  | punct hp => exact .inr (.inr (punctuators_end _ hp))

end Lexeme

namespace RootPath

variable {before : Option Char} {offset : Nat} {c : Char} {cs : List Char}

theorem awaitAfter_tail (h : awaitAfter (some c) cs = true) :
    awaitAfter before (c :: cs) = true := by
  rw [awaitAfter, h, Bool.or_true]

theorem awaitAfter_append {text : List Char} (htext : text ≠ [])
    (h : awaitAfter text.getLast? cs = true) : awaitAfter before (text ++ cs) = true := by
  induction text generalizing before with
  | nil => exact absurd rfl htext
  | cons c text ih =>
    cases text with
    | nil => exact awaitAfter_tail h
    | cons d text => exact awaitAfter_tail (ih (List.cons_ne_nil d text) h)

/-- The word at the front of a text. -/
theorem awaitAfter_word (hbefore : before.any isWordChar = false)
    (hcs : ∀ d ∈ cs.head?, isWordChar d = false) :
    awaitAfter before (['a', 'w', 'a', 'i', 't'] ++ cs) = true := by
  have hbehind : cs.head?.any isWordChar = false := (Option.any_eq_false _ _).2 hcs
  rw [List.cons_append, awaitAfter, ← List.cons_append,
    List.isPrefixOf?_eq_some_iff_append_eq.2 rfl]
  simp [hbefore, hbehind]

/-- The word among the lexemes of a text, with no number directly in front of it, is a whole word
of the text. -/
theorem awaitAfter_of_laid {ts : List (Lexeme × Nat)} {front rest : List Lexeme}
    (h : Laid [] offset cs ts) (hts : ts.map Prod.fst = front ++ .word "await" :: rest)
    (hnumber : ∀ x, front.getLast? ≠ some (.number x))
    (hbefore : front = [] → before.any isWordChar = false ∨ cs.head?.any isWordChar = false) :
    awaitAfter before cs = true := by
  induction h generalizing front before with
  | nil => simp at hts
  | blank hblank _ ih =>
    have hc : ∀ d, isWordChar d = true → isBlank d = false :=
      fun _ => isBlank_eq_false_of_isWordChar
    refine awaitAfter_tail (ih hts hnumber fun _ => .inl (Bool.eq_false_iff.2 fun hword => ?_))
    rw [hc _ hword] at hblank
    exact nomatch hblank
  | lexeme hspells hends _ ih =>
    rw [List.append_nil] at hends
    cases front with
    | nil =>
      obtain ⟨rfl, -⟩ := List.cons.inj hts
      obtain rfl := hspells.eq_of_word
      exact awaitAfter_word ((hbefore rfl).resolve_right nofun) hends
    | cons first front =>
      obtain ⟨rfl, hlater⟩ := List.cons.inj hts
      refine awaitAfter_append hspells.ne_nil (ih hlater (fun x hx => hnumber x ?_) ?_)
      · rw [List.getLast?_cons, hx]
        rfl
      · rintro rfl
        rcases hspells.last with ⟨x, rfl⟩ | ⟨name, rfl⟩ | hlast
        · exact absurd rfl (hnumber x)
        · exact .inr ((Option.any_eq_false _ _).2 hends)
        · exact .inl hlast

end RootPath

/-- The word that is looked for stands in the text of every program with an `await`. -/
theorem usesAwait_of_parse {source : String} {program : Program}
    (h : Program.parse source = .ok program) (hawait : Expr.anyAwait program = true) :
    usesAwait source = true := by
  unfold Program.parse at h
  split at h
  · cases h
  · next ts hsplit =>
    obtain ⟨front, rest, hts, hfront⟩ := (Grammar.isProgram_of_program h).hasAwait hawait
    exact awaitAfter_of_laid (splitFrom_eq_ok_iff.1 hsplit) hts hfront fun _ => .inl rfl

/-! ## Evaluators -/

variable {σ : Type} {host : Host σ} {scope : Scope} {wait : PromiseId → Render σ Value}
  {stray : Render σ Value → Render σ Value}

/-- The library's evaluator with a free choice of what the walk without waiting does at an `await`.
The walk with waiting hands the trees without one to it. -/
def Evaluator.straying (host : Host σ) (stray : Render σ Value → Render σ Value) :
    Evaluator σ where
  run source scope := do
    runStatements (Expr.evalBy (.alone stray) host scope) .undefined (← programOf source)
  runAwaiting wait source scope := do
    let walking := (Walking.waiting wait).handing (Expr.evalBy (.alone stray) host scope)
    runStatements (Expr.evalBy walking host scope) .undefined (← programOf source)

/-- Whatever it does there, no tree with an `await` is handed over. -/
theorem evalAwaiting_eq_handing (stray : Render σ Value → Render σ Value) :
    Expr.evalAwaiting host wait scope =
      Expr.evalBy ((Walking.waiting wait).handing (Expr.evalBy (.alone stray) host scope)) host
        scope :=
  funext fun e => (Expr.evalAwaiting_eq_evalBy e).trans (Expr.evalBy_handing _ _ e).symm

/-- The library's evaluator is the one that fails there. -/
theorem Evaluator.interpreter_eq_straying :
    Evaluator.interpreter host = .straying host fun _ => raise (.expression .strayAwait) := by
  unfold Evaluator.interpreter Evaluator.straying
  simp only [Expr.eval_eq_evalBy, Walking.straying,
    evalAwaiting_eq_handing fun _ => raise (.expression .strayAwait)]

theorem runStatements_congr {eval eval' : Expr → Render σ Value} {program : Program}
    (h : ∀ e ∈ program, eval e = eval' e) (last : Value) :
    runStatements eval last program = runStatements eval' last program := by
  induction program generalizing last with
  | nil => rfl
  | cons e program ih =>
    obtain ⟨he, hprogram⟩ := List.forall_mem_cons.1 h
    rw [runStatements, runStatements, he]
    exact bind_congr fun value => ih hprogram value

theorem containsAwait_of_mem {program : Program} {e : Expr} (hmem : e ∈ program)
    (h : Expr.anyAwait program = false) : e.containsAwait = false := by
  induction program with
  | nil => cases hmem
  | cons first program ih =>
    obtain ⟨hfirst, hprogram⟩ := Bool.or_eq_false_iff.1 h
    rcases List.mem_cons.1 hmem with rfl | hmem
    · exact hfirst
    · exact ih hmem hprogram

/-- What the walk without waiting does at an `await` makes no difference to a text. -/
theorem exec_runRooted_straying {store : Store σ} (h : store.programs.Parsed) (rooted : String) :
    exec (runRooted host (.straying host stray) wait scope rooted) store =
      exec (runRooted host (.interpreter host) wait scope rooted) store := by
  unfold runRooted
  by_cases huses : usesAwait rooted = true
  · have hawaiting : (Evaluator.straying host stray).runAwaiting wait rooted scope =
        (Evaluator.interpreter host).runAwaiting wait rooted scope := by
      show _ = do runStatements (Expr.evalAwaiting host wait scope) .undefined (← programOf rooted)
      rw [evalAwaiting_eq_handing stray]
      rfl
    simp only [huses, if_true, hawaiting]
  · have hrun : exec ((Evaluator.straying host stray).run rooted scope) store =
        exec ((Evaluator.interpreter host).run rooted scope) store := by
      obtain ⟨programs, -, hprogram⟩ := exec_programOf_parsed h rooted
      show exec (programOf rooted >>= _) store = exec (programOf rooted >>= _) store
      rw [exec_bind, exec_bind, hprogram]
      cases hparse : Program.parse rooted with
      | error fault => rfl
      | ok program =>
        -- The text has the word if the program has an `await`.
        have hnone : Expr.anyAwait program = false :=
          Bool.eq_false_iff.2 fun hawait => huses (usesAwait_of_parse hparse hawait)
        refine congrArg (exec · _) (runStatements_congr (fun e he => ?_) _)
        rw [Expr.eval_eq_evalBy]
        exact congrArg settle (Expr.walkBy_alone _ _ (containsAwait_of_mem he hnone))
    simp only [huses, if_false, Bool.false_eq_true, exec_bind, hrun]

/-- An `await` never gets to the walk that cannot wait. A text has the word that is looked for if
its program has an `await`; the walk with waiting hands only trees without one to the other walk;
and so the choice of what that walk does at an `await` makes no difference to any evaluation. -/
theorem evaluateValue_straying (host : Host σ) (stray : Render σ Value → Render σ Value)
    (wait : PromiseId → Render σ Value) (scope : Scope) (source : String) (store : Store σ)
    (h : store.programs.Parsed) :
    (∀ program, Program.parse (writeRoots source) = .ok program →
      Expr.anyAwait program = true → usesAwait (writeRoots source) = true) ∧
    Expr.evalAwaiting host wait scope =
      Expr.evalBy ((Walking.waiting wait).handing (Expr.evalBy (.alone stray) host scope)) host
        scope ∧
    exec (evaluateValue host (.straying host stray) wait scope source) store =
      exec (evaluateValue host (.interpreter host) wait scope source) store := by
  refine ⟨fun _ => usesAwait_of_parse, evalAwaiting_eq_handing stray, ?_⟩
  have hstarted : (store.noted (.started scope.request source)).programs.Parsed := h
  have hrun : exec (runRooted host (.straying host stray) wait scope (writeRoots source))
      (store.noted (.started scope.request source)) =
        exec (runRooted host (.interpreter host) wait scope (writeRoots source))
          (store.noted (.started scope.request source)) :=
    exec_runRooted_straying hstarted (writeRoots source)
  unfold evaluateValue
  simp only [exec_bind, exec_note, exec_attempt, hrun]

/-- Nor does it to a text with an `await` in a call that does not take place, in a store that keeps
nothing yet. -/
theorem evaluateValue_straying_fresh :
    let store : Store Unit := .fresh .nothing ()
    let evaluation (evaluator : Evaluator Unit) :=
      evaluateValue .none evaluator (fun _ => pure .null) ⟨⟨0⟩, ⟨1⟩, ⟨0⟩⟩ ".f?.(await 2) ?? 3"
    store.programs.Parsed ∧ exec (evaluation (.straying .none fun _ => throw .exhausted)) store =
      exec (evaluation (.interpreter .none)) store := by
  intro store evaluation
  have hparsed : store.programs.Parsed := Recent.parsed_empty programLimit
  have h := evaluateValue_straying .none (fun _ => throw .exhausted) (fun _ => pure .null)
    ⟨⟨0⟩, ⟨1⟩, ⟨0⟩⟩ ".f?.(await 2) ?? 3" store hparsed
  exact ⟨hparsed, h.2.2⟩

end TemplateEngine
