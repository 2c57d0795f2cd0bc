import TemplateEngine.Proofs.Engine.Caching
import TemplateEngine.Proofs.Expr.Awaits
import TemplateEngine.Proofs.Expr.Chains
import TemplateEngine.Proofs.Expr.Unwrapping

/-!
# `Expr` · Calls and waits that are written out

A function may be written as `f`, `f()` or `await f()`. The three take different ways: through the
walk without waiting, through a call in a chain, through the walk with waiting. Where a call or a
wait is not written, unwrapping makes it.

* **`runProgram`** is the plain value of a program, which is walked with waiting if there is an
  `await` in it. A text is run like its program (`exec_runRooted_of_parse`).
* **Steps to spare** (`exec_unwrap_add`): unwrapping that does not use all its steps ends alike with
  more of them. So it makes no difference whether a call or a wait is a step of the unwrapping or
  of the expression (`exec_step_unwrap`).
* **Texts** (`evaluation_explicit`): the programs of the three spellings are kept under different
  texts, so the stores after them are twins, which differ in what they keep. Waiting has to be
  unaware of that, as it is in an engine (`Engine.respects_unaware`).
-/

namespace TemplateEngine

open Render RootPath

variable {σ : Type}

/-! ## Programs -/

/-- The plain value of a program. -/
def runProgram (host : Host σ) (wait : PromiseId → Render σ Value) (scope : Scope)
    (program : Program) : Render σ Value := do
  let value ←
    if Expr.anyAwait program then
      runStatements (Expr.evalAwaiting host wait scope) .undefined program
    else runStatements (Expr.eval host scope) .undefined program
  unwrap host wait unwrapLimit value

variable {host : Host σ} {wait : PromiseId → Render σ Value} {scope : Scope}

/-- The walk with waiting leaves a tree without an `await` to the other walk. -/
theorem Expr.evalAwaiting_eq_eval {e : Expr} (h : e.containsAwait = false) :
    evalAwaiting host wait scope e = eval host scope e :=
  if_neg (Bool.eq_false_iff.1 h)

theorem runStatements_awaiting {program : Program} (h : Expr.anyAwait program = false)
    (last : Value) :
    runStatements (Expr.evalAwaiting host wait scope) last program =
      runStatements (Expr.eval host scope) last program :=
  runStatements_congr (fun _ he => Expr.evalAwaiting_eq_eval (containsAwait_of_mem he h)) last

theorem runProgram_eq (program : Program) :
    runProgram host wait scope program =
      runStatements (Expr.evalAwaiting host wait scope) .undefined program >>=
        unwrap host wait unwrapLimit := by
  unfold runProgram
  split
  · rfl
  · next h => rw [runStatements_awaiting (Bool.eq_false_iff.2 h)]

/-- A text is run like its program, in the store that keeps the program. -/
theorem exec_runRooted_of_parse {s : Store σ} (h : s.programs.Parsed) {rooted : String}
    {program : Program} (hparse : Program.parse rooted = .ok program) :
    exec (runRooted host (.interpreter host) wait scope rooted) s =
      exec (runProgram host wait scope program)
        { s with programs := (lookUp s.programs rooted).2 } := by
  have hprogram : exec (programOf rooted) s =
      (.ok program, { s with programs := (lookUp s.programs rooted).2 }) := by
    rw [exec_programOf_eq_lookUp, (lookUp_of_parsed h rooted).1, hparse]
    rfl
  have hvalue : exec ((Evaluator.interpreter host).valueOf wait scope rooted) s =
      exec (runStatements (Expr.evalAwaiting host wait scope) .undefined program)
        { s with programs := (lookUp s.programs rooted).2 } := by
    unfold Evaluator.valueOf
    split
    · exact exec_bind_ok hprogram _
    · next huses =>
      -- The text has the word if the program has an `await`.
      have hnone : Expr.anyAwait program = false :=
        Bool.eq_false_iff.2 fun hawait => huses (usesAwait_of_parse hparse hawait)
      rw [runStatements_awaiting hnone]
      exact exec_bind_ok hprogram _
  rw [runRooted_eq_unwrap, runProgram_eq, exec_bind, exec_bind, hvalue]

/-! ## Steps to spare -/

/-- Unwrapping that does not use all its steps ends alike with more of them. -/
theorem exec_unwrap_add {n : Nat} {v : Value} {s : Store σ}
    (h : ¬∃ w t, Unwraps host wait n v s w t) (more : Nat) :
    exec (unwrap host wait (n + more) v) s = exec (unwrap host wait n v) s := by
  induction n generalizing v s with
  | zero => exact absurd ⟨v, s, .refl v s⟩ h
  | succ n ih =>
    rw [Nat.add_right_comm]
    rcases hstep : v.step? host wait with _ | x
    · have hplain := Value.isPlain_iff.2 hstep
      rw [unwrap_of_isPlain hplain, unwrap_of_isPlain hplain]
    · rw [unwrap_of_step hstep, unwrap_of_step hstep, exec_bind, exec_bind]
      rcases hx : exec x s with ⟨stop | v', t⟩
      · rfl
      · exact ih fun ⟨w, u, hsteps⟩ => h ⟨w, u, .step hstep hx hsteps⟩

/-- It makes no difference whether a step is the first of the unwrapping or made before. -/
theorem exec_step_unwrap {n : Nat} {v : Value} {x : Render σ Value} {s : Store σ}
    (hstep : v.step? host wait = some x) (h : ¬∃ w t, Unwraps host wait (n + 1) v s w t) :
    exec (x >>= unwrap host wait (n + 1)) s = exec (unwrap host wait (n + 1) v) s := by
  rw [unwrap_of_step hstep, exec_bind, exec_bind]
  rcases hx : exec x s with ⟨stop | v', t⟩
  · rfl
  · exact exec_unwrap_add (fun ⟨w, u, hsteps⟩ => h ⟨w, u, .step hstep hx hsteps⟩) 1

/-! ## Expressions -/

variable (host wait scope) in
/-- Where the expression has a value, the value is unwrapped in less than `unwrapLimit` steps, or
one of the steps fails before. -/
def Expr.Settles (e : Expr) (s : Store σ) : Prop :=
  ∀ v t, exec (evalAwaiting host wait scope e) s = (.ok v, t) →
    ¬∃ w u, Unwraps host wait unwrapLimit v t w u

theorem Expr.evalAwaiting_await (e : Expr) :
    evalAwaiting host wait scope (.await e) =
      evalAwaiting host wait scope e >>= awaitValue wait := by
  rw [evalAwaiting_eq_evalBy, evalAwaiting_eq_evalBy]
  exact settle_some _

theorem runProgram_singleton (e : Expr) :
    runProgram host wait scope [e] =
      Expr.evalAwaiting host wait scope e >>= unwrap host wait unwrapLimit := by
  rw [runProgram_eq]
  exact congrArg (· >>= _) (bind_pure (Expr.evalAwaiting host wait scope e))

/-- A wait that is written out is the first step of the unwrapping. -/
theorem exec_runProgram_await {e : Expr} {s : Store σ} (h : e.Settles host wait scope s) :
    exec (runProgram host wait scope [.await e]) s = exec (runProgram host wait scope [e]) s := by
  rw [runProgram_singleton, runProgram_singleton, Expr.evalAwaiting_await, bind_assoc, exec_bind,
    exec_bind]
  rcases hvalue : exec (Expr.evalAwaiting host wait scope e) s with ⟨stop | v, t⟩
  · rfl
  · cases v with
    | promise id => exact exec_step_unwrap (n := 63) rfl (h _ t hvalue)
    | _ => exact exec_bind_ok (exec_pure _ t) _

section Function

variable {e : Expr} {s t : Store σ} {id : FunctionId}
  (hvalue : exec (Expr.evalAwaiting host wait scope e) s = (.ok (.function id), t))

include hvalue

/-- The value of a call is that of the function. -/
theorem exec_evalAwaiting_call :
    exec (Expr.evalAwaiting host wait scope (.call e [] false)) s = exec (call host id []) t := by
  have hchain : exec (Expr.walkBy (.waiting wait) host scope e) s =
      (.ok (some (.function id)), t) := by
    rw [Expr.evalAwaiting_eq_evalBy] at hvalue
    obtain ⟨chain, u, hwalk, hlast⟩ := exec_bind_eq_ok hvalue
    obtain ⟨hfunction, rfl⟩ := Prod.mk.inj hlast
    cases chain with
    | none => cases hfunction
    | some value =>
      cases hfunction
      exact hwalk
  rw [Expr.evalAwaiting_eq_evalBy]
  show exec (settle (link (Expr.chainBy _ e _) false _)) s = _
  rw [Expr.chainBy_eq rfl]
  exact Expr.exec_settle_link hchain _

/-- A call that is written out is the first step of the unwrapping. -/
theorem exec_runProgram_call (h : e.Settles host wait scope s) :
    exec (runProgram host wait scope [.call e [] false]) s =
      exec (runProgram host wait scope [e]) s := by
  rw [runProgram_singleton, runProgram_singleton, exec_bind, exec_evalAwaiting_call hvalue,
    ← exec_bind, exec_bind_ok hvalue]
  exact exec_step_unwrap (n := 63) rfl (h _ t hvalue)

/-- The call settles if the function does. -/
theorem Expr.Settles.call (h : e.Settles host wait scope s) :
    (Expr.call e [] false).Settles host wait scope s := by
  intro v u hcall ⟨w, r, hsteps⟩
  rw [exec_evalAwaiting_call hvalue] at hcall
  exact h _ t hvalue ((Unwraps.step rfl hcall hsteps).front (Nat.le_succ unwrapLimit))

end Function

variable (host wait scope) in
/-- The programs that make calls and waits of an expression explicit: `await e`, and if the
expression is a function, `e()` and `await e()`. -/
inductive Expr.Explicit (e : Expr) (s : Store σ) : Program → Prop
  /-- A wait. -/
  | await : Explicit e s [.await e]
  /-- A call. -/
  | call {id : FunctionId} {t : Store σ}
    (hvalue : exec (evalAwaiting host wait scope e) s = (.ok (.function id), t)) :
    Explicit e s [.call e [] false]
  /-- A call and a wait. -/
  | awaitCall {id : FunctionId} {t : Store σ}
    (hvalue : exec (evalAwaiting host wait scope e) s = (.ok (.function id), t)) :
    Explicit e s [.await (.call e [] false)]

theorem Expr.Explicit.exec_runProgram {e : Expr} {s : Store σ} {program : Program}
    (hprogram : e.Explicit host wait scope s program) (h : e.Settles host wait scope s) :
    exec (runProgram host wait scope program) s = exec (runProgram host wait scope [e]) s := by
  cases hprogram with
  | await => exact exec_runProgram_await h
  | call hvalue => exact exec_runProgram_call hvalue h
  | awaitCall hvalue =>
    exact (exec_runProgram_await (h.call hvalue)).trans (exec_runProgram_call hvalue h)

/-! ## Texts -/

theorem Respects.runProgram {R : ∀ α : Type, Render σ α → Render σ α → Prop}
    (h : Respects host R) (hwait : ∀ id, R _ (wait id) (wait id)) (scope : Scope)
    (program : Program) :
    R _ (runProgram host wait scope program) (runProgram host wait scope program) := by
  rw [runProgram_eq]
  exact h.bind (h.runStatements (fun e => h.whole scope e (h.walkAwaiting hwait scope e)) _ program)
    fun value => h.unwrap hwait unwrapLimit value

/-- A text is run like its program, but for what is kept. -/
theorem exec_runRooted_twin (host : Host σ) (scope : Scope) {texts : List String} {s : Store σ}
    (hs : s.Recalls texts) (hwait : ∀ id, Unaware texts Value (wait id) (wait id))
    {rooted : String} {program : Program} (hparse : Program.parse rooted = .ok program) :
    let text := exec (runRooted host (.interpreter host) wait scope rooted) s
    let tree := exec (runProgram host wait scope program) s
    tree.1 = text.1 ∧ tree.2.Twin texts text.2 := by
  intro text tree
  have hparsed := (lookUp_of_parsed hs.programs rooted).2
  have htwin : s.Twin texts { s with programs := (lookUp s.programs rooted).2 } :=
    ⟨rfl, hs, hs.templates, hparsed⟩
  have htext : text = exec (runProgram host wait scope program)
      { s with programs := (lookUp s.programs rooted).2 } :=
    exec_runRooted_of_parse hs.programs hparse
  rw [htext]
  exact (Unaware.respects host texts).runProgram hwait scope program _ _ htwin

/-- **Explicit calls and waits.** An expression that does not use up the steps of unwrapping may be
written with its first wait or, if it is a function, with its first call made explicit. As programs
the spellings are equal: they end alike, with the same calls of the host, and leave the same store.
As texts they end alike, and leave stores that differ at most in what they keep. -/
theorem evaluation_explicit (host : Host σ) (wait : PromiseId → Render σ Value) (scope : Scope)
    (e : Expr) (s : Store σ) (h : e.Settles host wait scope s) {program : Program}
    (hprogram : e.Explicit host wait scope s program) :
    exec (runProgram host wait scope program) s = exec (runProgram host wait scope [e]) s ∧
    ∀ texts plain explicit, s.Recalls texts →
      (∀ id, Unaware texts Value (wait id) (wait id)) →
      Program.parse plain = .ok [e] → Program.parse explicit = .ok program →
      let run := fun text => exec (runRooted host (.interpreter host) wait scope text) s
      (run explicit).1 = (run plain).1 ∧ (run plain).2.Twin texts (run explicit).2 := by
  have hexec := hprogram.exec_runProgram h
  refine ⟨hexec, fun texts plain explicit hs hwait hplain hexplicit => ?_⟩
  obtain ⟨hresult, hstore⟩ := exec_runRooted_twin host scope hs hwait hplain
  obtain ⟨hresult', hstore'⟩ := exec_runRooted_twin host scope hs hwait hexplicit
  rw [hexec] at hresult' hstore'
  exact ⟨hresult'.symm.trans hresult, hstore.symm.trans hstore'⟩

/-! ## A function that counts down, in other words -/

theorem parse_await_deep :
    Program.parse "await deep()" = .ok [.await (.call (.ident "deep") [] false)] := by
  have hsigns : Lexeme.Splits "()".toList [.punct "(", .punct ")"] [] :=
    .sign rfl rfl rfl rfl (.sign rfl rfl rfl rfl .nil)
  have hname : Lexeme.Splits "deep".toList [.word "deep"] ("()".toList ++ []) :=
    Lexeme.splits_word (.of_text rfl) fun _ hd => Option.mem_some.1 hd ▸ rfl
  have htext : Lexeme.Splits "await deep()".toList
      [.word "await", .word "deep", .punct "(", .punct ")"] [] :=
    Lexeme.splits_await.append (hname.append hsigns).space
  have hcall : Grammar.Derives .chain [.word "deep", .punct "(", .punct ")"]
      (.call (.ident "deep") [] false) :=
    .call false (.operand (.ident (by decide))) .noArguments
  have hprefixed : Grammar.Derives .prefixed
      [.word "await", .word "deep", .punct "(", .punct ")"]
      (.await (.call (.ident "deep") [] false)) := .await (.chain hcall)
  exact Grammar.parse_of_splits htext (.last (Grammar.Derives.prefixed hprefixed).stated)

theorem exec_evalAwaiting_deep (wait : PromiseId → Render Nat Value) (left : Nat) :
    exec (Expr.evalAwaiting countdown wait countdownScope (.ident "deep")) (countdownStore left) =
      (.ok (.function ⟨0⟩), countdownStore left) := rfl

/-- The function with two calls left may be written with a wait and a call. -/
theorem evaluation_explicit_deep :
    let wait : PromiseId → Render Nat Value := fun _ => pure .null
    let s := countdownStore 2
    let run := fun text =>
      exec (runRooted countdown (.interpreter countdown) wait countdownScope text) s
    (Expr.ident "deep").Settles countdown wait countdownScope s ∧
    (Expr.ident "deep").Explicit countdown wait countdownScope s
      [.await (.call (.ident "deep") [] false)] ∧
    (run "await deep()").1 = (run "deep").1 ∧ (run "deep").2.Twin [] (run "await deep()").2 := by
  intro wait s run
  have hvalue := exec_evalAwaiting_deep wait 2
  have hsettles : (Expr.ident "deep").Settles countdown wait countdownScope s := by
    intro v t hv ⟨w, u, hsteps⟩
    obtain ⟨⟨⟩, rfl⟩ := Prod.mk.inj (hvalue.symm.trans hv)
    exact absurd ((unwraps_countdown wait (s := s) rfl).le_of_isPlain rfl hsteps) (by decide)
  have hexplicit : (Expr.ident "deep").Explicit countdown wait countdownScope s
      [.await (.call (.ident "deep") [] false)] := .awaitCall hvalue
  have hrecalls : s.Recalls [] := ⟨TemplateCache.genuine_nothing, Recent.parsed_empty _⟩
  have hwait : ∀ id, Unaware [] Value (wait id) (wait id) := fun _ => .pure Value.null
  obtain ⟨-, htext⟩ := evaluation_explicit countdown wait countdownScope (.ident "deep") s hsettles
    hexplicit
  exact ⟨hsettles, hexplicit, htext [] "deep" "await deep()" hrecalls hwait parse_deep
    parse_await_deep⟩

end TemplateEngine
