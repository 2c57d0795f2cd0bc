import TemplateEngine.Proofs.Expr.Acceptance
import TemplateEngine.Proofs.Expr.Programs

/-!
# `Expr` · Unwrapping

How a value becomes one that is neither a function nor a promise.

* **`Unwraps host wait n v s w t`**: from the value `v` in the store `s`, `n` steps lead to `w` in
  `t`. A step (`Value.step?`) calls a function without arguments or waits for a promise.
* **Runs** (`Unwraps.exec_unwrap`): what is left of the unwrapping after some steps is the
  unwrapping of the value that they lead to, with so many steps less. A plain value ends it if a
  step is left, and only then: the step that would look at the value is counted like those that
  change it.
* **Evaluations** (`evaluateValue_unwraps`): so values that take less than `unwrapLimit` steps are
  found, and all others are given up after exactly so many. A value that is plain after
  `unwrapLimit` steps is one of these (`plain_at_limit`).
-/

namespace TemplateEngine

open Render RootPath

variable {σ : Type}

/-- Neither a function nor a promise. -/
def Value.isPlain : Value → Bool
  | .function _ => false
  | .promise _ => false
  | _ => true

/-- What is done with a value that is not plain: a function is called without arguments, and a
promise is waited for. -/
def Value.step? (host : Host σ) (wait : PromiseId → Render σ Value) :
    Value → Option (Render σ Value)
  | .function id => some (call host id [])
  | .promise id => some (wait id)
  | _ => none

/-- A number of steps leads from a value to another one, and from a store to another one. -/
inductive Unwraps (host : Host σ) (wait : PromiseId → Render σ Value) :
    Nat → Value → Store σ → Value → Store σ → Prop
  /-- No step. -/
  | refl (v : Value) (s : Store σ) : Unwraps host wait 0 v s v s
  /-- A step, and more. -/
  | step {n : Nat} {v v' w : Value} {s t u : Store σ} {x : Render σ Value}
    (hstep : v.step? host wait = some x) (hx : exec x s = (.ok v', t))
    (h : Unwraps host wait n v' t w u) : Unwraps host wait (n + 1) v s w u

section Steps

variable {host : Host σ} {wait : PromiseId → Render σ Value} {v : Value}

theorem Value.isPlain_iff : v.isPlain = true ↔ v.step? host wait = none := by
  cases v <;> simp [isPlain, step?]

/-- Unwrapping makes the step of a value that has one. -/
theorem unwrap_of_step {x : Render σ Value} (h : v.step? host wait = some x) (left : Nat) :
    unwrap host wait (left + 1) v = x >>= unwrap host wait left := by
  cases v with
  | function id =>
    cases h
    rfl
  | promise id =>
    cases h
    rfl
  | _ => cases h

/-- Unwrapping ends at a plain value. -/
theorem unwrap_of_isPlain (h : v.isPlain = true) (left : Nat) :
    unwrap host wait (left + 1) v = pure v := by
  cases v with
  | function id => cases h
  | promise id => cases h
  | _ => rfl

end Steps

namespace Unwraps

variable {host : Host σ} {wait : PromiseId → Render σ Value} {n : Nat} {v w : Value}
  {s t : Store σ}

/-- Unwrapping goes on behind the steps that were made. -/
theorem exec_unwrap (h : Unwraps host wait n v s w t) (left : Nat) :
    exec (unwrap host wait (n + left) v) s = exec (unwrap host wait left w) t := by
  induction h with
  | refl v s => rw [Nat.zero_add]
  | step hstep hx _ ih => rw [Nat.add_right_comm, unwrap_of_step hstep, exec_bind_ok hx, ih]

/-- The first steps of several. -/
theorem front (h : Unwraps host wait n v s w t) {m : Nat} (hm : m ≤ n) :
    ∃ x u, Unwraps host wait m v s x u := by
  induction m generalizing n v s with
  | zero => exact ⟨v, s, .refl v s⟩
  | succ m ih =>
    cases h with
    | refl => exact absurd hm (Nat.not_succ_le_zero m)
    | step hstep hx h =>
      obtain ⟨x, u, hfront⟩ := ih h (Nat.le_of_succ_le_succ hm)
      exact ⟨x, u, .step hstep hx hfront⟩

/-- From a value that becomes plain, no more steps lead on. -/
theorem le_of_isPlain {m : Nat} {x : Value} {u : Store σ} (h : Unwraps host wait n v s w t)
    (hplain : w.isPlain = true) (h' : Unwraps host wait m v s x u) : m ≤ n := by
  induction h generalizing m with
  | refl v s =>
    cases h' with
    | refl => exact Nat.le_refl 0
    | step hstep _ _ => cases (Value.isPlain_iff.1 hplain).symm.trans hstep
  | step hstep hx _ ih =>
    cases h' with
    | refl => exact Nat.zero_le _
    | step hstep' hx' h' =>
      obtain rfl := Option.some.inj (hstep.symm.trans hstep')
      obtain ⟨⟨⟩, rfl⟩ := Prod.mk.inj (hx.symm.trans hx')
      exact Nat.succ_le_succ (ih hplain h')

/-- A plain value is found if a step is left at it. -/
theorem exec_unwrap_of_lt (h : Unwraps host wait n v s w t) (hplain : w.isPlain = true)
    {limit : Nat} (hn : n < limit) : exec (unwrap host wait limit v) s = (.ok w, t) := by
  obtain ⟨left, rfl⟩ := Nat.exists_eq_add_of_lt hn
  rw [Nat.add_assoc, h.exec_unwrap, unwrap_of_isPlain hplain, exec_pure]

/-- After the last step that is allowed, unwrapping fails, whatever the value is then. -/
theorem exec_unwrap_self (h : Unwraps host wait n v s w t) :
    exec (unwrap host wait n v) s =
      (.error (.raised (.expression (.unsettled unwrapLimit))), t) := by
  have hrest := h.exec_unwrap 0
  rw [Nat.add_zero] at hrest
  exact hrest

end Unwraps

/-! ## Evaluations -/

/-- The value of a rooted text, not unwrapped. -/
def Evaluator.valueOf (evaluator : Evaluator σ) (wait : PromiseId → Render σ Value) (scope : Scope)
    (rooted : String) : Render σ Value :=
  if usesAwait rooted then evaluator.runAwaiting wait rooted scope else evaluator.run rooted scope

theorem runRooted_eq_unwrap (host : Host σ) (evaluator : Evaluator σ)
    (wait : PromiseId → Render σ Value) (scope : Scope) (rooted : String) :
    runRooted host evaluator wait scope rooted =
      evaluator.valueOf wait scope rooted >>= unwrap host wait unwrapLimit := by
  unfold runRooted Evaluator.valueOf
  split
  · rfl
  · rfl

/-- What an evaluation ends with if this was its result: a redirect of the request comes first. -/
def Store.concluded (t : Store σ) (request : RequestId) (result : Except Error Value) :
    Except Stop Value × Store σ :=
  match t.redirect request with
  | some target => (.error (.raised (.redirect target)), t.noted (.ended request))
  | none => (result.mapError Stop.raised, t.noted (.ended request))

theorem exec_evaluateValue (host : Host σ) (evaluator : Evaluator σ)
    (wait : PromiseId → Render σ Value) (scope : Scope) (source : String) (s : Store σ) :
    exec (evaluateValue host evaluator wait scope source) s =
      match exec (runRooted host evaluator wait scope (writeRoots source))
        (s.noted (.started scope.request source)) with
      | (.ok value, t) => t.concluded scope.request (.ok value)
      | (.error (.raised error), t) =>
        t.concluded scope.request (.error (evaluationError source (writeRoots source) error))
      | (.error stop, t) => (.error stop, t) := by
  have hend : ∀ (t : Store σ) (result : Except Error Value) (last : Render σ Value),
      (∀ store, exec last store = (result.mapError Stop.raised, store)) →
      exec (do
        note (.ended scope.request)
        checkRedirect scope.request
        last) t = t.concluded scope.request result := by
    intro t result last hlast
    have hcheck := exec_checkRedirect scope.request (t.noted (.ended scope.request))
    have hnoted : (t.noted (.ended scope.request)).redirect scope.request =
        t.redirect scope.request := rfl
    rw [hnoted] at hcheck
    rw [exec_bind_ok (exec_note _ t), exec_bind, hcheck]
    unfold Store.concluded
    rcases t.redirect scope.request with _ | target
    · exact hlast _
    · rfl
  unfold evaluateValue
  dsimp only
  rw [exec_bind_ok (exec_note _ s), exec_bind, exec_attempt]
  rcases exec (runRooted host evaluator wait scope (writeRoots source))
    (s.noted (.started scope.request source)) with ⟨stop | value, t⟩
  · cases stop with
    | raised error => exact hend t _ _ fun _ => rfl
    | stalled | exhausted => rfl
  · exact hend t _ _ fun _ => rfl

section Evaluation

variable {host : Host σ} {evaluator : Evaluator σ} {wait : PromiseId → Render σ Value}
  {scope : Scope} {source : String} {s t u : Store σ} {value last : Value}

/-- An evaluation whose value is plain before the limit. -/
theorem exec_evaluateValue_of_lt
    (hvalue : exec (evaluator.valueOf wait scope (writeRoots source))
      (s.noted (.started scope.request source)) = (.ok value, u)) {n : Nat}
    (hsteps : Unwraps host wait n value u last t) (hplain : last.isPlain = true)
    (hn : n < unwrapLimit) :
    exec (evaluateValue host evaluator wait scope source) s =
      t.concluded scope.request (.ok last) := by
  rw [exec_evaluateValue, runRooted_eq_unwrap, exec_bind_ok hvalue,
    hsteps.exec_unwrap_of_lt hplain hn]

/-- An evaluation whose value takes as many steps as are allowed. -/
theorem exec_evaluateValue_limit
    (hvalue : exec (evaluator.valueOf wait scope (writeRoots source))
      (s.noted (.started scope.request source)) = (.ok value, u))
    (hsteps : Unwraps host wait unwrapLimit value u last t) :
    exec (evaluateValue host evaluator wait scope source) s =
      t.concluded scope.request (.error (.evaluation (Text.trimString source)
        (Text.trimString (writeRoots source)) (.expression (.unsettled unwrapLimit)))) := by
  rw [exec_evaluateValue, runRooted_eq_unwrap, exec_bind_ok hvalue, hsteps.exec_unwrap_self]
  rfl

end Evaluation

/-- **Unwrapping.** If the value of an expression becomes plain in less than `unwrapLimit` steps,
then the evaluation makes these steps and gives the plain value. If it can make so many steps or
more, then the evaluation makes exactly so many and fails, even if the value is plain then. A
redirect that the request has asked for comes first in both cases. -/
theorem evaluateValue_unwraps (host : Host σ) (evaluator : Evaluator σ)
    (wait : PromiseId → Render σ Value) (scope : Scope) (source : String) {s u : Store σ}
    {value : Value}
    (hvalue : exec (evaluator.valueOf wait scope (writeRoots source))
      (s.noted (.started scope.request source)) = (.ok value, u)) :
    let evaluation := exec (evaluateValue host evaluator wait scope source) s
    let failure : Error := .evaluation (Text.trimString source)
      (Text.trimString (writeRoots source)) (.expression (.unsettled unwrapLimit))
    (∀ n plain t, Unwraps host wait n value u plain t → plain.isPlain = true → n < unwrapLimit →
      evaluation = t.concluded scope.request (.ok plain)) ∧
    (∀ n far t, Unwraps host wait n value u far t → unwrapLimit ≤ n →
      ∃ last t', Unwraps host wait unwrapLimit value u last t' ∧
        evaluation = t'.concluded scope.request (.error failure)) := by
  intro evaluation failure
  constructor
  · intro n plain t hsteps hplain hn
    exact exec_evaluateValue_of_lt hvalue hsteps hplain hn
  · intro n far t hsteps hn
    obtain ⟨last, t', hlast⟩ := hsteps.front hn
    exact ⟨last, t', hlast, exec_evaluateValue_limit hvalue hlast⟩

/-! ## A function that counts down -/

/-- A host whose functions give one of them again as often as is left, and then a text. -/
def countdown : Host Nat where
  call _ _ := modifyGet fun (graph, left) =>
    match left with
    | 0 => (.string "end", graph, 0)
    | left + 1 => (.function ⟨0⟩, graph, left)

/-- A store in which that function is a member of the data, `left` calls away from the call that
gives the text. -/
def countdownStore (left : Nat) : Store Nat :=
  { Store.fresh .nothing left with
    graph := ⟨#[Dictionary.empty.insert "deep" (.function ⟨0⟩)], #[.native 0], #[]⟩ }

theorem unwraps_countdown (wait : PromiseId → Render Nat Value) {s : Store Nat}
    (hfunction : s.graph.functions[0]? = some (.native 0)) :
    Unwraps countdown wait (s.host + 1) (.function ⟨0⟩) s (.string "end") { s with host := 0 } := by
  have hcall : exec (call countdown ⟨0⟩ []) s = exec (ofNative (countdown.call 0 [])) s := by
    unfold call
    rw [exec_bind_ok (exec_withGraph _ s), hfunction]
    rfl
  generalize hleft : s.host = left
  induction left generalizing s with
  | zero =>
    have hlast : exec (call countdown ⟨0⟩ []) s = (.ok (.string "end"), { s with host := 0 }) := by
      rw [hcall, exec_ofNative, hleft]
      rfl
    exact .step rfl hlast (.refl _ _)
  | succ left ih =>
    have hnext : exec (call countdown ⟨0⟩ []) s =
        (.ok (.function ⟨0⟩), { s with host := left }) := by
      rw [hcall, exec_ofNative, hleft]
      rfl
    refine .step rfl hnext (ih (s := { s with host := left }) hfunction ?_ rfl)
    unfold call
    rw [exec_bind_ok (exec_withGraph _ _)]
    dsimp only
    rw [hfunction]
    rfl

theorem parse_deep : Program.parse "deep" = .ok [.ident "deep"] := by
  have hword : Lexeme.Splits "deep".toList [.word "deep"] [] :=
    Lexeme.splits_word (.of_text rfl) nofun
  have hname : Grammar.Derives .chain [.word "deep"] (.ident "deep") :=
    .operand (.ident (by decide))
  exact Grammar.parse_of_splits hword (.last (hname.unjoined (Nat.zero_le 7)).stated)

/-- A scope in which that object is the data. -/
def countdownScope : Scope := ⟨⟨0⟩, ⟨0⟩, ⟨0⟩⟩

/-- The store in which the function is unwrapped. -/
def countdownFound (left : Nat) : Store Nat :=
  { (countdownStore left).noted (.started ⟨0⟩ "deep") with
    programs := (lookUp (countdownStore left).programs "deep").2 }

theorem exec_valueOf_deep (wait : PromiseId → Render Nat Value) (left : Nat) :
    exec ((Evaluator.interpreter countdown).valueOf wait countdownScope (writeRoots "deep"))
      ((countdownStore left).noted (.started ⟨0⟩ "deep")) =
        (.ok (.function ⟨0⟩), countdownFound left) := by
  have hroots : writeRoots "deep" = "deep" := by decide +kernel
  have hawait : usesAwait "deep" = false := by decide +kernel
  have hprogram : exec (programOf "deep") ((countdownStore left).noted (.started ⟨0⟩ "deep")) =
      (.ok [.ident "deep"], countdownFound left) := by
    have hlookUp := (lookUp_of_parsed (Recent.parsed_empty programLimit) "deep").1
    rw [parse_deep] at hlookUp
    rw [exec_programOf_eq_lookUp]
    exact congrArg (·, countdownFound left) hlookUp
  unfold Evaluator.valueOf
  rw [hroots, if_neg (Bool.eq_false_iff.1 hawait)]
  exact exec_bind_ok hprogram _

/-- A value that is plain after 63 steps is found. -/
theorem evaluateValue_unwraps_countdown :
    let wait : PromiseId → Render Nat Value := fun _ => pure .null
    let found := { countdownFound 62 with host := 0 }
    exec ((Evaluator.interpreter countdown).valueOf wait countdownScope (writeRoots "deep"))
      ((countdownStore 62).noted (.started ⟨0⟩ "deep")) =
        (.ok (.function ⟨0⟩), countdownFound 62) ∧
    Unwraps countdown wait 63 (.function ⟨0⟩) (countdownFound 62) (.string "end") found ∧
    exec (evaluateValue countdown (.interpreter countdown) wait countdownScope "deep")
      (countdownStore 62) = (.ok (.string "end"), found.noted (.ended ⟨0⟩)) := by
  intro wait found
  have hvalue := exec_valueOf_deep wait 62
  have hsteps : Unwraps countdown wait 63 (.function ⟨0⟩) (countdownFound 62) (.string "end")
      found := unwraps_countdown wait (s := countdownFound 62) rfl
  obtain ⟨hfound, -⟩ := evaluateValue_unwraps countdown (.interpreter countdown) wait
    countdownScope "deep" hvalue
  exact ⟨hvalue, hsteps, hfound 63 _ _ hsteps rfl (by decide)⟩

/-- A value that is plain after 64 steps, which are not more than `unwrapLimit`, is given up. -/
theorem plain_at_limit :
    let wait : PromiseId → Render Nat Value := fun _ => pure .null
    let plain := { countdownFound 63 with host := 0 }
    exec ((Evaluator.interpreter countdown).valueOf wait countdownScope (writeRoots "deep"))
      ((countdownStore 63).noted (.started ⟨0⟩ "deep")) =
        (.ok (.function ⟨0⟩), countdownFound 63) ∧
    Unwraps countdown wait unwrapLimit (.function ⟨0⟩) (countdownFound 63) (.string "end") plain ∧
    exec (evaluateValue countdown (.interpreter countdown) wait countdownScope "deep")
      (countdownStore 63) =
        (.error (.raised (.evaluation "deep" "deep" (.expression (.unsettled unwrapLimit)))),
          plain.noted (.ended ⟨0⟩)) := by
  intro wait plain
  have hvalue := exec_valueOf_deep wait 63
  have hsteps : Unwraps countdown wait unwrapLimit (.function ⟨0⟩) (countdownFound 63)
      (.string "end") plain := unwraps_countdown wait (s := countdownFound 63) rfl
  have hroots : writeRoots "deep" = "deep" := by decide +kernel
  have htrim : Text.trimString "deep" = "deep" := by decide +kernel
  have hlimit := exec_evaluateValue_limit hvalue hsteps
  rw [hroots, htrim] at hlimit
  exact ⟨hvalue, hsteps, hlimit⟩

end TemplateEngine
