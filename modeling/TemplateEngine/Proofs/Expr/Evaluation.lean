import TemplateEngine.Proofs.Expr.Respects
import TemplateEngine.Proofs.Render.Contract

/-!
# `Expr` · What an evaluation ensures

* **Steps.** The steps of an evaluation meet every contract that allows to ask for a redirect
  (`Contract.respects`).
* **Ends** (`ensures_evaluateValue`). An evaluation ends with the redirect of its request if there
  is one, and only otherwise with its own value or error. `Contract.Meets.evaluateValue` is this for
  contracts that do not care which.
-/

namespace TemplateEngine

open Render

variable {σ : Type} {host : Host σ}

/-- What happens inside of an expression meets a contract that allows to ask for a redirect. -/
theorem Contract.respects {c : Contract σ} (hhost : host.Keeps c.bounds)
    (hask : ∀ s request target, c.Holds s →
      c.Ready ((s.noted (.asked request target)).asking request target) ∧
        c.Changes s ((s.noted (.asked request target)).asking request target)) :
    Respects host fun _ x _ => c.Meets x fun _ => True where
  pure _ := .pure trivial
  bind hx hf := hx.bind fun a _ => hf a
  read _ := .withGraph _ fun _ _ => trivial
  write id key value := .changeGraph _ fun _ h => ⟨trivial, h.write id key value⟩
  newObject members := .changeGraph _ fun _ h => ⟨trivial, h.newObject members⟩
  newPromise _ := .changeGraph _ fun _ h => ⟨trivial, h.newPromise trivial⟩
  fault _ := .raise (c.bounds.own trivial)
  exhausted := .exhausted
  ask request target := .of_exec fun s hs =>
    ⟨(), _, exec_askRedirect request target s, trivial,
      ⟨(hs.sound.noted _).asking request target, (hask s request target hs).1⟩,
      (hask s request target hs).2⟩
  native := .native hhost
  program := .programOf

/-- So does the plain value of a text, if waiting does. -/
theorem Contract.Meets.runRooted {c : Contract σ} (hhost : host.Keeps c.bounds)
    (hask : ∀ s request target, c.Holds s →
      c.Ready ((s.noted (.asked request target)).asking request target) ∧
        c.Changes s ((s.noted (.asked request target)).asking request target))
    {wait : PromiseId → Render σ Value} (hwait : ∀ id, c.Meets (wait id) fun _ => True)
    (scope : Scope) (rooted : String) :
    c.Meets (runRooted host (.interpreter host) wait scope rooted) fun _ => True :=
  @Respects.runRooted σ host _ wait wait (Contract.respects hhost hask) hwait scope rooted

/-- An evaluation ends with the redirect of its request if there is one. -/
theorem ensures_evaluateValue {evaluator : Evaluator σ} {wait : PromiseId → Render σ Value}
    {scope : Scope} {source : String} {s : Store σ} {good : Value → Store σ → Prop}
    {stopped : Stop → Store σ → Prop}
    (h : Ensures (runRooted host evaluator wait scope (RootPath.writeRoots source))
      (s.noted (.started scope.request source))
      (fun value t =>
        (∀ target, t.redirect scope.request = some target →
          stopped (.raised (.redirect target)) (t.noted (.ended scope.request))) ∧
        (t.redirect scope.request = none → good value (t.noted (.ended scope.request))))
      fun stop t => OnStop
        (fun error =>
          (∀ target, t.redirect scope.request = some target →
            stopped (.raised (.redirect target)) (t.noted (.ended scope.request))) ∧
          (t.redirect scope.request = none →
            stopped (.raised (evaluationError source (RootPath.writeRoots source) error))
              (t.noted (.ended scope.request))))
        (stopped · t) stop) :
    Ensures (evaluateValue host evaluator wait scope source) s good stopped := by
  unfold evaluateValue
  refine .bind_ok (exec_note _ _) ?_
  have hattempt : Ensures
      (attempt (TemplateEngine.runRooted host evaluator wait scope (RootPath.writeRoots source)))
      (s.noted (.started scope.request source))
      (fun result t =>
        (∀ target, t.redirect scope.request = some target →
          stopped (.raised (.redirect target)) (t.noted (.ended scope.request))) ∧
        (t.redirect scope.request = none → OnResult
          (fun value => good value (t.noted (.ended scope.request)))
          (fun error => stopped
            (.raised (evaluationError source (RootPath.writeRoots source) error))
            (t.noted (.ended scope.request))) result))
      stopped := by
    refine .attempt (h.mono (fun _ _ h => h) fun stop t ht => ?_)
    cases stop <;> exact ht
  refine hattempt.bind fun result t ht => .bind_ok (exec_note _ _) ?_
  obtain ⟨hsome, hnone⟩ := ht
  have hcheck := exec_checkRedirect scope.request (t.noted (.ended scope.request))
  have hnoted : (t.noted (.ended scope.request)).redirect scope.request =
      t.redirect scope.request := rfl
  rw [hnoted] at hcheck
  rcases hredirect : t.redirect scope.request with _ | target
  · rw [hredirect] at hcheck
    refine .bind_ok hcheck ?_
    have hresult := hnone hredirect
    cases result with
    | ok value => exact .pure hresult
    | error error => exact .raise hresult
  · rw [hredirect] at hcheck
    exact .of_error (exec_bind_error hcheck _) (hsome target hredirect)

/-- An evaluation meets a contract that allows to ask for a redirect and makes nothing of where
evaluations start and end, nor of how they stop. -/
theorem Contract.Meets.evaluateValue {c : Contract σ} (hhost : host.Keeps c.bounds)
    (hask : ∀ s request target, c.Holds s →
      c.Ready ((s.noted (.asked request target)).asking request target) ∧
        c.Changes s ((s.noted (.asked request target)).asking request target))
    (hstarted : ∀ s request source, c.Holds s →
      c.Ready (s.noted (.started request source)) ∧ c.Changes s (s.noted (.started request source)))
    (hended : ∀ s request, c.Holds s →
      c.Ready (s.noted (.ended request)) ∧ c.Changes s (s.noted (.ended request)))
    (hstopped : ∀ s t stop stop' request, c.Stops s stop t →
      c.Stops s stop' (t.noted (.ended request)))
    {wait : PromiseId → Render σ Value} (hwait : ∀ id, c.Meets (wait id) fun _ => True)
    (scope : Scope) (source : String) :
    c.Meets (TemplateEngine.evaluateValue host (.interpreter host) wait scope source)
      fun _ => True := by
  have hrun := runRooted hhost hask hwait scope (RootPath.writeRoots source)
  intro s hs
  obtain ⟨hready, hchange⟩ := hstarted s scope.request source hs
  refine ensures_evaluateValue ((hrun.afterwards ⟨hs.sound.noted _, hready⟩ hchange).mono ?_ ?_)
  · rintro value t ⟨-, ht, hst⟩
    obtain ⟨hready, hchange⟩ := hended t scope.request ht
    have hredirect := fun target => c.raises hready (c.bounds.redirect target)
    exact ⟨fun target _ => ⟨ht.sound.noted _, c.bounds.redirect target,
        c.after (c.trans hst hchange) (hredirect target)⟩,
      fun _ => ⟨True.intro, ⟨ht.sound.noted _, hready⟩, c.trans hst hchange⟩⟩
  · rintro stop t ⟨ht, hstop, hst⟩
    cases stop with
    | raised error =>
      exact ⟨fun target _ => ⟨ht.noted _, c.bounds.redirect target, hstopped _ _ _ _ _ hst⟩,
        fun _ => ⟨ht.noted _, c.bounds.similar hstop (Error.similar_evaluationError _ _ _),
          hstopped _ _ _ _ _ hst⟩⟩
    | stalled | exhausted => exact ⟨ht, hstop, hst⟩

end TemplateEngine
