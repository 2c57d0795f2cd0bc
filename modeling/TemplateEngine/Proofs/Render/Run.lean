import TemplateEngine.Store

/-!
# `Render` · Running computations

What a computation gives on a store, and what it leaves there.

* **`exec x store`** is the result of `x` with the store after it.
* **`Ensures x store good stopped`**: if `x` has a value, then the value and the store after it are
  `good`, and if it stops, then the stop and the store after it are `stopped`. `Ensures.bind` is the
  rule for sequences; the rules for `attempt` and `mapError` turn stops into values and change them.
* **The parts of the store** (`Store.sections`, `Store.redirect`) and what the operations of the
  store do to them.
-/

namespace TemplateEngine

variable {σ α β : Type}

namespace Render

/-- The result of a computation on a store, and the store that it leaves. -/
def exec (x : Render σ α) (store : Store σ) : Except Stop α × Store σ := x.run.run store

@[simp] theorem exec_pure (a : α) (store : Store σ) :
    exec (pure a : Render σ α) store = (.ok a, store) := rfl

theorem exec_bind (x : Render σ α) (f : α → Render σ β) (store : Store σ) :
    exec (x >>= f) store =
      match exec x store with
      | (.ok a, after) => exec (f a) after
      | (.error stop, after) => (.error stop, after) := by
  show ((ExceptT.bind x f) : StateM (Store σ) _) store = _
  unfold ExceptT.bind ExceptT.mk exec
  show (match x.run.run store with | (a, s) => (ExceptT.bindCont f a).run s) = _
  rcases h : x.run.run store with ⟨_ | _, _⟩ <;> rfl

theorem exec_bind_ok {x : Render σ α} {store after : Store σ} {a : α}
    (h : exec x store = (.ok a, after)) (f : α → Render σ β) :
    exec (x >>= f) store = exec (f a) after := by
  rw [exec_bind, h]

theorem exec_bind_error {x : Render σ α} {store after : Store σ} {stop : Stop}
    (h : exec x store = (.error stop, after)) (f : α → Render σ β) :
    exec (x >>= f) store = (.error stop, after) := by
  rw [exec_bind, h]

@[simp] theorem exec_throw (stop : Stop) (store : Store σ) :
    exec (throw stop : Render σ α) store = (.error stop, store) := rfl

@[simp] theorem exec_raise (error : Error) (store : Store σ) :
    exec (raise error : Render σ α) store = (.error (.raised error), store) := rfl

@[simp] theorem exec_get (store : Store σ) :
    exec (get : Render σ (Store σ)) store = (.ok store, store) := rfl

@[simp] theorem exec_modify (f : Store σ → Store σ) (store : Store σ) :
    exec (modify f : Render σ Unit) store = (.ok (), f store) := rfl

@[simp] theorem exec_modifyGet (f : Store σ → α × Store σ) (store : Store σ) :
    exec (modifyGet f : Render σ α) store = (.ok (f store).1, (f store).2) := rfl

theorem exec_tryCatch (x : Render σ α) (f : Stop → Render σ α) (store : Store σ) :
    exec (tryCatch x f) store =
      match exec x store with
      | (.ok a, after) => (.ok a, after)
      | (.error stop, after) => exec (f stop) after := by
  unfold exec
  simp only [tryCatch, tryCatchThe, MonadExceptOf.tryCatch, ExceptT.tryCatch, ExceptT.run,
    ExceptT.mk, StateT.run_bind]
  rcases StateT.run x store with ⟨_ | _, _⟩ <;> rfl

theorem exec_map (f : α → β) (x : Render σ α) (store : Store σ) :
    exec (f <$> x) store =
      match exec x store with
      | (.ok a, after) => (.ok (f a), after)
      | (.error stop, after) => (.error stop, after) :=
  exec_bind x (fun a => pure (f a)) store

theorem exec_attempt (x : Render σ α) (store : Store σ) :
    exec (attempt x) store =
      match exec x store with
      | (.ok a, after) => (.ok (.ok a), after)
      | (.error (.raised error), after) => (.ok (.error error), after)
      | (.error stop, after) => (.error stop, after) := by
  unfold attempt
  rw [exec_tryCatch, exec_map]
  rcases exec x store with ⟨stop | a, after⟩
  · cases stop <;> rfl
  · rfl

theorem exec_mapError (f : Error → Error) (x : Render σ α) (store : Store σ) :
    exec (mapError f x) store =
      match exec x store with
      | (.ok a, after) => (.ok a, after)
      | (.error (.raised error), after) => (.error (.raised (f error)), after)
      | (.error stop, after) => (.error stop, after) := by
  unfold mapError
  rw [exec_tryCatch]
  rcases exec x store with ⟨stop | a, after⟩
  · cases stop <;> rfl
  · rfl

@[simp] theorem exec_ofExcept (result : Except Error α) (store : Store σ) :
    exec (ofExcept result) store = (result.mapError Stop.raised, store) := by
  cases result <;> rfl

/-! ## Values -/

/-- A sequence that has a value went through its first part. -/
theorem exec_bind_eq_ok {x : Render σ α} {f : α → Render σ β} {store after : Store σ} {b : β}
    (h : exec (x >>= f) store = (.ok b, after)) :
    ∃ a middle, exec x store = (.ok a, middle) ∧ exec (f a) middle = (.ok b, after) := by
  rw [exec_bind] at h
  rcases hx : exec x store with ⟨stop | a, middle⟩
  · rw [hx] at h
    cases h
  · rw [hx] at h
    exact ⟨a, middle, rfl, h⟩

theorem exec_mapError_eq_ok {f : Error → Error} {x : Render σ α} {store after : Store σ} {a : α}
    (h : exec (mapError f x) store = (.ok a, after)) : exec x store = (.ok a, after) := by
  rw [exec_mapError] at h
  rcases hx : exec x store with ⟨stop | b, middle⟩
  · rw [hx] at h
    cases stop <;> cases h
  · rw [hx] at h
    exact h

theorem exec_attempt_eq_ok {x : Render σ α} {store after : Store σ} {result : Except Error α}
    (h : exec (attempt x) store = (.ok result, after)) :
    exec x store = (result.mapError Stop.raised, after) := by
  rw [exec_attempt] at h
  rcases hx : exec x store with ⟨stop | b, middle⟩
  · rw [hx] at h
    cases stop <;> cases h
    rfl
  · rw [hx] at h
    cases h
    rfl

theorem exec_ofExcept_eq_ok {result : Except Error α} {store after : Store σ} {a : α}
    (h : exec (ofExcept result) store = (.ok a, after)) : result = .ok a ∧ after = store := by
  cases result with
  | error error => cases h
  | ok b =>
    cases h
    exact ⟨rfl, rfl⟩

/-! ## What is ensured -/

/-- What is said of a stop: `raised` of an error, and `other` of the stops that nothing catches. -/
abbrev OnStop (raised : Error → Prop) (other : Stop → Prop) (stop : Stop) : Prop :=
  match stop with
  | .raised error => raised error
  | stop => other stop

/-- What is said of a result: `good` of a value, and `failed` of an error. -/
abbrev OnResult (good : α → Prop) (failed : Error → Prop) (result : Except Error α) : Prop :=
  match result with
  | .ok value => good value
  | .error error => failed error

/-- What holds of the outcome of a computation on a store. -/
structure Ensures (x : Render σ α) (store : Store σ) (good : α → Store σ → Prop)
    (stopped : Stop → Store σ → Prop) : Prop where
  /-- If it has a value, then the value and the store are good. -/
  ok : ∀ {a after}, exec x store = (.ok a, after) → good a after
  /-- If it stops, then the stop and the store are as stated. -/
  error : ∀ {stop after}, exec x store = (.error stop, after) → stopped stop after

variable {x : Render σ α} {store : Store σ} {good good' : α → Store σ → Prop}
  {stopped stopped' : Stop → Store σ → Prop}

theorem Ensures.of_ok {a : α} {after : Store σ} (hx : exec x store = (.ok a, after))
    (h : good a after) : Ensures x store good stopped := by
  refine ⟨fun hok => ?_, fun herror => ?_⟩
  · obtain ⟨⟨⟩, rfl⟩ := Prod.mk.inj (hx.symm.trans hok)
    exact h
  · cases hx.symm.trans herror

theorem Ensures.of_error {stop : Stop} {after : Store σ}
    (hx : exec x store = (.error stop, after)) (h : stopped stop after) :
    Ensures x store good stopped := by
  refine ⟨fun hok => ?_, fun herror => ?_⟩
  · cases hx.symm.trans hok
  · obtain ⟨⟨⟩, rfl⟩ := Prod.mk.inj (hx.symm.trans herror)
    exact h

theorem Ensures.mono (h : Ensures x store good stopped)
    (hgood : ∀ a after, good a after → good' a after)
    (hstopped : ∀ stop after, stopped stop after → stopped' stop after) :
    Ensures x store good' stopped' :=
  ⟨fun hx => hgood _ _ (h.ok hx), fun hx => hstopped _ _ (h.error hx)⟩

theorem Ensures.and (h : Ensures x store good stopped) (h' : Ensures x store good' stopped') :
    Ensures x store (fun a after => good a after ∧ good' a after)
      fun stop after => stopped stop after ∧ stopped' stop after :=
  ⟨fun hx => ⟨h.ok hx, h'.ok hx⟩, fun hx => ⟨h.error hx, h'.error hx⟩⟩

/-- Nothing is ensured of every computation. -/
theorem Ensures.any (x : Render σ α) (store : Store σ) :
    Ensures x store (fun _ _ => True) fun _ _ => True :=
  ⟨fun _ => trivial, fun _ => trivial⟩

theorem Ensures.pure {a : α} (h : good a store) : Ensures (pure a) store good stopped :=
  .of_ok (exec_pure a store) h

theorem Ensures.throw {stop : Stop} (h : stopped stop store) :
    Ensures (throw stop : Render σ α) store good stopped :=
  .of_error (exec_throw stop store) h

theorem Ensures.raise {error : Error} (h : stopped (.raised error) store) :
    Ensures (raise error : Render σ α) store good stopped :=
  .of_error (exec_raise error store) h

/-- A sequence whose first part is known to have a value. -/
theorem Ensures.bind_ok {f : α → Render σ β} {good : β → Store σ → Prop} {a : α}
    {after : Store σ} (hx : exec x store = (.ok a, after))
    (hf : Ensures (f a) after good stopped) : Ensures (x >>= f) store good stopped :=
  have hexec := exec_bind_ok hx f
  ⟨fun hok => hf.ok (hexec.symm.trans hok), fun hstop => hf.error (hexec.symm.trans hstop)⟩

/-- A sequence: what the first part ensures is what the second part may rely on. -/
theorem Ensures.bind {f : α → Render σ β} {middle : α → Store σ → Prop}
    {good : β → Store σ → Prop} (hx : Ensures x store middle stopped)
    (hf : ∀ a after, middle a after → Ensures (f a) after good stopped) :
    Ensures (x >>= f) store good stopped := by
  rcases h : exec x store with ⟨stop | a, after⟩
  · exact .of_error (exec_bind_error h f) (hx.error h)
  · exact .bind_ok h (hf a after (hx.ok h))

theorem Ensures.map {f : α → β} {good : β → Store σ → Prop}
    (hx : Ensures x store (fun a after => good (f a) after) stopped) :
    Ensures (f <$> x) store good stopped :=
  hx.bind fun _ _ => .pure

/-- An attempt has an error of the computation for its value. -/
theorem Ensures.attempt {good : Except Error α → Store σ → Prop}
    (hx : Ensures x store (fun a after => good (.ok a) after) fun stop after =>
      OnStop (fun error => good (.error error) after) (stopped · after) stop) :
    Ensures (attempt x) store good stopped := by
  have hexec := exec_attempt x store
  rcases h : exec x store with ⟨stop | a, after⟩
  · rw [h] at hexec
    cases stop with
    | raised error => exact .of_ok hexec (hx.error h)
    | stalled | exhausted => exact .of_error hexec (hx.error h)
  · rw [h] at hexec
    exact .of_ok hexec (hx.ok h)

theorem Ensures.mapError {f : Error → Error}
    (hx : Ensures x store good fun stop after =>
      OnStop (fun error => stopped (.raised (f error)) after) (stopped · after) stop) :
    Ensures (mapError f x) store good stopped := by
  have hexec := exec_mapError f x store
  rcases h : exec x store with ⟨stop | a, after⟩
  · rw [h] at hexec
    cases stop with
    | raised error => exact .of_error hexec (hx.error h)
    | stalled | exhausted => exact .of_error hexec (hx.error h)
  · rw [h] at hexec
    exact .of_ok hexec (hx.ok h)

theorem Ensures.ofExcept {result : Except Error α}
    (hok : ∀ a, result = .ok a → good a store)
    (herror : ∀ error, result = .error error → stopped (.raised error) store) :
    Ensures (ofExcept result) store good stopped := by
  cases result with
  | ok a => exact .pure (hok a rfl)
  | error error => exact .raise (herror error rfl)

end Render

end TemplateEngine
