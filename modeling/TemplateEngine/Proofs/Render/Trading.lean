import TemplateEngine.Proofs.Expr.Respects
import TemplateEngine.Proofs.Render.Holding

/-!
# `Render` · What computations cost

A computation pays for what it appends, and gives up the scopes that it prints.

* **`Rates.Trades`**: two computations do the same while what may still be printed fits below a
  limit (`Rates.Fits`), and what a computation costs, holds and gives back is accounted for
  (`Rates.Outcome`). **`Rates.Affords`** is the case in which nothing is held.
* **`Trades.bind`** is the rule for sequences, and `Trades.frame` leaves alone what a computation
  does not need.
* **`Affords.respects`**: what an evaluation is made of costs nothing.
-/

namespace TemplateEngine

open Render

variable {σ α β : Type}

namespace Rates

/-! ## Trades -/

/-- What a value leaves. -/
structure Outcome (α : Type) where
  /-- The places that are held. -/
  held : α → List Holder
  /-- What is given back. -/
  credit : α → Nat
  /-- What is known of the value. -/
  good : α → Prop

/-- Nothing is held and nothing given back, and something is known of the value. -/
def Outcome.known (good : α → Prop) : Outcome α := ⟨fun _ => [], fun _ => 0, good⟩

/-- Nothing is held and nothing given back. -/
abbrev Outcome.plain : Outcome α := .known fun _ => True

/-- Two computations do the same on a store, and leave what `outcome` says if they have a value, and
nothing but what others hold if they stop. -/
structure Agree (rates : Rates) (limit : Nat) (s : Store σ) (others : List Holder) (reserve : Nat)
    (x y : Render σ α) (outcome : Outcome α) : Prop where
  /-- They do the same. -/
  same : exec x s = exec y s
  /-- What is left fits below the limit. -/
  fits : Ensures x s
    (fun a t => outcome.good a ∧
      rates.Fits limit t (outcome.held a ++ others) (outcome.credit a + reserve))
    fun _ t => rates.Fits limit t others reserve

/-- Two computations agree on every store on which the limit allows them to hold the places in
`held` and to cost `cost`. -/
def Trades (rates : Rates) (limit : Nat) (held : List Holder) (cost : Nat) (x y : Render σ α)
    (outcome : Outcome α) : Prop :=
  ∀ (s : Store σ) (others : List Holder) (reserve : Nat),
    rates.Fits limit s (held ++ others) (cost + reserve) →
      rates.Agree limit s others reserve x y outcome

/-- Two computations do the same at a cost. -/
abbrev Affords (rates : Rates) (limit cost : Nat) (x y : Render σ α) : Prop :=
  rates.Trades limit [] cost x y .plain

variable {rates : Rates} {limit cost : Nat} {held : List Holder}

/-- A first step that is known. -/
theorem Agree.step {s t : Store σ} {others : List Holder} {reserve : Nat} {x : Render σ α} {a : α}
    {f g : α → Render σ β} {outcome : Outcome β} (hx : exec x s = (.ok a, t))
    (h : rates.Agree limit t others reserve (f a) (g a) outcome) :
    rates.Agree limit s others reserve (x >>= f) (x >>= g) outcome where
  same := by rw [exec_bind_ok hx, exec_bind_ok hx, h.same]
  fits := .bind_ok hx h.fits

namespace Trades

variable {x y : Render σ α} {outcome : Outcome α}

theorem pure (outcome : Outcome α) {a : α} (h : outcome.good a) :
    rates.Trades limit (outcome.held a) (outcome.credit a) (pure a : Render σ α) (pure a) outcome :=
  fun _ _ _ hs => ⟨rfl, .pure ⟨h, hs⟩⟩

theorem throw (stop : Stop) :
    rates.Trades limit held cost (throw stop : Render σ α) (throw stop) outcome :=
  fun _ _ _ hs => ⟨rfl, .throw (hs.drop.mono (Nat.le_refl _) (Nat.le_add_left _ _))⟩

theorem raise (error : Error) :
    rates.Trades limit held cost (raise error : Render σ α) (raise error) outcome :=
  throw (.raised error)

theorem bind {f g : α → Render σ β} {after : Outcome β}
    (hx : rates.Trades limit held cost x y outcome)
    (hf : ∀ a, outcome.good a →
      rates.Trades limit (outcome.held a) (outcome.credit a) (f a) (g a) after) :
    rates.Trades limit held cost (x >>= f) (y >>= g) after := by
  intro s others reserve hs
  obtain ⟨hexec, hensures⟩ := hx s others reserve hs
  refine ⟨?_, hensures.bind fun a t ⟨hgood, ht⟩ => (hf a hgood t others reserve ht).2⟩
  rw [exec_bind, exec_bind, ← hexec]
  rcases hrun : exec x s with ⟨stop | a, t⟩
  · rfl
  · obtain ⟨hgood, ht⟩ := hensures.ok hrun
    exact (hf a hgood t others reserve ht).1

/-- What is not needed stays as it is. -/
theorem frame (h : rates.Trades limit held cost x y outcome) (rest : List Holder) (more : Nat) :
    rates.Trades limit (held ++ rest) (cost + more) x y
      ⟨fun a => outcome.held a ++ rest, fun a => outcome.credit a + more, outcome.good⟩ := by
  intro s others reserve hs
  rw [List.append_assoc, Nat.add_assoc] at hs
  obtain ⟨hexec, hensures⟩ := h s (rest ++ others) (more + reserve) hs
  refine ⟨hexec, hensures.mono (fun a t ⟨hgood, ht⟩ => ⟨hgood, ?_⟩) fun _ t ht => ?_⟩
  · rw [List.append_assoc, Nat.add_assoc]
    exact ht
  · exact ht.drop.mono (Nat.le_refl _) (Nat.le_add_left _ _)

/-- Less may be spent than is allowed. -/
theorem spend {most : Nat} (h : rates.Trades limit held cost x y outcome) (hcost : cost ≤ most) :
    rates.Trades limit held most x y outcome := by
  intro s others reserve hs
  exact h s others reserve (hs.mono (Nat.le_refl _) (Nat.add_le_add_right hcost _))

/-- A computation that holds nothing comes before one that holds something. -/
theorem andThen {good : α → Prop} {f g : α → Render σ β} {after : Outcome β} (rest : Nat)
    (hx : rates.Trades limit [] cost x y (.known good))
    (hf : ∀ a, good a → rates.Trades limit held rest (f a) (g a) after) :
    rates.Trades limit held (cost + rest) (x >>= f) (y >>= g) after := by
  refine (hx.frame held rest).bind fun a hgood => ?_
  show rates.Trades limit ([] ++ held) (0 + rest) (f a) (g a) after
  rw [List.nil_append, Nat.zero_add]
  exact hf a hgood

/-- A first step that costs nothing. -/
theorem free {f g : α → Render σ β} {after : Outcome β} (hx : rates.Affords limit 0 x y)
    (hf : ∀ a, rates.Trades limit held cost (f a) (g a) after) :
    rates.Trades limit held cost (x >>= f) (y >>= g) after :=
  spend (andThen cost hx fun a _ => hf a) (Nat.le_of_eq (Nat.zero_add _))

/-- Nothing follows a failure. -/
theorem raiseThen (error : Error) (f g : α → Render σ β) {after : Outcome β} :
    rates.Trades limit held cost (Render.raise error >>= f) (Render.raise error >>= g) after := by
  intro s others reserve hs
  refine ⟨rfl, .of_error (exec_bind_error (exec_raise error s) f) ?_⟩
  exact hs.drop.mono (Nat.le_refl _) (Nat.le_add_left _ _)

theorem mapError (f : Error → Error) (h : rates.Trades limit held cost x y outcome) :
    rates.Trades limit held cost (mapError f x) (mapError f y) outcome := by
  intro s others reserve hs
  obtain ⟨hexec, hensures⟩ := h s others reserve hs
  refine ⟨?_, .mapError (hensures.mono (fun _ _ h => h) fun stop t ht => ?_)⟩
  · rw [exec_mapError, exec_mapError, hexec]
  · cases stop <;> exact ht

theorem attempt (h : rates.Trades limit held cost x y .plain) :
    rates.Trades limit held cost (attempt x) (attempt y) .plain := by
  intro s others reserve hs
  obtain ⟨hexec, hensures⟩ := h s others reserve hs
  refine ⟨?_, .attempt (hensures.mono (fun _ _ h => h) fun stop t ht => ?_)⟩
  · rw [exec_attempt, exec_attempt, hexec]
  · cases stop with
    | raised error =>
      refine ⟨trivial, ?_⟩
      show rates.Fits limit _ ([] ++ others) (0 + reserve)
      rw [Nat.zero_add]
      exact ht
    | stalled | exhausted => exact ht

end Trades

namespace Affords

variable {x y : Render σ α}

/-- A single step that brings nothing to be printed. -/
theorem of_narrows (h : ∀ s, rates.Narrows cost s (exec x s).2) :
    rates.Affords limit cost x x := by
  intro s others reserve hs
  refine ⟨rfl, fun {a t} hx => ⟨trivial, ?_⟩, fun {stop t} hx => ?_⟩
  all_goals
    have hnarrows := h s
    rw [hx] at hnarrows
  · show rates.Fits limit _ ([] ++ others) (0 + reserve)
    rw [Nat.zero_add]
    exact hnarrows.fits hs
  · exact hnarrows.fits hs

theorem bind {f g : α → Render σ β} {rest : Nat} (hx : rates.Affords limit cost x y)
    (hf : ∀ a, rates.Affords limit rest (f a) (g a)) :
    rates.Affords limit (cost + rest) (x >>= f) (y >>= g) :=
  Trades.andThen rest hx fun a _ => hf a

/-- A first step that costs nothing. -/
theorem free {f g : α → Render σ β} (hx : rates.Affords limit 0 x y)
    (hf : ∀ a, rates.Affords limit cost (f a) (g a)) :
    rates.Affords limit cost (x >>= f) (y >>= g) :=
  Trades.free hx hf

theorem raise (error : Error) :
    rates.Affords limit 0 (raise error : Render σ α) (Render.raise error) :=
  Trades.raise error

/-- What is known of the value may come from elsewhere. -/
theorem known {good : α → Prop} (h : rates.Affords limit cost x y)
    (hgood : ∀ s : Store σ, s.templates.Within rates.parts →
      Ensures x s (fun a _ => good a) fun _ _ => True) :
    rates.Trades limit [] cost x y (.known good) := by
  intro s others reserve hs
  obtain ⟨hexec, hensures⟩ := h s others reserve hs
  have ⟨_, hstock, _⟩ := hs
  exact ⟨hexec, (hensures.and (hgood s hstock.templates)).mono (fun _ _ ⟨⟨_, ht⟩, ha⟩ => ⟨ha, ht⟩)
    fun _ _ ⟨ht, _⟩ => ht⟩

theorem pure (a : α) : rates.Affords limit 0 (pure a : Render σ α) (pure a) :=
  Trades.pure .plain trivial

theorem map (h : rates.Affords limit cost x y) (f : α → β) :
    rates.Affords limit cost (f <$> x) (f <$> y) :=
  h.bind fun _ => .pure _

theorem attempt (h : rates.Affords limit cost x y) :
    rates.Affords limit cost (attempt x) (attempt y) :=
  Trades.attempt h

theorem ofExcept (result : Except Error α) :
    rates.Affords (σ := σ) limit 0 (ofExcept result) (ofExcept result) :=
  .of_narrows fun s => by
    rw [exec_ofExcept]
    exact .refl s

theorem changeGraph (f : Graph → α × Graph) :
    rates.Affords (σ := σ) limit 0 (changeGraph f) (changeGraph f) :=
  .of_narrows fun _ => .of_same rfl (fun _ => rfl) rfl rfl (Nat.le_refl _)

theorem note {event : Event} (h : event.isOutput = false) :
    rates.Affords (σ := σ) limit 0 (note event) (note event) :=
  .of_narrows fun s => .noted_of_not_output s h

theorem withSections (id : RequestId) (f : Sections Deferred → α) :
    rates.Affords (σ := σ) limit 0 (withSections id f) (withSections id f) :=
  .of_narrows fun s => .refl s

theorem popSection (id : RequestId) (name : String) :
    rates.Affords (σ := σ) limit 0 (popSection id name) (popSection id name) :=
  .of_narrows fun s => by
    rw [exec_popSection]
    rcases hpop : (s.sections id).pop name with fault | ⟨popped, after⟩
    · exact .refl s
    · exact .pop hpop

/-- A slot costs what its fragments cost, and one more. -/
theorem newSlot (fragments : List (Fragment Deferred)) :
    rates.Affords (σ := σ) limit (rates.total fragments + 1) (newSlot (.pending fragments))
      (newSlot (.pending fragments)) := by
  intro s others reserve hs
  refine ⟨rfl, .of_ok (exec_newSlot _ s) ⟨trivial, ?_⟩⟩
  show rates.Fits limit _ ([] ++ others) (0 + reserve)
  rw [Nat.zero_add]
  exact hs.newSlot fragments

/-- What an evaluation is made of costs nothing. -/
theorem respects (host : Host σ) :
    Respects host fun _ x y => rates.Affords limit 0 x y where
  pure a := .pure a
  bind hx hf := hx.bind hf
  read _ := .of_narrows fun s => .refl s
  write _ _ _ := .changeGraph _
  newObject _ := .changeGraph _
  newPromise _ := .changeGraph _
  fault _ := .raise _
  exhausted := .throw _
  ask request target := .of_narrows fun s => by
    have hnoted : rates.Narrows 0 s (s.noted (.asked request target)) := .noted_of_not_output s rfl
    exact .of_same (Store.requests_size_asking _ _ _) (fun id => Store.sections_asking _ _ id _)
      rfl rfl hnoted.work
  native id args := .of_narrows fun s => by
    have hfailed : ∀ graph host error,
        rates.Narrows 0 s (({ s with graph := graph, host := host } : Store σ).noted (.failed error)) :=
      fun _ _ error =>
        have hnoted : rates.Narrows 0 s (s.noted (.failed error)) := .noted_of_not_output s rfl
        .of_same rfl (fun _ => rfl) rfl rfl hnoted.work
    rw [exec_ofNative]
    rcases (host.call id args).run.run (s.graph, s.host) with ⟨error | value, graph, host⟩
    · exact hfailed graph host error
    · exact .of_same rfl (fun _ => rfl) rfl rfl (Nat.le_refl _)
  program source := .of_narrows fun s => by
    obtain ⟨programs, ⟨program, hexec⟩ | ⟨fault, hexec⟩⟩ := exec_programOf source s
    all_goals
      rw [hexec]
      exact .of_same rfl (fun _ => rfl) rfl rfl (Nat.le_refl _)

end Affords

end Rates

end TemplateEngine
