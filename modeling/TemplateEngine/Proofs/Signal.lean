import TemplateEngine.Proofs.Error
import TemplateEngine.Proofs.Render.Operations

/-!
# Signals

How far a redirect is, read off the events of a request in their order.

* **`Signal`** is the state of an automaton over events: no redirect is in sight, one was asked for
  by an expression that is still running, or one is on its way out. While it is on its way out, the
  evaluations that are under way end, and nothing else happens; any other event breaks the signal.
* **Unbroken signals** (`foldl_next_of_firstAsked` and its like) say what the claims about redirects
  need: the first redirect counts, and nothing starts after the end of the expression that asked.
* **`Store.signal`** is the signal of what a journal has gained since some moment.
-/

namespace TemplateEngine

variable {σ : Type}

/-- How far a redirect of a request is. -/
inductive Signal where
  /-- There is none. -/
  | clear
  /-- It was asked for by an expression that has not ended. -/
  | asked (target : String)
  /-- It is on its way out. -/
  | leaving (target : String)
  /-- Something happened while it was on its way out. -/
  | broken
  deriving DecidableEq

namespace Signal

/-- The signal after an event. -/
def next (request : RequestId) (signal : Signal) (event : Event) : Signal :=
  match signal, event with
  | clear, .asked id target => if id = request then asked target else clear
  | clear, .failed error => (error.redirectTarget?.map leaving).getD clear
  | clear, _ => clear
  | asked target, .ended _ => leaving target
  | asked target, _ => asked target
  | leaving target, .ended _ => leaving target
  | leaving _, _ => broken
  | broken, _ => broken

/-- The target of the first redirect of a request that is asked for. -/
def firstAsked (request : RequestId) (events : List Event) : Option String :=
  events.findSome? fun event =>
    match event with
    | .asked id target => if id = request then some target else none
    | _ => none

/-- The end of an evaluation. -/
def IsEnd (event : Event) : Prop := ∃ request, event = .ended request

variable {request : RequestId} {target : String} {events : List Event}

/-! ## Runs -/

theorem foldl_next_broken (events : List Event) :
    events.foldl (next request) broken = broken := by
  induction events with
  | nil => rfl
  | cons event rest ih => exact ih

/-- While a redirect is on its way out, nothing happens but the ends of evaluations. -/
theorem foldl_next_leaving (h : events.foldl (next request) (leaving target) ≠ broken) :
    events.foldl (next request) (leaving target) = leaving target ∧
      ∀ event ∈ events, IsEnd event := by
  induction events with
  | nil => exact ⟨rfl, nofun⟩
  | cons event rest ih =>
    rw [List.foldl_cons] at h ⊢
    cases event with
    | ended id =>
      obtain ⟨hrest, hends⟩ := ih h
      refine ⟨hrest, fun event hevent => ?_⟩
      rcases List.mem_cons.1 hevent with rfl | hevent
      · exact ⟨id, rfl⟩
      · exact hends event hevent
    | _ => exact absurd (foldl_next_broken rest) h

/-- A redirect that was asked for keeps its target. -/
theorem foldl_next_asked (h : events.foldl (next request) (asked target) ≠ broken) :
    events.foldl (next request) (asked target) = asked target ∨
      events.foldl (next request) (asked target) = leaving target := by
  induction events with
  | nil => exact .inl rfl
  | cons event rest ih =>
    rw [List.foldl_cons] at h ⊢
    cases event with
    | ended id => exact .inr (foldl_next_leaving h).1
    | _ => exact ih h

/-- The first redirect that is asked for counts. -/
theorem foldl_next_of_firstAsked (h : events.foldl (next request) clear ≠ broken)
    (hfirst : firstAsked request events = some target) :
    events.foldl (next request) clear = asked target ∨
      events.foldl (next request) clear = leaving target := by
  induction events with
  | nil => cases hfirst
  | cons event rest ih =>
    unfold firstAsked at hfirst ih
    rw [List.foldl_cons] at h ⊢
    rw [List.findSome?_cons] at hfirst
    cases event with
    | asked id asked =>
      by_cases hid : id = request
      · simp only [next, hid, if_true] at h hfirst ⊢
        cases hfirst
        exact foldl_next_asked h
      · simp only [next, if_neg hid] at h hfirst ⊢
        exact ih h hfirst
    | failed error =>
      simp only [next] at h hfirst ⊢
      rcases ht : error.redirectTarget? with _ | other
      · simp only [ht, Option.map_none, Option.getD_none] at h ⊢
        exact ih h hfirst
      · -- While this one is on its way out, no other one can be asked for.
        simp only [ht, Option.map_some, Option.getD_some] at h
        obtain ⟨event, hevent, hsome⟩ := List.exists_of_findSome?_eq_some hfirst
        obtain ⟨_, rfl⟩ := (foldl_next_leaving h).2 event hevent
        cases hsome
    | _ => exact ih h hfirst

/-- If no redirect is asked for, then a native function that fails with one has its way. -/
theorem foldl_next_of_failed (h : events.foldl (next request) clear ≠ broken)
    (hfirst : firstAsked request events = none) {error : Error}
    (herror : .failed error ∈ events) (htarget : error.redirectTarget? = some target) :
    events.foldl (next request) clear = leaving target := by
  induction events with
  | nil => cases herror
  | cons event rest ih =>
    unfold firstAsked at hfirst ih
    rw [List.foldl_cons] at h ⊢
    rw [List.findSome?_cons] at hfirst
    cases event with
    | asked id asked =>
      by_cases hid : id = request
      · simp only [hid, if_true] at hfirst
        cases hfirst
      · simp only [next, if_neg hid] at h hfirst ⊢
        rcases List.mem_cons.1 herror with heq | herror
        · cases heq
        · exact ih h hfirst herror
    | failed other =>
      simp only [next] at h hfirst ⊢
      rcases ht : other.redirectTarget? with _ | first
      · simp only [ht, Option.map_none, Option.getD_none] at h ⊢
        rcases List.mem_cons.1 herror with heq | herror
        · cases heq
          rw [htarget] at ht
          cases ht
        · exact ih h hfirst herror
      · simp only [ht, Option.map_some, Option.getD_some] at h ⊢
        obtain ⟨hleaving, hends⟩ := foldl_next_leaving h
        rcases List.mem_cons.1 herror with heq | herror
        · cases heq
          rw [htarget] at ht
          cases ht
          exact hleaving
        · obtain ⟨_, heq⟩ := hends _ herror
          cases heq
    | _ =>
      rcases List.mem_cons.1 herror with heq | herror
      · cases heq
      · exact ih h hfirst herror

/-- After a redirect was asked for and an evaluation has ended, only evaluations end. -/
theorem isEnd_of_asked {before middle rest : List Event} {id : RequestId} {signal : Signal}
    (h : (before ++ .asked request target :: middle ++ .ended id :: rest).foldl (next request)
      signal ≠ broken) : ∀ event ∈ rest, IsEnd event := by
  simp only [List.foldl_append, List.foldl_cons] at h
  -- An event that asks for a redirect leaves it asked for, unless the signal breaks.
  have hasked : next request (before.foldl (next request) signal) (.asked request target) = broken ∨
      ∃ first, next request (before.foldl (next request) signal) (.asked request target) =
        asked first := by
    rcases before.foldl (next request) signal with _ | first | first | _
    · exact .inr ⟨target, if_pos rfl⟩
    · exact .inr ⟨first, rfl⟩
    · exact .inl rfl
    · exact .inl rfl
  rcases hasked with hbroken | ⟨first, hfirst⟩
  · rw [hbroken, foldl_next_broken] at h
    exact absurd (foldl_next_broken rest) h
  · rw [hfirst] at h
    have hmiddle : middle.foldl (next request) (asked first) ≠ broken := by
      intro hbroken
      rw [hbroken] at h
      exact h (foldl_next_broken rest)
    rcases foldl_next_asked hmiddle with hm | hm
    · rw [hm] at h
      exact (foldl_next_leaving h).2
    · rw [hm] at h
      exact (foldl_next_leaving h).2

/-! ## Order -/

/-- The signal may go from one state to another. -/
def Reaches (a b : Signal) : Prop :=
  b = a ∨ (a = clear ∧ b ≠ broken) ∨ ∃ target, a = asked target ∧ b = leaving target

theorem Reaches.refl (a : Signal) : Reaches a a := .inl rfl

theorem Reaches.trans {a b c : Signal} (h : Reaches a b) (h' : Reaches b c) : Reaches a c := by
  rcases h with rfl | ⟨rfl, hb⟩ | ⟨target, rfl, rfl⟩
  · exact h'
  · rcases h' with rfl | ⟨rfl, hc⟩ | ⟨target, rfl, rfl⟩
    · exact .inr (.inl ⟨rfl, hb⟩)
    · exact .inr (.inl ⟨rfl, hc⟩)
    · exact .inr (.inl ⟨rfl, nofun⟩)
  · rcases h' with rfl | ⟨hclear, -⟩ | ⟨target', hasked, -⟩
    · exact .inr (.inr ⟨target, rfl, rfl⟩)
    · cases hclear
    · cases hasked

/-- The redirect of a request is the one that was asked for. -/
def Matches (signal : Signal) (redirect : Option String) : Prop :=
  signal = clear ∧ redirect = none ∨
    ∃ target, signal = asked target ∧ redirect = some target

/-- An error is raised as the signal has it: a redirect on its way out is the one that the request
has asked for, or the error itself. -/
def Agrees (signal : Signal) (redirect : Option String) (error : Error) : Prop :=
  signal.Matches redirect ∨
    ∃ target, signal = leaving target ∧
      (redirect = some target ∨ redirect = none ∧ error.redirectTarget? = some target)

variable {signal : Signal} {error : Error}

theorem Matches.of_none (h : signal.Matches none) : signal = clear := by
  rcases h with ⟨h, -⟩ | ⟨_, -, h⟩
  · exact h
  · cases h

theorem Matches.of_some (h : signal.Matches (some target)) : signal = asked target := by
  rcases h with ⟨-, h⟩ | ⟨_, hasked, h⟩
  · cases h
  · cases h
    exact hasked

theorem Matches.redirect_of_clear {redirect : Option String} (h : clear.Matches redirect) :
    redirect = none := by
  rcases h with ⟨-, h⟩ | ⟨_, h, -⟩
  · exact h
  · cases h

theorem Matches.ne_broken {redirect : Option String} (h : signal.Matches redirect) :
    signal ≠ broken := by
  rcases h with ⟨rfl, -⟩ | ⟨target, rfl, -⟩ <;> exact nofun

theorem Agrees.of_none (h : signal.Agrees none error) :
    signal = clear ∨ ∃ target, signal = leaving target ∧ error.redirectTarget? = some target := by
  rcases h with h | ⟨target, hleaving, h | ⟨-, htarget⟩⟩
  · exact .inl h.of_none
  · cases h
  · exact .inr ⟨target, hleaving, htarget⟩

theorem Agrees.of_some (h : signal.Agrees (some target) error) :
    signal = asked target ∨ signal = leaving target := by
  rcases h with h | ⟨_, hleaving, h | ⟨h, -⟩⟩
  · exact .inl h.of_some
  · cases h
    exact .inr hleaving
  · cases h

theorem Reaches.clear {a : Signal} (h : Reaches a clear) : a = clear := by
  rcases h with h | ⟨h, -⟩ | ⟨_, -, h⟩
  · exact h.symm
  · exact h
  · cases h

theorem Agrees.similar {redirect : Option String} {a b : Error}
    (h : signal.Agrees redirect a) (hab : Error.Similar a b) : signal.Agrees redirect b := by
  refine h.imp_right fun ⟨target, hsignal, hredirect⟩ => ⟨target, hsignal, ?_⟩
  rw [← hab.target]
  exact hredirect

end Signal

/-! ## Journals -/

namespace Store

/-- The signal of a request since the journal was `base`. -/
def signal (base : List Event) (request : RequestId) (store : Store σ) : Signal :=
  (store.journal.take (store.journal.length - base.length)).foldr
    (fun event signal => signal.next request event) .clear

variable {base : List Event} {request : RequestId} {store : Store σ}

theorem signal_noted (h : base <:+ store.journal) (event : Event) :
    (store.noted event).signal base request = (store.signal base request).next request event := by
  have hle := h.length_le
  unfold signal noted
  rw [List.length_cons, Nat.succ_sub hle, List.take_succ_cons, List.foldr_cons]

/-- The signal of a journal that has gained some events, the last first. -/
theorem signal_of_append {events : List Event} (h : store.journal = events ++ base) :
    store.signal base request = events.reverse.foldl (Signal.next request) .clear := by
  unfold signal
  rw [h, List.length_append, Nat.add_sub_cancel, List.take_left', List.foldl_reverse]
  rfl

theorem suffix_noted (h : base <:+ store.journal) (event : Event) :
    base <:+ (store.noted event).journal := h.trans (List.suffix_cons _ _)

end Store

end TemplateEngine
