import TemplateEngine.Store

/-!
# `Render` · What is in progress

A slot is rendered, and a promise computed, when it is first read; until its result is kept it is in
progress.

* **`Store.Awaits`**, **`Store.Renders`**: the promises and slots that are in progress.
* **`Store.Guarded`**: whatever slot is being rendered has been marked as printed, so that no
  directive reads it again. **`Store.Occupied`**: if an expression waits, then some slot is being
  rendered.
* **`Store.Resumes s t`**: what is in progress in `t` is what was in progress in `s`. Starting and
  ending with a slot is like that as a whole (`Resumes.settled`), and so it is with a promise
  (`Resumes.answered`).
-/

namespace TemplateEngine.Store

variable {σ : Type}

/-- A promise is being computed: an expression waits for it. -/
def Awaits (store : Store σ) (id : PromiseId) : Prop := store.graph.promise? id = some .running

/-- A slot is being rendered. -/
def Renders (store : Store σ) (id : SlotId) : Prop :=
  store.slots[id.index]?.map Slot.state = some .running

/-- A slot has been marked as printed. -/
def Printed (store : Store σ) (id : SlotId) : Prop :=
  store.slots[id.index]?.map Slot.consumed = some true

/-- A slot, if there is one, is marked as printed and not being rendered. -/
def Printable (store : Store σ) (id : SlotId) : Prop :=
  ∀ slot, store.slots[id.index]? = some slot → slot.consumed = true ∧ slot.state ≠ .running

/-- Every slot that is being rendered is marked as printed. -/
def Guarded (store : Store σ) : Prop := ∀ id, store.Renders id → store.Printed id

/-- Expressions wait only while a slot is being rendered. -/
def Occupied (store : Store σ) : Prop := ∀ id, store.Awaits id → ∃ slot, store.Renders slot

/-- Nothing is in progress. -/
structure Quiet (store : Store σ) : Prop where
  /-- No expression waits. -/
  promises : ∀ id, ¬store.Awaits id
  /-- No slot is being rendered. -/
  slots : ∀ id, ¬store.Renders id

/-- What is in progress is what was, and what was printed stays so. -/
structure Resumes (s t : Store σ) : Prop where
  /-- The same expressions wait. -/
  awaits : ∀ id, t.Awaits id ↔ s.Awaits id
  /-- The same slots are being rendered. -/
  renders : ∀ id, t.Renders id ↔ s.Renders id
  /-- No slot is taken for one that was not printed. -/
  printed : ∀ id, s.Printed id → t.Printed id

variable {s t u : Store σ}

theorem Quiet.guarded (h : s.Quiet) : s.Guarded := fun id hid => absurd hid (h.slots id)

theorem Quiet.occupied (h : s.Quiet) : s.Occupied := fun id hid => absurd hid (h.promises id)

namespace Resumes

theorem trans (hst : s.Resumes t) (htu : t.Resumes u) : s.Resumes u where
  awaits id := (htu.awaits id).trans (hst.awaits id)
  renders id := (htu.renders id).trans (hst.renders id)
  printed id hid := htu.printed id (hst.printed id hid)

/-- What neither slots nor promises show changes nothing. -/
theorem of_slots (hslots : t.slots = s.slots) (hgraph : ∀ id, t.Awaits id ↔ s.Awaits id) :
    s.Resumes t where
  awaits := hgraph
  renders id := by
    unfold Renders
    rw [hslots]
  printed id hid := by
    unfold Printed at hid ⊢
    rwa [hslots]

theorem of_promises (hslots : t.slots = s.slots) (hgraph : t.graph.promises = s.graph.promises) :
    s.Resumes t := by
  refine of_slots hslots fun id => ?_
  unfold Awaits Graph.promise?
  rw [hgraph]

theorem refl (s : Store σ) : s.Resumes s := of_promises rfl rfl

theorem guarded (h : s.Resumes t) (hs : s.Guarded) : t.Guarded :=
  fun id hid => h.printed id (hs id ((h.renders id).1 hid))

theorem occupied (h : s.Resumes t) (hs : s.Occupied) : t.Occupied := by
  intro id hid
  obtain ⟨slot, hslot⟩ := hs id ((h.awaits id).1 hid)
  exact ⟨slot, (h.renders slot).2 hslot⟩

theorem quiet (h : s.Resumes t) (hs : s.Quiet) : t.Quiet where
  promises id hid := hs.promises id ((h.awaits id).1 hid)
  slots id hid := hs.slots id ((h.renders id).1 hid)

end Resumes

/-! ## Slots -/

/-- The store with a slot in another state. -/
def setState (store : Store σ) (id : SlotId) (state : SlotState) : Store σ :=
  { store with slots := store.slots.modify id.index fun slot => { slot with state := state } }

/-- The store with a slot that is marked as printed. -/
def marked (store : Store σ) (id : SlotId) : Store σ :=
  { store with slots := store.slots.modify id.index fun slot => { slot with consumed := true } }

theorem renders_setState_of_ne {id other : SlotId} (h : other ≠ id) (state : SlotState) :
    (s.setState id state).Renders other ↔ s.Renders other := by
  obtain ⟨i⟩ := id
  obtain ⟨j⟩ := other
  have hij : i ≠ j := fun hij => h (congrArg SlotId.mk hij.symm)
  unfold Renders setState
  rw [Array.getElem?_modify, if_neg hij]

theorem renders_setState_self {id : SlotId} {state : SlotState}
    (h : (s.setState id state).Renders id) : state = .running := by
  unfold Renders setState at h
  rw [Array.getElem?_modify, if_pos rfl, Option.map_map] at h
  obtain ⟨_, -, hstate⟩ := Option.map_eq_some_iff.1 h
  exact hstate

/-- A slot that is found can be put in progress. -/
theorem renders_running {id : SlotId} {slot : Slot} (h : s.slots[id.index]? = some slot) :
    (s.setState id .running).Renders id := by
  unfold Renders setState
  rw [Array.getElem?_modify, if_pos rfl, h]
  rfl

@[simp] theorem printed_setState {id other : SlotId} {state : SlotState} :
    (s.setState id state).Printed other ↔ s.Printed other := by
  unfold Printed setState
  rw [Array.getElem?_modify]
  split
  · rw [Option.map_map]
    rfl
  · rfl

/-- A slot that is read first is in progress until its result is kept. -/
theorem Resumes.settled {id : SlotId} {result : Except Error String}
    (h : (s.setState id .running).Resumes t) (hid : ¬s.Renders id) :
    s.Resumes (t.setState id (.settled result)) where
  awaits := h.awaits
  renders other := by
    by_cases hother : other = id
    · subst hother
      refine iff_of_false (fun hrenders => ?_) hid
      cases renders_setState_self hrenders
    · rw [renders_setState_of_ne hother, h.renders, renders_setState_of_ne hother]
  printed other hother := printed_setState.2 (h.printed other (printed_setState.2 hother))

/-- Rendering a slot that is marked as printed keeps a store guarded. -/
theorem Guarded.rendering (h : s.Guarded) {id : SlotId} (hid : s.Printed id) :
    (s.setState id .running).Guarded := by
  intro other hother
  rw [printed_setState]
  by_cases heq : other = id
  · rwa [heq]
  · exact h other ((renders_setState_of_ne heq _).1 hother)

/-- Marking a slot as printed changes nothing else. -/
theorem resumes_marked (s : Store σ) (id : SlotId) : s.Resumes (s.marked id) where
  awaits _ := Iff.rfl
  renders other := by
    unfold Renders marked
    rw [Array.getElem?_modify]
    split
    · rw [Option.map_map]
      rfl
    · rfl
  printed other hother := by
    unfold Printed at hother
    unfold Printed marked
    obtain ⟨slot, hslot, hconsumed⟩ := Option.map_eq_some_iff.1 hother
    rw [Array.getElem?_modify]
    split
    · rw [hslot]
      rfl
    · exact hother

/-- In a guarded store a slot that was not printed before can be printed. -/
theorem Guarded.printable {id : SlotId} (h : s.Guarded)
    (hnew : ¬s.slots[id.index]?.any (·.consumed) = true) : (s.marked id).Printable id := by
  intro found hfound
  unfold marked at hfound
  rw [Array.getElem?_modify, if_pos rfl] at hfound
  obtain ⟨slot, hslot, rfl⟩ := Option.map_eq_some_iff.1 hfound
  refine ⟨rfl, fun hrunning => hnew ?_⟩
  have hrenders : s.Renders id := by
    unfold Renders
    rw [hslot]
    exact congrArg some hrunning
  have hprinted := h id hrenders
  unfold Printed at hprinted
  rw [hslot] at hprinted ⊢
  exact Option.some.inj hprinted

/-! ## Promises -/

/-- The store with a promise in another state. -/
def setPromise (store : Store σ) (id : PromiseId) (state : PromiseState) : Store σ :=
  { store with graph := store.graph.setPromise id state }

theorem awaits_setPromise_of_ne {id other : PromiseId} (h : other ≠ id) (state : PromiseState) :
    (s.setPromise id state).Awaits other ↔ s.Awaits other := by
  obtain ⟨i⟩ := id
  obtain ⟨j⟩ := other
  have hij : i ≠ j := fun hij => h (congrArg PromiseId.mk hij.symm)
  unfold Awaits setPromise Graph.setPromise Graph.promise?
  dsimp only
  rw [Array.getElem?_modify, if_neg hij]

theorem awaits_setPromise_self {id : PromiseId} {state : PromiseState}
    (h : (s.setPromise id state).Awaits id) : state = .running := by
  unfold Awaits setPromise Graph.setPromise Graph.promise? at h
  dsimp only at h
  rw [Array.getElem?_modify, if_pos rfl] at h
  obtain ⟨_, -, hstate⟩ := Option.map_eq_some_iff.1 h
  exact hstate

/-- A promise that is found can be put in progress. -/
theorem awaits_running {id : PromiseId} {state : PromiseState}
    (h : s.graph.promise? id = some state) : (s.setPromise id .running).Awaits id := by
  unfold Graph.promise? at h
  unfold Awaits setPromise Graph.setPromise Graph.promise?
  dsimp only
  rw [Array.getElem?_modify, if_pos rfl, h]
  rfl

/-- A promise that is waited for first is in progress until its result is kept. -/
theorem Resumes.answered {id : PromiseId} {result : Except Error Value}
    (h : (s.setPromise id .running).Resumes t) (hid : ¬s.Awaits id) :
    s.Resumes (t.setPromise id (.settled result)) where
  awaits other := by
    by_cases hother : other = id
    · subst hother
      refine iff_of_false (fun hawaits => ?_) hid
      cases awaits_setPromise_self hawaits
    · rw [awaits_setPromise_of_ne hother, h.awaits, awaits_setPromise_of_ne hother]
  renders := h.renders
  printed := h.printed

end TemplateEngine.Store
