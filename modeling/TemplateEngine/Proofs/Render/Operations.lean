import TemplateEngine.Engine.Walk
import TemplateEngine.Proofs.Render.Run
import TemplateEngine.Proofs.Section.Stack

/-!
# `Render` · Operations of the store

What the operations of a store give, and the store that they leave.

* **Requests**: `Store.sections` and `Store.redirect` are the parts of a request;
  `Store.setSections` replaces the sections of one request and nothing else.
* **Parsing and reading** change only what is kept of programs and templates (`exec_programOf`,
  `exec_loadTemplate`), and a native function only the graph, the host and the journal
  (`exec_ofNative`).
-/

namespace TemplateEngine

variable {σ α : Type}

/-! ## Requests -/

namespace Store

/-- The sections of a request. -/
def sections (store : Store σ) (id : RequestId) : Sections Deferred :=
  (store.requests[id.index]?.getD .new).sections

/-- The redirect that a request has asked for. -/
def redirect (store : Store σ) (id : RequestId) : Option String :=
  (store.requests[id.index]?.getD .new).redirect

/-- The store with other sections of a request. -/
def setSections (store : Store σ) (id : RequestId) (sections : Sections Deferred) : Store σ :=
  { store with requests := store.requests.modify id.index fun request =>
      { request with sections := sections } }

/-- The store with one more event in the journal. -/
def noted (store : Store σ) (event : Event) : Store σ :=
  { store with journal := event :: store.journal }

/-- The store with a redirect asked for, unless the request has one already. -/
def asking (store : Store σ) (id : RequestId) (target : String) : Store σ :=
  { store with requests := store.requests.modify id.index fun request =>
      { request with redirect := request.redirect.or (some target) } }

theorem requests_modify (requests : Array Request) (f : Request → Request) (id other : RequestId) :
    (requests.modify id.index f)[other.index]?.getD .new =
      if other = id ∧ id.index < requests.size then f (requests[id.index]?.getD .new)
      else requests[other.index]?.getD .new := by
  rw [Array.getElem?_modify]
  obtain ⟨i⟩ := id
  obtain ⟨j⟩ := other
  by_cases hij : i = j
  · subst hij
    by_cases hi : i < requests.size
    · simp [hi]
    · simp [hi]
  · have hji : ¬j = i := fun h => hij h.symm
    simp [hij, hji]

@[simp] theorem requests_size_setSections (store : Store σ) (id : RequestId)
    (sections : Sections Deferred) :
    (store.setSections id sections).requests.size = store.requests.size :=
  Array.size_modify

theorem sections_setSections_self {store : Store σ} {id : RequestId}
    (h : id.index < store.requests.size) (sections : Sections Deferred) :
    (store.setSections id sections).sections id = sections := by
  unfold Store.sections setSections
  rw [requests_modify, if_pos ⟨rfl, h⟩]

theorem sections_setSections_of_ne {store : Store σ} {id other : RequestId} (h : other ≠ id)
    (sections : Sections Deferred) :
    (store.setSections id sections).sections other = store.sections other := by
  unfold Store.sections setSections
  rw [requests_modify, if_neg fun hid => h hid.1]

@[simp] theorem redirect_setSections (store : Store σ) (id other : RequestId)
    (sections : Sections Deferred) :
    (store.setSections id sections).redirect other = store.redirect other := by
  unfold Store.redirect setSections
  rw [requests_modify]
  split
  · next h => rw [h.1]
  · rfl

@[simp] theorem sections_asking (store : Store σ) (id other : RequestId) (target : String) :
    (store.asking id target).sections other = store.sections other := by
  unfold Store.sections asking
  rw [requests_modify]
  split
  · next h => rw [h.1]
  · rfl

@[simp] theorem requests_size_asking (store : Store σ) (id : RequestId) (target : String) :
    (store.asking id target).requests.size = store.requests.size :=
  Array.size_modify

theorem redirect_asking (store : Store σ) (id other : RequestId) (target : String) :
    (store.asking id target).redirect other =
      if other = id ∧ id.index < store.requests.size then (store.redirect id).or (some target)
      else store.redirect other := by
  unfold Store.redirect asking
  rw [requests_modify]
  split <;> rfl

theorem redirect_asking_self {store : Store σ} {id : RequestId}
    (h : id.index < store.requests.size) (target : String) :
    (store.asking id target).redirect id = (store.redirect id).or (some target) := by
  rw [redirect_asking, if_pos ⟨rfl, h⟩]

theorem redirect_asking_of_ne {store : Store σ} {id other : RequestId} (h : other ≠ id)
    (target : String) : (store.asking id target).redirect other = store.redirect other := by
  rw [redirect_asking, if_neg fun hid => h hid.1]

/-- A request that is not there has no sections. -/
theorem sections_of_le {store : Store σ} {id : RequestId} (h : store.requests.size ≤ id.index) :
    store.sections id = .empty := by
  unfold Store.sections
  rw [Array.getElem?_eq_none h]
  rfl

/-- The store after a push on a section. -/
def pushed (store : Store σ) (id : RequestId) (name owner : String) : Store σ :=
  store.setSections id ((store.sections id).push name owner).2

/-- The store after a pop of a section. -/
def popped (store : Store σ) (id : RequestId) (name : String) : Store σ :=
  store.setSections id ((store.sections id).popped name)

theorem sections_pushed {store : Store σ} {id : RequestId} (h : id.index < store.requests.size)
    (name owner : String) :
    (store.pushed id name owner).sections id = ((store.sections id).push name owner).2 :=
  sections_setSections_self h _

theorem sections_popped {store : Store σ} {id : RequestId} (h : id.index < store.requests.size)
    (name : String) : (store.popped id name).sections id = (store.sections id).popped name :=
  sections_setSections_self h _

end Store

namespace Render

/-! ## Operations -/

@[simp] theorem exec_note (event : Event) (store : Store σ) :
    exec (note event) store = (.ok (), store.noted event) := rfl

@[simp] theorem exec_withGraph (f : Graph → α) (store : Store σ) :
    exec (withGraph f) store = (.ok (f store.graph), store) := rfl

@[simp] theorem exec_changeGraph (f : Graph → α × Graph) (store : Store σ) :
    exec (changeGraph f) store =
      (.ok (f store.graph).1, { store with graph := (f store.graph).2 }) := rfl

@[simp] theorem exec_withRequest_redirect (id : RequestId) (store : Store σ) :
    exec (withRequest id Request.redirect) store = (.ok (store.redirect id), store) := rfl

@[simp] theorem exec_withSections (id : RequestId) (f : Sections Deferred → α) (store : Store σ) :
    exec (withSections id f) store = (.ok (f (store.sections id)), store) := rfl

@[simp] theorem exec_changeSections (id : RequestId)
    (f : Sections Deferred → α × Sections Deferred) (store : Store σ) :
    exec (changeSections id f) store =
      (.ok (f (store.sections id)).1, store.setSections id (f (store.sections id)).2) := rfl

theorem exec_trySections (id : RequestId)
    (f : Sections Deferred → Except Sections.Fault (α × Sections Deferred)) (store : Store σ) :
    exec (trySections id f) store =
      match f (store.sections id) with
      | .error fault => (.ok (.error fault), store)
      | .ok (value, sections) => (.ok (.ok value), store.setSections id sections) := by
  unfold trySections
  rw [exec_bind, exec_withSections]
  rcases f (store.sections id) with _ | ⟨_, _⟩ <;> rfl

theorem exec_checkRedirect (id : RequestId) (store : Store σ) :
    exec (checkRedirect id) store =
      match store.redirect id with
      | some target => (.error (.raised (.redirect target)), store)
      | none => (.ok (), store) := by
  unfold checkRedirect
  rw [exec_bind, exec_withRequest_redirect]
  rcases store.redirect id with _ | _ <;> rfl

@[simp] theorem exec_askRedirect (id : RequestId) (target : String) (store : Store σ) :
    exec (askRedirect id target) store =
      (.ok (), (store.noted (.asked id target)).asking id target) := rfl

@[simp] theorem exec_newSlot (state : SlotState) (store : Store σ) :
    exec (newSlot state) store =
      (.ok ⟨store.slots.size⟩, { store with slots := store.slots.push ⟨state, false⟩ }) := rfl

@[simp] theorem exec_slot? (id : SlotId) (store : Store σ) :
    exec (slot? id) store = (.ok store.slots[id.index]?, store) := rfl

@[simp] theorem exec_changeSlot (id : SlotId) (f : Slot → Slot) (store : Store σ) :
    exec (changeSlot id f) store =
      (.ok (), { store with slots := store.slots.modify id.index f }) := rfl

@[simp] theorem exec_consume (id : SlotId) (store : Store σ) :
    exec (consume id) store =
      (.ok (store.slots[id.index]?.any (·.consumed)),
        { store with slots := store.slots.modify id.index fun slot =>
            { slot with consumed := true } }) := rfl

/-- A native function sees the graph and the host; a failure is written into the journal. -/
theorem exec_ofNative (x : Native σ α) (store : Store σ) :
    exec (ofNative x) store =
      match x.run.run (store.graph, store.host) with
      | (.ok value, graph, host) => (.ok value, { store with graph := graph, host := host })
      | (.error error, graph, host) =>
        (.error (.raised error), { store with graph := graph, host := host }.noted (.failed error)) := by
  unfold ofNative
  rw [exec_bind, exec_modifyGet]
  obtain ⟨graph, requests, slots, templates, programs, host, journal⟩ := store
  simp only [StateT.run]
  rcases ExceptT.run x (graph, host) with ⟨_ | _, _, _⟩ <;> rfl

theorem exec_popSection (id : RequestId) (name : String) (store : Store σ) :
    exec (popSection id name) store =
      match (store.sections id).pop name with
      | .error fault => (.error (.raised (popError fault)), store)
      | .ok (popped, sections) => (.ok popped, store.setSections id sections) := by
  unfold popSection
  rw [exec_bind, exec_trySections]
  rcases (store.sections id).pop name with _ | ⟨_, _⟩ <;> rfl

/-- A section with something pushed is popped. -/
theorem exec_popSection_of_history {store : Store σ} {id : RequestId} {name : String}
    (h : ((store.sections id).stack name).history ≠ []) :
    exec (popSection id name) store =
      (.ok ((store.sections id).current name), store.popped id name) := by
  obtain ⟨restored, rest, hhistory⟩ := List.exists_cons_of_ne_nil h
  have hpop := exec_popSection id name store
  rw [Sections.pop_of_history hhistory] at hpop
  rw [hpop]
  unfold Store.popped Sections.popped
  rw [hhistory]
  rfl

/-- The next pop restores what was saved last. -/
theorem restores_of_history {sections : Sections Deferred} {name : String}
    {saved : Option ScopeId} {older : List (Option ScopeId)}
    (h : (sections.stack name).history = saved :: older) :
    Walk.restores (sections.peek name) saved = true := by
  unfold Sections.peek
  rw [h]
  cases saved with
  | none => rfl
  | some scope => exact beq_self_eq_true scope

/-- A pop that succeeds has left the section as it was at its last push. -/
theorem exec_popSection_eq_ok {store after : Store σ} {id : RequestId} {name : String}
    {popped : Option ScopeId} (h : exec (popSection id name) store = (.ok popped, after)) :
    after = store.popped id name := by
  have hhistory : ((store.sections id).stack name).history ≠ [] := by
    intro hnil
    rw [exec_popSection] at h
    rcases hpop : (store.sections id).pop name with fault | ⟨popped, sections⟩
    · rw [hpop] at h
      cases h
    · obtain ⟨restored, rest, hhistory⟩ := Sections.history_of_pop hpop
      cases hnil.symm.trans hhistory
  rw [exec_popSection_of_history hhistory] at h
  exact (congrArg Prod.snd h).symm

/-- A computation after which a section is popped, also if it failed, ends as it does by itself,
unless the pop fails. -/
theorem exec_collected (body : Render σ α) (id : RequestId) (name : String) (store : Store σ) :
    exec (do
        let output ← attempt body
        let popped ← attempt (popSection id name)
        let value ← ofExcept output
        let _ ← ofExcept popped
        return value) store =
      match exec body store with
      | (.ok value, after) =>
        ((exec (popSection id name) after).1.map fun _ => value,
          (exec (popSection id name) after).2)
      | (.error (.raised error), after) =>
        (.error (.raised error), (exec (popSection id name) after).2)
      | (.error stop, after) => (.error stop, after) := by
  have hattempt := exec_attempt body store
  rw [exec_bind, hattempt]
  rcases exec body store with ⟨stop | value, after⟩
  · cases stop with
    | stalled | exhausted => rfl
    | raised error =>
      dsimp only
      rw [exec_bind, exec_attempt, exec_popSection]
      rcases (after.sections id).pop name with fault | ⟨popped, sections⟩ <;> rfl
  · dsimp only
    rw [exec_bind, exec_attempt, exec_popSection]
    rcases (after.sections id).pop name with fault | ⟨popped, sections⟩ <;> rfl

/-- If such a computation has a value, it is that of its body. -/
theorem exec_collected_eq_ok {body : Render σ α} {id : RequestId} {name : String}
    {store after : Store σ} {value : α}
    (h : exec (do
        let output ← attempt body
        let popped ← attempt (popSection id name)
        let value ← ofExcept output
        let _ ← ofExcept popped
        return value) store = (.ok value, after)) :
    ∃ middle, exec body store = (.ok value, middle) ∧ after = middle.popped id name := by
  rw [exec_collected] at h
  rcases hbody : exec body store with ⟨stop | result, middle⟩
  · rw [hbody] at h
    cases stop <;> cases h
  · rw [hbody] at h
    dsimp only at h
    rcases hpop : exec (popSection id name) middle with ⟨stop | popped, rest⟩
    · rw [hpop] at h
      cases h
    · rw [hpop] at h
      cases h
      exact ⟨middle, rfl, exec_popSection_eq_ok hpop⟩

/-- The program of a text, parsed or kept from before, and what is kept then. -/
def lookUp (programs : Recent Program) (source : String) : Except Stop Program × Recent Program :=
  match programs.get? source with
  | (some program, programs) => (.ok program, programs)
  | (none, programs) =>
    match Program.parse source with
    | .error fault => (.error (.raised (.expression (.parse fault))), programs)
    | .ok program => (.ok program, programs.put source program)

theorem exec_programOf_eq_lookUp (source : String) (store : Store σ) :
    exec (programOf source) store = ((lookUp store.programs source).1,
      { store with programs := (lookUp store.programs source).2 }) := by
  unfold programOf lookUp
  rw [exec_bind, exec_modifyGet]
  rcases store.programs.get? source with ⟨_ | program, programs⟩
  · rcases Program.parse source with fault | program <;> rfl
  · rfl

/-- The program of a text, or why it is none; only what is kept of programs changes. -/
theorem exec_programOf (source : String) (store : Store σ) :
    ∃ programs,
      (∃ program, exec (programOf source) store =
        (.ok program, { store with programs := programs })) ∨
      ∃ fault, exec (programOf source) store =
        (.error (.raised (.expression (.parse fault))), { store with programs := programs }) := by
  refine ⟨(lookUp store.programs source).2, ?_⟩
  rw [exec_programOf_eq_lookUp]
  unfold lookUp
  rcases store.programs.get? source with ⟨_ | program, programs⟩
  · rcases Program.parse source with fault | program
    · exact .inr ⟨fault, rfl⟩
    · exact .inl ⟨program, rfl⟩
  · exact .inl ⟨program, rfl⟩

theorem exec_loadTemplate (path source : String) (store : Store σ) :
    exec (loadTemplate path source) store =
      (((store.templates.load path source).1.map Prod.snd).mapError Stop.raised,
        { store with templates := (store.templates.load path source).2 }) := by
  unfold loadTemplate
  rw [exec_bind, exec_modifyGet]
  simp only
  rcases store.templates.load path source with ⟨_ | _, _⟩ <;> rfl

end Render

end TemplateEngine
