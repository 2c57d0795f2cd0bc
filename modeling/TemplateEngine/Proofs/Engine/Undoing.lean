import TemplateEngine.Proofs.Engine.Located

/-!
# `Engine` · Failed renders

What a render that fails leaves of the sections.

* Whatever fails, nothing is popped that had been pushed before, and every template pops the section
  that it pushed to (`ensures_rendered`).
* A walk that is abandoned while a paired tag is open leaves the scope of the body pushed. The pop
  of the template then removes that scope, and not its own (`body_left_behind`).
* **`render_undone`**: if that cannot happen in the templates that were read (`Sheltered`), then a
  failed render has popped all that it pushed.
-/

namespace TemplateEngine

open Render TemplateEngine.Template

variable {σ : Type}

/-- The requests that a store has, and every place. -/
def Chronicle.everywhere (read : String → Except Error String) (base : List Event) (count : Nat) :
    Chronicle where
  read := read
  base := base
  ours id := id.index < count
  place _ _ _ := True
  later _ _ := trivial
  here _ _ _ := trivial

/-- Every error has places among all places. -/
theorem Error.placed_everywhere (error : Error) : error.Placed fun _ _ => True :=
  fun _ _ _ _ => trivial

theorem PromiseState.settledAt_everywhere (state : PromiseState) : state.SettledAt fun _ _ => True := by
  match state with
  | .pending _ => trivial
  | .running => trivial
  | .settled (.ok _) => trivial
  | .settled (.error error) => exact error.placed_everywhere

theorem tells_everywhere (config : Config) (read : String → Except Error String) (host : Host σ)
    (base : List Event) (count : Nat) :
    (Engine.interpreting config read host).Tells (.everywhere read base count) where
  read := rfl
  interprets := rfl
  unread _ _ error _ := error.placed_everywhere
  fails _ _ _ _ error _ := error.placed_everywhere
  leaves _ _ _ _ _ state _ := state.settledAt_everywhere

/-- A store whose waiting tasks belong to requests that it has. -/
theorem Store.Sound.told_everywhere {store : Store σ} {read : String → Except Error String}
    (h : store.Sound (.every store.requests.size)) (htemplates : store.templates.Honest read) :
    store.Told (.everywhere read store.journal store.requests.size) := by
  have hfragment : ∀ fragment : Fragment Deferred, fragment.Within (.every store.requests.size) →
      fragment.Told (.everywhere read store.journal store.requests.size) store.journal := by
    rintro ⟨payload, priority⟩ hfragment
    cases payload with
    | literal text => trivial
    | deferred deferred => exact ⟨hfragment, trivial⟩
  refine ⟨List.suffix_refl _, h.live, fun id hid scope fragment hmem =>
    hfragment fragment (h.scopes id hid scope fragment hmem), fun slot hslot => ?_,
    fun state _ => state.settledAt_everywhere, htemplates⟩
  have hold := h.slots slot hslot
  match slot.state, hold with
  | .pending _, hold => exact fun fragment hmem => hfragment fragment (hold fragment hmem)
  | .running, _ => trivial
  | .settled (.ok _), _ => trivial
  | .settled (.error error), _ => exact error.placed_everywhere

/-- What a failed render leaves of the sections. -/
theorem ensures_render_undone {c : Chronicle} {engine : Engine σ} (hengine : engine.Tells c)
    {context : Context} (hours : c.ours context.request) {s : Store σ} (hs : s.Told c)
    (fuel : Nat) :
    Ensures (engine.render fuel context) s (fun _ _ => True)
      fun stop t => OnStop (fun error => c.Fails s error t ∧
        (c.Shelters t.journal → (t.sections context.request).current context.defaultSection =
          (s.sections context.request).current context.defaultSection)) (fun _ => True) stop := by
  cases fuel with
  | zero => exact .throw trivial
  | succ fuel =>
    have hrun : ∀ task : Task, task.Within c.bounds → ∀ J,
        c.Meets J (engine.produce fuel task) fun _ _ => True :=
      fun task htask J => .produce hengine fuel htask J
    have hfetch := (Chronicle.Meets.fetch hengine context s (List.suffix_refl s.journal) hs).and
      (ensures_fetch engine context s)
    show Ensures (engine.renderTemplate (engine.produce fuel) context) s _ _
    unfold Engine.renderTemplate
    refine (hfetch.mono (fun _ _ => id) fun stop t hstop => ?_).bind ?_
    · cases stop with
      | raised error =>
        obtain ⟨hfails, hrequests⟩ := hstop
        refine ⟨hfails, fun _ => ?_⟩
        unfold Store.sections
        rw [hrequests]
      | stalled | exhausted => trivial
    · rintro template t ⟨⟨hknown, ht, hst⟩, hrequests⟩
      refine (ensures_rendered hengine hrun hours ht hknown).mono (fun _ _ _ => trivial)
        fun stop u hstop => ?_
      cases stop with
      | raised error =>
        refine ⟨hstop.fails.after hst, fun hshelters => (hstop.restored hshelters).trans ?_⟩
        unfold Store.sections
        rw [hrequests]
      | stalled | exhausted => trivial

/-- A render that ends with an error or a redirect has popped nothing that had been pushed before.
If in all templates that it has read the bodies of paired tags are closed and cannot fail, then it
has popped all that it pushed, and the context's section has its scope back. -/
theorem render_undone (config : Config) (read : String → Except Error String) (host : Host σ)
    (fuel : Nat) (context : Context) (store after : Store σ) (error : Error)
    (hrequest : context.request.index < store.requests.size)
    (hstore : store.Sound (.every store.requests.size)) (htemplates : store.templates.Honest read)
    (hrun : exec ((Engine.interpreting config read host).render fuel context) store =
      (.error (.raised error), after)) :
    (∀ request name, ((store.sections request).stack name).history <:+
      ((after.sections request).stack name).history) ∧
    ∃ events, after.journal = events ++ store.journal ∧
      ((∀ path source tokens, .reading path ∈ events → read path = .ok source →
          tokenize source = .ok tokens → Sheltered none tokens) →
        (∀ request name, ((after.sections request).stack name).history =
          ((store.sections request).stack name).history) ∧
        (after.sections context.request).current context.defaultSection =
          (store.sections context.request).current context.defaultSection) := by
  have hengine := tells_everywhere config read host store.journal store.requests.size
  obtain ⟨hfails, hrestored⟩ := (ensures_render_undone hengine hrequest
    (hstore.told_everywhere htemplates) fuel).error hrun
  obtain ⟨events, hevents⟩ := hfails.journal
  refine ⟨hfails.grown, events, hevents.symm, fun hall => ?_⟩
  have hshelters : (Chronicle.everywhere read store.journal store.requests.size).Shelters
      after.journal := by
    rintro path source tokens ⟨others, hothers, hreading⟩ hread htokens
    have hsame : others = events := List.append_cancel_right (hothers.symm.trans hevents.symm)
    subst hsame
    exact hall path source tokens hreading hread htokens
  obtain ⟨_, _, hsettled⟩ := hfails.undone hshelters
  exact ⟨fun request name => (hsettled request).history name, hrestored hshelters⟩

/-- A page with a paired tag whose body prints a section, and with a template that fails. -/
def shelteredPages : List (String × String) :=
  [("/page.html", "a<$:view $path=\"/box\">b$\x7b#render s?\x7d</$:view>$\x7b#include part\x7d"),
   ("/box.html", "$\x7b#render content\x7d"), ("/part.html", "$\x7b#unknown\x7d")]

/-- Such a page has popped all that it pushed when it fails. -/
theorem render_undone_page :
    let run := exec ((Engine.inMemory .standard shelteredPages).render 10
      (.first "/page.html" "content")) Store.starting
    ∃ error, run.1 = .error (.raised error) ∧
      (∀ request name, ((run.2.sections request).stack name).history =
        ((Store.starting.sections request).stack name).history) ∧
      (run.2.sections ⟨0⟩).current "content" = (Store.starting.sections ⟨0⟩).current "content" := by
  intro run
  have hsheltered : ∀ entry ∈ shelteredPages,
      (tokenize entry.2).toOption.all (Sheltered none) := by decide +kernel
  have hfailed : (Stop.error? run.1).isSome := by decide +kernel
  obtain ⟨error, hrun⟩ := exec_of_error? hfailed
  obtain ⟨-, events, -, hundone⟩ := render_undone { Config.standard with cacheSize := 0 } _ Host.none
    10 (.first "/page.html" "content") Store.starting _ error Nat.zero_lt_one
    (Store.sound_starting fun _ h => h) TemplateCache.honest_nothing hrun
  obtain ⟨hhistory, hcurrent⟩ := hundone fun path source tokens _ hread htokens => by
    obtain ⟨entry, hmem, rfl⟩ := MemorySource.mem_of_read hread
    have hentry := hsheltered entry hmem
    rw [htokens] at hentry
    exact hentry
  exact ⟨error, congrArg Prod.fst hrun, hhistory, hcurrent⟩

/-- A page whose paired tag is never closed. -/
def unclosedPages : List (String × String) := [("/page.html", "<$:view $path=\"/box\">")]

/-- The scope of the body of a paired tag stays pushed if the walk is abandoned in it, and it is the
scope of the page that is current then. -/
theorem body_left_behind :
    ∃ error after,
      exec ((Engine.inMemory .standard unclosedPages).render 10 (.first "/page.html" "content"))
        Store.starting = (.error (.raised error), after) ∧
      ((after.sections ⟨0⟩).stack "content").history ≠
        ((Store.starting.sections ⟨0⟩).stack "content").history ∧
      (after.sections ⟨0⟩).current "content" ≠
        (Store.starting.sections ⟨0⟩).current "content" := by
  have hfailed : (Stop.error? (exec ((Engine.inMemory .standard unclosedPages).render 10
      (.first "/page.html" "content")) Store.starting).1).isSome := by decide +kernel
  obtain ⟨error, hrun⟩ := exec_of_error? hfailed
  exact ⟨error, _, hrun, by decide +kernel, by decide +kernel⟩

end TemplateEngine
