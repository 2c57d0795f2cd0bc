import TemplateEngine.Proofs.Engine.Plain
import TemplateEngine.Proofs.Engine.Printing

/-!
# `Engine` · Filled sections

Wherever a page and the templates below it fill a section, the section is complete when the layout
prints it. A request for a page in a layout has the text that the layout is filled with once the
page is expanded (`renderView_fills_layout`).
-/

namespace TemplateEngine

open Render Engine TemplateEngine.Text TemplateEngine.Template

variable {σ : Type} {engine : Engine σ} {request : RequestId} {home : String} {slot : SlotId}
  {content : List (Fragment Deferred)} {log : List (String × String)}
  {history : List (Option ScopeId)} {run : Task → Render σ String} {s s' t : Store σ}
  {text page : String}

/-! ## The templates below a page -/

namespace Engine

/-- A path in a context without names for directories depends on the file of the template only. -/
theorem resolvePath_eq_fileFrom {context : Context} (hbase : context.basePaths = .empty)
    (written : String) :
    engine.resolvePath context written = engine.fileFrom context.filePath written := by
  unfold fileFrom resolvePath resolveDirectory Context.directory
  rw [hbase]

/-- The templates below a page are a tree. -/
theorem Printed.family (h : engine.Printed page) :
    Family engine engine.config.defaultSection fun context =>
      context.basePaths = .empty ∧ engine.Below page context.filePath where
  atHome _ _ := fun ⟨_, hbelow⟩ hopened =>
    (h.below _ _ hbelow (compiled_of_opened hopened)).1.atHome
  plain _ _ path := fun ⟨_, hbelow⟩ hopened =>
    Reading.findSome?_layout?_eq_none.1 (h.below _ _ hbelow (compiled_of_opened hopened)).2 path
  base _ _ _ _ _ := fun ⟨_, hbelow⟩ hopened hmem =>
    absurd rfl ((h.below _ _ hbelow (compiled_of_opened hopened)).1.nameless _ hmem)
  nest _ _ _ _ := fun ⟨hbase, hbelow⟩ hopened hmem hnested =>
    ⟨hnested.basePaths.trans hbase, .further hbelow (compiled_of_opened hopened) hmem
      ((resolvePath_eq_fileFrom hbase _).symm.trans hnested.filePath)⟩

/-- What the page nests is below it. -/
theorem Printed.guides (h : engine.Printed page) {template : CompiledTemplate}
    (hcompiled : engine.compiled page = .ok template) :
    Guides engine engine.config.defaultSection
      (fun context => context.basePaths = .empty ∧ context.filePath = page)
      (fun context => context.basePaths = .empty ∧ engine.Below page context.filePath)
      template.readings where
  base _ _ _ _ := fun _ hmem => absurd rfl ((h.routes template hcompiled).nameless _ hmem)
  nest _ _ _ := fun ⟨hbase, hfile⟩ hmem hnested =>
    ⟨hnested.basePaths.trans hbase, .direct hcompiled hmem
      (hfile ▸ (resolvePath_eq_fileFrom hbase _).symm.trans hnested.filePath)⟩

end Engine

/-! ## Layouts -/

/-- The layout of a page whose content waits is filled with what the page gives. -/
theorem exec_layout {layout : Context} {pieces : List Piece} {expand : Context → Render σ Output}
    (hrequest : layout.request = request) (hsection : layout.defaultSection = home)
    (hslot : layout.slot = some slot)
    (hlays : ∀ frame, engine.opened layout = .ok frame → Reading.LaysOut home frame.readings)
    (hshows : Shows home content pieces)
    (hrun : ∀ child, .nested child ∈ pieces → ∀ history, Agrees engine request home history
      (fun context => run (.template context)) expand child)
    (hholds : s.Holds engine.read slot content t) (hcollects : s.Collects request home log history)
    (h : exec (engine.renderTemplate (engine.perform run) layout) s = (.ok text, s')) :
    ∃ frame output t', engine.opened layout = .ok frame ∧
      exec (expandPieces expand home pieces) t = (.ok output, t') ∧
      text = Reading.fill ⟨output.text, log ++ output.routed⟩ false frame.readings := by
  obtain ⟨frame, s₁, walk, s₂, s₃, hfetch, hwalk, hrender, -⟩ := exec_renderTemplate_eq_ok h
  obtain ⟨templates, journal, hhonest, hexec⟩ :=
    exec_fetch (s := s) hholds.alike.honest layout
  rw [hfetch] at hexec
  rcases hopened : engine.opened layout with error | opened
  · rw [hopened] at hexec
    cases hexec
  rw [hopened] at hexec
  cases hexec
  have hlays := hlays frame hopened
  have hholds' := hholds.withTemplates hhonest journal
  have hcollects' := hcollects.rests (.of_requests rfl : s.Rests
    { s with templates := templates, journal := journal })
  subst hrequest hsection
  obtain ⟨walk', s₂', hwalk', hframes, hholds'', hframed⟩ :=
    exec_frame engine (waitFor engine (engine.perform run)) hlays.parts rfl rfl hslot hcollects'
      hholds'
  cases hwalk.symm.trans hwalk'
  unfold Engine.renderWalked renderScope at hrender
  rw [hframes.layout] at hrender
  dsimp only at hrender
  rw [hframes.ofRequest, exec_bind_ok (exec_withSections _ _ _)] at hrender
  obtain ⟨output, t', hexpand, htext⟩ := exec_parts hlays hframed.shows hshows
    (fun child hchild => hrun child hchild _) hholds''
    ⟨hframed.live, hframed.writing.toRouted, rfl⟩ hrender
  exact ⟨frame, output, t', rfl, hexpand, htext⟩

/-! ## Pages -/

/-- If a layout is entered, then its path is resolved. -/
theorem resolvePath_of_enterLayout {context layout : Context} {written : String}
    {state : SlotState} (h : exec (engine.enterLayout context written state) s = (.ok layout, s')) :
    ∃ filePath, engine.resolvePath context written = .ok filePath := by
  unfold Engine.enterLayout at h
  obtain ⟨filePath, _, hpath, -⟩ := exec_bind_eq_ok h
  exact ⟨filePath, (exec_ofExcept_eq_ok hpath).1⟩

/-- A page in its layout is rendered as it is expanded: the layout is rendered before the templates
that the page nests, but its sections are printed after these. -/
theorem exec_page (hengine : engine.Interprets) (hprinted : engine.Printed page) (fuel levels : Nat)
    {context : Context} (hfile : context.filePath = page) (hbase : context.basePaths = .empty)
    (hfits : context.Fits engine request engine.config.defaultSection)
    (hfuel : engine.config.maxDepth < fuel + (context.depth + 1))
    (hlevels : engine.config.maxDepth < levels + (context.depth + 1))
    (halike : s.Alike engine.read t)
    (hcollects : s.Collects request engine.config.defaultSection [] history)
    (h : exec (engine.renderTemplate (engine.produce (fuel + 2)) context) s = (.ok text, s')) :
    ∃ t', exec (engine.expandFramed levels context) t = (.ok text, t') := by
  obtain ⟨template, s₁, walk, s₂, s₃, hfetch, hwalk, hrender, -⟩ := exec_renderTemplate_eq_ok h
  obtain ⟨_, t₁, htemplate, halike₁, rfl, hopened, hrests⟩ :=
    (follows_fetch halike context).exec_eq_ok hfetch
  obtain ⟨-, rfl⟩ := exec_ofExcept_eq_ok htemplate
  have hcompiled : engine.compiled page = .ok template :=
    hfile ▸ Engine.compiled_of_opened hopened
  obtain ⟨hrequest, hsection, -⟩ := id hfits
  rw [hrequest, hsection] at hwalk
  rw [hrequest] at hrender
  obtain ⟨plan, t₂, hplan, halike₂, halong, hlayout⟩ :=
    (follows_walk hengine (hprinted.guides hcompiled) (hprinted.routes template hcompiled).atHome
      hfits ⟨hbase, hfile⟩ (hcollects.rests hrests) halike₁ _).exec_eq_ok hwalk
  obtain ⟨hwalk, hkeeps, htracks⟩ := halong
  -- The walk has found the layout that the page asks for.
  obtain ⟨written, hasks, hlaysOut⟩ := hprinted.layout template hcompiled
  have hwritten : plan.layout = some written := hlayout.trans hasks
  obtain ⟨asked, hasked, rfl⟩ := Option.map_eq_some_iff.1 (hwalk.layout.trans hwritten)
  unfold Engine.renderWalked at hrender
  rw [hasked] at hrender
  have hrendered := exec_mapError_eq_ok hrender
  unfold Engine.renderLayout at hrendered
  rw [exec_bind_ok (exec_withSections _ _ _)] at hrendered
  rw [hwalk.context, hkeeps.fits.ofRequest] at hrendered
  obtain ⟨layout, s₄, henter, hframe⟩ := exec_bind_eq_ok hrendered
  obtain ⟨filePath, hpath⟩ := resolvePath_of_enterLayout henter
  obtain ⟨layout', graph, hexec, hother, rfl, hlayoutRequest, hlayoutSection, hlayoutSlot⟩ :=
    exec_enterLayout hpath (.pending _) s₂
  cases henter.symm.trans hexec
  have hsize : t₂.slots.size = s₂.slots.size := by
    rw [← Array.size_map (f := Slot.state), ← halike₂.slots, Array.size_map]
  have hright := hother .running t₂ halike₂.graph.symm hsize
  have hlays : ∀ frame, engine.opened layout = .ok frame →
      Reading.LaysOut engine.config.defaultSection frame.readings := fun frame hframe =>
    hlaysOut layout.filePath frame
      (hkeeps.here.2 ▸ (resolvePath_eq_fileFrom hkeeps.here.1 asked.path).symm.trans hpath)
      (compiled_of_opened hframe)
  have hrun : ∀ child, .nested child ∈ plan.pieces → ∀ history,
      Agrees engine request engine.config.defaultSection history
        (fun context => engine.produce fuel (.template context)) (engine.expand levels) child := by
    intro child hchild history
    obtain ⟨hchildFits, hchildKnown, hdepth⟩ := hkeeps.nested child hchild
    exact agrees_produce hengine hprinted.family fuel levels hchildKnown hchildFits
      (hdepth ▸ hfuel) (hdepth ▸ hlevels)
  obtain ⟨frame, output, t₃, hopened', hexpand, rfl⟩ := exec_layout
    (hlayoutRequest.trans hkeeps.fits.ofRequest) hlayoutSection hlayoutSlot hlays htracks.shows hrun
    (halike₂.holds _ graph) (htracks.collects.rests (.of_requests rfl)) hframe
  refine ⟨t₃, ?_⟩
  unfold Engine.expandFramed
  rw [exec_bind_ok htemplate, exec_bind_ok hplan, hwritten, Option.getD_some, exec_bind_ok hright,
    hopened', exec_bind_ok (exec_ofExcept _ _), hsection, exec_bind_ok hexpand]
  rfl

/-! ## Requests -/

/-- A request that gives a page has rendered the template at its path, and asked for no redirect. -/
theorem exec_renderView_eq_html {fuel : Nat} {path : String} {data : ObjectId} {context : Context}
    (hcontext : exec (engine.context path data) s = (.ok context, t))
    (h : exec (engine.renderView fuel path data) s = (.ok (.html text), s')) :
    exec (engine.render fuel context) t = (.ok text, s') ∧ s'.redirect context.request = none := by
  unfold Engine.renderView at h
  rw [exec_bind_ok hcontext] at h
  obtain ⟨result, s₁, hrendered, hrest⟩ := exec_bind_eq_ok h
  rw [exec_bind_ok (exec_withRequest_redirect _ _)] at hrest
  obtain ⟨houtcome, rfl⟩ := exec_ofExcept_eq_ok hrest
  -- An error would have given another error or a redirect.
  rcases result with error | rendered
  · rcases htarget : error.redirectTarget? with _ | target
    · rw [outcome_error htarget] at houtcome
      cases houtcome
    · rw [outcome_redirect htarget] at houtcome
      cases houtcome
  · have hrendered := exec_attempt_eq_ok hrendered
    rcases hredirect : s'.redirect context.request with _ | target
    · rw [hredirect] at houtcome
      cases houtcome
      exact ⟨hrendered, rfl⟩
    · rw [hredirect] at houtcome
      cases houtcome

/-- A request whose template was rendered, and that has asked for no redirect, gives a page. -/
theorem exec_renderView_html {fuel : Nat} {path : String} {data : ObjectId} {context : Context}
    (hcontext : exec (engine.context path data) s = (.ok context, t))
    (hrender : exec (engine.render fuel context) t = (.ok text, s'))
    (hredirect : s'.redirect context.request = none) :
    exec (engine.renderView fuel path data) s = (.ok (.html text), s') := by
  have hattempt : exec (attempt (engine.render fuel context)) t = (.ok (.ok text), s') := by
    rw [exec_attempt, hrender]
  unfold Engine.renderView
  rw [exec_bind_ok hcontext, exec_bind_ok hattempt, exec_bind_ok (exec_withRequest_redirect _ _),
    hredirect]
  rfl

/-- A request for a page in a layout gives the text that the layout is filled with: the content and
each section are complete, wherever in the layout they are printed. What was kept of templates has
to be honest and no slot may wait to be rendered. -/
theorem renderView_fills_layout (config : Config) (read : String → Except Error String)
    (host : Host σ) (fuel levels : Nat) (path : String) (data : ObjectId) (store store' : Store σ)
    (text : String)
    (hprinted : (Engine.interpreting config read host).Printed
      ((Engine.interpreting config read host).fileOf path))
    (hhonest : store.templates.Honest read)
    (hidle : ∀ slot ∈ store.slots, ∀ fragments, slot.state ≠ .pending fragments)
    (hfuel : config.maxDepth + 2 < fuel) (hlevels : config.maxDepth ≤ levels)
    (h : exec ((Engine.interpreting config read host).renderView fuel path data) store =
      (.ok (.html text), store')) :
    ∃ store'', exec ((Engine.interpreting config read host).expandPage levels path data) store =
      (.ok text, store'') := by
  obtain ⟨context, graph, hcontext, hrequest, htop, -⟩ :=
    exec_context (Engine.interpreting config read host) path data store
  have hfits : context.Fits (Engine.interpreting config read host) ⟨store.requests.size⟩
      config.defaultSection :=
    ⟨hrequest, htop.defaultSection, by rw [htop.depth]; exact Nat.zero_le _⟩
  have halike : (store.withRequest graph).Alike read (store.withRequest graph) :=
    .refl hidle hhonest
  obtain ⟨fuel, rfl⟩ : ∃ fuel', fuel = fuel' + 3 := ⟨fuel - 3, by omega⟩
  obtain ⟨hrender, -⟩ := exec_renderView_eq_html hcontext h
  have hroom : config.maxDepth < fuel + (context.depth + 1) := by
    rw [htop.depth]
    omega
  have hlevels : config.maxDepth < levels + (context.depth + 1) := by
    rw [htop.depth]
    omega
  obtain ⟨store'', hexpand⟩ := exec_page (Engine.interprets_interpreting config read host) hprinted
    fuel levels htop.filePath htop.basePaths hfits hroom hlevels halike
    (Store.collects_withRequest store graph config.defaultSection) hrender
  refine ⟨store'', ?_⟩
  unfold expandPage
  rw [exec_bind_ok hcontext]
  exact hexpand

/-- A page and a template that it nests fill the section `head`, which their layout prints first. -/
def framedPages : List (String × String) :=
  [("/layout.html", "<head>\n$\x7b#render head?\x7d\n</head><body>$\x7b#render content\x7d</body>"),
   ("/page.html", "$\x7b#layout\x7d\n(<$:include $path=\"inner\"/>)$\x7b#section head\x7d<title>"),
   ("/inner.html", "$\x7b'a' + 'b'\x7d$\x7b#section head\x7d<meta>")]

/-- Such a page is filled as it is rendered. -/
theorem expandPage_framed :
    Program.parse "'a' + 'b'" = .ok [.binary .add (.string "a") (.string "b")] ∧
    ∃ store, exec ((inMemory .standard framedPages).expandPage 100 "/page" ⟨0⟩)
      (.knowing "'a' + 'b'" [.binary .add (.string "a") (.string "b")]) =
        (.ok "<head>\n<title><meta></head><body>(ab)</body>", store) := by
  refine ⟨Grammar.parse_sum "a" "b", ?_⟩
  have hprinted : (inMemory .standard framedPages).Printed
      ((inMemory .standard framedPages).fileOf "/page") := by
    have hfile : (inMemory .standard framedPages).fileOf "/page" = "/page.html" := by
      decide +kernel
    have hcheck : (inMemory .standard framedPages).isPrinted ["/inner.html"] "/page.html" := by
      decide +kernel
    rw [hfile]
    exact printed_of_isPrinted hcheck
  have hrendered : (exec ((inMemory .standard framedPages).renderView 100 "/page" ⟨0⟩)
      (.knowing "'a' + 'b'" [.binary .add (.string "a") (.string "b")])).1.toOption =
        some (.html "<head>\n<title><meta></head><body>(ab)</body>") := by
    decide +kernel
  rcases h : exec ((inMemory .standard framedPages).renderView 100 "/page" ⟨0⟩)
      (.knowing "'a' + 'b'" [.binary .add (.string "a") (.string "b")]) with ⟨stop | rendered, store'⟩
  · rw [h] at hrendered
    cases hrendered
  · rw [h] at hrendered
    cases hrendered
    exact renderView_fills_layout { Config.standard with cacheSize := 0 } _ Host.none 100 100
      "/page" ⟨0⟩ _ _ _ hprinted TemplateCache.honest_nothing nofun (by decide) (by decide) h

end TemplateEngine
