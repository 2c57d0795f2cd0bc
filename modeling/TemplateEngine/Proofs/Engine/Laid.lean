import TemplateEngine.Proofs.Engine.Filled
import TemplateEngine.Proofs.Engine.Wrapped

/-!
# `Engine` · Requests for pages in layouts

A layout wraps its page, however often it has the content (`renderView_wraps`).

* **`Engine.KeepsSimple`**: two engines have the same templates at some files, which consist of
  texts, expressions, and nested templates of these files.
* **`Engine.Lays`**: two versions of a page that nests such templates. Where the one goes on in its
  section, the other one asks for a layout.
* **`Engine.lays_of_check`**: both can be checked for given files.
-/

namespace TemplateEngine

open Render TemplateEngine.Text TemplateEngine.Template

variable {σ : Type} {engine : Engine σ} {refs : Refs σ} {read' : String → Except Error String}
  {slots : SlotId → Prop} {files : String → Prop} {s t s' t' : Store σ}

/-! ## Pages -/

namespace Engine

/-- At some files, two engines have the same templates, which consist of texts, expressions, and
nested templates of these files. -/
structure KeepsSimple (engine : Engine σ) (read' : String → Except Error String)
    (files : String → Prop) : Prop where
  /-- The templates are the same. -/
  same : ∀ file, files file → read' file = engine.read file
  /-- They are simple. -/
  simple : ∀ file template, files file → engine.compiled file = .ok template →
    ∀ part ∈ template.tokens, (template.reading part).isSimple
  /-- They nest each other. -/
  nest : ∀ file template, files file → engine.compiled file = .ok template →
    ∀ part ∈ template.tokens, ∀ invocation : Invocation, template.Invokes part invocation →
      ∀ target, engine.fileFrom file invocation.path = .ok target → files target

/-- Two versions of the page at `file`, which nests templates of some files. Where `plain` goes on in
its section, `page` asks for the layout that is `written`; everything else is the same. -/
structure Lays (engine : Engine σ) (read' : String → Except Error String) (files : String → Prop)
    (file written : String) (plain page : CompiledTemplate) : Prop where
  /-- The one version. -/
  compiled : engine.compiled file = .ok plain
  /-- The other one. -/
  compiled' : (engine.withRead read').compiled file = .ok page
  /-- They correspond token by token. -/
  tokens : List.Forall₂ (Token.Echoed engine.config.defaultSection plain page) plain.tokens
    page.tokens
  /-- One layout is asked for. -/
  asked : page.readings.filterMap (·.layout? engine) = [written]
  /-- What is nested is simple. -/
  nest : ∀ part ∈ plain.tokens, ∀ invocation : Invocation, plain.Invokes part invocation →
    ∀ target, engine.fileFrom file invocation.path = .ok target → files target
  /-- So are the templates below. -/
  below : engine.KeepsSimple read' files

/-- The contexts of a request for which simple templates are rendered. -/
def Simply (engine : Engine σ) (files : String → Prop) (request : RequestId) (context : Context) :
    Prop :=
  context.request = request ∧ context.defaultSection = engine.config.defaultSection ∧
    context.basePaths = .empty ∧ files context.filePath

/-- What a context nests is below its file. -/
theorem simply_of_nested {request : RequestId} {context child : Context}
    {invocation : Invocation} (hrequest : context.request = request)
    (hbase : context.basePaths = .empty)
    (hnest : ∀ target, engine.fileFrom context.filePath invocation.path = .ok target →
      files target)
    (hnested : Nested engine context engine.config.defaultSection invocation child) :
    engine.Simply files request child :=
  ⟨hnested.request.trans hrequest, hnested.defaultSection, hnested.basePaths.trans hbase,
    hnest _ ((resolvePath_eq_fileFrom hbase _).symm.trans hnested.filePath)⟩

/-- Simple templates that two engines share are a family. -/
theorem KeepsSimple.family (h : engine.KeepsSimple read' files) (request : RequestId) :
    EchoedFamily engine read' request engine.config.defaultSection
      (engine.Simply files request) where
  ofRequest _ hknown := hknown.1
  ofSection _ hknown := hknown.2.1
  opened context template hknown hopened := by
    have hread : (engine.withRead read').read context.filePath = engine.read context.filePath :=
      h.same _ hknown.2.2.2
    unfold opened compiled at hopened ⊢
    rw [hread]
    exact hopened
  simple context template hknown hopened :=
    h.simple _ template hknown.2.2.2 (compiled_of_opened hopened)
  nest context template hknown hopened part hpart invocation hinvokes child hnested :=
    simply_of_nested hknown.1 hknown.2.2.1
      (h.nest _ template hknown.2.2.2 (compiled_of_opened hopened) part hpart invocation hinvokes)
      hnested

/-- The tokens of both versions as pairs. -/
theorem Lays.pairs {file written : String} {plain page : CompiledTemplate}
    (h : engine.Lays read' files file written plain page) {context : Context}
    (hfile : context.filePath = file) (hbase : context.basePaths = .empty) :
    ∃ pairs : List (Token × Token), plain.tokens = pairs.map Prod.fst ∧
      page.tokens = pairs.map Prod.snd ∧
      (∀ pair ∈ pairs, EchoedTokens engine engine.config.defaultSection
        (engine.Simply files context.request) context plain page pair) ∧
      pairs.flatMap (askedBy engine page) = [written] := by
  have hlength := h.tokens.length_eq
  have hfirst : (plain.tokens.zip page.tokens).map Prod.fst = plain.tokens :=
    List.map_fst_zip (Nat.le_of_eq hlength)
  have hsecond : (plain.tokens.zip page.tokens).map Prod.snd = page.tokens :=
    List.map_snd_zip (Nat.le_of_eq hlength.symm)
  refine ⟨plain.tokens.zip page.tokens, hfirst.symm, hsecond.symm, ?_, ?_⟩
  · rintro ⟨part, part'⟩ hpair
    have hpart : part ∈ plain.tokens := (List.of_mem_zip hpair).1
    refine ⟨(List.forall₂_iff_zip.1 h.tokens).2 hpair, fun invocation hinvokes child hnested => ?_⟩
    exact simply_of_nested rfl hbase (hfile ▸ h.nest part hpart invocation hinvokes) hnested
  · rw [← h.asked]
    unfold CompiledTemplate.readings
    rw [List.filterMap_map, List.filterMap_eq_flatMap_toList]
    conv_rhs => rw [← hsecond, List.flatMap_map]
    rfl

end Engine

/-! ## Requests -/

/-- Both start a request. -/
theorem Store.Placed.newRequest {m : Motion σ} (h : s.Placed m t) :
    ({ s with requests := s.requests.push .new } : Store σ).Placed m
      { t with requests := t.requests.push .new } :=
  { h with
    requests := by
      rw [Array.size_push, Array.size_push, h.requests]
    redirect := fun id => by
      have hredirect := h.redirect id
      unfold Store.redirect at hredirect ⊢
      rw [Array.getElem?_push, Array.getElem?_push, h.requests]
      split
      · rfl
      · exact hredirect }

/-- The rest of a context for a request is made in the same way. -/
theorem moves_topContext {m : Motion σ} {e : Extent} (viewPath filePath section_ : String)
    {data : ObjectId} (hdata : Refs.object.Within e data) (request : RequestId) :
    Moves (σ := σ) m e .context
      (do
        let builtins ← viewBuiltins [] request
        return {
          viewPath := viewPath, filePath := filePath, basePaths := .empty, data := data
          request := request, isLayout := false, defaultSection := section_, slot := none
          attributes := [], depth := 0, builtins := builtins })
      (do
        let builtins ← viewBuiltins [] request
        return {
          viewPath := viewPath, filePath := filePath, basePaths := .empty
          data := m.objectId data, request := request, isLayout := false
          defaultSection := section_, slot := none, attributes := [], depth := 0
          builtins := builtins }) :=
  (Moves.viewBuiltins [] request).bind fun _ _ he hbuiltins =>
    .pure rfl ⟨Refs.object.mono he hdata, hbuiltins⟩

/-- On stores with the same values, requests start in the same way. -/
theorem exec_context_still (engine : Engine σ) (path : String) {data : ObjectId}
    (hdata : data.index < s.graph.objects.size) (hst : s.Placed (.still refs slots) t) :
    ∃ context graph graph', exec (engine.context path data) s = (.ok context, s.withRequest graph) ∧
      exec (engine.context path data) t = (.ok context, t.withRequest graph') ∧
      context.request = ⟨s.requests.size⟩ ∧ context.AtTop engine path ∧
      (s.withRequest graph).Placed (.still refs slots) (t.withRequest graph') ∧
      Refs.context.Within graph.extent context ∧ s.graph.extent ≤ graph.extent := by
  obtain ⟨context, graph, hcontext, hrequest, htop, -⟩ := exec_context engine path data s
  obtain ⟨context', graph', hcontext', -, -, -⟩ := exec_context engine path data t
  have hdata' : Refs.object.Within s.graph.extent data := hdata
  have hnew : exec newRequest s = (.ok ⟨s.requests.size⟩,
      { s with requests := s.requests.push .new }) := rfl
  have hnew' : exec newRequest t = (.ok ⟨s.requests.size⟩,
      { t with requests := t.requests.push .new }) := by
    rw [← hst.requests]
    rfl
  obtain ⟨result, s', t', hs, ht, hadvance, hwithin⟩ :=
    moves_topContext path (Path.withExtension engine.config.extension
      (Path.combine "/" (trimString path))) engine.config.defaultSection hdata' ⟨s.requests.size⟩
      _ _ hst.newRequest (Extent.le_refl _)
  unfold Engine.context Engine.topContext at hcontext hcontext' ⊢
  rw [exec_bind_ok hnew] at hcontext ⊢
  rw [exec_bind_ok hnew'] at hcontext' ⊢
  cases hs.symm.trans hcontext
  have hwithin := hwithin context rfl
  have hplaced : Refs.context.placed (.still slots) context = context :=
    Refs.context.fixed (Placement.fixes_still slots _) hwithin
  obtain ⟨hsame, rfl⟩ := Prod.mk.inj (ht.symm.trans hcontext')
  obtain rfl : context = context' := hplaced.symm.trans (Except.ok.inj hsame)
  exact ⟨context, graph, graph', hcontext, hcontext', hrequest, htop, hadvance.placed, hwithin,
    hadvance.grows⟩

/-- What a page does before its request is rendered is not counted. -/
theorem Store.WrapsPage.of_withRequest {request : RequestId} {target : String} {w : Store σ}
    {graph graph' : Graph} (hgrows : s.graph.extent ≤ graph.extent)
    (h : Store.WrapsPage refs request target (s.withRequest graph) s' (t.withRequest graph') w) :
    Store.WrapsPage refs request target s s' t w where
  embedded := by
    obtain ⟨p, hfixes, hembedded⟩ := h.embedded
    exact ⟨p, .mono hgrows hfixes, hembedded⟩
  redirect := h.redirect
  journal := h.journal

/-- The version of a page that asks for a layout is rendered as the layout makes of the other one. -/
theorem exec_render_wraps (hengine : engine.Interprets) (hhost : ∀ p, engine.host.Parametric refs p)
    {file written target : String} {plain page : CompiledTemplate} {frame : Frame}
    (hlays : engine.Lays read' files file written plain page) (hliteral : frame.Literal)
    (htarget : engine.fileFrom file written = .ok target)
    (hsource : read' target = .ok frame.source) {context : Context}
    (hfile : context.filePath = file) (hbase : context.basePaths = .empty)
    (hdefault : context.defaultSection = engine.config.defaultSection)
    (hdepth : context.depth < engine.config.maxDepth) (hst : s.Placed (.still refs slots) t)
    (hlive : context.request.index < s.requests.size) (hhonest : s.templates.Honest engine.read)
    (hhonest' : t.templates.Honest read') (hcontext : Refs.context.Within s.graph.extent context)
    {fuel fuel' : Nat} (hfuel : fuel + 2 ≤ fuel') {text : String}
    (hredirect : s'.redirect context.request = none)
    (h : exec (engine.render fuel context) s = (.ok text, s')) :
    ∃ w, exec ((engine.withRead read').render fuel' context) t = (.ok (frame.fill text), w) ∧
      Store.WrapsPage refs context.request target s s' t w := by
  obtain ⟨fuel, rfl⟩ : ∃ lower, fuel = lower + 1 := by
    cases fuel with
    | zero => cases h
    | succ lower => exact ⟨lower, rfl⟩
  obtain ⟨fuel', rfl⟩ : ∃ lower, fuel' = lower + 3 := ⟨fuel' - 3, by omega⟩
  obtain ⟨pairs, htokens, htokens', hpairs, hasked⟩ := hlays.pairs hfile hbase
  have hplain : engine.opened context = .ok plain :=
    Engine.opened_of_compiled (Nat.le_of_lt hdepth) (hfile ▸ hlays.compiled)
  have hpage : (engine.withRead read').opened context = .ok page :=
    Engine.opened_of_compiled (Nat.le_of_lt hdepth) (hfile ▸ hlays.compiled')
  have hpath : engine.resolvePath context written = .ok target := by
    rw [Engine.resolvePath_eq_fileFrom hbase, hfile]
    exact htarget
  have hfamily := hlays.below.family context.request
  rw [← hdefault] at hfamily hpairs
  exact exec_renderTemplate_wraps hengine hhost hfamily hst hlive hhonest hhonest' hcontext hdefault
    hdepth hplain hpage htokens htokens' hpairs hasked hpath hsource hliteral (by omega) hredirect h

/-- A layout wraps its page, however often it has the content. Let a page that nests simple
templates have a text where it goes on in its section; then the version that asks for a layout has
this text wherever the layout has its content. The page has done the same, once and in the same
order, and its data is the same. Values of stores refer to what is there, and to slots only that are
not waiting; what was kept of templates has to be honest. -/
theorem renderView_wraps (config : Config) (read read' : String → Except Error String)
    (host : Host σ) (refs : Refs σ) (hhost : ∀ p, host.Parametric refs p)
    (files : String → Prop) (path written target : String) (plain page : CompiledTemplate)
    (frame : Frame) (hliteral : frame.Literal)
    (hlays : (Engine.interpreting config read host).Lays read' files
      ((Engine.interpreting config read host).fileOf path) written plain page)
    (htarget : (Engine.interpreting config read host).fileFrom
      ((Engine.interpreting config read host).fileOf path) written = .ok target)
    (hsource : read' target = .ok frame.source) (hdepth : 0 < config.maxDepth)
    (slots : SlotId → Prop) (s t : Store σ) (hst : s.Placed (.still refs slots) t)
    (hhonest : s.templates.Honest read) (hhonest' : t.templates.Honest read')
    (data : ObjectId) (hdata : data.index < s.graph.objects.size) (fuel fuel' : Nat)
    (hfuel : fuel + 2 ≤ fuel') (text : String) (s' : Store σ)
    (h : exec ((Engine.interpreting config read host).renderView fuel path data) s =
      (.ok (.html text), s')) :
    ∃ w, exec ((Engine.interpreting config read' host).renderView fuel' path data) t =
        (.ok (.html (frame.fill text)), w) ∧
      Store.WrapsPage refs ⟨s.requests.size⟩ target s s' t w := by
  obtain ⟨context, graph, graph', hcontext, hcontext', hrequest, htop, hplaced, hwithin, hgrows⟩ :=
    exec_context_still (Engine.interpreting config read host) path hdata hst
  obtain ⟨hrender, hredirect⟩ := exec_renderView_eq_html hcontext h
  have hlive : context.request.index < (s.withRequest graph).requests.size := by
    rw [hrequest]
    exact Nat.lt_of_lt_of_eq (Nat.lt_succ_self _) (Array.size_push _).symm
  obtain ⟨w, hrender', hwraps⟩ := exec_render_wraps (Engine.interprets_interpreting config read host)
    hhost hlays hliteral htarget hsource htop.filePath htop.basePaths htop.defaultSection
    (htop.depth ▸ hdepth) hplaced hlive hhonest hhonest' hwithin hfuel hredirect hrender
  refine ⟨w, exec_renderView_html hcontext' hrender' ((hwraps.redirect _).trans hredirect), ?_⟩
  rw [← hrequest]
  exact hwraps.of_withRequest hgrows

/-! ## A check for files -/

/-- What a token invokes. -/
def CompiledTemplate.invoked? (template : CompiledTemplate) (part : Token) : Option Invocation :=
  match template.reading part with
  | .nest invocation => some invocation
  | .paired =>
    match ServerTag.parse part.text with
    | .ok tag => (Invocation.ofTag tag none).toOption
    | .error _ => none
  | _ => none

theorem CompiledTemplate.Invokes.invoked? {template : CompiledTemplate} {part : Token}
    {invocation : Invocation} (h : template.Invokes part invocation) :
    template.invoked? part = some invocation := by
  unfold CompiledTemplate.invoked?
  rcases h with hnest | ⟨tag, hopens⟩
  · rw [hnest]
  · rw [hopens.reading template, hopens.parses]
    dsimp only
    rw [hopens.invokes]
    rfl

/-- A token passes a check if it corresponds to one of the other template. -/
def Template.Token.echoes (home : String) (template template' : CompiledTemplate)
    (part part' : Token) : Bool :=
  match template.reading part, template'.reading part' with
  | .section name, .layout _ => decide (name = home)
  | reading, _ => reading.isSimple && decide (part'.kind = part.kind ∧ part'.text = part.text)

theorem Template.Token.echoed_of_echoes {home : String} {template template' : CompiledTemplate}
    {part part' : Token} (h : part.echoes home template template' part') :
    part.Echoed home template template' part' := by
  unfold echoes at h
  split at h
  · next name path hsection hlayout =>
    cases of_decide_eq_true h
    exact .layout path hsection hlayout
  · obtain ⟨hsimple, hsame⟩ := Bool.and_eq_true_iff.1 h
    exact .same hsimple (of_decide_eq_true hsame).1 (of_decide_eq_true hsame).2

namespace Engine

/-- The templates that the template at `file` invokes are among the files. -/
def invokesIn (engine : Engine σ) (files : List String) (file : String)
    (template : CompiledTemplate) : Bool :=
  template.tokens.all fun part =>
    match template.invoked? part with
    | none => true
    | some invocation =>
      match engine.fileFrom file invocation.path with
      | .ok target => target ∈ files
      | .error _ => true

/-- Two ways to read have the same text at a file. -/
def sameSource (read read' : String → Except Error String) (file : String) : Bool :=
  match read file, read' file with
  | .ok source, .ok source' => decide (source' = source)
  | _, _ => false

/-- Two versions of a page pass a check, and so do the templates at the files. -/
def checksVersions (engine : Engine σ) (read' : String → Except Error String) (files : List String)
    (file written : String) : Bool :=
  (match engine.compiled file, (engine.withRead read').compiled file with
  | .ok plain, .ok page =>
    List.all₂ (Token.echoes engine.config.defaultSection plain page) plain.tokens page.tokens &&
      decide (page.readings.filterMap (·.layout? engine) = [written]) &&
      engine.invokesIn files file plain
  | _, _ => false) &&
  files.all fun other => sameSource engine.read read' other &&
    engine.checks other fun template =>
      template.tokens.all (fun part => (template.reading part).isSimple) &&
        engine.invokesIn files other template

variable {list : List String} {file written : String} {template : CompiledTemplate}

theorem mem_of_invokesIn (h : engine.invokesIn list file template) {part : Token}
    (hpart : part ∈ template.tokens) {invocation : Invocation}
    (hinvokes : template.Invokes part invocation) {target : String}
    (htarget : engine.fileFrom file invocation.path = .ok target) : target ∈ list := by
  have hcheck := List.all_eq_true.1 h part hpart
  rw [hinvokes.invoked?] at hcheck
  dsimp only at hcheck
  rw [htarget] at hcheck
  exact of_decide_eq_true hcheck

theorem read_of_sameSource {read read' : String → Except Error String}
    (h : sameSource read read' file) : read' file = read file := by
  unfold sameSource at h
  split at h
  · next source source' hread hread' =>
    rw [hread, hread', of_decide_eq_true h]
  · cases h

/-- Two versions that pass the check correspond. -/
theorem lays_of_check (h : engine.checksVersions read' list file written) :
    ∃ plain page, engine.Lays read' (· ∈ list) file written plain page := by
  obtain ⟨hversions, hfiles⟩ := Bool.and_eq_true_iff.1 h
  have hbelow : engine.KeepsSimple read' (· ∈ list) := by
    have hother := fun other hmem => Bool.and_eq_true_iff.1 (List.all_eq_true.1 hfiles other hmem)
    refine ⟨fun other hmem => read_of_sameSource (hother other hmem).1, ?_, ?_⟩
    · intro other template hmem hcompiled part hpart
      have hcheck := Bool.and_eq_true_iff.1 (check_of_checks (hother other hmem).2 hcompiled)
      exact List.all_eq_true.1 hcheck.1 part hpart
    · intro other template hmem hcompiled part hpart invocation hinvokes target htarget
      have hcheck := Bool.and_eq_true_iff.1 (check_of_checks (hother other hmem).2 hcompiled)
      exact mem_of_invokesIn hcheck.2 hpart hinvokes htarget
  split at hversions
  · next plain page hplain hpage =>
    obtain ⟨hechoes, hinvokes⟩ := Bool.and_eq_true_iff.1 hversions
    obtain ⟨htokens, hasked⟩ := Bool.and_eq_true_iff.1 hechoes
    refine ⟨plain, page, hplain, hpage, ?_, of_decide_eq_true hasked, ?_, hbelow⟩
    · exact ((List.all₂_eq_true _ _).1 htokens).imp fun _ _ => Token.echoed_of_echoes
    · exact fun part hpart invocation hinv target => mem_of_invokesIn hinvokes hpart hinv
  · cases hversions

end Engine

/-! ## A page -/

/-- A store whose values refer to what is there is placed in itself. -/
theorem Store.placed_still (hgraph : s.graph.Placed (.still fun _ => False) s.graph)
    (hparsed : s.programs.Parsed) (hhost : refs.Within s.graph.extent s.host) :
    s.Placed (.still refs fun _ => False) s where
  graph := hgraph
  programs := ⟨hparsed, hparsed⟩
  host := (refs.fixed (Placement.fixes_still _ _) hhost).symm
  within := hhost
  requests := rfl
  redirect _ := rfl
  slot _ := False.elim
  idle _ _ := False.elim
  exists_slot _ := False.elim

/-- Native functions that do nothing cannot see where values stand. -/
theorem Host.parametric_none (p : Placement) : Host.none.Parametric .free p := by
  intro id hid args g g' state hg hargs hstate
  have hresult : Refs.value.result.Within g.extent (.ok .undefined) := by
    rintro _ ⟨⟩
    trivial
  exact ⟨.ok .undefined, g, g', state, rfl, rfl, hresult, trivial, hg, .refl _ _,
    Extent.le_refl _⟩

/-- The templates around a page. -/
def wrappingPages (page : String) : List (String × String) :=
  [("/page.html", page), ("/inner.html", "[$\x7b'a' + 'b'\x7d]"),
   ("/layout.html", "<$\x7bcontent\x7d|$\x7bcontent\x7d>")]

/-- A page with an expression that nests a template with one. -/
def wrappedPage (directive : String) : String :=
  "<h1>\n$\x7b" ++ directive ++ "\x7d\n$\x7b'a' + 'b'\x7d<$:include $path=\"inner\"/></h1>"

/-- A store with the data of a request, and with the program of the expression. -/
def Store.withData : Store Unit :=
  { Store.knowing "'a' + 'b'" [.binary .add (.string "a") (.string "b")] with
    graph := ⟨#[.empty], #[], #[]⟩ }

theorem Store.placed_withData (hparse : Program.parse "'a' + 'b'" =
    .ok [.binary .add (.string "a") (.string "b")]) :
    Store.withData.Placed (.still .free fun _ => False) Store.withData := by
  have hclosed : Store.withData.graph.Closed := by
    refine ⟨fun members hmembers => ?_, fun state hstate => ?_⟩
    · rw [Array.mem_singleton.1 hmembers]
      exact nofun
    · simp [Store.withData] at hstate
  have hparsed : Store.withData.programs.Parsed := by
    intro source program hmem
    rcases Recent.mem_of_mem_put hmem with hnew | hold
    · cases hnew
      exact hparse
    · cases hold
  refine Store.placed_still (hclosed.placed_still ?_ ?_) hparsed trivial
  · simp [Store.withData]
  · simp [Store.withData]

/-- Such a page stands twice in a layout that reads its content twice. -/
theorem renderView_wraps_page :
    Program.parse "'a' + 'b'" = .ok [.binary .add (.string "a") (.string "b")] ∧
    ∃ s' w, exec ((Engine.inMemory .standard
        (wrappingPages (wrappedPage "#section content"))).renderView 100 "/page" ⟨0⟩) .withData =
          (.ok (.html "<h1>\nab[ab]</h1>"), s') ∧
      exec ((Engine.inMemory .standard (wrappingPages (wrappedPage "#layout"))).renderView
        102 "/page" ⟨0⟩) .withData = (.ok (.html "<<h1>\nab[ab]</h1>|<h1>\nab[ab]</h1>>"), w) ∧
      Store.WrapsPage .free ⟨0⟩ "/layout.html" .withData s' .withData w := by
  refine ⟨Grammar.parse_sum "a" "b", ?_⟩
  let engine := Engine.inMemory .standard (wrappingPages (wrappedPage "#section content"))
  let read' := (MemorySource.ofList (wrappingPages (wrappedPage "#layout"))).read
  let frame : Frame := .reads "<" "|" [">"]
  have hrendered : (exec (engine.renderView 100 "/page" ⟨0⟩) .withData).1.toOption =
      some (.html "<h1>\nab[ab]</h1>") := by
    decide +kernel
  have hcheck : engine.checksVersions read' ["/inner.html"] (engine.fileOf "/page") "/layout" := by
    decide +kernel
  obtain ⟨plain, page, hlays⟩ := Engine.lays_of_check hcheck
  have htarget : engine.fileFrom (engine.fileOf "/page") "/layout" = .ok "/layout.html" := by
    have hfile : (engine.fileFrom (engine.fileOf "/page") "/layout").toOption =
        some "/layout.html" := by
      decide +kernel
    rcases htarget : engine.fileFrom (engine.fileOf "/page") "/layout" with error | target
    · rw [htarget] at hfile
      cases hfile
    · rw [htarget] at hfile
      exact congrArg Except.ok (Option.some.inj hfile)
  have hsource : read' "/layout.html" = .ok frame.source := rfl
  have hliteral : frame.Literal := by
    rintro text (_ | ⟨_, _ | ⟨_, _ | ⟨_, ⟨⟩⟩⟩⟩)
    · exact (literal_spec "<".toList).2.1
    · exact (literal_spec "|".toList).2.1
    · exact (literal_spec ">".toList).2.1
  rcases h : exec (engine.renderView 100 "/page" ⟨0⟩) .withData with ⟨stop | rendered, s'⟩
  · rw [h] at hrendered
    cases hrendered
  · rw [h] at hrendered
    cases hrendered
    obtain ⟨w, hwrapped, hwraps⟩ := renderView_wraps { Config.standard with cacheSize := 0 } _ read'
      Host.none .free Host.parametric_none (· ∈ ["/inner.html"]) "/page" "/layout" "/layout.html"
      plain page frame hliteral hlays htarget hsource (by decide) (fun _ => False) .withData .withData
      (Store.placed_withData (Grammar.parse_sum "a" "b")) TemplateCache.honest_nothing
      TemplateCache.honest_nothing ⟨0⟩ (by decide) 100 102 (by decide) _ s' h
    exact ⟨s', w, rfl, hwrapped, hwraps⟩

end TemplateEngine
