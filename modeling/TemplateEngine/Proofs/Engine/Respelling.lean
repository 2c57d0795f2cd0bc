import Mathlib.Logic.Function.Basic
import TemplateEngine.Proofs.Engine.Agreement
import TemplateEngine.Proofs.Engine.Calls
import TemplateEngine.Proofs.Engine.Contract
import TemplateEngine.Proofs.Template.Exchange

/-!
# `Engine` · A call in its other spelling

In a template a directive is replaced by the tag that asks for the same.

* **`CallSite`** is a call in a template, outside of all other tokens. `CallSite.directive` and
  `CallSite.tag` are the sources in the two spellings.
* **`parts_directive`** and **`parts_tag`**: around the call both have the same parts.
* **`SameCause`**: two root causes are the same. Only a fault of the markup behind the call stands
  at a place of its own in each source, as far behind the call in the one as in the other.
* **`reads`**: so the two sources compile to counterparts, or both do not compile. Then every request
  has the same outcome, and leaves the same data (`renderView_respelled`).
-/

namespace TemplateEngine

open Render TemplateEngine.Text TemplateEngine.Template

variable {σ : Type}

/-- A call in a template. -/
structure CallSite where
  /-- The path of the template. -/
  path : String
  /-- The text in front. -/
  before : String
  /-- The call. -/
  call : Call
  /-- The text that follows. -/
  after : String
  /-- The call stands in no other token. -/
  outside : NoneOpen before.toList

namespace CallSite

variable (site : CallSite)

/-! ## The two sources -/

/-- The source with the directive. -/
def directive : String := site.before ++ site.call.directive ++ site.after

/-- The source with the tag. -/
def tag : String := site.before ++ site.call.tag ++ site.after

/-- Where the directive ends. -/
def directiveEnd : Nat := byteLength (site.before.toList ++ site.call.directive.toList)

/-- Where the tag ends. -/
def tagEnd : Nat := byteLength (site.before.toList ++ site.call.tag.toList)

/-- The parts of a source in which the call is the given part, up to the given place. A fault behind
it is found where it is in the text that follows, moved by as much. -/
def partsWith (call : Part) (stop : Nat) : Except (ScanFault × Nat) (List Part) := do
  let found ← parts site.before.toList
  let later ← (parts site.after.toList).mapError fun fault => (fault.1, stop + fault.2)
  return found ++ call :: later

theorem parts_directive : parts site.directive.toList =
    site.partsWith ⟨.expression, site.call.directive.toList⟩ site.directiveEnd := by
  have hparts := parts_around site.outside (by decide) site.call.formed_directive
    site.after.toList
  simpa [directive, partsWith, directiveEnd] using hparts

theorem parts_tag : parts site.tag.toList =
    site.partsWith ⟨.openTag, site.call.tag.toList⟩ site.tagEnd := by
  have hparts := parts_around site.outside (by decide) site.call.formed_tag site.after.toList
  simpa [tag, partsWith, tagEnd] using hparts

/-! ## Root causes -/

/-- Two root causes count as the same. -/
inductive SameCause : Error → Error → Prop where
  /-- They are the same. -/
  | same (error : Error) : SameCause error error
  /-- They are the same fault of the markup behind the call, each at its place in its own source. -/
  | behind (fault : MarkupFault) (distance : Nat) {file : Option String}
      (hfile : ∀ path ∈ file, path = site.path) : SameCause
        (.parse fault (site.directiveEnd + distance)
          (Position.ofOffset site.directive (site.directiveEnd + distance)) file)
        (.parse fault (site.tagEnd + distance)
          (Position.ofOffset site.tag (site.tagEnd + distance)) file)

/-- The templates with the directive, and with the tag in its place. -/
def comparison (read : String → Except Error String) : Comparison where
  left := read
  right := Function.update read site.path (.ok site.tag)
  same := site.SameCause
  same_refl := .same

/-! ## Counterparts -/

variable {site} {read : String → Except Error String}

/-- In front of the call places are the same. -/
theorem ofOffset_front {front more : List Char} (h : site.before.toList = front ++ more) :
    Position.ofOffset site.directive (byteLength front) =
      Position.ofOffset site.tag (byteLength front) := by
  have hdirective : site.directive.toList =
      front ++ (more ++ site.call.directive.toList ++ site.after.toList) := by
    simp [directive, h]
  have htag : site.tag.toList = front ++ (more ++ site.call.tag.toList ++ site.after.toList) := by
    simp [tag, h]
  rw [Position.ofOffset_front hdirective, Position.ofOffset_front htag]

/-- The parts in front are where they were, those behind are moved, and both spellings of the call
nest the same template. -/
theorem counterparts {found : List Part} (hfound : parts site.before.toList = .ok found)
    (later : List Part) (hash hash' : String) :
    (site.comparison read).Counterparts
      ⟨site.path, site.directive,
        place 0 (found ++ ⟨.expression, site.call.directive.toList⟩ :: later), hash⟩
      ⟨site.path, site.tag,
        place 0 (found ++ ⟨.openTag, site.call.tag.toList⟩ :: later), hash'⟩ := by
  have hcut := parts_eq_ok_iff.1 hfound
  unfold Comparison.Counterparts
  dsimp only
  rw [hcut.place_around, hcut.place_around]
  refine List.rel_append (List.forall₂_same.2 fun part hpart => ?_) (.cons ?_ ?_)
  · obtain ⟨front, more, hfront, hoffset⟩ := exists_front_of_mem_place hpart
    obtain ⟨kind, text, offset⟩ := part
    obtain rfl : offset = byteLength front := hoffset.trans (Nat.zero_add _)
    refine .same fun fault => ?_
    have hplace := ofOffset_front (hcut.joins.symm.trans hfront)
    unfold Error.markup
    rw [hplace]
    exact .same _
  · rw [String.ofList_toList, String.ofList_toList]
    exact .nested (site.call.reading_directive _ _) (site.call.reading_tag _ _)
  · exact place_moved (fun kind text distance =>
      .same fun fault => .behind fault distance (by simp)) later 0

theorem compile_eq (path source : String) : CompiledTemplate.compile path source =
    match parts source.toList with
    | .ok found => .ok ⟨path, source, place 0 found, Digest.digest source⟩
    | .error (fault, offset) =>
      .error (.parse (.scan fault) offset (Position.ofOffset source offset) (some path)) := by
  unfold CompiledTemplate.compile tokenize
  cases parts source.toList <;> rfl

/-- The two sources compile to counterparts, or both do not compile. -/
theorem reads (hread : read site.path = .ok site.directive) : (site.comparison read).Reads := by
  intro path
  by_cases hpath : path = site.path
  · subst hpath
    have hright : (site.comparison read).right site.path = .ok site.tag :=
      Function.update_self ..
    have hleft : (site.comparison read).left site.path = .ok site.directive := hread
    rw [hleft, hright]
    show (site.comparison read).Results (site.comparison read).Counterparts
      (CompiledTemplate.compile site.path site.directive)
      (CompiledTemplate.compile site.path site.tag)
    rw [compile_eq, compile_eq, parts_directive, parts_tag]
    unfold partsWith
    rcases hfound : parts site.before.toList with ⟨fault, start⟩ | found
    · have hspec := partsFrom_spec 0 site.before.toList
      rw [parts] at hfound
      rw [hfound] at hspec
      obtain ⟨front, more, -, hfront, rfl, -⟩ := hspec
      have hplace := ofOffset_front hfront
      rw [← Nat.zero_add (byteLength front)] at hplace
      refine .error ⟨?_, rfl⟩
      rw [hplace]
      exact .same _
    · rcases parts site.after.toList with ⟨fault, distance⟩ | later
      · exact .error ⟨.behind (.scan fault) distance (by simp), rfl⟩
      · exact .ok (counterparts hfound later _ _)
  · have hright : (site.comparison read).right path = read path :=
      Function.update_of_ne hpath ..
    rw [hright]
    exact .refl Comparison.Counterparts.refl _

end CallSite

/-! ## Requests -/

/-- Around a call in a template both spellings leave the same parts, and every request has the same
outcome with both and leaves the same data. A failure has the same root cause; only a fault of the
markup behind the call names its place in its own source. -/
theorem renderView_respelled {engine : Engine σ} (hengine : engine.Interprets) (site : CallSite)
    (hread : engine.read site.path = .ok site.directive) {s : Store σ} {templates : TemplateCache}
    (hleft : s.templates.Honest engine.read)
    (hright : templates.Honest (site.comparison engine.read).right) (fuel : Nat) (path : String)
    (data : ObjectId) :
    let respelled := engine.reading (site.comparison engine.read).right
    let run := exec (engine.renderView fuel path data) s
    let run' := exec (respelled.renderView fuel path data) { s with templates := templates }
    parts site.directive.toList =
        site.partsWith ⟨.expression, site.call.directive.toList⟩ site.directiveEnd ∧
      parts site.tag.toList = site.partsWith ⟨.openTag, site.call.tag.toList⟩ site.tagEnd ∧
        (site.comparison engine.read).Outcomes run.1 run'.1 ∧ run.2.SameData run'.2 := by
  intro respelled run run'
  have hempty : ({ s with templates := .nothing } : Store σ).Agrees (site.comparison engine.read)
      { s with templates := .nothing } :=
    .refl TemplateCache.honest_nothing TemplateCache.honest_nothing
  have hst : s.Agrees (site.comparison engine.read) { s with templates := templates } :=
    hempty.withTemplates hleft hright
  exact ⟨site.parts_directive, site.parts_tag,
    outcomes_renderView hengine (CallSite.reads hread) fuel path data hst⟩

/-! ## Pages -/

/-- A call with braces, quotes and a bar in its expression. -/
def greetingCall : Call where
  kind := .fresh
  path := "part"
  expression := some "$.name = \x7ba: 'b|c'\x7d.a"
  trimmed := by decide
  plain := List.all_eq_true.1 (by decide)
  expressed := by
    rintro e ⟨⟩
    decide
  quotable := by
    rintro e ⟨⟩
    decide
  nests := by
    rintro e ⟨⟩
    have hquoted : Nests ('\x27' :: ("b|c".toList ++ ['\x27'])) :=
      .quoted (by decide) (by decide) .nil
    have hbraces : Nests ("$.name = ".toList ++
        '\x7b' :: ("a: ".toList ++ '\x27' :: ("b|c".toList ++ ['\x27']) ++
          '\x7d' :: (".a".toList ++ []))) :=
      .bare_append (by decide) (.braces (.bare_append (by decide) hquoted)
        (.bare_append (by decide) .nil))
    exact hbraces

/-- It stands between two texts. -/
def greetingSite : CallSite where
  path := "/page.html"
  before := "Hi "
  call := greetingCall
  after := "\n!"
  outside := .of_ok (parts_eq_ok_iff.2 (.literal (literal_spec "Hi ".toList).2.1))

/-- Such a page, and the template that it invokes. -/
def greetingPages : List (String × String) :=
  [("/page.html", greetingSite.directive), ("/part.html", "[part]")]

/-- A store with an object for data, and with the program of the expression. -/
def greetingStore : Store Unit :=
  let value := Expr.member (.object [("a", .string "b|c")]) "a" false
  { Store.knowing "$.name = \x7ba: 'b|c'\x7d.a" [.assign (.member .root "name" false) value] with
    graph := (Graph.empty.newObject .empty).2 }

/-- The page prints the same with both spellings, and the expression is evaluated in both. -/
theorem renderView_respelled_page :
    let engine := Engine.inMemory .standard greetingPages
    let respelled := engine.reading (greetingSite.comparison engine.read).right
    let run := exec (engine.renderView 20 "/page" ⟨0⟩) greetingStore
    let run' := exec (respelled.renderView 20 "/page" ⟨0⟩) greetingStore
    greetingSite.directive = "Hi $\x7b#view part | $.name = \x7ba: 'b|c'\x7d.a\x7d\n!" ∧
      greetingSite.tag = "Hi <$:view $path=\"part\" $=\"$.name = \x7ba: 'b|c'\x7d.a\" />\n!" ∧
        run.1.toOption = some (.html "Hi [part]!") ∧
          (greetingSite.comparison engine.read).Outcomes run.1 run'.1 ∧ run.2.SameData run'.2 := by
  intro engine respelled run run'
  have hrendered : run.1.toOption = some (.html "Hi [part]!") := by decide +kernel
  obtain ⟨-, -, houtcomes, hdata⟩ := renderView_respelled
    (Engine.interprets_interpreting { Config.standard with cacheSize := 0 }
      (MemorySource.ofList greetingPages).read Host.none) greetingSite rfl
    (s := greetingStore) TemplateCache.honest_nothing TemplateCache.honest_nothing 20 "/page" ⟨0⟩
  exact ⟨by decide +kernel, by decide +kernel, hrendered, houtcomes, hdata⟩

/-! ## Faults behind a call -/

/-- The place that the root cause of a failure names. -/
def Error.rootOffset? (error : Error) : Option Nat :=
  match error.rootCause with
  | .parse _ offset _ _ => some offset
  | _ => none

/-- The place that the reason of a stop names. -/
def Stop.rootOffset? {α : Type} : Except Stop α → Option Nat
  | .error (.raised error) => error.rootOffset?
  | _ => none

/-- Two outcomes that are the same name the same place. -/
theorem Comparison.Outcomes.rootOffset? {α : Type} {c : Comparison} {x y : Except Stop α}
    (hsame : ∀ a b, c.same a b → a = b) (h : c.Outcomes x y) :
    Stop.rootOffset? x = Stop.rootOffset? y := by
  cases h with
  | value a => rfl
  | stop h =>
    cases h with
    | @raised a b h =>
      have hroot : a.rootCause = b.rootCause := hsame _ _ h.root
      simp only [Stop.rootOffset?, Error.rootOffset?, hroot]
    | stalled => rfl
    | exhausted => rfl

/-- A call in front of an expression that has no end. -/
def unendedSite : CallSite where
  path := "/p.html"
  before := ""
  call := ⟨.fresh, "a", none, by decide, List.all_eq_true.1 (by decide), by simp, by simp, by simp⟩
  after := "$\x7b"
  outside := .of_ok (parts_eq_ok_iff.2 (.literal isLiteral_nil))

/-- The fault names the offset 10 in the source with the directive and the offset 20 in the source
with the tag, so the root causes are not the same. -/
theorem renderView_unended :
    let engine := Engine.inMemory .standard [("/p.html", unendedSite.directive)]
    let strict : Comparison :=
      { unendedSite.comparison engine.read with same := Eq, same_refl := fun _ => rfl }
    unendedSite.directive = "$\x7b#view a\x7d$\x7b" ∧
      unendedSite.tag = "<$:view $path=\"a\" />$\x7b" ∧
        engine.read unendedSite.path = .ok unendedSite.directive ∧
          ¬strict.Outcomes (exec (engine.renderView 20 "/p" ⟨0⟩) greetingStore).1
            (exec ((engine.reading strict.right).renderView 20 "/p" ⟨0⟩) greetingStore).1 := by
  intro engine strict
  refine ⟨by decide +kernel, by decide +kernel, rfl, fun h => ?_⟩
  have hoffset := h.rootOffset? fun _ _ heq => heq
  revert hoffset
  decide +kernel

end TemplateEngine
