import TemplateEngine.Proofs.Engine.Layouts
import TemplateEngine.Proofs.Engine.Markup

/-!
# `Engine` · Bodies in their places

A template of texts, expressions and paired tags has the text of its tree.

* **`Filled`**: fragments whose text is known before they are rendered. Each nested template among
  them prints a slot with such fragments, and no slot is printed twice.
* **`exec_filled`**: they are rendered to that text. Nothing is evaluated then (`Store.Replays`).
-/

namespace TemplateEngine

open Render TemplateEngine.Text TemplateEngine.Template

variable {σ : Type} {engine : Engine σ} {read : String → Except Error String} {request : RequestId}
  {home : String} {a b : Nat} {fragments : List (Fragment Deferred)} {text : String}
  {s s' s'' t u : Store σ}

/-! ## Stores -/

/-- Templates were read and slots were printed, of which the numbers are from `a` to `b`. -/
structure Store.Replays (read : String → Except Error String) (request : RequestId) (home : String)
    (a b : Nat) (s s' : Store σ) : Prop where
  /-- All values are the same. -/
  graph : s'.graph = s.graph
  /-- So is the state of the host. -/
  host : s'.host = s.host
  /-- There are as many requests. -/
  requests : s'.requests.size = s.requests.size
  /-- The same redirects were asked for. -/
  redirect : ∀ id, s'.redirect id = s.redirect id
  /-- All other slots are as they were. -/
  slots : ∀ i, i < a ∨ b ≤ i → s'.slots[i]? = s.slots[i]?
  /-- The templates are honest. -/
  honest : s'.templates.Honest read
  /-- Nothing was added to the scopes that there were. -/
  sections : ∀ scope, (s.sections request).Extends home scope [] (s'.sections request)
  /-- Nothing else was done. -/
  journal : ∃ events, s'.journal = events ++ s.journal ∧ ∀ event ∈ events, ∃ path, event = .reading path

namespace Store.Replays

theorem refl (h : s.templates.Honest read) (request : RequestId) (home : String) (a b : Nat) :
    s.Replays read request home a b s :=
  ⟨rfl, rfl, rfl, fun _ => rfl, fun _ _ => rfl, h, fun _ => .refl _ _ _, ⟨[], rfl, nofun⟩⟩

theorem mono {a' b' : Nat} (h : s.Replays read request home a b s') (ha : a' ≤ a) (hb : b ≤ b') :
    s.Replays read request home a' b' s' :=
  { h with slots := fun i hi => h.slots i (by omega) }

theorem trans (h : s.Replays read request home a b s') (h' : s'.Replays read request home a b s'') :
    s.Replays read request home a b s'' where
  graph := h'.graph.trans h.graph
  host := h'.host.trans h.host
  requests := h'.requests.trans h.requests
  redirect id := (h'.redirect id).trans (h.redirect id)
  slots i hi := (h'.slots i hi).trans (h.slots i hi)
  honest := h'.honest
  sections scope := (h.sections scope).trans (h'.sections scope)
  journal := by
    obtain ⟨events, hevents, hreading⟩ := h.journal
    obtain ⟨more, hmore, hreading'⟩ := h'.journal
    refine ⟨more ++ events, ?_, fun event hevent => ?_⟩
    · rw [hmore, hevents, List.append_assoc]
    · exact (List.mem_append.1 hevent).elim (hreading' event) (hreading event)

end Store.Replays

/-! ## Fragments with known texts -/

/-- Fragments with a text that is known before they are rendered. The numbers of the slots that they
print are from `a` to `b`. -/
inductive Filled (engine : Engine σ) (request : RequestId) (home : String) (s : Store σ) :
    Nat → Nat → List (Fragment Deferred) → String → Prop where
  /-- There are none. -/
  | nil {a b : Nat} (h : a ≤ b) : Filled engine request home s a b [] ""
  /-- A text in front of the rest. -/
  | literal {a b : Nat} {rest : List (Fragment Deferred)} {more : String} (text : String)
    (hrest : Filled engine request home s a b rest more) :
    Filled engine request home s a b (⟨.literal text, .normal⟩ :: rest) (text ++ more)
  /-- A nested template, which prints a slot, in front of the rest. -/
  | nested {a b k : Nat} {child : Context} {template : CompiledTemplate} {before after : String}
    {body rest : List (Fragment Deferred)} {inner more : String} (hrequest : child.request = request)
    (hsection : child.defaultSection = home) (hopened : engine.opened child = .ok template)
    (hprints : template.Prints before after) (hslot : child.slot = some ⟨k⟩)
    (hwaits : s.slots[k]? = some ⟨.pending body, false⟩)
    (hbody : Filled engine request home s a k body inner)
    (hrest : Filled engine request home s (k + 1) b rest more) (outer : CompiledTemplate)
    (token : Nat) :
    Filled engine request home s a b
      (⟨.deferred ⟨.template child, outer, token⟩, .nestedView⟩ :: rest)
      (before ++ (inner ++ stripLineEnd after) ++ more)

namespace Filled

theorem le (h : Filled engine request home s a b fragments text) : a ≤ b := by
  induction h with
  | nil h => exact h
  | literal text _ ih => exact ih
  | nested _ _ _ _ _ _ _ _ _ _ ihBody ihRest =>
    exact Nat.le_trans ihBody (Nat.le_of_succ_le ihRest)

/-- It depends on their slots only. -/
theorem congr (h : Filled engine request home s a b fragments text)
    (hslots : ∀ i, a ≤ i → i < b → s'.slots[i]? = s.slots[i]?) :
    Filled engine request home s' a b fragments text := by
  induction h with
  | nil h => exact .nil h
  | literal text _ ih => exact .literal text (ih hslots)
  | nested hrequest hsection hopened hprints hslot hwaits hbody hrest outer token ihBody ihRest =>
    have hle := hbody.le
    have hle' := hrest.le
    exact .nested hrequest hsection hopened hprints hslot
      ((hslots _ hle hle').trans hwaits)
      (ihBody fun i hi hi' => hslots i hi (by omega))
      (ihRest fun i hi hi' => hslots i (by omega) hi') outer token

theorem mono {a' : Nat} (h : Filled engine request home s a b fragments text) (ha : a' ≤ a) :
    Filled engine request home s a' b fragments text := by
  induction h generalizing a' with
  | nil h => exact .nil (Nat.le_trans ha h)
  | literal text _ ih => exact .literal text (ih ha)
  | nested hrequest hsection hopened hprints hslot hwaits hbody hrest outer token ihBody ihRest =>
    exact .nested hrequest hsection hopened hprints hslot hwaits (ihBody ha) hrest outer token

theorem append {c : Nat} {rest : List (Fragment Deferred)} {more : String}
    (h : Filled engine request home s a b fragments text)
    (hrest : Filled engine request home s b c rest more) :
    Filled engine request home s a c (fragments ++ rest) (text ++ more) := by
  induction h with
  | nil h =>
    rw [String.empty_append]
    exact hrest.mono h
  | literal text _ ih =>
    rw [String.append_assoc]
    exact .literal text (ih hrest)
  | nested hrequest hsection hopened hprints hslot hwaits hbody _ outer token _ ihRest =>
    rw [String.append_assoc]
    exact .nested hrequest hsection hopened hprints hslot hwaits hbody (ihRest hrest) outer token

/-- They are texts and nested templates. -/
theorem isPlain (h : Filled engine request home s a b fragments text) {fragment : Fragment Deferred}
    (hmem : fragment ∈ fragments) : fragment.IsPlain := by
  induction h with
  | nil h => cases hmem
  | literal text _ ih =>
    rcases List.mem_cons.1 hmem with rfl | hmem
    · exact .inl ⟨text, rfl⟩
    · exact ih hmem
  | nested _ _ _ _ _ _ _ _ outer token _ ihRest =>
    rcases List.mem_cons.1 hmem with rfl | hmem
    · exact .inr ⟨_, rfl⟩
    · exact ihRest hmem

end Filled

/-- A nested template prints a slot between its two texts. -/
theorem exec_template_filled {child : Context} {template : CompiledTemplate} {before after : String}
    {k fuel : Nat} {body : List (Fragment Deferred)} (hhonest : s.templates.Honest engine.read)
    (hlive : child.request.index < s.requests.size)
    (hopened : engine.opened child = .ok template) (hprints : template.Prints before after)
    (hslot : child.slot = some ⟨k⟩) (hwaits : s.slots[k]? = some ⟨.pending body, false⟩)
    (hak : a ≤ k) (hkb : k < b)
    (hbody : ∀ u : Store σ, u.templates.Honest engine.read → child.request.index < u.requests.size →
      (∀ i, a ≤ i → i < k → u.slots[i]? = s.slots[i]?) → ∃ u',
        exec (renderFragments (runDeferred (engine.produce fuel)) body) u = (.ok text, u') ∧
        u.Replays engine.read child.request child.defaultSection a k u') :
    ∃ s', exec (engine.produce (fuel + 2) (.template child)) s =
        (.ok (before ++ (text ++ stripLineEnd after)), s') ∧
      s.Replays engine.read child.request child.defaultSection a b s' := by
  obtain ⟨u, fragments, hreaches, hgraph, hjournal, hrest⟩ :=
    exec_renderTemplate_prints (engine.produce fuel) hhonest hlive hopened hprints hslot hwaits
  have hlive' : child.request.index < u.requests.size := Nat.lt_of_lt_of_eq hlive hreaches.requests.symm
  obtain ⟨u', hcontent, hreplays⟩ := hbody u hreaches.honest hlive' fun i _ hi =>
    hreaches.slots i (Nat.ne_of_lt hi)
  have hsections := hreplays.sections ⟨(s.sections child.request).scopes.size⟩
  have hlive'' : child.request.index < (u'.settled ⟨k⟩ text).requests.size :=
    Nat.lt_of_lt_of_eq hlive' hreplays.requests.symm
  refine ⟨_, hrest text u' hcontent (hreaches.sections.trans hsections).history_ne_nil, ?_⟩
  exact {
    graph := hreplays.graph.trans hgraph
    host := hreplays.host.trans hreaches.host
    requests := (Store.requests_size_setSections _ _ _).trans
      (hreplays.requests.trans hreaches.requests)
    redirect := fun id => (Store.redirect_setSections _ _ _ _).trans
      ((hreplays.redirect id).trans (hreaches.redirect id))
    slots := fun i hi => by
      have hne : k ≠ i := by omega
      have hsettled : ((u'.settled ⟨k⟩ text).popped child.request child.defaultSection).slots[i]? =
          u'.slots[i]? := (Array.getElem?_modify ..).trans (if_neg hne)
      rw [hsettled, hreplays.slots i (by omega)]
      exact hreaches.slots i hne.symm
    honest := hreplays.honest
    sections := hreaches.extends_popped hlive'' hsections
    journal := by
      obtain ⟨events, hevents, hreading⟩ := hreplays.journal
      refine ⟨events ++ [.reading child.filePath], ?_, fun event hevent => ?_⟩
      · rw [List.append_assoc, List.singleton_append, ← hjournal]
        exact hevents
      · rcases List.mem_append.1 hevent with hevent | hevent
        · exact hreading event hevent
        · exact ⟨child.filePath, List.mem_singleton.1 hevent⟩ }

/-- Fragments with a known text are rendered to it. The induction is on the fragments; the places of
these start at `place`. -/
theorem exec_nested_filled (h : Filled engine request home s a b fragments text) (place : Nat)
    {fuel : Nat} (hfuel : 2 * (b - a) ≤ fuel) (hhonest : u.templates.Honest engine.read)
    (hlive : request.index < u.requests.size)
    (hslots : ∀ i, a ≤ i → i < b → u.slots[i]? = s.slots[i]?) :
    ∃ texts u', exec (produceAll (runDeferred (engine.produce fuel))
        (ranked .nestedView (fragments.zipIdx place))) u = (.ok texts, u') ∧
      u.Replays engine.read request home a b u' ∧
      Places place (texts ++ literalTexts (ranked .normal (fragments.zipIdx place))) text := by
  induction h generalizing place fuel u with
  | nil h => exact ⟨[], u, rfl, .refl hhonest _ _ _ _, .nil place⟩
  | literal text _ ih =>
    obtain ⟨texts, u', hexec, hreplays, hplaces⟩ := ih (place + 1) hfuel hhonest hlive hslots
    exact ⟨texts, u', hexec, hreplays, hplaces.cons text List.perm_middle⟩
  | @nested a b k child template before after body rest inner more hrequest hsection hopened hprints
      hslot hwaits hbody hrest outer token ihBody ihRest =>
    have hak := hbody.le
    have hkb := hrest.le
    subst hrequest hsection
    obtain ⟨lower, rfl⟩ : ∃ lower, fuel = lower + 2 := ⟨fuel - 2, by omega⟩
    have hlower : 2 * (k - a) ≤ lower := by omega
    have hrestFuel : 2 * (b - (k + 1)) ≤ lower + 2 := by omega
    have hinner : ∀ v : Store σ, v.templates.Honest engine.read →
        child.request.index < v.requests.size →
        (∀ i, a ≤ i → i < k → v.slots[i]? = u.slots[i]?) → ∃ v',
          exec (renderFragments (runDeferred (engine.produce lower)) body) v = (.ok inner, v') ∧
          v.Replays engine.read child.request child.defaultSection a k v' := by
      intro v hhonest' hlive' hslots'
      obtain ⟨texts, v', hexec, hreplays, hplaces⟩ := ihBody 0 hlower hhonest' hlive'
        fun i hi hi' => (hslots' i hi hi').trans (hslots i hi (by omega))
      refine ⟨v', ?_, hreplays⟩
      rw [renderFragments_plain fun _ => hbody.isPlain, exec_bind_ok hexec, hplaces.assemble_eq]
      rfl
    obtain ⟨u₁, hchild, hreplays⟩ := exec_template_filled hhonest hlive hopened hprints hslot
      ((hslots k hak hkb).trans hwaits) hak (Nat.lt_succ_self k) hinner
    obtain ⟨texts, u', hexec, hreplays', hplaces⟩ := ihRest (place + 1) hrestFuel hreplays.honest
      (Nat.lt_of_lt_of_eq hlive hreplays.requests.symm) fun i hi hi' =>
        (hreplays.slots i (.inr hi)).trans (hslots i (by omega) hi')
    have hrun : exec (runDeferred (engine.produce (lower + 2)) ⟨.template child, outer, token⟩) u =
        (.ok (before ++ (inner ++ stripLineEnd after)), u₁) := by
      unfold runDeferred
      rw [exec_mapError, hchild]
    refine ⟨(before ++ (inner ++ stripLineEnd after), place) :: texts, u', ?_,
      (hreplays.mono (Nat.le_refl _) hkb).trans (hreplays'.mono (by omega) (Nat.le_refl _)),
      hplaces.cons _ (.refl _)⟩
    exact (exec_bind_ok hrun _).trans (exec_bind_ok hexec _)

/-- Fragments with a known text are rendered to it, and nothing is evaluated. -/
theorem exec_filled (h : Filled engine request home s a b fragments text) {fuel : Nat}
    (hfuel : 2 * (b - a) ≤ fuel) (hhonest : s.templates.Honest engine.read)
    (hlive : request.index < s.requests.size) :
    ∃ s', exec (renderFragments (runDeferred (engine.produce fuel)) fragments) s =
        (.ok text, s') ∧ s.Replays engine.read request home a b s' := by
  obtain ⟨texts, s', hexec, hreplays, hplaces⟩ :=
    exec_nested_filled h 0 hfuel hhonest hlive fun _ _ _ => rfl
  refine ⟨s', ?_, hreplays⟩
  rw [renderFragments_plain fun _ => h.isPlain, exec_bind_ok hexec, hplaces.assemble_eq]
  rfl

end TemplateEngine
