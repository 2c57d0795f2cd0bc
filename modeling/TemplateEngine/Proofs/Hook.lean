import TemplateEngine.Hook
import TemplateEngine.Proofs.Text.Cutting

/-!
# Hooks · The engine for a path

Engines are registered for extensions, and found by the extensions of paths.

* **`HookRegistry.EndsIn`** says without the registry when a path ends in an extension. Dots in
  front of an extension and the case of letters do not count (`Bare`, `Alike`).
* **`find?_registered`**: of the engines that were registered under one key the last one is there.
* **`hookFor?_registered_iff`**: the engine for a path is the one that was registered last for an
  extension that the path ends in. The extension of a path is cut off at its last dot, so this
  holds of extensions that have dots in front only (`IsSimple`). One with a dot inside is not found.
-/

namespace TemplateEngine.HookRegistry

open TemplateEngine.Text

variable {ε : Type} {path extension : String} {suffix : List Char}

/-! ## Extensions -/

/-- An extension without the dots in front. -/
def Bare (extension : String) : List Char := extension.toList.dropWhile (· == '.')

/-- Extensions that differ in the dots in front and in the case of letters only. -/
def Alike (extension other : String) : Prop :=
  (Bare extension).map Char.toLower = (Bare other).map Char.toLower

instance (extension other : String) : Decidable (Alike extension other) :=
  inferInstanceAs (Decidable (_ = _))

/-- The last segment of a path ends in a dot and the extension, in any case. -/
def EndsIn (path extension : String) : Prop :=
  ∃ front suffix, Path.fileName path = front ++ '.' :: suffix ∧
    suffix.map Char.toLower = (Bare extension).map Char.toLower

/-- An extension has no dot but those in front. -/
def IsSimple (extension : String) : Prop := '.' ∉ Bare extension

theorem toLower_eq_dot_iff {c : Char} : c.toLower = '.' ↔ c = '.' := by
  unfold Char.toLower
  split
  · next h =>
    have hlow := UInt32.le_iff_toNat_le.1 h.1
    have hhigh := UInt32.le_iff_toNat_le.1 h.2
    constructor
    · intro heq
      have hval := congrArg UInt32.toNat (congrArg Char.val heq)
      rw [UInt32.toNat_add] at hval
      simp at hval hlow hhigh
      omega
    · rintro rfl
      simp at hlow
  · exact Iff.rfl

theorem dot_mem_map_toLower {cs : List Char} : '.' ∈ cs.map Char.toLower ↔ '.' ∈ cs := by
  simp [List.mem_map, toLower_eq_dot_iff]

theorem endsIn_iff : EndsIn path extension ↔
    '.' :: (Bare extension).map Char.toLower <:+ (Path.fileName path).map Char.toLower := by
  constructor
  · rintro ⟨front, suffix, hfile, hlower⟩
    refine ⟨front.map Char.toLower, ?_⟩
    rw [hfile, List.map_append, List.map_cons, hlower]
    rfl
  · rintro ⟨lowered, hlower⟩
    obtain ⟨front, behind, hfile, -, hbehind⟩ := List.map_eq_append_iff.1 hlower.symm
    obtain ⟨c, suffix, rfl, hc, hsuffix⟩ := List.map_eq_cons_iff.1 hbehind
    exact ⟨front, suffix, toLower_eq_dot_iff.1 hc ▸ hfile, hsuffix⟩

instance (path extension : String) : Decidable (EndsIn path extension) :=
  decidable_of_iff _ endsIn_iff.symm

instance (extension : String) : Decidable (IsSimple extension) := inferInstanceAs (Decidable (¬_))

/-- The extension of a path is what stands behind the last dot of its last segment. -/
theorem extensionOf?_eq_some_iff : extensionOf? path = some suffix ↔
    '.' ∉ suffix ∧ ∃ front, Path.fileName path = front ++ '.' :: suffix := by
  simp only [extensionOf?]
  generalize Path.fileName path = file
  have hstop : ∀ front : List Char, ∀ c ∈ ('.' :: front).head?, ¬(c != '.') := by simp
  constructor
  · intro h
    split at h
    · next hdot =>
      cases h
      refine ⟨fun hmem => ?_, ?_⟩
      · simpa using List.mem_takeWhile_imp (List.mem_reverse.1 hmem)
      · have hsplit := List.takeWhile_append_dropWhile (p := (· != '.')) (l := file.reverse)
        have hhead : ∀ c ∈ (file.reverse.dropWhile (· != '.')).head?, ¬(c != '.') :=
          not_of_mem_head?_dropWhile
        rcases hdrop : file.reverse.dropWhile (· != '.') with _ | ⟨c, rest⟩
        · -- Without a dot there is no extension.
          rw [List.dropWhile_eq_nil_iff] at hdrop
          have hnone := hdrop '.' (List.mem_reverse.2 (by simpa using hdot))
          simp at hnone
        · obtain rfl : c = '.' := by simpa [hdrop] using hhead
          refine ⟨rest.reverse, ?_⟩
          rw [hdrop] at hsplit
          have hfile := congrArg List.reverse hsplit
          simpa using hfile.symm
    · cases h
  · rintro ⟨hdotless, front, rfl⟩
    rw [if_pos (by simp), List.reverse_append, List.reverse_cons, List.append_assoc,
      List.singleton_append, takeWhile_append_boundary (fun c hc => ?_) (hstop _),
      List.reverse_reverse]
    have hne : c ≠ '.' := fun heq => hdotless (heq ▸ List.mem_reverse.1 hc)
    simpa using hne

/-! ## Keys -/

theorem keyOf_eq_iff {cs : List Char} : keyOf cs = keyOf extension.toList ↔
    (cs.dropWhile (· == '.')).map Char.toLower = (Bare extension).map Char.toLower :=
  ⟨fun h => String.ofList_injective h, congrArg String.ofList⟩

theorem alike_iff {other : String} : Alike other extension ↔
    keyOf other.toList = keyOf extension.toList := keyOf_eq_iff.symm

/-- The extension of a path has the key of another one iff the path ends in that and it has no dot
inside. -/
theorem exists_extensionOf?_iff :
    (∃ suffix, extensionOf? path = some suffix ∧ keyOf suffix = keyOf extension.toList) ↔
      EndsIn path extension ∧ IsSimple extension := by
  have hbare : ∀ suffix : List Char, '.' ∉ suffix → suffix.dropWhile (· == '.') = suffix :=
    fun suffix hdotless => dropWhile_eq_self_of_head fun c hc heq =>
      hdotless (eq_of_beq heq ▸ List.mem_of_mem_head? hc)
  constructor
  · rintro ⟨suffix, hsuffix, hkey⟩
    obtain ⟨hdotless, front, hfile⟩ := extensionOf?_eq_some_iff.1 hsuffix
    have hlower := keyOf_eq_iff.1 hkey
    rw [hbare suffix hdotless] at hlower
    refine ⟨⟨front, suffix, hfile, hlower⟩, fun hdot => hdotless ?_⟩
    rwa [← dot_mem_map_toLower, ← hlower, dot_mem_map_toLower] at hdot
  · rintro ⟨⟨front, suffix, hfile, hlower⟩, hsimple⟩
    have hdotless : '.' ∉ suffix := fun hdot =>
      hsimple (by rwa [← dot_mem_map_toLower, hlower, dot_mem_map_toLower] at hdot)
    refine ⟨suffix, extensionOf?_eq_some_iff.2 ⟨hdotless, front, hfile⟩, keyOf_eq_iff.2 ?_⟩
    rw [hbare suffix hdotless, hlower]

/-! ## Registrations -/

variable {registrations : List (String × ε)}

/-- The engines after registrations one after the other. -/
def registered (registrations : List (String × ε)) : HookRegistry ε :=
  registrations.foldl (fun registry r => registry.register r.1 r.2) .empty

/-- The engine that was registered last for an extension. -/
def lastHook? (registrations : List (String × ε)) (extension : String) : Option ε :=
  (registrations.reverse.find? fun r => Alike r.1 extension).map Prod.snd

theorem lookup_map_key {α : Type} (key : α → String) (hook : α → ε) (xs : List α) (k : String) :
    (xs.map fun x => (key x, hook x)).lookup k = (xs.find? fun x => k = key x).map hook := by
  induction xs with
  | nil => rfl
  | cons x xs ih =>
    rw [List.map_cons, List.lookup_cons, ih, List.find?_cons]
    by_cases hk : k = key x
    · simp [hk]
    · simp [hk, beq_false_of_ne hk]

/-- Of the engines registered under a key the last one is found. -/
theorem find?_registered (registrations : List (String × ε)) (k : String) :
    (registered registrations).hooks.find? k =
      (registrations.reverse.find? fun r => k = keyOf r.1.toList).map Prod.snd := by
  have hhooks : ∀ registry : HookRegistry ε,
      (registrations.foldl (fun registry r => registry.register r.1 r.2) registry).hooks =
        (registrations.map fun r => (keyOf r.1.toList, r.2)).foldl
          (fun hooks e => hooks.insert e.1 e.2) registry.hooks := by
    induction registrations with
    | nil => exact fun _ => rfl
    | cons r rest ih => exact fun registry => ih (registry.register r.1 r.2)
  rw [registered, hhooks]
  exact (Dictionary.find?_ofList _ k).trans (by rw [← List.map_reverse, lookup_map_key])

theorem hookFor?_of_endsIn (hends : EndsIn path extension) (hsimple : IsSimple extension) :
    (registered registrations).hookFor? path = lastHook? registrations extension := by
  obtain ⟨suffix, hsuffix, hkey⟩ := exists_extensionOf?_iff.2 ⟨hends, hsimple⟩
  rw [hookFor?, hsuffix, Option.bind_some, find?_registered, hkey, lastHook?]
  congr 2
  funext r
  exact decide_eq_decide.2 (eq_comm.trans alike_iff.symm)

theorem isSome_lastHook? {r : String × ε} (h : r ∈ registrations) :
    (lastHook? registrations r.1).isSome := by
  rw [lastHook?, Option.isSome_map, List.find?_isSome]
  exact ⟨r, List.mem_reverse.2 h, decide_eq_true rfl⟩

/-- **The engine for a path.** There is one iff the path ends in an extension that was registered
and that has no dot inside, and then it is the one that was registered last for that extension. So
if the path ends in one registered extension only, it is found iff that has no dot inside. -/
theorem hookFor?_registered_iff (registrations : List (String × ε)) (path : String) :
    (((registered registrations).hookFor? path).isSome ↔
      ∃ r ∈ registrations, EndsIn path r.1 ∧ IsSimple r.1) ∧
    ∀ r ∈ registrations, EndsIn path r.1 →
      (IsSimple r.1 → (registered registrations).hookFor? path = lastHook? registrations r.1) ∧
      ((∀ other ∈ registrations, EndsIn path other.1 → Alike other.1 r.1) →
        ((registered registrations).hookFor? path = lastHook? registrations r.1 ↔
          IsSimple r.1)) := by
  have hsome : ((registered registrations).hookFor? path).isSome ↔
      ∃ r ∈ registrations, EndsIn path r.1 ∧ IsSimple r.1 := by
    constructor
    · intro h
      obtain ⟨hook, hhook⟩ := Option.isSome_iff_exists.1 h
      obtain ⟨suffix, hsuffix, hfound⟩ := Option.bind_eq_some_iff.1 hhook
      rw [find?_registered] at hfound
      obtain ⟨r, hr, -⟩ := Option.map_eq_some_iff.1 hfound
      have hkey : keyOf suffix = keyOf r.1.toList := by simpa using List.find?_some hr
      exact ⟨r, List.mem_reverse.1 (List.mem_of_find?_eq_some hr),
        exists_extensionOf?_iff.1 ⟨suffix, hsuffix, hkey⟩⟩
    · rintro ⟨r, hr, hends, hsimple⟩
      rw [hookFor?_of_endsIn hends hsimple]
      exact isSome_lastHook? hr
  refine ⟨hsome, fun r hr hends => ⟨hookFor?_of_endsIn hends, fun honly =>
    ⟨fun hfound => ?_, hookFor?_of_endsIn hends⟩⟩⟩
  obtain ⟨other, hother, hotherEnds, hsimple⟩ := hsome.1 (hfound ▸ isSome_lastHook? hr)
  have halike : Alike other.1 r.1 := honly other hother hotherEnds
  unfold IsSimple at hsimple ⊢
  rwa [← dot_mem_map_toLower, ← halike, dot_mem_map_toLower]

theorem hookFor?_registered_html :
    let registrations := [(".html", 1), ("tar.gz", 2), ("..HTML", 3)]
    ((".html", 1) ∈ registrations ∧ EndsIn "/docs.d/Page.Html" ".html" ∧ IsSimple ".html" ∧
      ∀ other ∈ registrations, EndsIn "/docs.d/Page.Html" other.1 → Alike other.1 ".html") ∧
    (registered registrations).hookFor? "/docs.d/Page.Html" = lastHook? registrations ".html" ∧
    lastHook? registrations ".html" = some 3 := by
  intro registrations
  have hmem : (".html", 1) ∈ registrations := by decide
  have hends : EndsIn "/docs.d/Page.Html" ".html" := by decide
  have hsimple : IsSimple ".html" := by decide
  have honly : ∀ other ∈ registrations, EndsIn "/docs.d/Page.Html" other.1 →
      Alike other.1 ".html" := by decide
  have hfound := (hookFor?_registered_iff registrations "/docs.d/Page.Html").2 _ hmem hends
  exact ⟨⟨hmem, hends, hsimple, honly⟩, (hfound.2 honly).2 hsimple, by decide⟩

/-- An extension with a dot inside is not found, although it is registered and the path ends in
it. -/
theorem hook_lost_behind_dot :
    EndsIn "/page.html.tmpl" "html.tmpl" ∧
      (registered [("html.tmpl", ())]).hookFor? "/page.html.tmpl" = none := by
  decide

end TemplateEngine.HookRegistry
