import Mathlib.Data.List.Infix
import TemplateEngine.Text.Html

/-!
# `Text` · Escaped HTML read back

Escaped text holds none of the characters that HTML gives a meaning, except for the ampersands that
its entities start with, and it can be read back, whatever entities stood in the text before.

* **`entities`** are the five entities. Each is found where it stands (`entityAt?_entity`), and a
  character that is no ampersand starts none (`entityAt?_eq_none`).
* **`unescapeHtml`** puts the characters in their places, in one pass over the text.
* **`htmlEntity_cases`**: a character becomes an entity, or stays and is none of those five.
-/

namespace TemplateEngine.Text

variable {c : Char} {cs rest : List Char} {entity : List Char × Char}

/-! ## Entities -/

/-- The entities of escaped text and the characters that they stand for. -/
def entities : List (List Char × Char) :=
  [("&amp;".toList, '&'), ("&lt;".toList, '<'), ("&gt;".toList, '>'), ("&quot;".toList, '"'),
    ("&#39;".toList, '\x27')]

/-- The entity that a text starts with. -/
def entityAt? (cs : List Char) : Option (List Char × Char) :=
  entities.find? fun entity => entity.1.isPrefixOf cs

/-- A text with its entities replaced, behind `within` characters that belong to one. -/
def unescapeFrom : Nat → List Char → List Char
  | _, [] => []
  | within + 1, _ :: cs => unescapeFrom within cs
  | 0, c :: cs =>
    match entityAt? (c :: cs) with
    | some (entity, d) => d :: unescapeFrom (entity.length - 1) cs
    | none => c :: unescapeFrom 0 cs

/-- A text with its entities replaced by their characters, in one pass from left to right. -/
def unescapeHtml (cs : List Char) : List Char := unescapeFrom 0 cs

/-- The characters that are not left in escaped text. -/
def markup : List Char := ['<', '>', '"', '\x27']

/-- An entity starts with its only ampersand, and none of its characters has to be escaped. -/
theorem entity_eq (h : entity ∈ entities) :
    ∃ body, entity.1 = '&' :: body ∧ '&' ∉ body ∧ ∀ d ∈ markup, d ∉ entity.1 := by
  simp only [entities, List.mem_cons, List.not_mem_nil, or_false] at h
  rcases h with rfl | rfl | rfl | rfl | rfl <;>
    exact ⟨_, rfl, by decide, by simp [markup]⟩

/-- A character is written as its entity, or stays and is none that has one. -/
theorem htmlEntity_cases (c : Char) :
    (htmlEntity c, c) ∈ entities ∨ (htmlEntity c = [c] ∧ c ≠ '&' ∧ c ∉ markup) := by
  by_cases h : c ∈ '&' :: markup
  · simp only [markup, List.mem_cons, List.not_mem_nil, or_false] at h
    rcases h with rfl | rfl | rfl | rfl | rfl <;> exact .inl (by decide)
  · obtain ⟨hamp, hmarkup⟩ := not_or.1 (mt List.mem_cons.2 h)
    refine .inr ⟨?_, hamp, hmarkup⟩
    simp only [markup, List.mem_cons, List.not_mem_nil, or_false, not_or] at hmarkup
    simp [htmlEntity, hamp, hmarkup]

/-- An entity is found where it stands: none is the beginning of another one. -/
theorem entityAt?_entity (h : entity ∈ entities) (rest : List Char) :
    entityAt? (entity.1 ++ rest) = some entity := by
  simp only [entities, List.mem_cons, List.not_mem_nil, or_false] at h
  rcases h with rfl | rfl | rfl | rfl | rfl <;> rfl

theorem entityAt?_eq_none (hc : c ≠ '&') (rest : List Char) : entityAt? (c :: rest) = none := by
  refine List.find?_eq_none.2 fun entity h hfront => ?_
  obtain ⟨body, hbody, -, -⟩ := entity_eq h
  rw [hbody] at hfront
  exact hc (List.cons_prefix_cons.1 (List.isPrefixOf_iff_prefix.1 hfront)).1.symm

/-! ## There and back -/

theorem unescapeFrom_append (front rest : List Char) :
    unescapeFrom front.length (front ++ rest) = unescapeHtml rest := by
  induction front with
  | nil => rfl
  | cons c front ih => exact ih

/-- What a character is written as is read back as that character, whatever follows. -/
theorem unescapeHtml_htmlEntity (c : Char) (rest : List Char) :
    unescapeHtml (htmlEntity c ++ rest) = c :: unescapeHtml rest := by
  rcases htmlEntity_cases c with hentity | ⟨hself, hamp, -⟩
  · obtain ⟨body, hbody, -, -⟩ := entity_eq hentity
    have hfound := entityAt?_entity hentity rest
    dsimp only at hbody hfound
    rw [hbody, List.cons_append] at hfound ⊢
    rw [unescapeHtml, unescapeFrom, hfound]
    exact congrArg (c :: ·) (unescapeFrom_append body rest)
  · rw [hself, List.singleton_append, unescapeHtml, unescapeFrom, entityAt?_eq_none hamp]
    rfl

theorem escapeHtml_cons (c : Char) (cs : List Char) :
    escapeHtml (c :: cs) = htmlEntity c ++ escapeHtml cs := List.flatMap_cons

theorem escapeHtml_append (cs ds : List Char) :
    escapeHtml (cs ++ ds) = escapeHtml cs ++ escapeHtml ds := List.flatMap_append

theorem unescapeHtml_escapeHtml (cs : List Char) : unescapeHtml (escapeHtml cs) = cs := by
  induction cs with
  | nil => rfl
  | cons c cs ih => rw [escapeHtml_cons, unescapeHtml_htmlEntity, ih]

/-! ## What is left -/

theorem notMem_escapeHtml (hc : c ∈ markup) (cs : List Char) : c ∉ escapeHtml cs := by
  intro hmem
  obtain ⟨d, -, hd⟩ := List.mem_flatMap.1 hmem
  rcases htmlEntity_cases d with hentity | ⟨hself, -, hmarkup⟩
  · obtain ⟨-, -, -, hnone⟩ := entity_eq hentity
    exact hnone c hc hd
  · rw [hself] at hd
    exact hmarkup (List.mem_singleton.1 hd ▸ hc)

/-- What a character is written as has an ampersand only at its front, where an entity starts. -/
theorem entity_of_htmlEntity {front body : List Char} (h : htmlEntity c = front ++ '&' :: body) :
    ∃ entity ∈ entities, entity.1 = '&' :: body := by
  rcases htmlEntity_cases c with hentity | ⟨hself, hamp, -⟩
  · obtain ⟨tail, htail, hnot, -⟩ := entity_eq hentity
    dsimp only at htail
    cases front with
    | nil => exact ⟨_, hentity, h⟩
    | cons d front =>
      rw [htail, List.cons_append] at h
      exact absurd ((List.cons.inj h).2 ▸ List.mem_append_right front List.mem_cons_self) hnot
  · rw [hself] at h
    cases front with
    | nil => exact absurd (List.cons.inj h).1 hamp
    | cons d front => cases front <;> cases h

/-- Every ampersand in escaped text starts an entity. -/
theorem entity_of_escapeHtml {front : List Char} (h : escapeHtml cs = front ++ '&' :: rest) :
    ∃ entity ∈ entities, entity.1 <+: '&' :: rest := by
  induction cs generalizing front with
  | nil => simp [escapeHtml] at h
  | cons c cs ih =>
    rw [escapeHtml_cons] at h
    rcases List.append_eq_append_iff.1 h with ⟨between, -, hcs⟩ | ⟨body, hc, hrest⟩
    · exact ih hcs
    · cases body with
      | nil => exact @ih [] hrest.symm
      | cons d body =>
        obtain ⟨rfl, rfl⟩ := List.cons.inj hrest
        obtain ⟨entity, hentity, heq⟩ := entity_of_htmlEntity hc
        exact ⟨entity, hentity, heq ▸ List.prefix_append ('&' :: body) _⟩

/-- **Escaped HTML.** Escaped text holds no angle bracket and no quote, each ampersand in it starts
one of the five entities, and replacing these gives the text back, so that texts that differ have
different escaped texts. Texts are escaped piece by piece. -/
theorem escapeHtml_laws :
    (∀ cs, ∀ c ∈ ['<', '>', '"', '\x27'], c ∉ escapeHtml cs) ∧
      (∀ cs front rest, escapeHtml cs = front ++ '&' :: rest →
        ∃ entity ∈ entities, entity.1 <+: '&' :: rest) ∧
      (∀ cs, unescapeHtml (escapeHtml cs) = cs) ∧ Function.Injective escapeHtml ∧
      ∀ cs ds, escapeHtml (cs ++ ds) = escapeHtml cs ++ escapeHtml ds :=
  ⟨fun cs _ hc => notMem_escapeHtml hc cs, fun _ _ _ => entity_of_escapeHtml,
    unescapeHtml_escapeHtml, Function.LeftInverse.injective unescapeHtml_escapeHtml,
    escapeHtml_append⟩

/-- A text that holds an entity and the beginning of one. -/
theorem escapeHtml_laws_entities :
    escapeHtml "&lt;'&am".toList = "&amp;lt;&#39;".toList ++ '&' :: "amp;am".toList ∧
      '\x27' ∉ escapeHtml "&lt;'&am".toList ∧
      ∃ entity ∈ entities, entity.1 <+: '&' :: "amp;am".toList := by
  have hescaped : escapeHtml "&lt;'&am".toList =
      "&amp;lt;&#39;".toList ++ '&' :: "amp;am".toList := by decide
  exact ⟨hescaped, escapeHtml_laws.1 _ _ (by decide), escapeHtml_laws.2.1 _ _ _ hescaped⟩

end TemplateEngine.Text
