import Mathlib.Data.List.Induction
import TemplateEngine.Proofs.Template.Attributes
import TemplateEngine.Proofs.Template.Uniqueness

/-!
# `Template` · Tags that are written out

A tag that is written out with its attributes in quotes is read back from its text. It is found in a
source as well, unless a value ends with an odd number of backslashes.

* **`WrittenTag`** is such a tag. Its text is read back by `ServerTag.parse`, which has no escapes
  (`WrittenTag.parse_string`).
* **The end of the tag** is looked for with escapes. A value ends where it is closed exactly if an
  even number of backslashes stands in front of the quote (`after_value`); otherwise the scan is in
  quotes where it should be outside, and never gets outside again between two attributes
  (`within_attributes`).
* **`tokenize_writtenTag_iff`**: so the tag is a token of its own exactly if no value ends with an
  odd number of backslashes, and no name holds a `>`.
-/

namespace TemplateEngine.Template

open TemplateEngine.Text

/-! ## Tags with quoted values -/

/-- An attribute with a quoted value, and the blanks in front of it. -/
structure QuotedAttribute where
  /-- What divides it from what is in front. -/
  blanks : List Char
  /-- The name. -/
  name : List Char
  /-- The quote that the value stands in. -/
  quote : Char
  /-- The value. -/
  value : List Char
  /-- There are blanks. -/
  divided : blanks ≠ [] ∧ ∀ c ∈ blanks, isAsciiBlank c
  /-- The name is one. -/
  named : IsAttributeName name
  /-- The quote is one. -/
  quoted : isTagQuote quote
  /-- The value does not hold it. -/
  free : quote ∉ value

/-- How an attribute is written. -/
def QuotedAttribute.text (a : QuotedAttribute) : List Char :=
  a.blanks ++ a.name ++ '=' :: a.quote :: (a.value ++ [a.quote])

/-- A tag whose values are all in quotes. -/
structure WrittenTag where
  /-- The name behind the opener. -/
  name : List Char
  /-- The attributes in order. -/
  attributes : List QuotedAttribute
  /-- Blanks in front of the end. -/
  blanks : List Char
  /-- The tag closes itself. -/
  selfClosing : Bool
  /-- The name is one. -/
  named : IsName name
  /-- The blanks are. -/
  divided : ∀ c ∈ blanks, isAsciiBlank c

namespace WrittenTag

/-- The attributes of a tag as they are written. -/
def attributesText (tag : WrittenTag) : List Char :=
  tag.attributes.flatMap QuotedAttribute.text ++ tag.blanks

/-- What stands between the opener of a tag and its `>`. -/
def inner (tag : WrittenTag) : List Char :=
  tag.name ++ tag.attributesText ++ if tag.selfClosing then ['/'] else []

/-- How a tag is written. -/
def text (tag : WrittenTag) : List Char := Kind.openTag.opening ++ tag.inner ++ ['>']

/-- The text of a tag. -/
def string (tag : WrittenTag) : String := String.ofList tag.text

/-- What a tag says. -/
def meaning (tag : WrittenTag) : ServerTag where
  name := String.ofList tag.name
  attributes := tag.attributes.map fun a => (String.ofList a.name, String.ofList a.value)
  selfClosing := tag.selfClosing

end WrittenTag

/-! ## Reading a tag -/

variable {c d quote : Char} {cs more : List Char} {isQuote : Char → Bool} {state : Quoting}

theorem QuotedAttribute.startsBlank (a : QuotedAttribute) (more : List Char) :
    StartsBlank (a.text ++ more) := by
  obtain ⟨c, blanks, hblanks⟩ := List.exists_cons_of_ne_nil a.divided.1
  rintro d hd
  have hc : isAsciiBlank c := a.divided.2 c (by simp [hblanks])
  obtain rfl : c = d := by simpa [text, hblanks] using hd
  exact hc

theorem startsBlank_flatMap (attributes : List QuotedAttribute) {blanks : List Char}
    (hblanks : ∀ c ∈ blanks, isAsciiBlank c) :
    StartsBlank (attributes.flatMap QuotedAttribute.text ++ blanks) := by
  cases attributes with
  | nil => exact fun c hc => hblanks c (List.mem_of_mem_head? hc)
  | cons a attributes =>
    rw [List.flatMap_cons, List.append_assoc]
    exact a.startsBlank _

/-- The attributes are written in the format of attributes. -/
theorem writes_flatMap (attributes : List QuotedAttribute) {blanks : List Char}
    (hblanks : ∀ c ∈ blanks, isAsciiBlank c) :
    WritesAttributes (attributes.flatMap QuotedAttribute.text ++ blanks)
      (attributes.map fun a => (a.name, a.value)) := by
  induction attributes with
  | nil => exact .nil hblanks
  | cons a attributes ih =>
    have hcons := WritesAttributes.cons a.divided.2 (.valued a.named (.quoted a.quoted a.free))
      (startsBlank_flatMap attributes hblanks) ih
    simpa [QuotedAttribute.text] using hcons

theorem not_isNameChar_of_isTagQuote (hc : isTagQuote c) : ¬isNameChar c := by
  simp only [isTagQuote, Bool.or_eq_true, beq_iff_eq] at hc
  rcases hc with rfl | rfl <;> decide

theorem tagInner_slash (cs : List Char) : tagInner (cs ++ ['/']) = (cs, true) := by
  have hend : trimEnd (cs ++ ['/']) = cs ++ ['/'] := by
    have hlast : ¬isBlank '/' := by decide
    exact trimEnd_of_last (by simp [hlast])
  unfold tagInner
  rw [hend, List.reverse_append]
  simp

theorem tagInner_open {blanks : List Char} (cs : List Char) (hc : ¬isBlank c) (hslash : c ≠ '/')
    (hblanks : ∀ c ∈ blanks, isBlank c) :
    tagInner (cs ++ [c] ++ blanks) = (cs ++ [c] ++ blanks, false) := by
  have hend : trimEnd (cs ++ [c] ++ blanks) = cs ++ [c] :=
    trimEnd_padded hblanks (by simp [hc])
  unfold tagInner
  rw [hend, List.reverse_append]
  simp [hslash]

namespace WrittenTag

variable (tag : WrittenTag)

/-- What stands in front of the last blanks ends with a quote or with the name. -/
theorem exists_last : ∃ front c, tag.name ++ tag.attributes.flatMap QuotedAttribute.text =
    front ++ [c] ∧ ¬isBlank c ∧ c ≠ '/' := by
  rcases List.eq_nil_or_concat tag.attributes with hnil | ⟨attributes, a, hconcat⟩
  · rw [hnil, List.flatMap_nil, List.append_nil]
    have hname := tag.named
    rcases List.eq_nil_or_concat tag.name with hempty | ⟨front, c, hfront⟩
    · obtain ⟨d, rest, hcons, -⟩ := hname
      rw [hempty] at hcons
      cases hcons
    · have hc : isNameChar c := hname.isNameChar c (by simp [hfront])
      refine ⟨front, c, by simp [hfront], not_isBlank_of_isNameChar hc, ?_⟩
      rintro rfl
      exact absurd hc (by decide)
  · refine ⟨tag.name ++ (attributes.flatMap QuotedAttribute.text ++
      (a.blanks ++ a.name ++ '=' :: a.quote :: a.value)), a.quote, ?_, ?_, ?_⟩
    · simp [hconcat, QuotedAttribute.text]
    · exact not_isBlank_of_isTagQuote a.quoted
    · intro heq
      have := heq ▸ a.quoted
      exact absurd this (by decide)

theorem tagInner_inner :
    tagInner tag.inner = (tag.name ++ tag.attributesText, tag.selfClosing) := by
  unfold inner
  cases tag.selfClosing with
  | true => exact tagInner_slash _
  | false =>
    obtain ⟨front, c, hfront, hc, hslash⟩ := tag.exists_last
    have hblanks : ∀ c ∈ tag.blanks, isBlank c := fun c hc =>
      isBlank_of_isAsciiBlank (tag.divided c hc)
    have hopen := tagInner_open front hc hslash hblanks
    unfold attributesText
    rw [← List.append_assoc, hfront]
    simpa using hopen

/-- What a tag says is read back from its text. -/
theorem parse_string : ServerTag.parse tag.string = .ok tag.meaning := by
  have hchars : ∀ c ∈ tag.name, isNameChar c := tag.named.isNameChar
  have hbehind : ∀ c ∈ tag.attributesText.head?, ¬isNameChar c := fun c hc hchar =>
    not_isBlank_of_isNameChar hchar
      (isBlank_of_isAsciiBlank (startsBlank_flatMap tag.attributes tag.divided c hc))
  have hname := takeWhile_append_boundary hchars hbehind
  have hattributes := attributesFrom_of_writes (writes_flatMap tag.attributes tag.divided) 0
  unfold ServerTag.parse
  simp only [string, text, Kind.opening, List.cons_append, List.nil_append, String.toList_ofList,
    List.getLast?_append, List.getLast?_singleton, Option.some_or, if_true, List.dropLast_concat,
    tag.tagInner_inner, hname, List.drop_left, Template.attributes]
  unfold attributesText
  rw [hattributes]
  simp [Except.map, meaning]

end WrittenTag

/-! ## The state of the scan -/

/-- Where a text leads the scan. -/
def Quoting.after (isQuote : Char → Bool) : Quoting → List Char → Quoting
  | state, [] => state
  | .outside, c :: cs => after isQuote (if isQuote c then .within c else .outside) cs
  | .within quote, c :: cs =>
    if c = '\\' then after isQuote (.escaped quote) cs
    else if c = quote then after isQuote .outside cs
    else after isQuote (.within quote) cs
  | .escaped quote, _ :: cs => after isQuote (.within quote) cs

@[simp] theorem Quoting.after_nil : state.after isQuote [] = state := by
  cases state <;> rfl

/-- A scan goes on from where the first text leads it. -/
theorem Quoting.bare_append (xs ys : List Char) :
    state.bare isQuote (xs ++ ys) =
      state.bare isQuote xs ++ (state.after isQuote xs).bare isQuote ys := by
  induction xs generalizing state with
  | nil => simp
  | cons c xs ih =>
    cases state with
    | outside =>
      by_cases hc : isQuote c
      · simp [bare, after, hc, ih]
      · simp [bare, after, hc, ih]
    | within quote =>
      simp only [List.cons_append, bare, after]
      split
      · exact ih
      split
      · exact ih
      · exact ih
    | escaped quote => exact ih

theorem Quoting.after_append (xs ys : List Char) :
    state.after isQuote (xs ++ ys) = (state.after isQuote xs).after isQuote ys := by
  induction xs generalizing state with
  | nil => simp
  | cons c xs ih =>
    cases state with
    | outside => exact ih
    | within quote =>
      simp only [List.cons_append, after]
      split
      · exact ih
      split
      · exact ih
      · exact ih
    | escaped quote => exact ih

/-- In quotes no single character stands outside. -/
theorem Quoting.bare_singleton (h : state ≠ .outside) : state.bare isQuote [c] = [] := by
  cases state with
  | outside => exact absurd rfl h
  | within quote => simp [bare]
  | escaped quote => simp [bare]

section States

variable {text value name blanks : List Char}

/-- Text without quotes stands outside. -/
theorem Quoting.outside_of_free (h : ∀ c ∈ text, ¬isQuote c) :
    outside.after isQuote text = .outside ∧ outside.bare isQuote text = text := by
  induction text with
  | nil => exact ⟨rfl, rfl⟩
  | cons c text ih =>
    have hc := h c (List.mem_cons_self ..)
    obtain ⟨hafter, hbare⟩ := ih fun d hd => h d (List.mem_cons_of_mem c hd)
    simp [after, bare, hc, hafter, hbare]

/-- The scan is in a quoted text with the given quote. -/
def Quoting.Inside (quote : Char) (state : Quoting) : Prop :=
  state = .within quote ∨ state = .escaped quote

/-- Text without the quote stays inside. -/
theorem Quoting.Inside.after (isQuote : Char → Bool) (h : state.Inside quote)
    (hfree : quote ∉ text) :
    (state.after isQuote text).Inside quote ∧ state.bare isQuote text = [] := by
  induction text generalizing state with
  | nil => simpa using h
  | cons c text ih =>
    rw [List.mem_cons, not_or] at hfree
    rcases h with rfl | rfl
    · by_cases hslash : c = '\\'
      · subst hslash
        simpa [Quoting.after, bare] using ih (.inr rfl) hfree.2
      · simpa [Quoting.after, bare, hslash, Ne.symm hfree.1] using ih (.inl rfl) hfree.2
    · simpa [Quoting.after, bare] using ih (.inl rfl) hfree.2

/-- A character that is neither a backslash nor the quote leads to the inside of quotes. -/
theorem Quoting.Inside.after_singleton (h : state.Inside quote) (hslash : c ≠ '\\')
    (hquote : c ≠ quote) : state.after isQuote [c] = .within quote := by
  rcases h with rfl | rfl
  · simp [Quoting.after, hslash, hquote]
  · rfl

/-- The number of backslashes at the end of a text. -/
def endSlashes (text : List Char) : Nat := (text.reverse.takeWhile (· == '\\')).length

theorem endSlashes_eq_zero (h : '\\' ∉ text) : endSlashes text = 0 := by
  have hfree : '\\' ∉ text.reverse := by simpa using h
  have hnone : text.reverse.takeWhile (· == '\\') = [] := by
    rw [List.takeWhile_eq_nil_iff]
    intro hne hslash
    exact hfree ((beq_iff_eq.1 hslash) ▸ List.getElem_mem hne)
  unfold endSlashes
  rw [hnone]
  rfl

/-- Behind a value without the quote that it stands in, an odd number of backslashes escapes it. -/
theorem after_value (hfree : quote ∉ value) :
    (Quoting.within quote).after isQuote value =
      if endSlashes value % 2 = 0 then .within quote else .escaped quote := by
  induction value using List.reverseRecOn with
  | nil => rfl
  | append_singleton value c ih =>
    rw [List.mem_append, not_or, List.mem_singleton] at hfree
    rw [Quoting.after_append, ih hfree.1]
    by_cases hslash : c = '\\'
    · subst hslash
      have hcount : endSlashes (value ++ ['\\']) = endSlashes value + 1 := by
        simp [endSlashes]
      rw [hcount]
      split
      · next heven =>
        rw [if_neg (by omega)]
        simp [Quoting.after]
      · next hodd =>
        rw [if_pos (by omega)]
        rfl
    · have hcount : endSlashes (value ++ [c]) = 0 := by
        simp [endSlashes, hslash]
      rw [hcount, if_pos rfl]
      have hinside : (if endSlashes value % 2 = 0 then Quoting.within quote
          else .escaped quote).Inside quote := by
        split
        · exact .inl rfl
        · exact .inr rfl
      exact hinside.after_singleton hslash (Ne.symm hfree.2)

/-- The scan stands outside, or in a text with the other quote. -/
def Quoting.Apart (quote : Char) : Quoting → Prop
  | .outside => True
  | .within other => isTagQuote other ∧ other ≠ quote
  | .escaped other => isTagQuote other ∧ other ≠ quote

/-- Between two quotes the scan does not get to where they would close a text. -/
theorem Quoting.Apart.after (h : state.Apart quote) (hfree : quote ∉ text) :
    (state.after isTagQuote text).Apart quote := by
  induction text generalizing state with
  | nil => simpa using h
  | cons c text ih =>
    rw [List.mem_cons, not_or] at hfree
    have hstep : ∀ {state : Quoting}, state.Apart quote →
        (state.after isTagQuote text).Apart quote := fun h => ih h hfree.2
    cases state with
    | outside =>
      simp only [Quoting.after]
      split
      · next hc => exact hstep ⟨hc, Ne.symm hfree.1⟩
      · exact hstep trivial
    | within other =>
      simp only [Quoting.after]
      split
      · exact hstep h
      split
      · exact hstep trivial
      · exact hstep h
    | escaped other => exact hstep h

/-- So the second of them opens a text, or stands in one. -/
theorem Quoting.Apart.after_singleton (h : state.Apart quote) (hquote : isTagQuote quote) :
    ∃ other, isTagQuote other ∧ state.after isTagQuote [quote] = .within other := by
  cases state with
  | outside => exact ⟨quote, hquote, by simp [Quoting.after, hquote]⟩
  | within other =>
    exact ⟨other, h.1, by
      simp [Quoting.after, ne_backslash_of_isTagQuote hquote, Ne.symm h.2]⟩
  | escaped other => exact ⟨other, h.1, rfl⟩

end States

/-! ## The end of a tag -/

namespace QuotedAttribute

variable (a : QuotedAttribute)

/-- What stands in front of the value. -/
def front : List Char := a.blanks ++ a.name ++ ['=']

theorem text_eq : a.text = a.front ++ ([a.quote] ++ (a.value ++ [a.quote])) := by
  simp [text, front]

theorem not_isTagQuote_of_mem_front : ∀ c ∈ a.front, ¬isTagQuote c := by
  intro c hc
  simp only [front, List.mem_append, List.mem_singleton] at hc
  rcases hc with (hc | hc) | rfl
  · exact not_isTagQuote_of_isAsciiBlank (a.divided.2 c hc)
  · exact (a.named.2 c hc).2
  · decide

/-- A value is closed behind an even number of backslashes, and goes on otherwise. -/
theorem after_text : Quoting.outside.after isTagQuote a.text =
    if endSlashes a.value % 2 = 0 then .outside else .within a.quote := by
  obtain ⟨hfront, -⟩ := Quoting.outside_of_free a.not_isTagQuote_of_mem_front
  have hopen : Quoting.outside.after isTagQuote [a.quote] = .within a.quote := by
    simp [Quoting.after, a.quoted]
  rw [text_eq, Quoting.after_append, hfront, Quoting.after_append, hopen, Quoting.after_append,
    after_value a.free]
  split
  · simp [Quoting.after, ne_backslash_of_isTagQuote a.quoted]
  · rfl

/-- In both cases the value does not stand outside of quotes. -/
theorem bare_text : Quoting.outside.bare isTagQuote a.text = a.front := by
  obtain ⟨hfront, hbare⟩ := Quoting.outside_of_free a.not_isTagQuote_of_mem_front
  have hopen : Quoting.outside.after isTagQuote [a.quote] = .within a.quote := by
    simp [Quoting.after, a.quoted]
  have hquote : Quoting.outside.bare isTagQuote [a.quote] = [] := by
    simp [Quoting.bare, a.quoted]
  obtain ⟨hinside, hvalue⟩ := Quoting.Inside.after isTagQuote (.inl rfl) a.free
  have hlast : ∀ state : Quoting, state.Inside a.quote → state.bare isTagQuote [a.quote] = [] := by
    rintro state (rfl | rfl)
    · exact Quoting.bare_singleton (by simp)
    · exact Quoting.bare_singleton (by simp)
  rw [text_eq, Quoting.bare_append, hfront, hbare, Quoting.bare_append, hopen, hquote,
    Quoting.bare_append, hvalue, hlast _ hinside]
  simp

/-- From the inside of quotes an attribute leads to the inside of quotes. -/
theorem within_text {quote : Char} (hquote : isTagQuote quote) :
    ∃ other, isTagQuote other ∧
      (Quoting.within quote).after isTagQuote a.text = .within other := by
  have hblanks : quote ∉ a.blanks ++ a.name := fun hmem =>
    a.not_isTagQuote_of_mem_front quote (List.mem_append_left _ hmem) hquote
  have hequals : '=' ≠ quote := by
    rintro rfl
    exact absurd hquote (by decide)
  -- The equals sign undoes a backslash at the end of the name.
  have hfront : (Quoting.within quote).after isTagQuote a.front = .within quote := by
    rw [front, Quoting.after_append]
    exact (Quoting.Inside.after isTagQuote (.inl rfl) hblanks).1.after_singleton
      (by decide) hequals
  have hapart : ((Quoting.within quote).after isTagQuote [a.quote]).Apart a.quote := by
    simp only [Quoting.after, ne_backslash_of_isTagQuote a.quoted, if_false]
    split
    · trivial
    · next hne => exact ⟨hquote, Ne.symm hne⟩
  rw [text_eq, Quoting.after_append, hfront, Quoting.after_append, Quoting.after_append]
  exact (hapart.after a.free).after_singleton a.quoted

/-- The scan leaves the attribute where it ends. -/
def Passes : Prop := '>' ∉ a.name ∧ endSlashes a.value % 2 = 0

theorem mem_front_iff : '>' ∈ a.front ↔ '>' ∈ a.name := by
  have hblanks : '>' ∉ a.blanks := fun hmem => absurd (a.divided.2 '>' hmem) (by decide)
  simp [front, hblanks]

end QuotedAttribute

section Attributes

variable {attributes : List QuotedAttribute}

/-- In quotes at the front of an attribute, the scan is so at the front of all later ones. -/
theorem within_attributes (hquote : isTagQuote quote) (attributes : List QuotedAttribute) :
    ∃ other, (Quoting.within quote).after isTagQuote (attributes.flatMap QuotedAttribute.text) =
      .within other ∧ isTagQuote other := by
  induction attributes generalizing quote with
  | nil => exact ⟨quote, by simp, hquote⟩
  | cons a attributes ih =>
    obtain ⟨other, hother, hafter⟩ := a.within_text hquote
    rw [List.flatMap_cons, Quoting.after_append, hafter]
    exact ih hother

/-- Attributes whose values are all closed where they end leave the scan outside. -/
theorem outside_attributes (h : ∀ a ∈ attributes, endSlashes a.value % 2 = 0) :
    Quoting.outside.after isTagQuote (attributes.flatMap QuotedAttribute.text) = .outside ∧
      Quoting.outside.bare isTagQuote (attributes.flatMap QuotedAttribute.text) =
        attributes.flatMap QuotedAttribute.front := by
  induction attributes with
  | nil => exact ⟨rfl, rfl⟩
  | cons a attributes ih =>
    obtain ⟨hafter, hbare⟩ := ih fun b hb => h b (List.mem_cons_of_mem a hb)
    have hclosed : Quoting.outside.after isTagQuote a.text = .outside := by
      rw [a.after_text, if_pos (h a (List.mem_cons_self ..))]
    rw [List.flatMap_cons, Quoting.after_append, Quoting.bare_append, hclosed, hafter, a.bare_text,
      hbare]
    exact ⟨rfl, rfl⟩

/-- One that is not leaves it in quotes. -/
theorem not_outside_attributes (h : ∃ a ∈ attributes, ¬endSlashes a.value % 2 = 0) :
    ∃ quote, Quoting.outside.after isTagQuote (attributes.flatMap QuotedAttribute.text) =
      .within quote ∧ isTagQuote quote := by
  induction attributes with
  | nil => simp at h
  | cons a attributes ih =>
    rw [List.flatMap_cons, Quoting.after_append, a.after_text]
    split
    · next heven =>
      obtain ⟨b, hb, hodd⟩ := h
      rcases List.mem_cons.1 hb with rfl | hb
      · exact absurd heven hodd
      · exact ih ⟨b, hb, hodd⟩
    · exact within_attributes a.quoted attributes

end Attributes

namespace WrittenTag

variable (tag : WrittenTag)

/-- What stands behind the attributes. -/
def ending : List Char := tag.blanks ++ if tag.selfClosing then ['/'] else []

theorem not_isTagQuote_of_mem_ending : ∀ c ∈ tag.ending, ¬isTagQuote c ∧ c ≠ '\\' ∧ c ≠ '>' := by
  intro c hc
  rcases List.mem_append.1 hc with hc | hc
  · have hblank := tag.divided c hc
    refine ⟨not_isTagQuote_of_isAsciiBlank hblank, ?_, ?_⟩ <;> (rintro rfl; cases hblank)
  · split at hc
    · obtain rfl := List.mem_singleton.1 hc
      decide
    · cases hc

/-- What stands in front of the attributes. -/
def beginning : List Char := Kind.openTag.opening ++ tag.name

theorem not_isTagQuote_of_mem_beginning : ∀ c ∈ tag.beginning, ¬isTagQuote c ∧ c ≠ '>' := by
  intro c hc
  rcases List.mem_append.1 hc with hc | hc
  · simp only [Kind.opening, List.mem_cons, List.not_mem_nil, or_false] at hc
    rcases hc with rfl | rfl | rfl <;> decide
  · have hchar := tag.named.isNameChar c hc
    constructor
    · exact fun hquote => not_isNameChar_of_isTagQuote hquote hchar
    · rintro rfl
      exact absurd hchar (by decide)

theorem text_eq : tag.text =
    tag.beginning ++ tag.attributes.flatMap QuotedAttribute.text ++ tag.ending ++ ['>'] := by
  simp [text, inner, attributesText, beginning, ending]

/-- Where the scan is in front of the last character, and what it has seen outside of quotes. -/
theorem outside_text (heven : ∀ a ∈ tag.attributes, endSlashes a.value % 2 = 0) :
    Quoting.outside.after isTagQuote
        (tag.beginning ++ tag.attributes.flatMap QuotedAttribute.text ++ tag.ending) = .outside ∧
      Quoting.outside.bare isTagQuote
        (tag.beginning ++ tag.attributes.flatMap QuotedAttribute.text ++ tag.ending) =
          tag.beginning ++ tag.attributes.flatMap QuotedAttribute.front ++ tag.ending := by
  obtain ⟨hbeginning, hbareBeginning⟩ := Quoting.outside_of_free
    fun c hc => (tag.not_isTagQuote_of_mem_beginning c hc).1
  obtain ⟨hattributes, hbareAttributes⟩ := outside_attributes heven
  obtain ⟨hending, hbareEnding⟩ := Quoting.outside_of_free
    fun c hc => (tag.not_isTagQuote_of_mem_ending c hc).1
  simp only [Quoting.after_append, Quoting.bare_append, hbeginning, hbareBeginning, hattributes,
    hbareAttributes, hending, hbareEnding, and_self]

theorem not_outside_text (h : ¬∀ a ∈ tag.attributes, endSlashes a.value % 2 = 0) :
    Quoting.outside.after isTagQuote
      (tag.beginning ++ tag.attributes.flatMap QuotedAttribute.text ++ tag.ending) ≠ .outside := by
  obtain ⟨hbeginning, -⟩ := Quoting.outside_of_free
    fun c hc => (tag.not_isTagQuote_of_mem_beginning c hc).1
  have hodd : ∃ a ∈ tag.attributes, ¬endSlashes a.value % 2 = 0 := by simpa using h
  obtain ⟨quote, hattributes, hquote⟩ := not_outside_attributes hodd
  have hfree : quote ∉ tag.ending := fun hmem =>
    (tag.not_isTagQuote_of_mem_ending quote hmem).1 hquote
  have hinside := (Quoting.Inside.after isTagQuote (.inl rfl) hfree).1
  rw [Quoting.after_append, Quoting.after_append, hbeginning, hattributes]
  rcases hinside with heq | heq <;> simp [heq]

/-- The end of a tag is found where it is exactly if all attributes are passed. -/
theorem isOpenTag_iff : IsOpenTag tag.text ↔ ∀ a ∈ tag.attributes, a.Passes := by
  obtain ⟨body, hbody⟩ : ∃ body, body =
      tag.beginning ++ tag.attributes.flatMap QuotedAttribute.text ++ tag.ending := ⟨_, rfl⟩
  have htext : tag.text = body ++ ['>'] := hbody ▸ tag.text_eq
  have hopens : Opens .openTag tag.text := by
    obtain ⟨c, rest, hname, hc, -⟩ := tag.named
    exact ⟨c, hc, by simp [text, inner, hname, Kind.opening]⟩
  by_cases heven : ∀ a ∈ tag.attributes, endSlashes a.value % 2 = 0
  · obtain ⟨hafter, hbare⟩ := tag.outside_text heven
    rw [← hbody] at hafter hbare
    have hmem : '>' ∈ Quoting.outside.bare isTagQuote body ↔
        ∃ a ∈ tag.attributes, '>' ∈ a.name := by
      have hbeginning : '>' ∉ tag.beginning := fun h =>
        (tag.not_isTagQuote_of_mem_beginning _ h).2 rfl
      have hending : '>' ∉ tag.ending := fun h => (tag.not_isTagQuote_of_mem_ending _ h).2.2 rfl
      simp [hbare, hbeginning, hending, QuotedAttribute.mem_front_iff]
    have hlast : '>' ∈ Quoting.outside.bare isTagQuote (body ++ ['>']) := by
      rw [Quoting.bare_append, hafter]
      exact List.mem_append_right _ (by decide)
    constructor
    · rintro ⟨-, body', htext', hfirst, -⟩ a ha
      obtain ⟨rfl, -⟩ := List.append_inj' (htext.symm.trans htext') rfl
      exact ⟨fun hname => hfirst (hmem.2 ⟨a, ha, hname⟩), heven a ha⟩
    · intro hpasses
      refine ⟨hopens, body, htext, ?_, htext ▸ hlast⟩
      rw [hmem]
      rintro ⟨a, ha, hname⟩
      exact (hpasses a ha).1 hname
  · -- In quotes the last `>` is not seen, and then none is seen for the first time.
    have hstate := hbody ▸ tag.not_outside_text heven
    refine iff_of_false ?_ fun hpasses => heven fun a ha => (hpasses a ha).2
    rintro ⟨-, body', htext', hfirst, hlast⟩
    obtain ⟨rfl, -⟩ := List.append_inj' (htext.symm.trans htext') rfl
    rw [htext, Quoting.bare_append, Quoting.bare_singleton hstate, List.append_nil] at hlast
    exact hfirst hlast

end WrittenTag

/-- A tag that is written out is read back from its text, and is a token of its own in a source
exactly if no value ends with an odd number of backslashes, and no name holds a `>`. -/
theorem tokenize_writtenTag_iff {before after : String} (hbefore : IsLiteral before.toList)
    (hafter : IsLiteral after.toList) (tag : WrittenTag) :
    ServerTag.parse tag.string = .ok tag.meaning ∧
      (tokenize (before ++ tag.string ++ after) =
        .ok [⟨.literal, before, 0⟩, ⟨.openTag, tag.string, before.utf8ByteSize⟩,
          ⟨.literal, after, before.utf8ByteSize + tag.string.utf8ByteSize⟩] ↔
        ∀ a ∈ tag.attributes, '>' ∉ a.name ∧ endSlashes a.value % 2 = 0) := by
  refine ⟨tag.parse_string, Iff.trans ?_ tag.isOpenTag_iff⟩
  have hsource : (before ++ tag.string ++ after).toList =
      before.toList ++ tag.text ++ after.toList := by
    simp [WrittenTag.string]
  unfold tokenize
  rw [hsource]
  constructor
  · intro h
    obtain ⟨found, hfound, hplace⟩ := except_map_eq_ok h
    have hmem : ⟨.openTag, tag.string, before.utf8ByteSize⟩ ∈ place 0 found := by
      rw [hplace]
      simp
    obtain ⟨⟨kind, text⟩, hpart, _, heq⟩ := mem_place hmem
    obtain ⟨rfl, htext, -⟩ := Token.mk.inj heq
    obtain rfl : tag.text = text := String.ofList_injective htext
    exact (parts_eq_ok_iff.1 hfound).formed _ hpart
  · intro htag
    have hcut : Cut (before.toList ++ tag.text ++ after.toList) [⟨.literal, before.toList⟩,
        ⟨.openTag, tag.text⟩, ⟨.literal, after.toList⟩] :=
      (Cut.literal hafter).token hbefore nofun htag
    have hbytes : byteLength before.toList = before.utf8ByteSize := by
      rw [← utf8ByteSize_ofList, String.ofList_toList]
    rw [parts_eq_ok_iff.2 hcut]
    simp [Except.map, place, WrittenTag.string, hbytes, utf8ByteSize_ofList]

/-- A tag with the quotes, backslashes and angle brackets that its values may hold. -/
def quotingTag : WrittenTag where
  name := "view".toList
  attributes :=
    [⟨[' '], "$path".toList, '"', "a>'b\\\\".toList,
        ⟨by decide, List.all_eq_true.1 (by decide)⟩, by decide, by decide, by decide⟩,
      ⟨"\n ".toList, "title".toList, '\x27', "\\\"<$:x".toList,
        ⟨by decide, List.all_eq_true.1 (by decide)⟩, by decide, by decide, by decide⟩]
  blanks := [' ']
  selfClosing := true
  named := ⟨'v', "iew".toList, rfl, by decide, List.all_eq_true.1 (by decide)⟩
  divided := List.all_eq_true.1 (by decide)

theorem tokenize_quotingTag :
    IsLiteral "Hi <$".toList ∧ IsLiteral " \x7bx\x7d".toList ∧
      ServerTag.parse quotingTag.string = .ok quotingTag.meaning ∧
        tokenize ("Hi <$" ++ quotingTag.string ++ " \x7bx\x7d") =
          .ok [⟨.literal, "Hi <$", 0⟩, ⟨.openTag, quotingTag.string, 5⟩,
            ⟨.literal, " \x7bx\x7d", 5 + quotingTag.string.utf8ByteSize⟩] := by
  have hbefore : IsLiteral "Hi <$".toList := (literal_spec "Hi <$".toList).2.1
  have hafter : IsLiteral " \x7bx\x7d".toList := (literal_spec " \x7bx\x7d".toList).2.1
  obtain ⟨hparse, htokens⟩ := tokenize_writtenTag_iff hbefore hafter quotingTag
  exact ⟨hbefore, hafter, hparse, htokens.2 (by decide)⟩

/-- A tag with a value that ends with a backslash. -/
def backslashTag : WrittenTag where
  name := "view".toList
  attributes :=
    [⟨[' '], "$path".toList, '"', "a\\".toList,
        ⟨by decide, List.all_eq_true.1 (by decide)⟩, by decide, by decide, by decide⟩]
  blanks := []
  selfClosing := false
  named := ⟨'v', "iew".toList, rfl, by decide, List.all_eq_true.1 (by decide)⟩
  divided := List.forall_mem_nil _

/-- It can be read, but is not found in a source. -/
theorem tokenize_backslashTag :
    IsLiteral "".toList ∧ ServerTag.parse backslashTag.string = .ok backslashTag.meaning ∧
      tokenize ("" ++ backslashTag.string ++ "") = .error (.openAttribute, 0) := by
  refine ⟨(literal_spec "".toList).2.1, backslashTag.parse_string, ?_⟩
  decide +kernel

end TemplateEngine.Template
