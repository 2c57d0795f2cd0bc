import TemplateEngine.Proofs.Template.Quoting
import TemplateEngine.Proofs.Text.Cutting
import TemplateEngine.Template.Directive

/-!
# `Template` · Directives that are written out

A directive that is written out is read back from its text.

* **`Directive.WellFormed`** says which fields a directive can be written with, without quotes, and
  **`Spells`** how: a `#`, the word of the command and the arguments, with white space between them.
* **`parse_command`** takes the word and the arguments off any such text; what is left is one case
  for each command (`ofCommand_base`, …).
* **`parse_spells`** puts both together. A text is a plain expression exactly if there is no `#` in
  front (`parse_eq_none_iff`).
-/

namespace TemplateEngine.Template

open TemplateEngine.Text

/-! ## How directives are written -/

/-- White space between two words. -/
def IsGap (cs : List Char) : Prop := cs ≠ [] ∧ ∀ c ∈ cs, isBlank c

/-- A single word. -/
def IsOneWord (cs : List Char) : Prop := cs ≠ [] ∧ ∀ c ∈ cs, ¬isBlank c

instance (cs : List Char) : Decidable (IsOneWord cs) :=
  decidable_of_iff (cs ≠ [] ∧ cs.any isBlank = false) (and_congr_right fun _ => List.any_eq_false)

/-- Quotes of one kind stand at both ends of a text. -/
def Enclosed (cs : List Char) : Prop :=
  ∃ quote inner, isTagQuote quote ∧ cs = quote :: (inner ++ [quote])

/-- A text that has no blanks at its ends, and is not empty. -/
def IsTrimmed (cs : List Char) : Prop := cs ≠ [] ∧ Trimmed cs

instance (cs : List Char) : Decidable (IsTrimmed cs) :=
  decidable_of_iff (cs ≠ [] ∧ cs.head?.all (!isBlank ·) ∧ cs.getLast?.all (!isBlank ·))
    (by simp [IsTrimmed, Trimmed, Option.all_eq_true])

section Arguments

variable {cs left right : List Char}

theorem IsOneWord.isTrimmed (h : IsOneWord cs) : IsTrimmed cs := ⟨h.1, trimmed_of_forall h.2⟩

/-- A name with a question mark is one word. -/
theorem IsOneWord.mark (h : IsOneWord cs) (optional : Bool) :
    IsOneWord (cs ++ if optional then ['?'] else []) := by
  refine ⟨by simp [h.1], fun c hc => ?_⟩
  rcases List.mem_append.1 hc with hc | hc
  · exact h.2 c hc
  · cases optional with
    | true =>
      obtain rfl := List.mem_singleton.1 hc
      decide
    | false => cases hc

theorem between?_eq_none {quote : Char} (hquote : isTagQuote quote) (h : ¬Enclosed cs) :
    between? quote cs = none := by
  cases cs with
  | nil => rfl
  | cons c cs =>
    refine if_neg ?_
    rintro ⟨rfl, hlast⟩
    obtain ⟨inner, rfl⟩ := List.getLast?_eq_some_iff.1 hlast
    exact h ⟨c, inner, hquote, rfl⟩

/-- An argument that is not in quotes stands for itself, without the white space around it. -/
theorem unquote_padded (hleft : ∀ c ∈ left, isBlank c) (hright : ∀ c ∈ right, isBlank c)
    (h : Trimmed cs) (hbare : ¬Enclosed cs) : unquote (left ++ cs ++ right) = cs := by
  unfold unquote
  rw [trim_padded hleft hright h]
  dsimp only
  rw [between?_eq_none (by decide) hbare, between?_eq_none (by decide) hbare]
  rfl

theorem unquote_append_blanks (hright : ∀ c ∈ right, isBlank c) (h : Trimmed cs)
    (hbare : ¬Enclosed cs) : unquote (cs ++ right) = cs :=
  unquote_padded (List.forall_mem_nil _) hright h hbare

theorem unquote_bare (h : Trimmed cs) (hbare : ¬Enclosed cs) : unquote cs = cs := by
  have hunquote := unquote_append_blanks (List.forall_mem_nil _) h hbare
  rwa [List.append_nil] at hunquote

theorem oneName?_oneWord (h : IsOneWord cs) : oneName? cs = some (String.ofList cs) := by
  have hfree : ¬cs.any isBlank := by
    intro hany
    obtain ⟨c, hc, hblank⟩ := List.any_eq_true.1 hany
    exact h.2 c hc hblank
  simp [oneName?, h.1, hfree]

end Arguments

namespace Directive

/-- The words of the commands. -/
def commandWords : List String := ["base", "layout", "section", "render", "include", "view"]

/-- The fields can be written without quotes. -/
def WellFormed : Directive → Prop
  | .eval expression => IsTrimmed expression.toList
  | .base name path => IsOneWord name.toList ∧ name.toList.head? ≠ some '$' ∧ IsOneWord path.toList ∧
    ¬Enclosed path.toList
  | .layout path => ∀ p ∈ path, IsTrimmed p.toList ∧ ¬Enclosed p.toList
  | .section name => IsOneWord name.toList ∧ ¬Enclosed name.toList
  | .render name _ => IsOneWord name.toList ∧ ¬Enclosed name.toList ∧ name.toList.getLast? ≠ some '?'
  | .include path expression | .view path expression =>
    IsTrimmed path.toList ∧ ¬Enclosed path.toList ∧ '|' ∉ path.toList ∧
      ∀ e ∈ expression, IsTrimmed e.toList
  | .unknown word => IsOneWord word.toList ∧ word ∉ commandWords

/-- A text that writes a path, or a path, a bar and an expression. -/
inductive SpellsCall (path : String) : Option String → List Char → Prop where
  /-- The path alone. -/
  | path : SpellsCall path none path.toList
  /-- The path and an expression, with any white space around the bar. -/
  | expression {expression : String} {left right : List Char} (hleft : ∀ c ∈ left, isBlank c)
      (hright : ∀ c ∈ right, isBlank c) :
      SpellsCall path (some expression) (path.toList ++ left ++ '|' :: (right ++ expression.toList))

/-- A text that writes a directive. -/
inductive Spells : Directive → List Char → Prop where
  /-- An expression behind white space. -/
  | eval {expression : String} {gap : List Char} (hgap : IsGap gap) :
      Spells (.eval expression) ('#' :: (gap ++ expression.toList))
  /-- A name and a path. -/
  | base {name path : String} {gap between : List Char} (hgap : IsGap gap)
      (hbetween : IsGap between) : Spells (.base name path)
        ('#' :: ("base".toList ++ gap ++ (name.toList ++ between ++ path.toList)))
  /-- No path. -/
  | defaultLayout : Spells (.layout none) ('#' :: "layout".toList)
  /-- A path. -/
  | layout {path : String} {gap : List Char} (hgap : IsGap gap) :
      Spells (.layout (some path)) ('#' :: ("layout".toList ++ gap ++ path.toList))
  /-- A name. -/
  | sectionName {name : String} {gap : List Char} (hgap : IsGap gap) :
      Spells (.section name) ('#' :: ("section".toList ++ gap ++ name.toList))
  /-- A name, with a question mark if the section is optional. -/
  | render {name : String} {optional : Bool} {gap : List Char} (hgap : IsGap gap) :
      Spells (.render name optional)
        ('#' :: ("render".toList ++ gap ++ (name.toList ++ if optional then ['?'] else [])))
  /-- A path, and perhaps an expression. -/
  | includeCall {path : String} {expression : Option String} {gap args : List Char} (hgap : IsGap gap)
      (hargs : SpellsCall path expression args) :
      Spells (.include path expression) ('#' :: ("include".toList ++ gap ++ args))
  /-- A path, and perhaps an expression. -/
  | viewCall {path : String} {expression : Option String} {gap args : List Char} (hgap : IsGap gap)
      (hargs : SpellsCall path expression args) :
      Spells (.view path expression) ('#' :: ("view".toList ++ gap ++ args))
  /-- Any other word. -/
  | unknown {word : String} : Spells (.unknown word) ('#' :: word.toList)

/-! ## Paths and expressions -/

variable {cs left right gap word args : List Char} {name path : String}
  {expression : Option String} {directive : Directive} {text : List Char}

/-- A path and an expression are taken apart at the first bar. -/
theorem pathAndExpression_spells (command : String) (hpath : IsTrimmed path.toList)
    (hbare : ¬Enclosed path.toList) (hbar : '|' ∉ path.toList)
    (hexpression : ∀ e ∈ expression, IsTrimmed e.toList) (h : SpellsCall path expression args) :
    pathAndExpression command args = .ok (path, expression) := by
  obtain ⟨c, cs, hcons⟩ := List.exists_cons_of_ne_nil hpath.1
  cases h with
  | path =>
    unfold pathAndExpression
    rw [cutAt_free hbar]
    dsimp only
    rw [unquote_bare hpath.2 hbare, hcons]
    simp [← hcons]
  | @expression expression left right hleft hright =>
    have he := hexpression expression rfl
    have hfree : '|' ∉ path.toList ++ left := by
      intro hmem
      rcases List.mem_append.1 hmem with hmem | hmem
      · exact hbar hmem
      · exact absurd (hleft _ hmem) (by decide)
    have htrim : trim (right ++ expression.toList) = expression.toList :=
      trim_blanks_append hright he.2
    have hunquote : unquote (path.toList ++ left) = path.toList :=
      unquote_append_blanks hleft hpath.2 hbare
    unfold pathAndExpression
    rw [cutAt_append hfree]
    dsimp only
    rw [hunquote, hcons]
    simp [← hcons, htrim, Option.filter, he.1]

theorem SpellsCall.isTrimmed (hpath : IsTrimmed path.toList)
    (hexpression : ∀ e ∈ expression, IsTrimmed e.toList) (h : SpellsCall path expression args) :
    IsTrimmed args := by
  cases h with
  | path => exact hpath
  | @expression expression left right hleft hright =>
    have he := hexpression expression rfl
    have happend : Trimmed (path.toList ++ (left ++ '|' :: right) ++ expression.toList) :=
      hpath.2.append hpath.1 he.1 he.2
    exact ⟨by simp, by simpa using happend⟩

/-! ## Commands -/

theorem parse_blank {body : String} {c : Char} (h : trimStart body.toList = '#' :: c :: cs)
    (hc : isBlank c) : parse body = .ok (some (.eval (String.ofList (trim (c :: cs))))) := by
  unfold parse
  rw [h]
  exact if_pos hc

theorem parse_word {body : String} {c : Char} {after : Option (List Char)}
    (h : trimStart body.toList = '#' :: c :: cs) (hc : ¬isBlank c)
    (hcut : cutAtBlank (c :: cs) = (word, after)) :
    parse body = (ofCommand (String.ofList word) (trim (after.getD []))).map some := by
  unfold parse
  rw [h]
  refine (if_neg hc).trans ?_
  rw [hcut]

/-- A text is a plain expression exactly if there is no `#` in front. -/
theorem parse_eq_none_iff (body : String) :
    parse body = .ok none ↔ (trimStart body.toList).head? ≠ some '#' := by
  unfold parse
  split
  · next rest hrest =>
    rw [hrest]
    refine iff_of_false (fun h => ?_) (by simp)
    split at h
    · cases h
    · split at h
      · cases h
      · obtain ⟨directive, -, heq⟩ := except_map_eq_ok h
        cases heq
  · next hother =>
    refine iff_of_true rfl fun hhead => ?_
    obtain ⟨rest, hrest⟩ := List.head?_eq_some_iff.1 hhead
    exact hother rest hrest

/-- The word of a command is found, and its arguments without the white space around them. -/
theorem parse_command (command : String) (hcommand : IsOneWord command.toList)
    (hargs : Trimmed args) (hgap : ∀ c ∈ gap, isBlank c) (hbreak : args ≠ [] → gap ≠ [])
    (hleft : ∀ c ∈ left, isBlank c) (hright : ∀ c ∈ right, isBlank c) :
    parse (String.ofList (left ++ '#' :: (command.toList ++ gap ++ args) ++ right)) =
      (ofCommand command args).map some := by
  have hstart : trimStart
      (String.ofList (left ++ '#' :: (command.toList ++ gap ++ args) ++ right)).toList =
        '#' :: (command.toList ++ (gap ++ args ++ right)) := by
    have hsharp : ¬isBlank '#' := by decide
    rw [String.toList_ofList, List.append_assoc, List.cons_append,
      trimStart_padded hleft (by simp [hsharp])]
    simp
  have hcut : ∃ after, cutAtBlank (command.toList ++ (gap ++ args ++ right)) =
      (command.toList, after) ∧ trim (after.getD []) = args := by
    cases gap with
    | cons d gap =>
      refine ⟨_, cutAtBlank_append hcommand.2 (hgap d (List.mem_cons_self ..)) _, ?_⟩
      exact trim_padded (fun e he => hgap e (List.mem_cons_of_mem d he)) hright hargs
    | nil =>
      obtain rfl : args = [] := by
        by_contra hne
        exact hbreak hne rfl
      cases right with
      | nil => exact ⟨none, by simpa using cutAtBlank_word hcommand.2, rfl⟩
      | cons d right =>
        refine ⟨_, cutAtBlank_append hcommand.2 (hright d (List.mem_cons_self ..)) _, ?_⟩
        have hblanks : ∀ e ∈ right, isBlank e := fun e he => hright e (List.mem_cons_of_mem d he)
        simpa using trim_append_blanks hblanks hargs
  obtain ⟨after, hafter, htrim⟩ := hcut
  obtain ⟨c, rest, hcons⟩ := List.exists_cons_of_ne_nil hcommand.1
  have hc : ¬isBlank c := hcommand.2 c (by simp [hcons])
  have hsplit :
      command.toList ++ (gap ++ args ++ right) = c :: (rest ++ (gap ++ args ++ right)) := by
    rw [hcons, List.cons_append]
  rw [parse_word (hstart.trans (congrArg ('#' :: ·) hsplit)) hc (hsplit ▸ hafter),
    String.ofList_toList, htrim]

/-- A command may stand alone. -/
theorem parse_word_alone (command : String) (hcommand : IsOneWord command.toList)
    (hleft : ∀ c ∈ left, isBlank c) (hright : ∀ c ∈ right, isBlank c) :
    parse (String.ofList (left ++ '#' :: command.toList ++ right)) =
      (ofCommand command []).map some := by
  have hempty : Trimmed [] := trimmed_of_forall (List.forall_mem_nil _)
  have hparse := parse_command command hcommand hempty (List.forall_mem_nil _)
    (fun hne => absurd rfl hne) hleft hright
  rwa [List.append_nil, List.append_nil] at hparse

theorem ofCommand_base (hname : IsOneWord name.toList) (hdollar : name.toList.head? ≠ some '$')
    (hpath : IsOneWord path.toList) (hbare : ¬Enclosed path.toList) (hgap : IsGap gap) :
    ofCommand "base" (name.toList ++ gap ++ path.toList) = .ok (.base name path) := by
  have hdrop : name.toList.dropWhile (· == '$') = name.toList :=
    dropWhile_eq_self_of_head fun c hc => by
      rintro hc'
      obtain rfl : c = '$' := by simpa using hc'
      exact hdollar hc
  unfold ofCommand
  rw [words_pair hname hpath hgap]
  simp [hdrop, unquote_bare hpath.isTrimmed.2 hbare]

theorem ofCommand_layout (hpath : IsTrimmed path.toList) (hbare : ¬Enclosed path.toList) :
    ofCommand "layout" path.toList = .ok (.layout (some path)) := by
  obtain ⟨c, cs, hcons⟩ := List.exists_cons_of_ne_nil hpath.1
  unfold ofCommand
  dsimp only
  rw [unquote_bare hpath.2 hbare, hcons]
  simp [← hcons]

/-- A question mark behind a word makes its section optional. -/
theorem ofCommand_render_mark {word : List Char} (hword : IsOneWord word) :
    ofCommand "render" (word ++ ['?']) = .ok (.render (String.ofList word) true) := by
  -- A question mark is no quote.
  have hopen : ¬Enclosed (word ++ ['?']) := by
    rintro ⟨quote, inner, hquote, heq⟩
    have hends : word ++ ['?'] = (quote :: inner) ++ [quote] := heq
    obtain ⟨-, hlast⟩ := List.append_inj' hends rfl
    obtain rfl := (List.cons.inj hlast).1
    exact absurd hquote (by decide)
  have htrim : trimEnd word = word := trimEnd_of_last hword.isTrimmed.2.2
  have hmark : IsOneWord (word ++ ['?']) := hword.mark true
  unfold ofCommand
  simp [unquote_bare hmark.isTrimmed.2 hopen, htrim, oneName?_oneWord hword]

theorem ofCommand_render (hname : IsOneWord name.toList) (hbare : ¬Enclosed name.toList)
    (hlast : name.toList.getLast? ≠ some '?') (optional : Bool) :
    ofCommand "render" (name.toList ++ if optional then ['?'] else []) =
      .ok (.render name optional) := by
  cases optional with
  | false =>
    unfold ofCommand
    simp [unquote_bare hname.isTrimmed.2 hbare, hlast, oneName?_oneWord hname]
  | true =>
    have hmark := ofCommand_render_mark hname
    rwa [String.ofList_toList] at hmark

theorem ofCommand_unknown {word : String} (h : word ∉ commandWords) (args : List Char) :
    ofCommand word args = .ok (.unknown word) := by
  unfold ofCommand
  split <;> simp_all [commandWords]

/-! ## Directives -/

/-- A directive that is written out is read back, an expression behind a bar with all other bars in
it. -/
theorem parse_of_spells (hformed : directive.WellFormed) (h : Spells directive text)
    (hleft : ∀ c ∈ left, isBlank c) (hright : ∀ c ∈ right, isBlank c) :
    parse (String.ofList (left ++ text ++ right)) = .ok (some directive) := by
  cases h with
  | @eval expression gap hgap =>
    obtain ⟨c, gap, rfl⟩ := List.exists_cons_of_ne_nil hgap.1
    have hsharp : ¬isBlank '#' := by decide
    have htrim : trim (c :: (gap ++ expression.toList ++ right)) = expression.toList :=
      show trim (c :: gap ++ expression.toList ++ right) = _ from
        trim_padded hgap.2 hright hformed.2
    have hstart : trimStart (String.ofList (left ++
        '#' :: (c :: gap ++ expression.toList) ++ right)).toList =
          '#' :: c :: (gap ++ expression.toList ++ right) := by
      rw [String.toList_ofList, List.append_assoc, List.cons_append,
        trimStart_padded hleft (by simp [hsharp])]
      simp
    rw [parse_blank hstart (hgap.2 c (List.mem_cons_self ..)), htrim, String.ofList_toList]
  | @base name path gap between hgap hbetween =>
    obtain ⟨hname, hdollar, hpath, hbare⟩ := hformed
    have hargs : Trimmed (name.toList ++ between ++ path.toList) :=
      hname.isTrimmed.2.append hname.1 hpath.1 hpath.isTrimmed.2
    rw [parse_command "base" (by decide) hargs hgap.2 (fun _ => hgap.1) hleft hright,
      ofCommand_base hname hdollar hpath hbare hbetween]
    rfl
  | defaultLayout =>
    rw [parse_word_alone "layout" (by decide) hleft hright]
    rfl
  | @layout path gap hgap =>
    obtain ⟨hpath, hbare⟩ := hformed path rfl
    rw [parse_command "layout" (by decide) hpath.2 hgap.2 (fun _ => hgap.1) hleft hright,
      ofCommand_layout hpath hbare]
    rfl
  | sectionName hgap =>
    obtain ⟨hname, hbare⟩ := hformed
    rw [parse_command "section" (by decide) hname.isTrimmed.2 hgap.2 (fun _ => hgap.1) hleft hright]
    simp [ofCommand, unquote_bare hname.isTrimmed.2 hbare, oneName?_oneWord hname, Except.map]
  | render hgap =>
    obtain ⟨hname, hbare, hlast⟩ := hformed
    rw [parse_command "render" (by decide) (hname.mark _).isTrimmed.2 hgap.2
      (fun _ => hgap.1) hleft hright, ofCommand_render hname hbare hlast]
    rfl
  | includeCall hgap hargs =>
    obtain ⟨hpath, hbare, hbar, hexpression⟩ := hformed
    have htrimmed := hargs.isTrimmed hpath hexpression
    rw [parse_command "include" (by decide) htrimmed.2 hgap.2 (fun _ => hgap.1) hleft hright]
    simp [ofCommand, pathAndExpression_spells _ hpath hbare hbar hexpression hargs, Except.map]
  | viewCall hgap hargs =>
    obtain ⟨hpath, hbare, hbar, hexpression⟩ := hformed
    have htrimmed := hargs.isTrimmed hpath hexpression
    rw [parse_command "view" (by decide) htrimmed.2 hgap.2 (fun _ => hgap.1) hleft hright]
    simp [ofCommand, pathAndExpression_spells _ hpath hbare hbar hexpression hargs, Except.map]
  | @unknown word =>
    obtain ⟨hword, hother⟩ := hformed
    rw [parse_word_alone word hword hleft hright, ofCommand_unknown hother]
    rfl

/-- A directive that is written out, with white space around it, is read back from its text, and
exactly the texts without a `#` in front are none. -/
theorem parse_spells (hformed : directive.WellFormed) (h : Spells directive text)
    (hleft : ∀ c ∈ left, isBlank c) (hright : ∀ c ∈ right, isBlank c) :
    parse (String.ofList (left ++ text ++ right)) = .ok (some directive) ∧
      ∀ body, parse body = .ok none ↔ (trimStart body.toList).head? ≠ some '#' :=
  ⟨parse_of_spells hformed h hleft hright, parse_eq_none_iff⟩

/-- A view with bars in its expression, and white space of several kinds. -/
theorem parse_spells_view :
    (Directive.view "parts/a b" (some "$a || 'b|c'")).WellFormed ∧
      parse "\u2003#view\u00a0\tparts/a b\u3000| $a || 'b|c'\n" =
        .ok (some (.view "parts/a b" (some "$a || 'b|c'"))) := by
  have hformed : (Directive.view "parts/a b" (some "$a || 'b|c'")).WellFormed := by
    refine ⟨by decide, ?_, by decide, ?_⟩
    · rintro ⟨quote, inner, hquote, heq⟩
      obtain rfl := (List.cons.inj heq).1
      exact absurd hquote (by decide)
    · rintro e ⟨⟩
      decide
  have hcall : SpellsCall "parts/a b" (some "$a || 'b|c'")
      ("parts/a b".toList ++ ['\u3000'] ++ '|' :: ([' '] ++ "$a || 'b|c'".toList)) :=
    .expression (List.all_eq_true.1 (by decide)) (List.all_eq_true.1 (by decide))
  have hgap : IsGap ['\u00a0', '\t'] := ⟨by decide, List.all_eq_true.1 (by decide)⟩
  have hleft : ∀ c ∈ ['\u2003'], isBlank c := List.all_eq_true.1 (by decide)
  have hright : ∀ c ∈ ['\n'], isBlank c := List.all_eq_true.1 (by decide)
  exact ⟨hformed, (parse_spells hformed (.viewCall hgap hcall) hleft hright).1⟩

end Directive

end TemplateEngine.Template
