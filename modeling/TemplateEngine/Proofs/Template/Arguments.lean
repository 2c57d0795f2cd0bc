import TemplateEngine.Proofs.Template.Directives

/-!
# `Template` · Arguments in quotes

A name or a path may be written with quotes around it.

* **`Writes`**: the ways to write a name, bare or in quotes of either kind. Where a directive takes
  quotes off, all of them stand for the name (`Writes.unquote`).
* **`ArgumentPlace`**: where directives have names and paths, and what stands around these there.
  At every place but one the directive does not depend on how the name is written
  (`ofCommand_arguments`).
* **`parse_quoted_iff`**: the exception is a name in quotes with a question mark behind them. The
  quotes are looked for before the question mark is taken off, and so become part of the name.
-/

namespace TemplateEngine.Template

open TemplateEngine.Text

variable {name argument left right gap behind : List Char} {quote : Char}

/-! ## Written names -/

/-- A text between quotes. -/
def inQuotes (quote : Char) (cs : List Char) : List Char := quote :: (cs ++ [quote])

/-- A name that can be written without quotes wherever directives have names. -/
def IsBare (name : List Char) : Prop :=
  ∀ c ∈ name, ¬isTagQuote c ∧ ¬isBlank c ∧ c ≠ '|' ∧ c ≠ '?'

/-- The ways to write a name. -/
inductive Writes (name : List Char) : List Char → Prop where
  /-- As it is. -/
  | bare : Writes name name
  /-- In quotes. -/
  | quoted {quote : Char} (hquote : isTagQuote quote) : Writes name (inQuotes quote name)

theorem between?_inQuotes (quote : Char) (cs : List Char) :
    between? quote (inQuotes quote cs) = some cs := by
  simp [between?, inQuotes]

/-- A text in quotes of one kind is in no quotes of another kind. -/
theorem between?_inQuotes_of_ne {other : Char} (h : other ≠ quote) (cs : List Char) :
    between? quote (inQuotes other cs) = none := by
  simp [between?, inQuotes, h]

theorem IsBare.not_enclosed (h : IsBare name) : ¬Enclosed name := by
  rintro ⟨quote, inner, hquote, rfl⟩
  exact (h quote List.mem_cons_self).1 hquote

theorem IsBare.not_isBlank (h : IsBare name) : ∀ c ∈ name, ¬isBlank c := fun c hc => (h c hc).2.1

namespace Writes

/-- There is no white space in a written name. -/
theorem not_isBlank (h : Writes name argument) (hname : IsBare name) :
    ∀ c ∈ argument, ¬isBlank c := by
  cases h with
  | bare => exact hname.not_isBlank
  | @quoted quote hquote =>
    intro c hc
    have hcases : c = quote ∨ c ∈ name := by simpa [inQuotes, or_comm] using hc
    rcases hcases with rfl | hc
    · exact not_isBlank_of_isTagQuote hquote
    · exact hname.not_isBlank c hc

/-- Nor is there a bar. -/
theorem bar (h : Writes name argument) (hname : IsBare name) : '|' ∉ argument := by
  have hfree : '|' ∉ name := fun hmem => (hname '|' hmem).2.2.1 rfl
  cases h with
  | bare => exact hfree
  | @quoted quote hquote =>
    have hne : '|' ≠ quote := by
      rintro rfl
      exact absurd hquote (by decide)
    simp [inQuotes, hfree, hne]

/-- It is one word if there is anything to write. -/
theorem isOneWord (h : Writes name argument) (hname : IsBare name) (hne : argument ≠ []) :
    IsOneWord argument :=
  ⟨hne, h.not_isBlank hname⟩

theorem ne_nil (h : Writes name argument) (hne : name ≠ []) : argument ≠ [] := by
  cases h with
  | bare => exact hne
  | quoted hquote => exact List.cons_ne_nil _ _

/-- However a name is written, it is the name without quotes. -/
theorem unquote (h : Writes name argument) (hname : IsBare name) (hleft : ∀ c ∈ left, isBlank c)
    (hright : ∀ c ∈ right, isBlank c) : unquote (left ++ argument ++ right) = name := by
  have htrimmed : Trimmed argument := trimmed_of_forall (h.not_isBlank hname)
  cases h with
  | bare => exact unquote_padded hleft hright htrimmed hname.not_enclosed
  | @quoted quote hquote =>
    have hcases : quote = '"' ∨ quote = '\x27' := by simpa [isTagQuote] using hquote
    unfold Template.unquote
    rw [trim_padded hleft hright htrimmed]
    rcases hcases with rfl | rfl
    · simp [between?_inQuotes]
    · simp [between?_inQuotes, between?_inQuotes_of_ne]

end Writes

theorem unquote_trim (cs : List Char) : unquote (trim cs) = unquote cs := by
  unfold unquote
  rw [trim_trim]

theorem unquote_trimStart (cs : List Char) : unquote (trimStart cs) = unquote cs := by
  have htrim : trim (trimStart cs) = trim cs := by
    unfold trim trimStart
    rw [dropWhile_eq_self_of_head not_of_mem_head?_dropWhile]
  unfold unquote
  rw [htrim]

/-! ## Places -/

/-- What may stand behind a path: nothing, or an expression behind a bar. -/
def IsBehindPath (cs : List Char) : Prop :=
  ∃ blanks rest, (∀ c ∈ blanks, isBlank c) ∧ (∀ c ∈ rest.head?, c = '|') ∧ cs = blanks ++ rest

/-- Where a directive has a name or a path. -/
inductive ArgumentPlace where
  /-- The path of `#base`, behind a name. -/
  | base (name gap : List Char)
  /-- The path of `#layout`. -/
  | layout
  /-- The name of `#section`. -/
  | sectionName
  /-- The name of `#render`. -/
  | render
  /-- The name of `#render`, with a question mark behind it. -/
  | optionalRender
  /-- The path of `#include`, and what stands behind it. -/
  | includePath (behind : List Char)
  /-- The path of `#view`, and what stands behind it. -/
  | viewPath (behind : List Char)

namespace ArgumentPlace

/-- The word of the directive. -/
def command : ArgumentPlace → String
  | base _ _ => "base"
  | layout => "layout"
  | sectionName => "section"
  | render | optionalRender => "render"
  | includePath _ => "include"
  | viewPath _ => "view"

/-- The arguments of the directive with the given one at its place. -/
def arguments (argument : List Char) : ArgumentPlace → List Char
  | base name gap => name ++ gap ++ argument
  | optionalRender => argument ++ ['?']
  | includePath behind | viewPath behind => argument ++ behind
  | layout | sectionName | render => argument

/-- What stands around the argument is well-formed. -/
def WellFormed : ArgumentPlace → Prop
  | base name gap => IsOneWord name ∧ IsGap gap
  | includePath behind | viewPath behind => IsBehindPath behind
  | _ => True

theorem isOneWord_command (place : ArgumentPlace) : IsOneWord place.command.toList := by
  unfold command
  split
  all_goals decide

/-- The text of the directive, with white space around it and in front of the arguments. -/
def text (place : ArgumentPlace) (left gap right argument : List Char) : String :=
  String.ofList (left ++ '#' :: (place.command.toList ++ gap ++ place.arguments argument) ++ right)

end ArgumentPlace

/-! ## Directives -/

namespace Directive

/-- The word of a command is found, and its arguments without the white space around them. -/
theorem parse_arguments (command : String) (hcommand : IsOneWord command.toList) (hgap : IsGap gap)
    (hleft : ∀ c ∈ left, isBlank c) (args : List Char) :
    parse (String.ofList (left ++ '#' :: (command.toList ++ gap ++ args) ++ right)) =
      (ofCommand command (trim (args ++ right))).map some := by
  obtain ⟨before, after, hbefore, hafter, htrimmed, hargs⟩ := exists_trim (args ++ right)
  have hblanks : ∀ c ∈ gap ++ before, isBlank c := List.forall_mem_append.2 ⟨hgap.2, hbefore⟩
  have hparse := parse_command command hcommand htrimmed hblanks (fun _ => by simp [hgap.1]) hleft
    hafter
  rw [← hparse]
  generalize trim (args ++ right) = trimmed at hargs
  have hwritten : left ++ '#' :: (command.toList ++ gap ++ args) ++ right =
      left ++ '#' :: (command.toList ++ gap ++ (args ++ right)) := by simp
  rw [hwritten, hargs]
  simp

/-- Paths that are the same without quotes, with the same behind the bar, make the same call. -/
theorem pathAndExpression_congr (command : String) {args args' : List Char}
    (hpath : unquote (cutAt '|' args).1 = unquote (cutAt '|' args').1)
    (hbehind : (cutAt '|' args).2 = (cutAt '|' args').2) :
    pathAndExpression command args = pathAndExpression command args' := by
  unfold pathAndExpression
  dsimp only
  rw [hpath, hbehind]

/-- A written path is cut off in front of the bar. -/
theorem cutAt_path (h : Writes name argument) (hname : IsBare name) (hbehind : IsBehindPath behind)
    (hright : ∀ c ∈ right, isBlank c) :
    unquote (cutAt '|' (trim (argument ++ behind ++ right))).1 = name ∧
      (cutAt '|' (trim (argument ++ behind ++ right))).2 =
        (cutAt '|' (behind ++ right)).2.map trimEnd := by
  obtain ⟨blanks, rest, hblanks, hrest, rfl⟩ := hbehind
  have hbar := h.bar hname
  have hfree : ∀ cs : List Char, (∀ c ∈ cs, isBlank c) → '|' ∉ cs := fun cs hcs hmem =>
    absurd (hcs '|' hmem) (by decide)
  cases rest with
  | nil =>
    have hspace : ∀ c ∈ blanks ++ right, isBlank c := List.forall_mem_append.2 ⟨hblanks, hright⟩
    have hargs : '|' ∉ trim (argument ++ (blanks ++ right)) := by
      obtain ⟨before, after, -, -, -, hcs⟩ := exists_trim (argument ++ (blanks ++ right))
      intro hmem
      have hall : '|' ∈ argument ++ (blanks ++ right) := by
        rw [hcs]
        simp [hmem]
      rcases List.mem_append.1 hall with hmem | hmem
      · exact hbar hmem
      · exact hfree _ hspace hmem
    have hunquote := h.unquote hname (List.forall_mem_nil _) hspace
    rw [List.append_nil, List.append_assoc, cutAt_free hargs, cutAt_free (hfree _ hspace),
      unquote_trim]
    exact ⟨hunquote, rfl⟩
  | cons c rest =>
    obtain rfl : c = '|' := hrest c rfl
    have hwritten : argument ++ (blanks ++ '|' :: rest) ++ right =
        argument ++ blanks ++ '|' :: (rest ++ right) := by simp
    have hbehind : blanks ++ '|' :: rest ++ right = blanks ++ '|' :: (rest ++ right) := by simp
    have hargs : '|' ∉ trimStart (argument ++ blanks) := by
      intro hmem
      rcases List.mem_append.1 ((List.dropWhile_sublist _).subset hmem) with hmem | hmem
      · exact hbar hmem
      · exact hfree _ hblanks hmem
    have hunquote := h.unquote hname (List.forall_mem_nil _) hblanks
    rw [hwritten, hbehind, trim_append_mark (by decide), cutAt_append hargs,
      cutAt_append (hfree _ hblanks), unquote_trimStart]
    exact ⟨hunquote, rfl⟩

/-- A written path is the second word of `#base`. -/
theorem words_base {first : List Char} (hfirst : IsOneWord first) (hgap : IsGap gap)
    (hright : ∀ c ∈ right, isBlank c) (argument : List Char) :
    words (trim (first ++ gap ++ argument ++ right)) = first :: words argument := by
  obtain ⟨c, gap, rfl⟩ := List.exists_cons_of_ne_nil hgap.1
  have hwritten : first ++ c :: gap ++ argument = first ++ c :: (gap ++ argument) := by simp
  rw [words_trim, words_append_blanks hright, hwritten,
    words_append_blank (hgap.2 c List.mem_cons_self), words_word hfirst.1 hfirst.2,
    words_blanks_append fun d hd => hgap.2 d (List.mem_cons_of_mem c hd)]
  rfl

/-- A path of `#base` that is not empty or is in quotes. -/
theorem ofCommand_base_written {first : List Char} (hfirst : IsOneWord first) (hgap : IsGap gap)
    (h : Writes name argument) (hname : IsBare name) (hne : argument ≠ [])
    (hright : ∀ c ∈ right, isBlank c) :
    ofCommand "base" (trim (first ++ gap ++ argument ++ right)) =
      .ok (.base (String.ofList (first.dropWhile (· == '$'))) (String.ofList name)) := by
  have hword := h.isOneWord hname hne
  have hpath : unquote argument = name := by
    simpa using h.unquote hname (List.forall_mem_nil _) (List.forall_mem_nil _)
  unfold ofCommand
  rw [words_base hfirst hgap hright, words_word hword.1 hword.2]
  simp [hpath]

/-- An empty path without quotes is none. -/
theorem ofCommand_base_alone {first : List Char} (hfirst : IsOneWord first) (hgap : IsGap gap)
    (hright : ∀ c ∈ right, isBlank c) :
    ofCommand "base" (trim (first ++ gap ++ [] ++ right)) = .error (.baseArguments 1) := by
  unfold ofCommand
  rw [words_base hfirst hgap hright]
  rfl

/-- A question mark behind a word, and white space behind that. -/
theorem ofCommand_optional {word : List Char} (hword : IsOneWord word)
    (hright : ∀ c ∈ right, isBlank c) :
    ofCommand "render" (trim (word ++ ['?'] ++ right)) =
      .ok (.render (String.ofList word) true) := by
  have hmark : IsOneWord (word ++ ['?']) := hword.mark true
  rw [trim_append_blanks hright hmark.isTrimmed.2, ofCommand_render_mark hword]

/-- Without quotes, the name in front of a question mark has none. -/
theorem ofCommand_optional_ne (hname : IsBare name) (hright : ∀ c ∈ right, isBlank c)
    (quote : Char) : ofCommand "render" (trim (name ++ ['?'] ++ right)) ≠
      .ok (.render (String.ofList (inQuotes quote name)) true) := by
  intro heq
  cases name with
  | nil =>
    have hmark : trim (['?'] ++ right) = ['?'] :=
      trim_append_blanks hright (trimmed_of_forall (List.forall_mem_singleton.2 (by decide)))
    rw [List.nil_append, hmark] at heq
    cases heq
  | cons c cs =>
    rw [ofCommand_optional ⟨List.cons_ne_nil c cs, hname.not_isBlank⟩ hright] at heq
    injection heq with heq
    injection heq with heq
    have hlength := congrArg List.length (String.ofList_inj.1 heq)
    simp [inQuotes] at hlength

/-- A directive does not depend on how a name is written, unless a question mark stands behind the
name; a path of `#base` that is empty has to be in quotes. -/
theorem ofCommand_arguments {place : ArgumentPlace} (hplace : place.WellFormed)
    (h : Writes name argument) (hname : IsBare name) (hright : ∀ c ∈ right, isBlank c)
    (hmark : place ≠ .optionalRender) (hbase : place.command = "base" → name ≠ []) :
    ofCommand place.command (trim (place.arguments argument ++ right)) =
      ofCommand place.command (trim (place.arguments name ++ right)) := by
  have hunquote : ∀ {written}, Writes name written → unquote (trim (written ++ right)) = name := by
    intro written hwritten
    rw [unquote_trim]
    exact hwritten.unquote hname (List.forall_mem_nil _) hright
  have hcall : ∀ command {behind}, IsBehindPath behind →
      pathAndExpression command (trim (argument ++ behind ++ right)) =
        pathAndExpression command (trim (name ++ behind ++ right)) := by
    intro command behind hbehind
    obtain ⟨hpath, hrest⟩ := cutAt_path h hname hbehind hright
    obtain ⟨hpath', hrest'⟩ := cutAt_path .bare hname hbehind hright
    exact pathAndExpression_congr command (hpath.trans hpath'.symm) (hrest.trans hrest'.symm)
  cases place with
  | base first gap =>
    have hne := hbase rfl
    exact (ofCommand_base_written hplace.1 hplace.2 h hname (h.ne_nil hne) hright).trans
      (ofCommand_base_written hplace.1 hplace.2 .bare hname hne hright).symm
  | layout =>
    unfold ofCommand
    simp only [ArgumentPlace.command, ArgumentPlace.arguments, hunquote h, hunquote .bare]
  | sectionName =>
    unfold ofCommand
    simp only [ArgumentPlace.command, ArgumentPlace.arguments, hunquote h, hunquote .bare]
  | render =>
    unfold ofCommand
    simp only [ArgumentPlace.command, ArgumentPlace.arguments, hunquote h, hunquote .bare]
  | optionalRender => exact absurd rfl hmark
  | includePath behind =>
    unfold ofCommand
    simp only [ArgumentPlace.command, ArgumentPlace.arguments, hcall _ hplace]
  | viewPath behind =>
    unfold ofCommand
    simp only [ArgumentPlace.command, ArgumentPlace.arguments, hcall _ hplace]

/-- **Names in quotes.** Whether a name or a path is in quotes makes no difference, but for a name with
a question mark behind it, whose quotes become part of the name, and for the empty path of `#base`,
which is none without quotes. -/
theorem parse_quoted_iff {place : ArgumentPlace} (hplace : place.WellFormed) (hname : IsBare name)
    (hquote : isTagQuote quote) (hleft : ∀ c ∈ left, isBlank c) (hgap : IsGap gap)
    (hright : ∀ c ∈ right, isBlank c) :
    (parse (place.text left gap right (inQuotes quote name)) =
        parse (place.text left gap right name) ↔
      place ≠ .optionalRender ∧ (place.command = "base" → name ≠ [])) ∧
    (place = .optionalRender →
      parse (place.text left gap right (inQuotes quote name)) =
        .ok (some (.render (String.ofList (inQuotes quote name)) true))) := by
  have hwrites : Writes name (inQuotes quote name) := .quoted hquote
  have hne : inQuotes quote name ≠ [] := List.cons_ne_nil _ _
  have hparse : ∀ argument, parse (place.text left gap right argument) =
      (ofCommand place.command (trim (place.arguments argument ++ right))).map some :=
    fun argument => parse_arguments place.command place.isOneWord_command hgap hleft _
  have hinjective : Function.Injective (Except.map some :
      Except DirectiveFault Directive → Except DirectiveFault (Option Directive)) :=
    except_map_injective fun _ _ => Option.some.inj
  rw [hparse, hparse]
  refine ⟨⟨fun heq => ⟨?_, fun hbase => ?_⟩, fun ⟨hmark, hbase⟩ => ?_⟩, ?_⟩
  · rintro rfl
    have hquoted := ofCommand_optional (hwrites.isOneWord hname hne) hright
    exact ofCommand_optional_ne hname hright quote
      ((hinjective heq).symm.trans hquoted)
  · rintro rfl
    cases place with
    | base first gap =>
      have hquoted := ofCommand_base_written hplace.1 hplace.2 hwrites hname hne hright
      have hbare := ofCommand_base_alone hplace.1 hplace.2 hright
      cases hbare.symm.trans ((hinjective heq).symm.trans hquoted)
    | _ => simp [ArgumentPlace.command] at hbase
  · rw [ofCommand_arguments hplace hwrites hname hright hmark hbase]
  · rintro rfl
    exact congrArg (Except.map some) (ofCommand_optional (hwrites.isOneWord hname hne) hright)

/-- A path in single quotes, in front of an expression. -/
theorem parse_quoted_view :
    (ArgumentPlace.viewPath " | $a|b".toList).WellFormed ∧ IsBare "parts/card".toList ∧
      parse "\n#view\t'parts/card' | $a|b " = parse "\n#view\tparts/card | $a|b " := by
  have hplace : (ArgumentPlace.viewPath " | $a|b".toList).WellFormed :=
    ⟨[' '], "| $a|b".toList, List.all_eq_true.1 (by decide), fun _ => by simp [eq_comm], rfl⟩
  have hname : IsBare "parts/card".toList := by
    have hall : "parts/card".toList.all fun c =>
      decide (¬isTagQuote c ∧ ¬isBlank c ∧ c ≠ '|' ∧ c ≠ '?') := by decide
    exact fun c hc => of_decide_eq_true (List.all_eq_true.1 hall c hc)
  have hgap : IsGap ['\t'] := ⟨by decide, List.all_eq_true.1 (by decide)⟩
  have hquote : isTagQuote '\x27' := by decide
  have hleft : ∀ c ∈ ['\n'], isBlank c := List.all_eq_true.1 (by decide)
  have hright : ∀ c ∈ [' '], isBlank c := List.all_eq_true.1 (by decide)
  have hquoted := parse_quoted_iff hplace hname hquote hleft hgap hright
  exact ⟨hplace, hname, hquoted.1.2 ⟨nofun, nofun⟩⟩

/-- In front of a question mark, quotes are part of the name. -/
theorem parse_quoted_optional :
    parse "#render css?" = .ok (some (.render "css" true)) ∧
      parse "#render \"css\"?" = .ok (some (.render "\"css\"" true)) :=
  ⟨rfl, rfl⟩

end Directive

end TemplateEngine.Template
