import TemplateEngine.Proofs.Engine.Reading
import TemplateEngine.Proofs.Template.Directives
import TemplateEngine.Proofs.Template.Tags

/-!
# `Engine` · Calls in two spellings

A nested template without a body is invoked by a directive or by a tag that closes itself.

* **`Call`** is a path with perhaps an expression, both of which can be written in either way:
  `Call.directive` and `Call.tag` are the two texts.
* **`formed_directive`** and **`formed_tag`**: each text is one token. The one ends where its braces
  balance, the other at the first `>` outside of quotes.
* **`reading_directive`** and **`reading_tag`**: both tokens ask for the same invocation.
-/

namespace TemplateEngine

open TemplateEngine.Text TemplateEngine.Template

/-! ## The two spellings -/

/-- The word of the command, and the name of the tag. -/
def ChildKind.word : ChildKind → String
  | .shared => "include"
  | .fresh => "view"

/-- A character of a path that needs no quotes, and ends neither spelling. -/
def isCallChar (c : Char) : Bool :=
  !(isQuote c || c == '\\' || c == '\x7b' || c == '\x7d' || c == '|')

/-- A nested template that can be asked for by a directive and by a tag. -/
structure Call where
  /-- How the template relates to its caller. -/
  kind : ChildKind
  /-- The path. -/
  path : String
  /-- An expression that is evaluated first. -/
  expression : Option String
  /-- There is a path, without blanks at its ends. -/
  trimmed : IsTrimmed path.toList
  /-- It has no quotes, backslashes, braces and bars. -/
  plain : ∀ c ∈ path.toList, isCallChar c
  /-- The expression is not empty either. -/
  expressed : ∀ e ∈ expression, IsTrimmed e.toList
  /-- It can stand in double quotes. -/
  quotable : ∀ e ∈ expression, '"' ∉ e.toList ∧ '\\' ∉ e.toList
  /-- Its other quotes and its braces are closed. -/
  nests : ∀ e ∈ expression, Nests e.toList

namespace Call

/-- The call as a directive. -/
def directive (call : Call) : String :=
  "$\x7b#" ++ call.kind.word ++ " " ++ call.path ++
    (call.expression.elim "" fun e => " | " ++ e) ++ "\x7d"

/-- The call as a tag. -/
def tag (call : Call) : String :=
  "<$:" ++ call.kind.word ++ " $path=\"" ++ call.path ++ "\"" ++
    (call.expression.elim "" fun e => " $=\"" ++ e ++ "\"") ++ " />"

/-- What both ask for. -/
def invocation (call : Call) : Invocation := .ofDirective call.kind call.path call.expression

variable (call : Call)

/-! ## The directive -/

/-- The arguments of the directive. -/
def arguments : List Char :=
  call.path.toList ++ call.expression.elim [] fun e => ' ' :: '|' :: ' ' :: e.toList

/-- What stands in the braces of the directive. -/
def body : List Char := '#' :: (call.kind.word.toList ++ [' '] ++ call.arguments)

theorem toList_directive :
    call.directive.toList = ['$', '\x7b'] ++ call.body ++ ['\x7d'] := by
  unfold directive body arguments
  cases call.expression <;> simp

theorem isBare_of_isCallChar {c : Char} (hc : isCallChar c) : isBare c := by
  simp only [isCallChar, isBare, Bool.not_eq_true', Bool.or_eq_false_iff] at hc ⊢
  exact ⟨⟨hc.1.1.1.1, hc.1.1.2⟩, hc.1.2⟩

theorem balanced_arguments : Balanced call.arguments := by
  have hpath : Balanced call.path.toList :=
    balanced_bare (List.all_eq_true.2 fun c hc => isBare_of_isCallChar (call.plain c hc))
  refine hpath.append ?_
  cases h : call.expression with
  | none => exact .nil
  | some e =>
    have he : Balanced e.toList := (call.nests e h).balanced (call.quotable e h).2
    exact ((he.cons (by decide)).cons (by decide)).cons (by decide)

/-- The braces of the directive balance at its end. -/
theorem formed_directive : Part.Formed ⟨.expression, call.directive.toList⟩ := by
  have hword : Balanced (call.kind.word.toList ++ [' ']) :=
    balanced_bare (by cases call.kind <;> decide)
  have hbody : Balanced call.body := (hword.append call.balanced_arguments).cons (by decide)
  rw [toList_directive]
  exact hbody.isExpression

theorem not_mem_path {c : Char} (hc : ¬isCallChar c) : c ∉ call.path.toList := fun hmem =>
  hc (call.plain c hmem)

theorem not_enclosed : ¬Enclosed call.path.toList := by
  rintro ⟨quote, inner, hquote, heq⟩
  exact call.not_mem_path (by simp [isCallChar, isQuote, hquote]) (show quote ∈ _ by simp [heq])

theorem spellsCall : Directive.SpellsCall call.path call.expression call.arguments := by
  unfold arguments
  cases call.expression with
  | none => simpa using Directive.SpellsCall.path
  | some e =>
    have hblank : ∀ c ∈ [' '], isBlank c := by simp; decide
    simpa using Directive.SpellsCall.expression hblank hblank

/-- What the directive says. -/
def command : Directive :=
  match call.kind with
  | .shared => .include call.path call.expression
  | .fresh => .view call.path call.expression

theorem wellFormed_command : call.command.WellFormed := by
  have hbar : '|' ∉ call.path.toList := call.not_mem_path (by decide)
  have hwritten := And.intro call.trimmed
    (And.intro call.not_enclosed (And.intro hbar call.expressed))
  unfold command
  cases call.kind <;> exact hwritten

theorem spells_command : Directive.Spells call.command call.body := by
  have hgap : IsGap [' '] := ⟨by decide, List.all_eq_true.1 (by decide)⟩
  unfold command body
  cases call.kind with
  | shared => exact .includeCall hgap call.spellsCall
  | fresh => exact .viewCall hgap call.spellsCall

theorem reading_directive (template : CompiledTemplate) (offset : Nat) :
    template.reading ⟨.expression, call.directive, offset⟩ = .nest call.invocation := by
  have hblanks : ∀ c ∈ ([] : List Char), isBlank c := List.forall_mem_nil _
  have hparse :=
    Directive.parse_of_spells call.wellFormed_command call.spells_command hblanks hblanks
  rw [List.nil_append, List.append_nil] at hparse
  have hbody : Token.body ⟨.expression, call.directive, offset⟩ = String.ofList call.body := by
    simp [Token.body, toList_directive]
  have hreading : Reading.ofDirective call.command = .nest call.invocation := by
    unfold command invocation
    cases call.kind <;> rfl
  unfold CompiledTemplate.reading
  dsimp only
  rw [hbody, hparse]
  exact hreading

/-! ## The tag -/

/-- The attributes of the tag. -/
def attributes : List (String × String) :=
  ("$path", call.path) :: call.expression.toList.map (Prod.mk "$")

theorem divided_space : [' '] ≠ [] ∧ ∀ c ∈ [' '], isAsciiBlank c :=
  ⟨by decide, List.all_eq_true.1 (by decide)⟩

theorem isTagQuote_double : isTagQuote '"' := by decide

/-- An attribute in double quotes behind a space. -/
def quotedAttribute (name value : List Char) (hname : IsAttributeName name) (hvalue : '"' ∉ value) :
    QuotedAttribute where
  blanks := [' ']
  name := name
  quote := '"'
  value := value
  divided := divided_space
  named := hname
  quoted := isTagQuote_double
  free := hvalue

theorem isName_word (kind : ChildKind) : IsName kind.word.toList := by
  cases kind with
  | shared => exact ⟨'i', "nclude".toList, rfl, by decide, List.all_eq_true.1 (by decide)⟩
  | fresh => exact ⟨'v', "iew".toList, rfl, by decide, List.all_eq_true.1 (by decide)⟩

/-- The scan passes such an attribute if there is no backslash in it. -/
theorem passes_quotedAttribute {name value : List Char} (hname : IsAttributeName name)
    (hvalue : '"' ∉ value) (hend : '>' ∉ name) (hslash : '\\' ∉ value) :
    (quotedAttribute name value hname hvalue).Passes :=
  ⟨hend, by simp [quotedAttribute, endSlashes_eq_zero hslash]⟩

/-- The tag is one that is written out, and no value ends with a backslash. -/
theorem exists_writtenTag : ∃ tag : WrittenTag, tag.text = call.tag.toList ∧
    tag.meaning = ⟨call.kind.word, call.attributes, true⟩ ∧ ∀ a ∈ tag.attributes, a.Passes := by
  have hquote : '"' ∉ call.path.toList := call.not_mem_path (by decide)
  have hslash : '\\' ∉ call.path.toList := call.not_mem_path (by decide)
  have hname : IsAttributeName "$path".toList := by decide
  have hpath := passes_quotedAttribute hname hquote (by decide) hslash
  cases h : call.expression with
  | none =>
    refine ⟨⟨call.kind.word.toList, [quotedAttribute _ _ hname hquote], [' '], true, isName_word _,
      divided_space.2⟩, ?_, ?_, ?_⟩
    · simp [WrittenTag.text, WrittenTag.inner, WrittenTag.attributesText, QuotedAttribute.text,
        Kind.opening, quotedAttribute, tag, h]
    · simp [WrittenTag.meaning, attributes, quotedAttribute, h]
    · simpa using hpath
  | some e =>
    have hdollar : IsAttributeName ['$'] := by decide
    obtain ⟨hfree, hplain⟩ := call.quotable e h
    have hexpression := passes_quotedAttribute hdollar hfree (by decide) hplain
    refine ⟨⟨call.kind.word.toList,
      [quotedAttribute _ _ hname hquote, quotedAttribute _ _ hdollar hfree], [' '], true,
      isName_word _, divided_space.2⟩, ?_, ?_, ?_⟩
    · simp [WrittenTag.text, WrittenTag.inner, WrittenTag.attributesText, QuotedAttribute.text,
        Kind.opening, quotedAttribute, tag, h]
    · simp [WrittenTag.meaning, attributes, quotedAttribute, h]
    · simpa using ⟨hpath, hexpression⟩

/-- The tag ends at its first `>` outside of quotes. -/
theorem formed_tag : Part.Formed ⟨.openTag, call.tag.toList⟩ := by
  obtain ⟨tag, htext, -, hpasses⟩ := call.exists_writtenTag
  rw [← htext]
  exact tag.isOpenTag_iff.2 hpasses

theorem foldlM_attributes (tag : String) :
    call.attributes.foldlM (Invocation.Parameters.add tag) ⟨none, [], [], []⟩ =
      .ok ⟨some call.path, [], call.expression.toList, []⟩ := by
  unfold attributes
  cases call.expression <;> rfl

theorem ofTag_attributes :
    Invocation.ofTag ⟨call.kind.word, call.attributes, true⟩ none = .ok call.invocation := by
  have hkind : Invocation.kindOf? call.kind.word = some call.kind := by cases call.kind <;> rfl
  have hpath : ¬(trim call.path.toList).isEmpty := by
    rw [trim_of_trimmed call.trimmed.2]
    simpa using call.trimmed.1
  unfold Invocation.ofTag
  dsimp only
  rw [hkind, foldlM_attributes]
  exact if_neg hpath

theorem reading_tag (template : CompiledTemplate) (offset : Nat) :
    template.reading ⟨.openTag, call.tag, offset⟩ = .nest call.invocation := by
  obtain ⟨tag, htext, hmeaning, -⟩ := call.exists_writtenTag
  have hparse : ServerTag.parse call.tag = .ok ⟨call.kind.word, call.attributes, true⟩ := by
    have hstring : tag.string = call.tag := by rw [WrittenTag.string, htext, String.ofList_toList]
    rw [← hstring, ← hmeaning]
    exact tag.parse_string
  unfold CompiledTemplate.reading CompiledTemplate.tagReading
  dsimp only
  rw [hparse]
  dsimp only
  rw [ofTag_attributes]
  rfl

end Call

end TemplateEngine
