import TemplateEngine.Error

/-!
# `Template` · Nesting

How the paired tags of a template nest, and what is wrong with those that do not.

* **`WellBracketed`**: every opener has a closer with its name, and pairs do not overlap. It is
  about the `marks` of tokens, in which self-closing tags do not occur.
* **`Innermost tokens i name`**: of the tags that the tokens leave open, the innermost stands at
  `i`.
* **`Unfit`** is a closer that has no open tag, or whose innermost open tag has another name. A
  template with an unfit closer or an open tag has a `Misnesting`, which is where the first unfit
  closer stands or, without any, the innermost tag left open.
* **`openNames`** reads marks from left to right with the names of the open tags on a stack. It gets
  through well-bracketed marks (`WellBracketed.openNames`) and stops at an unfit closer
  (`Unfit.openNames`).
-/

namespace TemplateEngine.Template

/-! ## Marks -/

/-- What a token does to the nesting. -/
inductive Mark where
  /-- It opens a tag that has a body. -/
  | opens (name : String)
  /-- It closes a tag. -/
  | closes (name : String)
  deriving Repr, DecidableEq

/-- The mark of a token; text, expressions and self-closing tags have none. -/
def Token.mark? (token : Token) : Option Mark :=
  match token.kind with
  | .openTag =>
    match ServerTag.parse token.text with
    | .ok tag => if tag.selfClosing then none else some (.opens tag.name)
    | .error _ => none
  | .closeTag => some (.closes token.closerName)
  | .literal => none
  | .expression => none

/-- The marks of tokens. -/
def marks (tokens : List Token) : List Mark := tokens.filterMap Token.mark?

/-- Each opener has a closer with its name, and what is between them is well bracketed again. -/
inductive WellBracketed : List Mark → Prop where
  /-- Nothing. -/
  | nil : WellBracketed []
  /-- A pair with its body, and what follows. -/
  | pair {name : String} {body rest : List Mark} (hbody : WellBracketed body)
    (hrest : WellBracketed rest) : WellBracketed (.opens name :: body ++ .closes name :: rest)

/-- Of the tags that the tokens leave open, the innermost stands at a place. -/
def Innermost (tokens : List Token) (i : Nat) (name : String) : Prop :=
  ∃ opener, tokens[i]? = some opener ∧ opener.mark? = some (.opens name) ∧
    WellBracketed (marks (tokens.drop (i + 1)))

/-- A closer that closes no tag, and the fault that it is. -/
inductive Unfit (tokens : List Token) (j : Nat) : StructuralFault → Prop where
  /-- No tag is open. -/
  | neverOpened {closer : Token} {name : String} (hcloser : tokens[j]? = some closer)
    (hmark : closer.mark? = some (.closes name)) (hopen : WellBracketed (marks (tokens.take j))) :
    Unfit tokens j (.neverOpened name)
  /-- The innermost open tag has another name. -/
  | wrongCloser {closer : Token} {name other : String} {i : Nat}
    (hcloser : tokens[j]? = some closer) (hmark : closer.mark? = some (.closes name))
    (hopen : Innermost (tokens.take j) i other) (hne : other ≠ name) :
    Unfit tokens j (.wrongCloser name other)

/-- Where tokens are not nested, and the fault there. -/
inductive Misnesting (tokens : List Token) : Nat → StructuralFault → Prop where
  /-- The first closer that closes no tag. -/
  | unfit {j : Nat} {fault : StructuralFault} (hunfit : Unfit tokens j fault)
    (hfirst : ∀ i < j, ∀ other, ¬Unfit tokens i other) : Misnesting tokens j fault
  /-- All closers close a tag, and one is left open. -/
  | neverClosed {i : Nat} {name : String} (hfit : ∀ j fault, ¬Unfit tokens j fault)
    (hopen : Innermost tokens i name) : Misnesting tokens i (.neverClosed name)

theorem marks_append (first rest : List Token) :
    marks (first ++ rest) = marks first ++ marks rest :=
  List.filterMap_append

theorem marks_cons {token : Token} {mark : Mark} (h : token.mark? = some mark)
    (rest : List Token) : marks (token :: rest) = mark :: marks rest :=
  List.filterMap_cons_some h

theorem marks_of_none {token : Token} (h : token.mark? = none) : marks [token] = [] :=
  List.filterMap_cons_none h

theorem WellBracketed.append {first rest : List Mark} (hfirst : WellBracketed first)
    (hrest : WellBracketed rest) : WellBracketed (first ++ rest) := by
  induction hfirst with
  | nil => exact hrest
  | @pair name body more hbody _ _ ih =>
    rw [List.append_assoc, List.cons_append]
    exact .pair hbody ih

/-! ## Reading marks -/

/-- The names of the tags that are open behind the marks, the innermost first; nothing if a closer
closes no tag. -/
def openNames (names : List String) : List Mark → Option (List String)
  | [] => some names
  | .opens name :: rest => openNames (name :: names) rest
  | .closes name :: rest =>
    match names with
    | [] => none
    | innermost :: outer => if innermost = name then openNames outer rest else none

theorem openNames_append (names : List String) (first rest : List Mark) :
    openNames names (first ++ rest) = (openNames names first).bind (openNames · rest) := by
  induction first generalizing names with
  | nil => rfl
  | cons mark first ih =>
    cases mark with
    | opens name => exact ih (name :: names)
    | closes name =>
      cases names with
      | nil => rfl
      | cons innermost outer =>
        by_cases hname : innermost = name
        · simp only [List.cons_append, openNames, if_pos hname, ih]
        · simp only [List.cons_append, openNames, if_neg hname, Option.bind_none]

/-- Well-bracketed marks leave open what was open. -/
theorem WellBracketed.openNames {marks : List Mark} (h : WellBracketed marks)
    (names : List String) : openNames names marks = some names := by
  induction h generalizing names with
  | nil => rfl
  | @pair name body rest _ _ ihbody ihrest =>
    rw [openNames_append, Template.openNames, ihbody, Option.bind_some]
    simp only [Template.openNames, if_true, ihrest]

/-- If marks can be read, then so can those in front. -/
theorem openNames_of_prefix {names after : List String} {front tokens : List Token}
    (h : openNames names (marks tokens) = some after) (hfront : front <+: tokens) :
    ∃ before, openNames names (marks front) = some before := by
  obtain ⟨rest, rfl⟩ := hfront
  rw [marks_append, openNames_append] at h
  obtain ⟨before, hbefore, -⟩ := Option.bind_eq_some_iff.1 h
  exact ⟨before, hbefore⟩

/-- The innermost tag that is left open is on top of the others. -/
theorem Innermost.openNames {tokens : List Token} {i : Nat} {name : String}
    (h : Innermost tokens i name) {names : List String}
    (hnames : openNames [] (marks tokens) = some names) : ∃ outer, names = name :: outer := by
  obtain ⟨opener, hopener, hmark, hnested⟩ := h
  obtain ⟨hlt, hget⟩ := List.getElem?_eq_some_iff.1 hopener
  rw [← List.take_append_drop i tokens, List.drop_eq_getElem_cons hlt, hget, marks_append,
    marks_cons hmark, openNames_append] at hnames
  obtain ⟨outer, -, houter⟩ := Option.bind_eq_some_iff.1 hnames
  rw [Template.openNames, hnested.openNames] at houter
  exact ⟨outer, (Option.some.inj houter).symm⟩

/-- An opener behind which all tags are closed. -/
theorem innermost_append (front : List Token) {behind : List Token} {opener : Token}
    {name : String} (hmark : opener.mark? = some (.opens name))
    (hbehind : WellBracketed (marks behind)) :
    Innermost (front ++ opener :: behind) front.length name := by
  refine ⟨opener, ?_, hmark, ?_⟩
  · rw [List.getElem?_append_right (Nat.le_refl _), Nat.sub_self, List.getElem?_cons_zero]
  · rw [List.drop_length_add_append]
    exact hbehind

/-- Marks cannot be read beyond a closer that closes no tag. -/
theorem Unfit.openNames {tokens : List Token} {j : Nat} {fault : StructuralFault}
    (h : Unfit tokens j fault) : openNames [] (marks (tokens.take (j + 1))) = none := by
  -- The marks are those in front of the closer, and its own.
  have hconcat : ∀ {closer : Token} {name : String}, tokens[j]? = some closer →
      closer.mark? = some (.closes name) →
      Template.openNames [] (marks (tokens.take (j + 1))) =
        (Template.openNames [] (marks (tokens.take j))).bind
          (Template.openNames · [.closes name]) := by
    intro closer name hcloser hmark
    rw [List.take_add_one, hcloser, Option.toList_some, marks_append, marks_cons hmark,
      openNames_append]
    rfl
  cases h with
  | neverOpened hcloser hmark hopen =>
    rw [hconcat hcloser hmark, hopen.openNames]
    rfl
  | wrongCloser hcloser hmark hopen hne =>
    rw [hconcat hcloser hmark]
    rcases hbefore : Template.openNames [] (marks (tokens.take j)) with _ | before
    · rfl
    · obtain ⟨outer, rfl⟩ := hopen.openNames hbefore
      rw [Option.bind_some, Template.openNames, if_neg hne]

/-- If marks can be read beyond a closer, then it closes a tag. -/
theorem not_unfit_of_openNames {front tokens : List Token} {names : List String}
    (h : openNames [] (marks front) = some names) {j : Nat} (hj : tokens.take (j + 1) <+: front)
    {fault : StructuralFault} : ¬Unfit tokens j fault := by
  intro hunfit
  obtain ⟨before, hbefore⟩ := openNames_of_prefix h hj
  cases hunfit.openNames.symm.trans hbefore

/-- Well-bracketed tokens are misnested nowhere. -/
theorem WellBracketed.not_misnesting {tokens : List Token} (h : WellBracketed (marks tokens))
    {j : Nat} {fault : StructuralFault} : ¬Misnesting tokens j fault := by
  have hnames := h.openNames []
  intro hfault
  cases hfault with
  | unfit hunfit _ => exact not_unfit_of_openNames hnames (List.take_prefix _ _) hunfit
  | neverClosed _ hopen =>
    obtain ⟨outer, houter⟩ := hopen.openNames hnames
    cases houter

/-! ## One place -/

/-- Behind the innermost tag that is left open, no other one is left open. -/
theorem Innermost.not_lt {tokens : List Token} {i j : Nat} {name other : String}
    (h : Innermost tokens i name) (h' : Innermost tokens j other) : ¬i < j := by
  intro hlt
  obtain ⟨-, -, -, hnested⟩ := h
  obtain ⟨opener, hopener, hmark, hbehind⟩ := h'
  obtain ⟨k, rfl⟩ := Nat.exists_eq_add_of_lt hlt
  have hinner : Innermost (tokens.drop (i + 1)) k other := by
    refine ⟨opener, ?_, hmark, ?_⟩
    · rw [List.getElem?_drop, Nat.add_right_comm]
      exact hopener
    · rw [List.drop_drop, ← Nat.add_assoc, Nat.add_right_comm i 1 k]
      exact hbehind
  obtain ⟨outer, houter⟩ := hinner.openNames (hnested.openNames [])
  cases houter

theorem Innermost.unique {tokens : List Token} {i j : Nat} {name other : String}
    (h : Innermost tokens i name) (h' : Innermost tokens j other) : i = j ∧ name = other := by
  obtain rfl : i = j :=
    Nat.le_antisymm (Nat.le_of_not_lt (h'.not_lt h)) (Nat.le_of_not_lt (h.not_lt h'))
  obtain ⟨opener, hopener, hmark, -⟩ := h
  obtain ⟨opener', hopener', hmark', -⟩ := h'
  cases hopener.symm.trans hopener'
  cases hmark.symm.trans hmark'
  exact ⟨rfl, rfl⟩

theorem Unfit.unique {tokens : List Token} {j : Nat} {fault fault' : StructuralFault}
    (h : Unfit tokens j fault) (h' : Unfit tokens j fault') : fault = fault' := by
  have hname : ∀ {closer closer' : Token} {name name' : String}, tokens[j]? = some closer →
      closer.mark? = some (.closes name) → tokens[j]? = some closer' →
      closer'.mark? = some (.closes name') → name = name' := by
    intro closer closer' name name' hcloser hmark hcloser' hmark'
    cases hcloser.symm.trans hcloser'
    cases hmark.symm.trans hmark'
    rfl
  have hopen : ∀ {i : Nat} {name : String}, WellBracketed (marks (tokens.take j)) →
      ¬Innermost (tokens.take j) i name := by
    intro i name hnested hinner
    obtain ⟨outer, houter⟩ := hinner.openNames (hnested.openNames [])
    cases houter
  cases h with
  | neverOpened hcloser hmark hnested =>
    cases h' with
    | neverOpened hcloser' hmark' _ => rw [hname hcloser hmark hcloser' hmark']
    | wrongCloser _ _ hinner _ => exact absurd hinner (hopen hnested)
  | wrongCloser hcloser hmark hinner _ =>
    cases h' with
    | neverOpened _ _ hnested => exact absurd hinner (hopen hnested)
    | wrongCloser hcloser' hmark' hinner' _ =>
      rw [hname hcloser hmark hcloser' hmark', (hinner.unique hinner').2]

/-- Tokens are misnested at one place, and in one way. -/
theorem Misnesting.unique {tokens : List Token} {i j : Nat} {fault fault' : StructuralFault}
    (h : Misnesting tokens i fault) (h' : Misnesting tokens j fault') :
    i = j ∧ fault = fault' := by
  cases h with
  | unfit hunfit hfirst =>
    cases h' with
    | unfit hunfit' hfirst' =>
      obtain rfl : i = j := by
        apply Nat.le_antisymm
        · exact Nat.le_of_not_lt fun hlt => hfirst j hlt _ hunfit'
        · exact Nat.le_of_not_lt fun hlt => hfirst' i hlt _ hunfit
      exact ⟨rfl, hunfit.unique hunfit'⟩
    | neverClosed hfit _ => exact absurd hunfit (hfit _ _)
  | neverClosed hfit hopen =>
    cases h' with
    | unfit hunfit' _ => exact absurd hunfit' (hfit _ _)
    | neverClosed _ hopen' =>
      obtain ⟨rfl, rfl⟩ := hopen.unique hopen'
      exact ⟨rfl, rfl⟩

end TemplateEngine.Template
