import Mathlib.Algebra.GroupWithZero.Nat
import TemplateEngine.Proofs.Template.Quoting
import TemplateEngine.Template.Tag

/-!
# `Template` · The partition of a source

`tokenize` cuts a source into literals and tokens and loses nothing (`Partition`), or names the
place of an opener whose token has no end.

* **`Opens`** says what the openers are, **`IsExpression`**, **`IsOpenTag`** and **`IsCloseTag`**
  what the tokens are.
* **`partsFrom_eq_ok`** collects what is known of the parts, by recursion on the cuts.
* **Names.** An opening tag whose attributes can be read and a closing tag have a name that is not
  empty (`IsOpenTag.parse`, `IsCloseTag.closerName`).
-/

namespace TemplateEngine.Template

open TemplateEngine.Text

variable {c : Char} {cs text : List Char} {kind : Kind}

/-- The bytes of a text are those of its pieces. -/
@[simp] theorem byteLength_append (cs ds : List Char) :
    byteLength (cs ++ ds) = byteLength cs + byteLength ds := by
  induction cs with
  | nil => simp [byteLength]
  | cons c cs ih => simp [byteLength, ih, Nat.add_assoc]

theorem byteLength_eq_zero : byteLength cs = 0 ↔ cs = [] := by
  cases cs with
  | nil => simp [byteLength]
  | cons c cs =>
    have hpos := c.utf8Size_pos
    simp only [byteLength, reduceCtorEq, iff_false]
    omega

/-! ## Openers -/

/-- A text starts with the opener of a token. -/
def Opens (kind : Kind) (cs : List Char) : Prop :=
  match kind with
  | .literal => False
  | .expression => ['$', '\x7b'] <+: cs
  | .openTag => ∃ c, isNameStart c ∧ ['<', '$', ':', c] <+: cs
  | .closeTag => ∃ c, isNameStart c ∧ ['<', '/', '$', ':', c] <+: cs

/-- What the opener of a kind is written with. -/
def Kind.opening : Kind → List Char
  | .literal => []
  | .expression => ['$', '\x7b']
  | .openTag => ['<', '$', ':']
  | .closeTag => ['<', '/', '$', ':']

/-- What is found at the front of a text is an opener. -/
theorem opens_of_opener? {opener : List Char} {rest : Shorter cs}
    (h : opener? cs = some (kind, opener, rest)) :
    Opens kind cs ∧ opener = kind.opening ∧ cs = opener ++ rest.val := by
  unfold opener? at h
  split at h
  · cases h
    exact ⟨⟨_, rfl⟩, rfl, rfl⟩
  · split at h
    · next hc =>
      cases h
      exact ⟨⟨_, hc, _, rfl⟩, rfl, rfl⟩
    · cases h
  · split at h
    · next hc =>
      cases h
      exact ⟨⟨_, hc, _, rfl⟩, rfl, rfl⟩
    · cases h
  · cases h

/-- An opener at the front of a text is found. -/
theorem opener?_of_opens (h : Opens kind cs) :
    ∃ rest : Shorter cs, opener? cs = some (kind, kind.opening, rest) := by
  cases kind with
  | literal => exact h.elim
  | expression =>
    obtain ⟨rest, rfl⟩ := h
    exact ⟨_, rfl⟩
  | openTag =>
    obtain ⟨c, hc, rest, rfl⟩ := h
    exact ⟨_, if_pos hc⟩
  | closeTag =>
    obtain ⟨c, hc, rest, rfl⟩ := h
    exact ⟨_, if_pos hc⟩

theorem isSome_opener? (h : Opens kind cs) : (opener? cs).isSome := by
  obtain ⟨rest, hrest⟩ := opener?_of_opens h
  rw [hrest]
  rfl

/-- A text has one opener at its front. -/
theorem Opens.unique {other : Kind} (h : Opens kind cs) (hother : Opens other cs) : kind = other := by
  obtain ⟨rest, hrest⟩ := opener?_of_opens h
  obtain ⟨rest', hrest'⟩ := opener?_of_opens hother
  exact (Prod.mk.inj (Option.some.inj (hrest.symm.trans hrest'))).1

/-- More text behind an opener changes nothing. -/
theorem Opens.append (h : Opens kind cs) (more : List Char) : Opens kind (cs ++ more) := by
  cases kind with
  | literal => exact h.elim
  | expression => exact h.trans (List.prefix_append cs more)
  | openTag =>
    obtain ⟨c, hc, hstarts⟩ := h
    exact ⟨c, hc, hstarts.trans (List.prefix_append cs more)⟩
  | closeTag =>
    obtain ⟨c, hc, hstarts⟩ := h
    exact ⟨c, hc, hstarts.trans (List.prefix_append cs more)⟩

/-- No opener stands anywhere in a text. -/
def IsLiteral (cs : List Char) : Prop :=
  ∀ before after kind, cs = before ++ after → ¬Opens kind after

theorem isLiteral_nil : IsLiteral [] := by
  intro before after kind h hopens
  obtain ⟨-, rfl⟩ := List.nil_eq_append_iff.1 h
  have hfound := isSome_opener? hopens
  simp [opener?] at hfound

/-- A literal is the front of the text and has no openers. It ends at one, or where the text ends. -/
theorem literal_spec (cs : List Char) :
    cs = (literal cs).1 ++ (literal cs).2.val ∧ IsLiteral (literal cs).1 ∧
      ((literal cs).2.val = [] ∨ (opener? (literal cs).2.val).isSome) := by
  fun_induction literal cs with
  | case1 => exact ⟨rfl, isLiteral_nil, .inl rfl⟩
  | case2 c cs hopener => exact ⟨rfl, isLiteral_nil, .inr hopener⟩
  | case3 c cs hopener text rest htext ih =>
    rw [htext] at ih
    obtain ⟨hsplit, hliteral, hends⟩ := ih
    refine ⟨congrArg (c :: ·) hsplit, fun before after kind h hopens => ?_, hends⟩
    rcases List.append_eq_cons_iff.1 h.symm with ⟨-, rfl⟩ | ⟨before', -, rfl⟩
    · -- An opener at the front would have ended the literal there.
      have hfront := hopens.append rest.val
      rw [List.cons_append, ← hsplit] at hfront
      exact hopener (isSome_opener? hfront)
    · exact hliteral before' after kind rfl hopens

/-! ## Tokens -/

/-- A name of a server tag. -/
def IsName (cs : List Char) : Prop := ∃ c rest, cs = c :: rest ∧ isNameStart c ∧ ∀ d ∈ rest, isNameChar d

/-- An expression in braces, which balance at its end and not before. -/
def IsExpression (cs : List Char) : Prop :=
  (∃ body, cs = ['$', '\x7b'] ++ body ++ ['\x7d']) ∧ openBraces cs = 0 ∧
    ∀ front, ['$', '\x7b'] <+: front → front <+: cs → front ≠ cs → 0 < openBraces front

/-- An opening tag, which ends at its first `>` outside of quoted text. -/
def IsOpenTag (cs : List Char) : Prop :=
  Opens .openTag cs ∧ ∃ inner, cs = inner ++ ['>'] ∧
    '>' ∉ Quoting.outside.bare isTagQuote inner ∧ '>' ∈ Quoting.outside.bare isTagQuote cs

/-- A closing tag. -/
def IsCloseTag (cs : List Char) : Prop :=
  ∃ name blanks, IsName name ∧ (∀ c ∈ blanks, isAsciiBlank c) ∧
    cs = ['<', '/', '$', ':'] ++ name ++ blanks ++ ['>']

/-- A part is what its kind says. -/
def Part.Formed (part : Part) : Prop :=
  match part.kind with
  | .literal => IsLiteral part.text
  | .expression => IsExpression part.text
  | .openTag => IsOpenTag part.text
  | .closeTag => IsCloseTag part.text

theorem isNameChar_of_isNameStart (h : isNameStart c) : isNameChar c := by
  unfold isNameStart at h
  unfold isNameChar
  simp only [Bool.or_eq_true] at h ⊢
  rcases h with h | h
  · exact .inl (.inl (.inl h))
  · exact .inl (.inr h)

/-- The text behind the opener of a closing tag has a name, blanks and a `>`. -/
theorem closerEnd_eq_ok {rest : Shorter cs} (h : closerEnd cs = .ok (text, rest)) :
    cs = text ++ rest.val ∧ ∃ blanks, (∀ c ∈ blanks, isAsciiBlank c) ∧
      text = cs.takeWhile isNameChar ++ blanks ++ ['>'] := by
  unfold closerEnd dropLeading at h
  dsimp only at h
  split at h
  · cases h
  · next d more hd hmore =>
    split at h
    · next hclose =>
      subst hclose
      cases h
      refine ⟨?_, _, List.all_eq_true.1 List.all_takeWhile, rfl⟩
      calc cs = cs.takeWhile isNameChar ++ cs.dropWhile isNameChar :=
            List.takeWhile_append_dropWhile.symm
        _ = cs.takeWhile isNameChar ++ ((cs.dropWhile isNameChar).takeWhile isAsciiBlank ++
              (cs.dropWhile isNameChar).dropWhile isAsciiBlank) :=
            congrArg _ List.takeWhile_append_dropWhile.symm
        _ = cs.takeWhile isNameChar ++ (cs.dropWhile isNameChar).takeWhile isAsciiBlank ++ ['>'] ++
              more := by
            rw [Subtype.mk.inj hmore]
            simp
    · cases h

/-- The text behind the opener of a server tag starts with a name. -/
theorem Opens.name (h : Opens kind (kind.opening ++ cs)) (hkind : kind = .openTag ∨ kind = .closeTag) :
    ∃ c rest, isNameStart c ∧ cs = c :: rest := by
  rcases hkind with rfl | rfl
  · obtain ⟨c, hc, rest, hrest⟩ := h
    exact ⟨c, rest, hc, by simpa [Kind.opening] using hrest.symm⟩
  · obtain ⟨c, hc, rest, hrest⟩ := h
    exact ⟨c, rest, hc, by simpa [Kind.opening] using hrest.symm⟩

theorem isExpression_of_braced {rest : Shorter cs} (h : braced 1 cs = .ok (text, rest)) :
    IsExpression (Kind.expression.opening ++ text) := by
  obtain ⟨-, ⟨body, rfl⟩, hclosed, hfirst⟩ := braced_eq_ok Nat.one_pos h
  have hopening : ∀ more, openBraces (Kind.expression.opening ++ more) = 1 + openBraces more := by
    intro more
    simp only [Kind.opening, List.cons_append, List.nil_append]
    rw [openBraces_cons (by decide), openBraces_cons (by decide)]
    simp
  refine ⟨⟨body, by simp [Kind.opening]⟩, by rw [hopening]; exact hclosed, ?_⟩
  rintro front ⟨more, rfl⟩ hstarts hproper
  have hstarts : more <+: body ++ ['\x7d'] := (List.prefix_append_right_inj _).1 hstarts
  have hproper : more ≠ body ++ ['\x7d'] := fun heq => hproper (by rw [heq]; rfl)
  exact hopening more ▸ hfirst more hstarts hproper

theorem isOpenTag_of_tagEnd {rest : Shorter cs} (hopens : Opens .openTag (Kind.openTag.opening ++ cs))
    (h : tagEnd cs = .ok (text, rest)) : IsOpenTag (Kind.openTag.opening ++ text) := by
  obtain ⟨hcs, inner, rfl, hbefore, hmem⟩ := tagEnd_eq_ok h
  have hopening : ∀ more, Quoting.outside.bare isTagQuote (Kind.openTag.opening ++ more) =
      Kind.openTag.opening ++ Quoting.outside.bare isTagQuote more := fun _ => rfl
  obtain ⟨c, name, hc, rfl⟩ := hopens.name (.inl rfl)
  refine ⟨⟨c, hc, ?_⟩, Kind.openTag.opening ++ inner, by simp, ?_, ?_⟩
  · obtain ⟨more, hmore⟩ : ∃ more, inner ++ ['>'] = c :: more := by
      cases inner with
      | nil => exact ⟨[], congrArg ([·]) (List.cons.inj hcs).1.symm⟩
      | cons d inner => exact ⟨inner ++ ['>'], congrArg (· :: _) (List.cons.inj hcs).1.symm⟩
    exact ⟨more, by simp [hmore, Kind.opening]⟩
  · rw [hopening, List.mem_append, not_or]
    exact ⟨by decide, hbefore⟩
  · rw [hopening]
    exact List.mem_append_right _ hmem

theorem isCloseTag_of_closerEnd {rest : Shorter cs}
    (hopens : Opens .closeTag (Kind.closeTag.opening ++ cs)) (h : closerEnd cs = .ok (text, rest)) :
    IsCloseTag (Kind.closeTag.opening ++ text) := by
  obtain ⟨-, blanks, hblanks, rfl⟩ := closerEnd_eq_ok h
  obtain ⟨c, name, hc, rfl⟩ := hopens.name (.inr rfl)
  rw [List.takeWhile_cons, if_pos (isNameChar_of_isNameStart hc)]
  exact ⟨c :: name.takeWhile isNameChar, blanks,
    ⟨c, _, rfl, hc, List.all_eq_true.1 List.all_takeWhile⟩, hblanks, by simp [Kind.opening]⟩

/-- A token is the front of the text that its opener starts, and is what its kind says. -/
theorem formed_token {opener : List Char} {inner : Shorter cs} {rest : Shorter inner.val}
    (hopener : opener? cs = some (kind, opener, inner))
    (hend : tokenEnd kind inner.val = .ok (text, rest)) :
    cs = opener ++ text ++ rest.val ∧ kind ≠ .literal ∧ Part.Formed ⟨kind, opener ++ text⟩ := by
  obtain ⟨hopens, rfl, hcs⟩ := opens_of_opener? hopener
  rw [hcs] at hopens
  cases kind with
  | literal => exact hopens.elim
  | expression =>
    obtain ⟨hinner, -⟩ := braced_eq_ok Nat.one_pos hend
    rw [List.append_assoc, ← hinner]
    exact ⟨hcs, nofun, isExpression_of_braced hend⟩
  | openTag =>
    obtain ⟨hinner, -⟩ := tagEnd_eq_ok hend
    rw [List.append_assoc, ← hinner]
    exact ⟨hcs, nofun, isOpenTag_of_tagEnd hopens hend⟩
  | closeTag =>
    obtain ⟨hinner, -⟩ := closerEnd_eq_ok hend
    rw [List.append_assoc, ← hinner]
    exact ⟨hcs, nofun, isCloseTag_of_closerEnd hopens hend⟩

/-! ## Names -/

/-- A character of a name is no blank. -/
theorem not_isBlank_of_isNameChar (h : isNameChar c) : ¬isBlank c := by
  unfold isNameChar isAsciiLetter isAsciiDigit at h
  unfold isBlank
  simp only [Bool.or_eq_true, Bool.and_eq_true, decide_eq_true_eq, beq_iff_eq] at h ⊢
  rcases h with ((h | h) | rfl) | rfl
  · omega
  · omega
  · decide
  · decide

theorem IsName.isNameChar {name : List Char} (h : IsName name) : ∀ c ∈ name, isNameChar c := by
  obtain ⟨c, rest, rfl, hc, hrest⟩ := h
  intro d hd
  rcases List.mem_cons.1 hd with rfl | hd
  · exact isNameChar_of_isNameStart hc
  · exact hrest d hd

theorem IsName.not_isBlank {name : List Char} (h : IsName name) : ∀ c ∈ name, ¬isBlank c :=
  fun c hc => not_isBlank_of_isNameChar (h.isNameChar c hc)

theorem dropWhile_eq_self {α : Type} {p : α → Bool} {xs : List α} (h : ∀ x ∈ xs, ¬p x) :
    xs.dropWhile p = xs := by
  cases xs with
  | nil => rfl
  | cons x xs => exact List.dropWhile_cons_of_neg (h x (List.mem_cons_self ..))

/-- Blanks behind a text without blanks are cut off. -/
theorem trim_append {name blanks : List Char} (hname : ∀ c ∈ name, ¬isBlank c) (hne : name ≠ [])
    (hblanks : ∀ c ∈ blanks, isBlank c) : trim (name ++ blanks) = name := by
  obtain ⟨c, rest, rfl⟩ := List.exists_cons_of_ne_nil hne
  have hstart : trimStart (c :: rest ++ blanks) = c :: rest ++ blanks :=
    List.dropWhile_cons_of_neg (hname c (List.mem_cons_self ..))
  have hend : ∀ d ∈ (c :: rest).reverse, ¬isBlank d := fun d hd => hname d (List.mem_reverse.1 hd)
  have hdropped : ∀ d ∈ blanks.reverse, isBlank d := fun d hd => hblanks d (List.mem_reverse.1 hd)
  unfold trim trimEnd
  rw [hstart, List.reverse_append, List.dropWhile_append_of_pos hdropped, dropWhile_eq_self hend,
    List.reverse_reverse]

/-- The name of a closing tag is found. -/
theorem IsCloseTag.closerName (h : IsCloseTag cs) (offset : Nat) :
    ∃ name, IsName name ∧ Kind.closeTag.opening ++ name <+: cs ∧
      Token.closerName ⟨.closeTag, String.ofList cs, offset⟩ = String.ofList name := by
  obtain ⟨name, blanks, hname, hblanks, rfl⟩ := h
  refine ⟨name, hname, ⟨blanks ++ ['>'], by simp [Kind.opening]⟩, ?_⟩
  have hne : name ≠ [] := by
    obtain ⟨c, rest, rfl, -⟩ := hname
    exact List.cons_ne_nil c rest
  have hinner : (name ++ (blanks ++ ['>'])).dropLast = name ++ blanks := by
    rw [← List.append_assoc, List.dropLast_concat]
  have htrim : trim (name ++ blanks) = name :=
    trim_append hname.not_isBlank hne fun c hc => isBlank_of_isAsciiBlank (hblanks c hc)
  simp [Token.closerName, hinner, htrim]

/-- The inner text of a tag is the front of its text, and keeps the first character of its name. -/
theorem tagInner_cons (hc : isNameStart c) :
    ∃ rest, (tagInner (c :: cs)).1 = c :: rest ∧ rest <+: cs := by
  unfold tagInner
  split
  · next rest hrest =>
    have hfront : rest.reverse ++ ['/'] <+: c :: cs := by
      rw [← List.reverse_cons, ← hrest, List.reverse_reverse]
      unfold trimEnd
      rw [← List.reverse_reverse (c :: cs), List.reverse_prefix, List.reverse_reverse]
      exact List.dropWhile_suffix _
    -- The slash is not the first character, since a name does not start with one.
    rcases hfirst : rest.reverse with _ | ⟨d, name⟩
    · rw [hfirst] at hfront
      obtain ⟨rfl, -⟩ := List.cons_prefix_cons.1 hfront
      exact absurd hc (by decide)
    · rw [hfirst] at hfront
      obtain ⟨rfl, hname⟩ := List.cons_prefix_cons.1 hfront
      exact ⟨name, rfl, (List.prefix_append name ['/']).trans hname⟩
  · exact ⟨cs, rfl, List.prefix_refl cs⟩

/-- If the attributes of an opening tag can be read, then so can its name. -/
theorem IsOpenTag.parse (h : IsOpenTag cs) :
    match ServerTag.parse (String.ofList cs) with
    | .ok tag => IsName tag.name.toList ∧ Kind.openTag.opening ++ tag.name.toList <+: cs
    | .error fault => fault ≠ none := by
  obtain ⟨⟨c, hc, rest, rfl⟩, inner, hinner, -, -⟩ := h
  have hlast : (c :: rest).getLast? = some '>' := by
    have hlast := congrArg List.getLast? hinner
    simpa using hlast
  have hrest : rest ≠ [] := by
    rintro rfl
    obtain rfl : c = '>' := by simpa using hlast
    exact absurd hc (by decide)
  obtain ⟨name, hname, hstarts⟩ :
      ∃ name, (tagInner (c :: rest.dropLast)).1 = c :: name ∧ name <+: rest.dropLast :=
    tagInner_cons hc
  unfold ServerTag.parse
  simp only [List.cons_append, List.nil_append, String.toList_ofList, hlast, if_true,
    List.dropLast_cons_of_ne_nil hrest, hname]
  rcases hattributes : Template.attributes (String.ofList ((c :: name).drop
    ((c :: name).takeWhile isNameChar).length)) with fault | attributes
  · exact nofun
  · simp only [String.toList_ofList]
    rw [List.takeWhile_cons, if_pos (isNameChar_of_isNameStart hc)]
    refine ⟨⟨c, _, rfl, hc, List.all_eq_true.1 List.all_takeWhile⟩, ?_⟩
    have hfront : name.takeWhile isNameChar <+: rest :=
      (List.takeWhile_prefix _).trans (hstarts.trans (List.dropLast_prefix rest))
    simpa [Kind.opening] using hfront

/-! ## Parts -/

/-- Parts of a text: literals at even places and tokens at odd ones, which is all there is. -/
structure Cut (cs : List Char) (found : List Part) : Prop where
  /-- Nothing is lost. -/
  joins : (found.map Part.text).flatten = cs
  /-- The last part is a literal. -/
  odd : found.length % 2 = 1
  /-- Literals and tokens alternate. -/
  alternates : ∀ i (h : i < found.length), found[i].kind = .literal ↔ i % 2 = 0
  /-- All parts are what their kinds say. -/
  formed : ∀ part ∈ found, part.Formed

theorem Cut.literal (h : IsLiteral cs) : Cut cs [⟨.literal, cs⟩] where
  joins := by simp
  odd := rfl
  alternates i hi := by
    obtain rfl : i = 0 := by simpa using hi
    simp
  formed part hpart := by
    obtain rfl := List.mem_singleton.1 hpart
    exact h

theorem Cut.token {front token : List Char} {later : List Part} (h : Cut cs later)
    (hfront : IsLiteral front) (hkind : kind ≠ .literal) (htoken : Part.Formed ⟨kind, token⟩) :
    Cut (front ++ token ++ cs) (⟨.literal, front⟩ :: ⟨kind, token⟩ :: later) where
  joins := by simp [h.joins]
  odd := by
    rw [List.length_cons, List.length_cons, Nat.add_assoc, Nat.add_mod_right]
    exact h.odd
  alternates i hi := by
    match i, hi with
    | 0, _ => simp
    | 1, _ => simpa using hkind
    | i + 2, hi =>
      rw [Nat.add_mod_right]
      exact h.alternates i (by simpa using hi)
  formed part hpart := by
    rcases List.mem_cons.1 hpart with rfl | hpart
    · exact hfront
    rcases List.mem_cons.1 hpart with rfl | hpart
    · exact htoken
    · exact h.formed part hpart

section Steps

variable {offset : Nat} {rest : NoLonger cs} {opener body : List Char} {inner : Shorter rest.val}

theorem partsFrom_eq_literal (hliteral : literal cs = (text, rest))
    (hopener : opener? rest.val = none) : partsFrom offset cs = .ok [⟨.literal, text⟩] := by
  rw [partsFrom, hliteral]
  dsimp only
  rw [hopener]

theorem partsFrom_eq_error {fault : ScanFault} (hliteral : literal cs = (text, rest))
    (hopener : opener? rest.val = some (kind, opener, inner))
    (hend : tokenEnd kind inner.val = .error fault) :
    partsFrom offset cs = .error (fault, offset + byteLength text) := by
  rw [partsFrom, hliteral]
  dsimp only
  rw [hopener]
  dsimp only
  rw [hend]

theorem partsFrom_eq_token {more : Shorter inner.val} (hliteral : literal cs = (text, rest))
    (hopener : opener? rest.val = some (kind, opener, inner))
    (hend : tokenEnd kind inner.val = .ok (body, more)) :
    partsFrom offset cs =
      (partsFrom (offset + byteLength text + byteLength (opener ++ body)) more.val).map fun later =>
        ⟨.literal, text⟩ :: ⟨kind, opener ++ body⟩ :: later := by
  rw [partsFrom, hliteral]
  dsimp only
  rw [hopener]
  dsimp only
  rw [hend]

end Steps

/-- The parts of a text are all of it; a fault is at the place of an opener. -/
theorem partsFrom_spec (offset : Nat) (cs : List Char) :
    match partsFrom offset cs with
    | .ok found => Cut cs found
    | .error (_, start) => ∃ before after kind, cs = before ++ after ∧
        start = offset + byteLength before ∧ Opens kind after := by
  induction offset, cs using partsFrom.induct with
  | case1 offset cs text rest hrest hliteral hopener =>
    obtain ⟨hsplit, hfront, hends⟩ := literal_spec cs
    rw [partsFrom_eq_literal hliteral hopener]
    rw [hliteral] at hsplit hfront hends
    -- Without an opener the literal has reached the end.
    have hall : rest = [] := by simpa [hopener] using hends
    have hcs : cs = text := by simpa [hall] using hsplit
    rw [hcs]
    exact .literal hfront
  | case2 offset cs text rest hrest hliteral kind opener inner hinner hopener fault hend =>
    obtain ⟨hsplit, -⟩ := literal_spec cs
    rw [partsFrom_eq_error hliteral hopener hend]
    simp only [hliteral] at hsplit
    exact ⟨text, rest, kind, hsplit, rfl, (opens_of_opener? hopener).1⟩
  | case3 offset cs text rest hrest hliteral kind opener inner hinner hopener start body more hmore
      hend token =>
    rename_i ih
    obtain ⟨hsplit, hfront, -⟩ := literal_spec cs
    simp only [hliteral] at hsplit hfront
    obtain ⟨hparts, hkind, htoken⟩ := formed_token hopener hend
    have hcs : cs = text ++ token ++ more := by
      rw [hsplit, hparts, List.append_assoc text]
    rw [partsFrom_eq_token hliteral hopener hend]
    simp only [start, token] at ih
    rcases hlater : partsFrom (offset + byteLength text + byteLength (opener ++ body)) more with
      ⟨fault, place⟩ | later
    · rw [hlater] at ih
      obtain ⟨before, after, kind', hbefore, hplace, hopens⟩ := ih
      refine ⟨text ++ token ++ before, after, kind', ?_, ?_, hopens⟩
      · rw [hcs, hbefore, List.append_assoc _ before]
      · simp only [hplace, token, byteLength_append]
        omega
    · rw [hlater] at ih
      rw [hcs]
      exact ih.token hfront hkind htoken

/-! ## Sources -/

theorem utf8ByteSize_ofList (cs : List Char) : (String.ofList cs).utf8ByteSize = byteLength cs := by
  induction cs with
  | nil => rfl
  | cons c cs ih =>
    rw [String.ofList_cons, String.utf8ByteSize_append, ih]
    simp [byteLength]

theorem byteLength_toList (source : String) : byteLength source.toList = source.utf8ByteSize := by
  rw [← utf8ByteSize_ofList, String.ofList_toList]

/-- A token is what its kind says, and what is read off it is what stands there. -/
def Token.Formed (token : Token) : Prop :=
  match token.kind with
  | .literal => IsLiteral token.text.toList
  | .expression => IsExpression token.text.toList ∧ token.text = "$\x7b" ++ token.body ++ "\x7d"
  | .openTag => IsOpenTag token.text.toList ∧
    match ServerTag.parse token.text with
    | .ok tag => IsName tag.name.toList ∧ Kind.openTag.opening ++ tag.name.toList <+: token.text.toList
    | .error fault => fault ≠ none
  | .closeTag => IsCloseTag token.text.toList ∧ IsName token.closerName.toList ∧
    Kind.closeTag.opening ++ token.closerName.toList <+: token.text.toList

/-- The tokens and literals of a source are all of it. -/
structure Partition (source : String) (tokens : List Token) : Prop where
  /-- The last one is a literal. -/
  odd : tokens.length % 2 = 1
  /-- Literals stand at even places, and tokens at odd ones. -/
  alternates : ∀ i (h : i < tokens.length), tokens[i].kind = .literal ↔ i % 2 = 0
  /-- Nothing is lost. -/
  joins : String.join (tokens.map Token.text) = source
  /-- Each one stands behind all bytes of those before it. -/
  placed : ∀ i (h : i < tokens.length),
    tokens[i].offset = ((tokens.take i).map (·.text.utf8ByteSize)).sum
  /-- No character is cut apart. -/
  bounded : ∀ token ∈ tokens, (⟨token.offset⟩ : String.Pos.Raw).IsValid source ∧
    (⟨token.offset + token.text.utf8ByteSize⟩ : String.Pos.Raw).IsValid source
  /-- Each one is what its kind says. -/
  formed : ∀ token ∈ tokens, token.Formed

/-- A part that is what its kind says is so wherever it is placed. -/
theorem Part.Formed.token {part : Part} (h : part.Formed) (offset : Nat) :
    (⟨part.kind, String.ofList part.text, offset⟩ : Token).Formed := by
  obtain ⟨kind, text⟩ := part
  unfold Token.Formed
  cases kind with
  | literal => simpa [Part.Formed] using h
  | expression =>
    have hexpression : IsExpression text := h
    obtain ⟨body, hbody⟩ := hexpression.1
    have hdropped : (body ++ ['\x7d']).dropLast = body := List.dropLast_concat
    refine ⟨by simpa using hexpression, String.toList_injective ?_⟩
    simp [Token.body, hbody, hdropped]
  | openTag =>
    have htag : IsOpenTag text := h
    exact ⟨by simpa using htag, by simpa using htag.parse⟩
  | closeTag =>
    have htag : IsCloseTag text := h
    obtain ⟨name, hname, hstarts, hcloser⟩ := htag.closerName offset
    refine ⟨by simpa using htag, ?_⟩
    rw [hcloser]
    simpa using ⟨hname, hstarts⟩

section Place

variable {offset : Nat} {found : List Part}

@[simp] theorem length_place : (place offset found).length = found.length := by
  induction found generalizing offset with
  | nil => rfl
  | cons part rest ih => simp [place, ih]

theorem map_text_place :
    (place offset found).map Token.text = found.map fun part => String.ofList part.text := by
  induction found generalizing offset with
  | nil => rfl
  | cons part rest ih => simp [place, ih]

theorem map_kind_place : (place offset found).map Token.kind = found.map Part.kind := by
  induction found generalizing offset with
  | nil => rfl
  | cons part rest ih => simp [place, ih]

/-- Each token stands behind all bytes of those before it. -/
theorem offset_place (offset i : Nat) (h : i < (place offset found).length) :
    (place offset found)[i].offset =
      offset + (((place offset found).take i).map (·.text.utf8ByteSize)).sum := by
  induction found generalizing offset i with
  | nil => cases h
  | cons part rest ih =>
    cases i with
    | zero => rfl
    | succ i =>
      have hrest := ih (offset + byteLength part.text) i (Nat.lt_of_succ_lt_succ h)
      simp only [place, List.getElem_cons_succ, List.take_succ_cons, List.map_cons, List.sum_cons,
        utf8ByteSize_ofList]
      rw [hrest, Nat.add_assoc]

theorem mem_place {token : Token} (h : token ∈ place offset found) :
    ∃ part ∈ found, ∃ place, token = ⟨part.kind, String.ofList part.text, place⟩ := by
  induction found generalizing offset with
  | nil => cases h
  | cons part rest ih =>
    rcases List.mem_cons.1 h with rfl | h
    · exact ⟨part, List.mem_cons_self .., offset, rfl⟩
    · obtain ⟨other, hother, hplace⟩ := ih h
      exact ⟨other, List.mem_cons_of_mem part hother, hplace⟩

end Place

theorem utf8ByteSize_join (texts : List String) :
    (String.join texts).utf8ByteSize = (texts.map String.utf8ByteSize).sum := by
  induction texts with
  | nil => rfl
  | cons text texts ih =>
    rw [String.join_cons, String.utf8ByteSize_append, ih]
    simp

/-- A place behind some of the texts that a string is joined from is not inside of a character. -/
theorem isValid_join (texts : List String) (i : Nat) :
    (⟨((texts.take i).map String.utf8ByteSize).sum⟩ : String.Pos.Raw).IsValid
      (String.join texts) := by
  rw [String.Pos.Raw.isValid_iff_exists_append]
  refine ⟨String.join (texts.take i), String.join (texts.drop i), ?_, ?_⟩
  · rw [← String.join_append, List.take_append_drop]
  · rw [← utf8ByteSize_join]
    rfl

/-- Parts that are placed are a partition. -/
theorem Cut.partition {source : String} {found : List Part} (h : Cut source.toList found) :
    Partition source (place 0 found) := by
  have hjoins : String.join ((place 0 found).map Token.text) = source := by
    apply String.toList_injective
    rw [map_text_place, String.toList_join, ← h.joins, List.flatMap_map, ← List.flatMap_def]
    simp
  have hplaced : ∀ i (h : i < (place 0 found).length), (place 0 found)[i].offset =
      (((place 0 found).take i).map (·.text.utf8ByteSize)).sum := by
    intro i hi
    rw [offset_place 0 i hi, Nat.zero_add]
  have hvalid : ∀ i, (⟨(((place 0 found).take i).map (·.text.utf8ByteSize)).sum⟩ :
      String.Pos.Raw).IsValid source := by
    intro i
    have hjoin := isValid_join ((place 0 found).map Token.text) i
    rwa [hjoins, ← List.map_take, List.map_map] at hjoin
  refine ⟨by simpa using h.odd, fun i hi => ?_, hjoins, hplaced, fun token htoken => ?_,
    fun token htoken => ?_⟩
  · rw [length_place] at hi
    have hkind : ((place 0 found).map Token.kind)[i]? = (found.map Part.kind)[i]? := by
      rw [map_kind_place]
    have hkind : (place 0 found)[i].kind = found[i].kind := by simpa [hi] using hkind
    rw [hkind]
    exact h.alternates i hi
  · obtain ⟨i, hi, rfl⟩ := List.mem_iff_getElem.1 htoken
    have hnext := hvalid (i + 1)
    rw [List.take_succ_eq_append_getElem hi, List.map_append, List.sum_append] at hnext
    rw [hplaced i hi]
    exact ⟨hvalid i, by simpa using hnext⟩
  · obtain ⟨part, hpart, offset, rfl⟩ := mem_place htoken
    exact (h.formed part hpart).token offset

/-- A source is cut into all of it, or the place of an opener is found whose token has no end. -/
theorem tokenize_spec (source : String) :
    match tokenize source with
    | .ok tokens => Partition source tokens
    | .error (_, start) => ∃ before after kind, source = before ++ after ∧
        start = before.utf8ByteSize ∧ Opens kind after.toList := by
  have h := partsFrom_spec 0 source.toList
  unfold tokenize parts
  rcases hparts : partsFrom 0 source.toList with ⟨fault, start⟩ | found
  · rw [hparts] at h
    obtain ⟨before, after, kind, hsplit, hstart, hopens⟩ := h
    refine ⟨String.ofList before, String.ofList after, kind, ?_, ?_, by simpa using hopens⟩
    · rw [← String.ofList_append, ← hsplit, String.ofList_toList]
    · rw [utf8ByteSize_ofList, hstart, Nat.zero_add]
  · rw [hparts] at h
    exact h.partition

end TemplateEngine.Template
