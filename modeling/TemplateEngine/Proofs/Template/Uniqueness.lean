import TemplateEngine.Proofs.Template.Bytes
import TemplateEngine.Proofs.Template.Embedding
import TemplateEngine.Proofs.Text.Cutting

/-!
# `Template` · The only partition

A text can be cut into literals and tokens in one way only, and that is the one which is found:
where a token ends, and where the next one starts, can be seen without the rest of the text.

* **`quoted?_append`**, **`EndsBraces.closes`**, **`tagEnd_append`**, **`closerEnd_append`**: a
  token ends where it ends, whatever follows.
* **`parts_eq_ok_iff`**: the parts of a text are any alternation of literals and tokens that it can
  be joined from.
* **`Cut.parts_append`**: around a token the parts in front of it and those behind it are found as
  they are by themselves.
-/

namespace TemplateEngine.Template

open TemplateEngine.Text

variable {c quote : Char} {cs text more inner body : List Char} {kind : Kind} {depth : Nat}

/-! ## Quoted text -/

/-- A quoted text ends where it ends, whatever follows. -/
theorem quoted?_append {rest : Shorter cs} (h : quoted? quote cs = some (text, rest))
    (more : List Char) : ∃ left, quoted? quote (text ++ more) = some (text, left) ∧
      left.val = more := by
  fun_induction quoted? quote cs generalizing text with
  | case1 => cases h
  | case2 => cases h
  | case3 c cs ih =>
    obtain ⟨⟨within, after⟩, hwithin, heq⟩ := Option.map_eq_some_iff.1 h
    cases heq
    obtain ⟨left, hleft, hval⟩ := ih hwithin
    refine ⟨left.cons.cons, ?_, hval⟩
    simp [quoted?, hleft]
  | case4 cs hlast hescape =>
    cases h
    have hquote : quote ≠ '\\' := ne_backslash hlast hescape
    refine ⟨.tail _ more, ?_, rfl⟩
    show quoted? quote (quote :: more) = _
    rw [quoted?, if_pos rfl]
    all_goals simp [hquote]
  | case5 c cs hlast hescape hother ih =>
    have hslash : c ≠ '\\' := ne_backslash hlast hescape
    obtain ⟨⟨within, after⟩, hwithin, heq⟩ := Option.map_eq_some_iff.1 h
    cases heq
    obtain ⟨left, hleft, hval⟩ := ih hwithin
    refine ⟨left.cons, ?_, hval⟩
    show quoted? quote (c :: (within ++ more)) = _
    rw [quoted?, if_neg hother, hleft]
    · rfl
    all_goals simp [hslash]

/-- A quoted text that is not closed reaches to the end. -/
theorem bare_within_of_none (isQuote : Char → Bool) (h : quoted? quote cs = none) :
    (Quoting.within quote).bare isQuote cs = [] := by
  fun_induction quoted? quote cs with
  | case1 => rfl
  | case2 => rfl
  | case3 c cs ih => exact Quoting.bare_escape.trans (ih (by simpa using h))
  | case4 => cases h
  | case5 c cs hlast hescape hother ih =>
    have hslash : c ≠ '\\' := ne_backslash hlast hescape
    exact (Quoting.bare_within hslash hother).trans (ih (by simpa using h))

/-! ## Tokens -/

/-- As many braces as are open are closed at the end of a text, and not before. -/
structure EndsBraces (depth : Nat) (text : List Char) : Prop where
  /-- All braces are closed at the end. -/
  closed : depth + openBraces text = 0
  /-- Before, some are open. -/
  first : ∀ front, front <+: text → front ≠ text → 0 < depth + openBraces front

/-- A front of the text opens and closes what it does, and the rest the others. -/
theorem EndsBraces.tail {deeper : Nat} (front : List Char) (h : EndsBraces depth (front ++ text))
    (hfront : ∀ more, depth + openBraces (front ++ more) = deeper + openBraces more) :
    EndsBraces deeper text where
  closed := by rw [← hfront, h.closed]
  first more hstarts hproper := by
    rw [← hfront]
    exact h.first (front ++ more) (by simpa using hstarts) (by simpa using hproper)

/-- An expression ends where its braces do. -/
theorem EndsBraces.closes (hdepth : 0 < depth) (h : EndsBraces depth text) (more : List Char) :
    Closes depth (text ++ more) text more := by
  induction hlength : text.length using Nat.strongRecOn generalizing depth text with
  | ind length ih =>
    cases text with
    | nil =>
      have hclosed := h.closed
      rw [openBraces_nil] at hclosed
      omega
    | cons c text =>
      rw [List.length_cons] at hlength
      by_cases hquote : isQuote c
      · cases hquoted : quoted? c text with
        | none =>
          -- A text that is not closed hides all braces behind it.
          have hnone : openBraces (c :: text) = 0 := by
            unfold openBraces
            rw [Quoting.bare_outside_quote hquote, bare_within_of_none isQuote hquoted]
            rfl
          have hclosed := h.closed
          omega
        | some found =>
          obtain ⟨within, behind, hshorter⟩ := found
          have hspec := quoted?_eq_some isQuote (ne_backslash_of_isQuote hquote) hquoted
          obtain rfl : text = within ++ behind := hspec.1
          obtain ⟨left, hleft, hval⟩ := quoted?_append hquoted (behind ++ more)
          have hrest : EndsBraces depth behind := by
            refine EndsBraces.tail (c :: within) h fun more => ?_
            rw [List.cons_append, openBraces_quoted hquote hquoted]
          have hcloses := Closes.quoted hquote hleft
            (hval ▸ ih behind.length (by omega) hdepth hrest rfl)
          simpa using hcloses
      · have htail : ∀ deeper : Nat, (depth : Int) +
            (if c = '\x7b' then 1 else if c = '\x7d' then -1 else 0) = deeper →
              EndsBraces deeper text := by
          intro deeper hdeeper
          refine EndsBraces.tail [c] h fun more => ?_
          rw [List.singleton_append, openBraces_cons hquote, ← hdeeper, Int.add_assoc]
        have hlater : ∀ {deeper : Nat}, 0 < deeper → EndsBraces deeper text →
            Closes deeper (text ++ more) text more :=
          fun hpos hends => ih text.length (by omega) hpos hends rfl
        by_cases hopen : c = '\x7b'
        · subst hopen
          exact (hlater (Nat.succ_pos depth) (htail _ rfl)).opening
        by_cases hclose : c = '\x7d'
        · subst hclose
          obtain ⟨deeper, rfl⟩ := Nat.exists_eq_add_of_le' hdepth
          have hrest := htail deeper (by rw [if_neg (by decide), if_pos rfl]; omega)
          rcases Nat.eq_zero_or_pos deeper with rfl | hpos
          · -- The last brace is closed, so that nothing else may follow.
            cases text with
            | nil => exact closes_end
            | cons d text =>
              have hnone := hrest.first [] List.nil_prefix (by simp)
              rw [openBraces_nil] at hnone
              omega
          · exact (hlater hpos hrest).closing hpos
        · have hbare : isBare c := by simp [isBare, hquote, hopen, hclose]
          exact (hlater hdepth (htail depth (by simp [hopen, hclose]))).bare hbare

theorem tagEnd_quoted {rest : Shorter cs} (hc : isTagQuote c)
    (h : quoted? c cs = some (text, rest)) :
    (tagEnd (c :: cs)).map Prod.fst = ((tagEnd rest.val).map Prod.fst).map (c :: text ++ ·) := by
  rw [tagEnd, if_pos hc]
  simp only [h, except_map_map]
  rfl

theorem tagEnd_bare (hc : ¬isTagQuote c) (hclose : c ≠ '>') :
    (tagEnd (c :: cs)).map Prod.fst = ((tagEnd cs).map Prod.fst).map (c :: ·) := by
  rw [tagEnd, if_neg hc, if_neg hclose, except_map_map, except_map_map]
  rfl

/-- An opening tag ends at its first `>` outside of quoted text, whatever follows. -/
theorem tagEnd_append (hfirst : '>' ∉ Quoting.outside.bare isTagQuote inner)
    (hlast : '>' ∈ Quoting.outside.bare isTagQuote (inner ++ ['>'])) (more : List Char) :
    (tagEnd (inner ++ '>' :: more)).map Prod.fst = .ok (inner ++ ['>']) := by
  induction hlength : inner.length using Nat.strongRecOn generalizing inner with
  | ind length ih =>
    cases inner with
    | nil =>
      rw [List.nil_append, tagEnd]
      rfl
    | cons c inner =>
      rw [List.length_cons] at hlength
      by_cases hquote : isTagQuote c
      · rw [List.cons_append, Quoting.bare_outside_quote hquote] at hlast
        rw [Quoting.bare_outside_quote hquote] at hfirst
        cases hquoted : quoted? c (inner ++ ['>']) with
        | none =>
          -- A value that is not closed hides the end of the tag.
          rw [bare_within_of_none isTagQuote hquoted] at hlast
          cases hlast
        | some found =>
          obtain ⟨within, rest⟩ := found
          obtain ⟨hsplit, hbare, -⟩ :=
            quoted?_eq_some isTagQuote (ne_backslash_of_isTagQuote hquote) hquoted
          rw [hsplit, hbare] at hlast
          rcases List.eq_nil_or_concat rest.val with hnil | ⟨behind, d, hbehind⟩
          · rw [hnil] at hlast
            cases hlast
          rw [hbehind, List.concat_eq_append] at hsplit hlast
          rw [← List.append_assoc] at hsplit
          obtain ⟨rfl, hd⟩ := List.append_inj' hsplit rfl
          obtain rfl := (List.cons.inj hd).1
          obtain ⟨left, hleft, hval⟩ := quoted?_append hquoted (behind ++ '>' :: more)
          rw [hbare] at hfirst
          have hrest := ih behind.length (by simp at hlength; omega) hfirst hlast rfl
          have hcs : c :: (within ++ behind) ++ '>' :: more =
              c :: (within ++ (behind ++ '>' :: more)) := by simp
          rw [hcs, tagEnd_quoted hquote hleft, hval, hrest]
          simp [Except.map]
      · rw [Quoting.bare_outside hquote, List.mem_cons, not_or] at hfirst
        rw [List.cons_append, Quoting.bare_outside hquote] at hlast
        have hclose : c ≠ '>' := Ne.symm hfirst.1
        have hrest := ih inner.length (by omega) hfirst.2
          ((List.mem_cons.1 hlast).resolve_left hfirst.1) rfl
        rw [List.cons_append, tagEnd_bare hquote hclose, hrest]
        rfl

/-- A closing tag ends behind its name and blanks, whatever follows. -/
theorem closerEnd_append {name blanks : List Char} (hname : ∀ c ∈ name, isNameChar c)
    (hblanks : ∀ c ∈ blanks, isAsciiBlank c) (more : List Char) :
    (closerEnd (name ++ blanks ++ '>' :: more)).map Prod.fst = .ok (name ++ blanks ++ ['>']) := by
  have hend : ¬isNameChar '>' ∧ ¬isAsciiBlank '>' := by decide
  have hbehind : ∀ c ∈ (blanks ++ '>' :: more).head?, ¬isNameChar c := by
    cases blanks with
    | nil => simp [hend.1]
    | cons c blanks =>
      rintro d ⟨⟩ hd
      exact not_isBlank_of_isNameChar hd
        (isBlank_of_isAsciiBlank (hblanks c (List.mem_cons_self ..)))
  have hstop : ∀ c ∈ ('>' :: more).head?, ¬isAsciiBlank c := by simp [hend.2]
  rw [ByteScan.map_closerEnd, List.append_assoc, takeWhile_append_boundary hname hbehind,
    dropWhile_append_boundary hname hbehind, takeWhile_append_boundary hblanks hstop,
    dropWhile_append_boundary hblanks hstop]
  rfl

/-- What is known of a token is enough to find its end, whatever follows. -/
theorem Part.Formed.tokenEnd {token : List Char} (h : Part.Formed ⟨kind, token⟩)
    (hkind : kind ≠ .literal) :
    ∃ body, token = kind.opening ++ body ∧ Opens kind token ∧
      ∀ more, (Template.tokenEnd kind (body ++ more)).map Prod.fst = .ok body := by
  cases kind with
  | literal => exact absurd rfl hkind
  | expression =>
    obtain ⟨⟨body, rfl⟩, hclosed, hfirst⟩ := h
    refine ⟨body ++ ['\x7d'], by simp [Kind.opening], ⟨body ++ ['\x7d'], by simp⟩, fun more => ?_⟩
    have hopening : ∀ more, openBraces (['$', '\x7b'] ++ more) = 1 + openBraces more := by
      intro more
      rw [List.cons_append, openBraces_cons (by decide), List.singleton_append,
        openBraces_cons (by decide)]
      simp
    have hends : EndsBraces 1 (body ++ ['\x7d']) := by
      refine ⟨?_, fun front hstarts hproper => ?_⟩
      · rw [List.append_assoc, hopening] at hclosed
        exact hclosed
      · have hfront := hfirst (['$', '\x7b'] ++ front) (List.prefix_append _ _)
          (by simpa using hstarts) (by simpa using hproper)
        rw [hopening] at hfront
        exact hfront
    obtain ⟨left, hleft, -⟩ := hends.closes Nat.one_pos more
    exact (congrArg (Except.map Prod.fst) hleft).trans rfl
  | openTag =>
    have htag : IsOpenTag token := h
    obtain ⟨hopens, inner, rfl, hfirst, hlast⟩ := htag
    -- The `>` stands behind the opener, since a name does not start with it.
    obtain ⟨inner, rfl⟩ : ∃ after, inner = ['<', '$', ':'] ++ after := by
      obtain ⟨c, hc, rest, hrest⟩ := hopens
      rcases List.eq_nil_or_concat rest with rfl | ⟨rest, d, rfl⟩
      · have hrest : ['<', '$', ':'] ++ [c] = inner ++ ['>'] := hrest
        obtain ⟨-, hlast⟩ := List.append_inj' hrest rfl
        obtain rfl := (List.cons.inj hlast).1
        cases hc
      · rw [List.concat_eq_append, ← List.append_assoc] at hrest
        obtain ⟨rfl, -⟩ := List.append_inj' hrest rfl
        exact ⟨c :: rest, rfl⟩
    have hopening : ∀ more, Quoting.outside.bare isTagQuote (['<', '$', ':'] ++ more) =
        ['<', '$', ':'] ++ Quoting.outside.bare isTagQuote more := fun _ => rfl
    rw [List.append_assoc, hopening] at hlast
    rw [hopening] at hfirst
    refine ⟨inner ++ ['>'], by simp [Kind.opening], hopens, fun more => ?_⟩
    have hend := tagEnd_append (fun hmem => hfirst (List.mem_append_right _ hmem))
      (by simpa using hlast) more
    rw [List.append_assoc]
    exact hend
  | closeTag =>
    obtain ⟨name, blanks, hname, hblanks, rfl⟩ := h
    have hchars := hname.isNameChar
    obtain ⟨c, rest, rfl, hc, -⟩ := hname
    refine ⟨c :: rest ++ blanks ++ ['>'], by simp [Kind.opening],
      ⟨c, hc, rest ++ blanks ++ ['>'], by simp⟩, fun more => ?_⟩
    have hend := closerEnd_append hchars hblanks more
    rw [List.append_assoc _ ['>']]
    exact hend

/-! ## Cuts -/

/-- A token is found where it starts, and ends where it ends. -/
theorem Part.Formed.found {token : List Char} (h : Part.Formed ⟨kind, token⟩)
    (hkind : kind ≠ .literal) (more : List Char) :
    ∃ (inner : Shorter (token ++ more)) (body : List Char) (rest : Shorter inner.val),
      opener? (token ++ more) = some (kind, kind.opening, inner) ∧ token = kind.opening ++ body ∧
        Template.tokenEnd kind inner.val = .ok (body, rest) ∧ rest.val = more := by
  obtain ⟨body, rfl, hopens, hend⟩ := h.tokenEnd hkind
  obtain ⟨inner, hinner⟩ := opener?_of_opens (hopens.append more)
  obtain ⟨-, -, hsplit⟩ := opens_of_opener? hinner
  have hval : inner.val = body ++ more := by simpa using hsplit.symm
  have hrest := hend more
  rw [← hval] at hrest
  obtain ⟨⟨body', rest⟩, hrest, heq⟩ := except_map_eq_ok hrest
  obtain rfl : body' = body := heq
  obtain ⟨hall, -⟩ := formed_token hinner hrest
  exact ⟨inner, _, rest, hinner, rfl, hrest, (List.append_cancel_left hall).symm⟩

/-- A cut is one literal, or a literal and a token in front of another cut. -/
theorem Cut.cases {found : List Part} (h : Cut cs found) :
    (IsLiteral cs ∧ found = [⟨.literal, cs⟩]) ∨
      ∃ front kind token rest later, IsLiteral front ∧ kind ≠ .literal ∧
        Part.Formed ⟨kind, token⟩ ∧ Cut rest later ∧ cs = front ++ token ++ rest ∧
          found = ⟨.literal, front⟩ :: ⟨kind, token⟩ :: later := by
  match found, h with
  | [], h => exact absurd h.odd (by simp)
  | [part], h =>
    obtain ⟨kind, text⟩ := part
    obtain rfl : kind = .literal := (h.alternates 0 (by simp)).2 rfl
    obtain rfl : text = cs := by simpa using h.joins
    exact .inl ⟨h.formed _ (List.mem_singleton_self _), rfl⟩
  | first :: second :: later, h =>
    obtain ⟨kind, front⟩ := first
    obtain ⟨kind', token⟩ := second
    obtain rfl : kind = .literal := (h.alternates 0 (by simp)).2 rfl
    have hkind : kind' ≠ .literal := fun heq =>
      absurd ((h.alternates 1 (by simp)).1 heq) (by decide)
    have hfront : Part.Formed ⟨.literal, front⟩ := h.formed _ (by simp)
    refine .inr ⟨front, kind', token, (later.map Part.text).flatten, later,
      hfront, hkind, h.formed _ (by simp), ⟨rfl, ?_, fun i hi => ?_, ?_⟩, ?_, rfl⟩
    · have hodd := h.odd
      simpa [Nat.add_assoc, Nat.add_mod_right] using hodd
    · have hlater := h.alternates (i + 2) (by simpa using hi)
      rw [Nat.add_mod_right] at hlater
      simpa using hlater
    · exact fun part hpart => h.formed part (by simp [hpart])
    · simpa using h.joins.symm

/-- A token behind a literal, in front of more parts. -/
theorem partsFrom_token {front token : List Char} (hfront : IsLiteral front)
    (hkind : kind ≠ .literal) (htoken : Part.Formed ⟨kind, token⟩) (offset : Nat)
    (more : List Char) :
    partsFrom offset (front ++ token ++ more) =
      (partsFrom (offset + byteLength (front ++ token)) more).map fun later =>
        ⟨.literal, front⟩ :: ⟨kind, token⟩ :: later := by
  obtain ⟨inner, body, rest, hinner, rfl, hend, hrest⟩ := htoken.found hkind more
  have hopens := (opens_of_opener? hinner).1
  obtain ⟨⟨_, hleft⟩, hliteral, rfl⟩ := literal_append hfront hopens
  rw [List.append_assoc, partsFrom_eq_token hliteral hinner hend, hrest, byteLength_append front,
    Nat.add_assoc]

/-- The parts of a text are any alternation of literals and tokens that it can be joined from. -/
theorem partsFrom_of_cut {found : List Part} (h : Cut cs found) (offset : Nat) :
    partsFrom offset cs = .ok found := by
  induction hlength : found.length using Nat.strongRecOn generalizing cs found offset with
  | ind length ih =>
    rcases h.cases with ⟨hliteral, rfl⟩ |
      ⟨front, kind, token, rest, later, hfront, hkind, htoken, hlater, rfl, rfl⟩
    · exact partsFrom_literal hliteral offset
    · have hlength : later.length < length := by simp at hlength; omega
      rw [partsFrom_token hfront hkind htoken, ih later.length hlength hlater _ rfl]
      rfl

theorem parts_eq_ok_iff {found : List Part} : parts cs = .ok found ↔ Cut cs found := by
  refine ⟨fun h => ?_, fun h => partsFrom_of_cut h 0⟩
  have hspec := partsFrom_spec 0 cs
  rw [parts] at h
  rw [h] at hspec
  exact hspec

/-! ## Parts around a token -/

/-- Where a text stands makes no difference to its parts. -/
theorem partsFrom_add (base offset : Nat) (cs : List Char) :
    partsFrom (base + offset) cs =
      (partsFrom offset cs).mapError fun fault => (fault.1, base + fault.2) := by
  induction offset, cs using partsFrom.induct with
  | case1 offset cs text rest hrest hliteral hopener =>
    rw [partsFrom_eq_literal hliteral hopener, partsFrom_eq_literal hliteral hopener]
    rfl
  | case2 offset cs text rest hrest hliteral kind opener inner hinner hopener fault hend =>
    rw [partsFrom_eq_error hliteral hopener hend, partsFrom_eq_error hliteral hopener hend,
      Nat.add_assoc]
    rfl
  | case3 offset cs text rest hrest hliteral kind opener inner hinner hopener start body more hmore
      hend token =>
    rename_i ih
    rw [partsFrom_eq_token hliteral hopener hend, partsFrom_eq_token hliteral hopener hend,
      Nat.add_assoc base, Nat.add_assoc base, ih]
    cases partsFrom (start + byteLength token) more <;> rfl

/-- Behind parts and a token, what follows is cut as it is by itself. -/
theorem Cut.partsFrom_append {front token : List Char} {found : List Part} (h : Cut front found)
    (hkind : kind ≠ .literal) (htoken : Part.Formed ⟨kind, token⟩) (offset : Nat)
    (more : List Char) :
    partsFrom offset (front ++ token ++ more) =
      (partsFrom (offset + byteLength (front ++ token)) more).map fun later =>
        found ++ ⟨kind, token⟩ :: later := by
  induction hlength : found.length using Nat.strongRecOn generalizing front found offset with
  | ind length ih =>
    rcases h.cases with ⟨hliteral, rfl⟩ |
      ⟨first, kind', token', rest, later, hfirst, hkind', htoken', hlater, rfl, rfl⟩
    · exact partsFrom_token hliteral hkind htoken offset more
    · have hlength : later.length < length := by simp at hlength; omega
      have hsplit : first ++ token' ++ rest ++ token ++ more =
          first ++ token' ++ (rest ++ token ++ more) := by simp
      have hbytes : offset + byteLength (first ++ token') + byteLength (rest ++ token) =
          offset + byteLength (first ++ token' ++ rest ++ token) := by
        rw [Nat.add_assoc, ← byteLength_append, List.append_assoc _ rest]
      rw [hsplit, partsFrom_token hfirst hkind' htoken', ih later.length hlength hlater _ rfl,
        except_map_map, hbytes]
      rfl

/-- A fault behind the token stands as far behind it as in the text by itself. -/
theorem Cut.parts_append {front token : List Char} {found : List Part} (h : Cut front found)
    (hkind : kind ≠ .literal) (htoken : Part.Formed ⟨kind, token⟩) (more : List Char) :
    parts (front ++ token ++ more) =
      ((parts more).map fun later => found ++ ⟨kind, token⟩ :: later).mapError fun fault =>
        (fault.1, byteLength (front ++ token) + fault.2) := by
  have hmoved := partsFrom_add (byteLength (front ++ token)) 0 more
  rw [Nat.add_zero] at hmoved
  unfold parts
  rw [h.partsFrom_append hkind htoken, Nat.zero_add, hmoved]
  cases partsFrom 0 more <;> rfl

end TemplateEngine.Template
