import TemplateEngine.Proofs.Template.Exchange

/-!
# `Template` · Sources put together

Where a token ends, what stands in front has no bearing on what follows, nor the other way round.

* **`Cut.parts_ended`**: behind a text that ends with a token, a text is cut as it is by itself.
  This is `Cut.parts_append` for the last token of the text.
* **`Part.Formed.parts_alone`**: a token is all that there is in its own text.
* **`tokenize_append`** says both of sources. What follows is moved (`Token.moved`) by the bytes in
  front of it.
-/

namespace TemplateEngine.Template

open TemplateEngine.Text

variable {cs token : List Char} {kind : Kind} {before found : List Part}

/-! ## Places -/

/-- A token that stands some bytes further behind. -/
def Token.moved (bytes : Nat) (token : Token) : Token :=
  { token with offset := bytes + token.offset }

theorem place_add (base offset : Nat) (found : List Part) :
    place (base + offset) found = (place offset found).map (Token.moved base) := by
  induction found generalizing offset with
  | nil => rfl
  | cons part found ih =>
    rw [place, place, List.map_cons, Nat.add_assoc, ih]
    rfl

/-! ## Parts -/

/-- A text whose last literal is empty ends with a token, or is empty itself. -/
theorem Cut.ended (h : Cut cs (before ++ [⟨.literal, []⟩])) :
    (cs = [] ∧ before = []) ∨
      ∃ front kind token found, Cut front found ∧ kind ≠ .literal ∧ Part.Formed ⟨kind, token⟩ ∧
        cs = front ++ token ∧ before = found ++ [⟨kind, token⟩] := by
  rcases List.eq_nil_or_concat before with rfl | ⟨found, ⟨kind, token⟩, rfl⟩
  · exact .inl ⟨by simpa using h.joins.symm, rfl⟩
  rw [List.concat_eq_append] at h ⊢
  have hodd : found.length % 2 = 1 := by
    have hodd := h.odd
    simp only [List.length_append, List.length_singleton] at hodd
    omega
  have hfound : Cut (found.map Part.text).flatten found := by
    refine ⟨rfl, hodd, fun i hi => ?_, fun part hpart => h.formed part (by simp [hpart])⟩
    have halternates := h.alternates i (by simp; omega)
    rwa [List.getElem_append_left (by simp; omega), List.getElem_append_left hi] at halternates
  have hkind : kind ≠ .literal := by
    intro heq
    have halternates := h.alternates found.length (by simp)
    simp [heq, hodd] at halternates
  have htoken : Part.Formed ⟨kind, token⟩ := h.formed _ (by simp)
  exact .inr ⟨_, kind, token, found, hfound, hkind, htoken, by simpa using h.joins.symm, rfl⟩

/-- Behind a text that ends with a token, or an empty one, a text is cut as it is by itself. -/
theorem Cut.parts_ended (h : Cut cs (before ++ [⟨.literal, []⟩])) (more : List Char) :
    parts (cs ++ more) = ((parts more).map (before ++ ·)).mapError fun fault =>
      (fault.1, byteLength cs + fault.2) := by
  rcases h.ended with ⟨rfl, rfl⟩ | ⟨front, kind, token, found, hfound, hkind, htoken, rfl, rfl⟩
  · cases hparts : parts more <;> simp [Except.map, Except.mapError, byteLength, hparts]
  · rw [hfound.parts_append hkind htoken]
    simp

/-- A token is all that there is in its own text. -/
theorem Part.Formed.parts_alone (h : Part.Formed ⟨kind, token⟩) (hkind : kind ≠ .literal) :
    parts token = .ok [⟨.literal, []⟩, ⟨kind, token⟩, ⟨.literal, []⟩] := by
  have hcut : Cut ([] ++ token ++ []) [⟨.literal, []⟩, ⟨kind, token⟩, ⟨.literal, []⟩] :=
    (Cut.literal isLiteral_nil).token isLiteral_nil hkind h
  rw [List.nil_append, List.append_nil] at hcut
  exact parts_eq_ok_iff.2 hcut

/-! ## Sources -/

theorem tokenize_eq_ok {source : String} {tokens : List Token} (h : tokenize source = .ok tokens) :
    ∃ found, Cut source.toList found ∧ tokens = place 0 found := by
  obtain ⟨found, hfound, rfl⟩ := except_map_eq_ok h
  exact ⟨found, parts_eq_ok_iff.1 hfound, rfl⟩

/-- The parts of a source whose last literal is empty. -/
theorem cut_of_ended {first : String} {front : List Token} {last : Token}
    (h : tokenize first = .ok (front ++ [last])) (hempty : last.text = "") :
    ∃ before, Cut first.toList (before ++ [⟨.literal, []⟩]) ∧ front = place 0 before := by
  obtain ⟨found, hcut, hplace⟩ := tokenize_eq_ok h
  rcases List.eq_nil_or_concat found with rfl | ⟨before, part, rfl⟩
  · exact absurd hcut.odd (by simp)
  rw [List.concat_eq_append] at hcut hplace
  rw [place_append] at hplace
  obtain ⟨hfront, hlast⟩ := List.append_inj' hplace rfl
  have hodd := hcut.odd
  rw [List.length_append, List.length_singleton] at hodd
  have hkind : part.kind = .literal := by
    have halternates := hcut.alternates before.length (by simp)
    simp only [List.getElem_concat_length] at halternates
    exact halternates.2 (by omega)
  have htext : part.text = [] := by
    rw [List.singleton_inj.1 hlast] at hempty
    simpa using hempty
  exact ⟨before, by rwa [← hkind, ← htext], hfront⟩

/-- Behind a source whose last literal is empty, a source has the parts that it has by itself. -/
theorem tokenize_behind {first : String} (h : Cut first.toList (before ++ [⟨.literal, []⟩]))
    (rest : String) :
    tokenize (first ++ rest) =
      ((tokenize rest).map fun tokens =>
        place 0 before ++ tokens.map (Token.moved first.utf8ByteSize)).mapError fun fault =>
          (fault.1, first.utf8ByteSize + fault.2) := by
  have hbytes : byteLength (before.map Part.text).flatten = first.utf8ByteSize := by
    rw [← byteLength_toList, ← h.joins]
    simp
  unfold tokenize
  rw [String.toList_append, h.parts_ended, byteLength_toList]
  cases parts rest.toList with
  | error fault => rfl
  | ok found =>
    show Except.ok (place 0 (before ++ found)) = _
    rw [place_append, Nat.zero_add, hbytes, ← Nat.add_zero first.utf8ByteSize, place_add]
    rfl

/-- **Sources put together.** Behind a source whose last part is an empty literal, a source has the
parts that it has by itself, moved by the bytes in front; they stand in the place of the empty
literal. If it has none, because a token has no end, then that token has none there either. And the
text of a token, by itself, is that token between empty literals. -/
theorem tokenize_append :
    (∀ (first rest : String) (front : List Token) (last : Token),
      tokenize first = .ok (front ++ [last]) → last.text = "" →
        (∀ tokens, tokenize rest = .ok tokens → tokenize (first ++ rest) =
          .ok (front ++ tokens.map (Token.moved first.utf8ByteSize))) ∧
        ∀ fault start, tokenize rest = .error (fault, start) →
          tokenize (first ++ rest) = .error (fault, first.utf8ByteSize + start)) ∧
    ∀ source tokens, tokenize source = .ok tokens → ∀ token ∈ tokens, token.kind ≠ .literal →
      tokenize token.text = .ok [⟨.literal, "", 0⟩, ⟨token.kind, token.text, 0⟩,
        ⟨.literal, "", token.text.utf8ByteSize⟩] := by
  refine ⟨fun first rest front last hfirst hempty => ?_,
    fun source tokens h token htoken hkind => ?_⟩
  · obtain ⟨before, hcut, rfl⟩ := cut_of_ended hfirst hempty
    have hbehind := tokenize_behind hcut rest
    refine ⟨fun tokens htokens => ?_, fun fault start hfault => ?_⟩
    · rw [hbehind, htokens]
      rfl
    · rw [hbehind, hfault]
      rfl
  · obtain ⟨found, hcut, rfl⟩ := tokenize_eq_ok h
    obtain ⟨part, hpart, offset, rfl⟩ := mem_place htoken
    have halone := (hcut.formed part hpart).parts_alone hkind
    rw [tokenize, String.toList_ofList, halone]
    simp [Except.map, place, byteLength, utf8ByteSize_ofList]

/-- A token that holds a brace in quotes, in front of a token and of one that has no end. -/
theorem tokenize_append_quoted :
    tokenize "é<$\x7b'\x7d'\x7d" =
        .ok ([⟨.literal, "é<", 0⟩, ⟨.expression, "$\x7b'\x7d'\x7d", 3⟩] ++ [⟨.literal, "", 9⟩]) ∧
      tokenize ":v</$:v >" =
        .ok [⟨.literal, ":v", 0⟩, ⟨.closeTag, "</$:v >", 2⟩, ⟨.literal, "", 9⟩] ∧
      tokenize ("é<$\x7b'\x7d'\x7d" ++ ":v</$:v >") =
        .ok [⟨.literal, "é<", 0⟩, ⟨.expression, "$\x7b'\x7d'\x7d", 3⟩, ⟨.literal, ":v", 9⟩,
          ⟨.closeTag, "</$:v >", 11⟩, ⟨.literal, "", 18⟩] ∧
      tokenize "'<$:v k='>" = .error (.openAttribute, 1) ∧
      tokenize ("é<$\x7b'\x7d'\x7d" ++ "'<$:v k='>") = .error (.openAttribute, 10) ∧
      tokenize "$\x7b'\x7d'\x7d" = .ok [⟨.literal, "", 0⟩, ⟨.expression, "$\x7b'\x7d'\x7d", 0⟩,
        ⟨.literal, "", 6⟩] := by
  have hfirst : tokenize "é<$\x7b'\x7d'\x7d" =
      .ok ([⟨.literal, "é<", 0⟩, ⟨.expression, "$\x7b'\x7d'\x7d", 3⟩] ++ [⟨.literal, "", 9⟩]) := by
    decide +kernel
  have hrest : tokenize ":v</$:v >" =
      .ok [⟨.literal, ":v", 0⟩, ⟨.closeTag, "</$:v >", 2⟩, ⟨.literal, "", 9⟩] := by decide +kernel
  have hfault : tokenize "'<$:v k='>" = .error (.openAttribute, 1) := by decide +kernel
  have hbehind := fun rest => tokenize_append.1 _ rest _ _ hfirst rfl
  exact ⟨hfirst, hrest, (hbehind _).1 _ hrest, hfault, (hbehind _).2 _ _ hfault,
    tokenize_append.2 _ _ hfirst ⟨.expression, "$\x7b'\x7d'\x7d", 3⟩ (by simp) nofun⟩

end TemplateEngine.Template
