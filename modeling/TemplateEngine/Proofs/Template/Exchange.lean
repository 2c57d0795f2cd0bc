import Mathlib.Data.List.Forall2
import TemplateEngine.Proofs.Template.Uniqueness
import TemplateEngine.Template.Position

/-!
# `Template` · What stands around a token

A token in a text, and what does not depend on how it is written.

* **`NoneOpen`**: no token reaches over the end of a text. All parts of the text are found, or a
  closing tag in it is malformed.
* **`parts_around`**: behind such a text a token stands between the parts of what is in front and
  the parts of what follows, each cut as by itself.
* **`Position.ofOffset_front`**: what stands in front of the token has its line and its column
  whatever follows. What stands behind is moved (`place_moved`).
-/

namespace TemplateEngine.Template

open TemplateEngine.Text

variable {c : Char} {cs text front more token : List Char} {kind : Kind} {found later : List Part}

/-! ## Texts that leave no token open -/

/-- No token is open at the end of a text. All of its tokens have ends, or one is a closing tag that
is malformed. -/
def NoneOpen (cs : List Char) : Prop :=
  ∀ fault start, parts cs = .error (fault, start) → fault = .badCloser

theorem NoneOpen.of_ok (h : parts cs = .ok found) : NoneOpen cs := by
  intro fault start herror
  cases h.symm.trans herror

theorem except_map_ne_error {ε α β : Type} {f : α → β} {x : Except ε α} {e : ε}
    (h : x ≠ .error e) : x.map f ≠ .error e := by
  cases x with
  | error other => exact fun heq => h (congrArg Except.error (Except.error.inj heq))
  | ok a => simp [Except.map]

theorem braced_ne_badCloser (depth : Nat) (cs : List Char) :
    braced depth cs ≠ .error .badCloser := by
  fun_induction braced depth cs with
  | case1 => simp
  | case2 => simp
  | case3 _ _ _ _ _ _ _ _ ih => exact except_map_ne_error ih
  | case4 => simp
  | case5 _ _ _ _ _ _ ih => exact except_map_ne_error ih

theorem tagEnd_ne_badCloser (cs : List Char) : tagEnd cs ≠ .error .badCloser := by
  fun_induction tagEnd cs with
  | case1 => simp
  | case2 => simp
  | case3 _ _ _ _ _ _ _ ih => exact except_map_ne_error ih
  | case4 => simp
  | case5 _ _ _ _ ih => exact except_map_ne_error ih

/-- A character that cannot belong to a closing tag behind its opener. -/
def BreaksCloser (c : Char) : Prop := ¬isNameChar c ∧ ¬isAsciiBlank c ∧ c ≠ '>'

theorem dropWhile_append_break {p : Char → Bool} (hc : ¬p c) (cs : List Char) :
    (cs ++ c :: more).dropWhile p = cs.dropWhile p ++ c :: more := by
  rw [List.dropWhile_append]
  split
  · next hempty => rw [List.isEmpty_iff.1 hempty, List.dropWhile_cons_of_neg hc, List.nil_append]
  · rfl

/-- A malformed closing tag is so in front of such a character. -/
theorem closerEnd_break (hc : BreaksCloser c) (h : closerEnd cs = .error .badCloser) :
    closerEnd (cs ++ c :: more) = .error .badCloser := by
  have hmap := ByteScan.map_closerEnd cs
  have hmap' := ByteScan.map_closerEnd (cs ++ c :: more)
  rw [h] at hmap
  rw [dropWhile_append_break hc.1, dropWhile_append_break hc.2.1] at hmap'
  have hnone : ¬(((cs.dropWhile isNameChar).dropWhile isAsciiBlank ++ c :: more).head?.any
      (· == '>')) := by
    cases hrest : (cs.dropWhile isNameChar).dropWhile isAsciiBlank with
    | nil => simpa using hc.2.2
    | cons d rest =>
      intro hd
      rw [hrest, if_pos (by simpa using hd)] at hmap
      cases hmap
  rw [if_neg hnone] at hmap'
  cases hend : closerEnd (cs ++ c :: more) with
  | error fault =>
    rw [hend] at hmap'
    exact congrArg Except.error (Except.error.inj hmap')
  | ok found =>
    rw [hend] at hmap'
    cases hmap'

/-- A malformed closing tag is found also if such a character follows. -/
theorem partsFrom_break (hc : BreaksCloser c) {offset start : Nat}
    (h : partsFrom offset front = .error (.badCloser, start)) (more : List Char) :
    partsFrom offset (front ++ c :: more) = .error (.badCloser, start) := by
  induction offset, front using partsFrom.induct with
  | case1 offset cs text rest hrest hliteral hopener =>
    rw [partsFrom_eq_literal hliteral hopener] at h
    cases h
  | case2 offset cs text rest hrest hliteral kind opener inner hinner hopener fault hend =>
    obtain ⟨hsplit, hfront, -⟩ := literal_spec cs
    simp only [hliteral] at hsplit hfront
    rw [partsFrom_eq_error hliteral hopener hend] at h
    cases h
    obtain ⟨hopens, rfl, hrest⟩ := opens_of_opener? hopener
    -- The scans for other ends have faults of their own.
    obtain rfl : kind = .closeTag := by
      cases kind with
      | literal => exact absurd hopens id
      | expression => exact absurd hend (braced_ne_badCloser 1 inner)
      | openTag => exact absurd hend (tagEnd_ne_badCloser inner)
      | closeTag => rfl
    have hmore := hopens.append (c :: more)
    obtain ⟨left, hleft, hval⟩ := literal_append hfront hmore
    rw [hsplit, List.append_assoc]
    rw [← hval] at hmore
    obtain ⟨inner', hinner'⟩ := opener?_of_opens hmore
    obtain ⟨-, -, hsplit'⟩ := opens_of_opener? hinner'
    have hinner : inner'.val = inner ++ c :: more := by
      refine List.append_cancel_left (hsplit'.symm.trans (hval.trans ?_))
      rw [hrest, List.append_assoc]
    refine partsFrom_eq_error hleft hinner' ?_
    rw [hinner]
    exact closerEnd_break hc hend
  | case3 offset cs text rest hrest hliteral kind opener inner hinner hopener start body after
      hafter hend token =>
    rename_i ih
    obtain ⟨hsplit, hfront, -⟩ := literal_spec cs
    simp only [hliteral] at hsplit hfront
    obtain ⟨hparts, hkind, htoken⟩ := formed_token hopener hend
    have hbytes : offset + byteLength (text ++ (opener ++ body)) =
        offset + byteLength text + byteLength (opener ++ body) := by
      rw [byteLength_append text, Nat.add_assoc]
    rw [hsplit, hparts, ← List.append_assoc, partsFrom_token hfront hkind htoken, hbytes] at h
    rw [hsplit, hparts, ← List.append_assoc, List.append_assoc _ after,
      partsFrom_token hfront hkind htoken, hbytes]
    cases hlater : partsFrom (offset + byteLength text + byteLength (opener ++ body)) after with
    | error fault =>
      rw [hlater] at h
      cases h
      rw [ih hlater]
      rfl
    | ok later =>
      rw [hlater] at h
      cases h

/-! ## Parts around a token -/

theorem Opens.breaksCloser (h : Opens kind token) :
    ∃ c rest, token = c :: rest ∧ BreaksCloser c := by
  rcases h.starts with ⟨rest, rfl⟩ | ⟨rest, rfl⟩
  · exact ⟨'$', _, rfl, by decide, by decide, by decide⟩
  · exact ⟨'<', _, rfl, by decide, by decide, by decide⟩

/-- A token that stands in no other one is a part between the parts of what is in front and of what
follows. -/
theorem parts_around (hfront : NoneOpen front) (hkind : kind ≠ .literal)
    (htoken : Part.Formed ⟨kind, token⟩) (more : List Char) :
    parts (front ++ token ++ more) = do
      let found ← parts front
      let later ← (parts more).mapError fun fault =>
        (fault.1, byteLength (front ++ token) + fault.2)
      return found ++ ⟨kind, token⟩ :: later := by
  rcases hparts : parts front with ⟨fault, start⟩ | found
  · obtain rfl := hfront fault start hparts
    obtain ⟨-, -, hopens, -⟩ := htoken.tokenEnd hkind
    obtain ⟨c, rest, rfl, hc⟩ := hopens.breaksCloser
    rw [List.append_assoc, List.cons_append]
    exact partsFrom_break hc hparts _
  · rw [(parts_eq_ok_iff.1 hparts).parts_append hkind htoken]
    cases parts more <;> rfl

/-! ## Places -/

theorem takeBytes?_append (front more : List Char) :
    takeBytes? (byteLength front) (front ++ more) = some front := by
  induction front with
  | nil =>
    unfold takeBytes?
    exact if_pos rfl
  | cons c front ih =>
    have hle : c.utf8Size ≤ c.utf8Size + byteLength front := Nat.le_add_right _ _
    have hpos : ¬c.utf8Size + byteLength front = 0 := by
      have := c.utf8Size_pos
      omega
    unfold takeBytes?
    simp only [byteLength, List.cons_append, if_neg hpos, if_pos hle, Nat.add_sub_cancel_left, ih,
      Option.map_some]

/-- A line and a column depend on what stands in front only. -/
theorem Position.ofOffset_front {source : String} (h : source.toList = front ++ more) :
    Position.ofOffset source (byteLength front) = Position.after ⟨1, 1⟩ front := by
  unfold Position.ofOffset
  rw [h, takeBytes?_append]
  rfl

theorem place_append (offset : Nat) (found later : List Part) :
    place offset (found ++ later) =
      place offset found ++ place (offset + byteLength (found.map Part.text).flatten) later := by
  induction found generalizing offset with
  | nil => rfl
  | cons part found ih =>
    simp only [List.cons_append, place, List.map_cons, List.flatten_cons, byteLength_append]
    rw [ih, Nat.add_assoc]

/-- A token stands behind the parts in front of it, and the others behind it. -/
theorem Cut.place_around (h : Cut front found) (later : List Part) :
    place 0 (found ++ ⟨kind, token⟩ :: later) =
      place 0 found ++ ⟨kind, String.ofList token, byteLength front⟩ ::
        place (byteLength (front ++ token)) later := by
  rw [place_append, h.joins, Nat.zero_add, byteLength_append]
  rfl

/-- Each part stands behind a front of the text. -/
theorem exists_front_of_mem_place {offset : Nat} {part : Token} (h : part ∈ place offset found) :
    ∃ front more, (found.map Part.text).flatten = front ++ more ∧
      part.offset = offset + byteLength front := by
  induction found generalizing offset with
  | nil => cases h
  | cons first found ih =>
    rcases List.mem_cons.1 h with rfl | h
    · exact ⟨[], _, rfl, rfl⟩
    · obtain ⟨front, more, hflatten, hoffset⟩ := ih h
      refine ⟨first.text ++ front, more, by simp [hflatten], ?_⟩
      rw [hoffset, byteLength_append, Nat.add_assoc]

/-- The same parts behind two places, each as far behind the one as behind the other. -/
theorem place_moved {R : Token → Token → Prop} {base base' : Nat}
    (h : ∀ kind text distance, R ⟨kind, text, base + distance⟩ ⟨kind, text, base' + distance⟩)
    (found : List Part) (distance : Nat) :
    List.Forall₂ R (place (base + distance) found) (place (base' + distance) found) := by
  induction found generalizing distance with
  | nil => exact .nil
  | cons part found ih =>
    refine .cons (h ..) ?_
    rw [Nat.add_assoc, Nat.add_assoc]
    exact ih _

end TemplateEngine.Template
