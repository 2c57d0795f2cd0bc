import Mathlib.Data.List.Induction
import TemplateEngine.Proofs.Template.Joining
import TemplateEngine.Template.Excerpt

/-!
# `Template` · What excerpts show

Where an excerpt says that something failed, and what it shows around that.

* **Places** (`Position.before_after`): all text leads on to a later line or column. So of two
  offsets the one in front has the earlier place (`Position.Before`), and no two have the same.
* **`Window`**: the parts around one of them, cut into those that are shown and those that are not.
* **`Token.Shown`**: what is shown of a part. Both sides of an excerpt are alike up to the order in
  which the near end of a lengthy literal and the points stand (`Side.join`).
* **`excerpt_depicts`**: an excerpt is these texts around its part, and its place is that of the
  part. If no literal is lengthy, it is a piece of the source.
-/

namespace TemplateEngine.Template

open TemplateEngine.Text

/-! ## Places -/

namespace Position

variable {p q r : Position} {text : List Char} {source : String} {first second : Nat}

/-- A place is in an earlier line, or earlier in the same one. -/
def Before (p q : Position) : Prop := p.line < q.line ∨ p.line = q.line ∧ p.column < q.column

theorem Before.trans (hpq : p.Before q) (hqr : q.Before r) : p.Before r := by
  unfold Before at *
  omega

theorem Before.ne (h : p.Before q) : p ≠ q := by
  rintro rfl
  unfold Before at h
  omega

theorem after_append (p : Position) (front more : List Char) :
    p.after (front ++ more) = (p.after front).after more := by
  induction front generalizing p with
  | nil => rfl
  | cons c front ih =>
    rw [List.cons_append, after, after]
    split <;> exact ih _

/-- Text leads on to a later place. -/
theorem before_after (p : Position) (h : text ≠ []) : p.Before (p.after text) := by
  induction text generalizing p with
  | nil => exact absurd rfl h
  | cons c rest ih =>
    have hnext : p.Before (p.after [c]) := by
      unfold after Before
      split <;> simp [after]
    rcases eq_or_ne rest [] with rfl | hrest
    · exact hnext
    · rw [← List.singleton_append, after_append]
      exact hnext.trans (ih _ hrest)

/-- The line is counted by the line feeds in front, the column by the characters behind the last
one. -/
theorem after_eq (text : List Char) : after ⟨1, 1⟩ text =
    ⟨1 + text.count '\n', 1 + (text.reverse.takeWhile (· != '\n')).length⟩ := by
  induction text using List.reverseRecOn with
  | nil => rfl
  | append_singleton text c ih =>
    rw [after_append, ih, after]
    by_cases hc : c = '\n'
    · simp [hc, after, Nat.add_assoc]
    · simp [hc, after, Nat.add_comm]

/-- A place between two characters is behind a front of the source. -/
theorem exists_front (h : (⟨first⟩ : String.Pos.Raw).IsValid source) :
    ∃ front more, source.toList = front ++ more ∧ first = byteLength front ∧
      ofOffset source first = after ⟨1, 1⟩ front := by
  obtain ⟨front, more, rfl, hfirst⟩ := String.Pos.Raw.isValid_iff_exists_append.1 h
  have hsplit : (front ++ more).toList = front.toList ++ more.toList := String.toList_append
  have hbytes : first = byteLength front.toList := by
    rw [byteLength_toList]
    exact congrArg String.Pos.Raw.byteIdx hfirst
  exact ⟨front.toList, more.toList, hsplit, hbytes, hbytes ▸ ofOffset_front hsplit⟩

/-- Of two offsets the one in front has the earlier place. -/
theorem ofOffset_before (hfirst : (⟨first⟩ : String.Pos.Raw).IsValid source)
    (hsecond : (⟨second⟩ : String.Pos.Raw).IsValid source) (hlt : first < second) :
    (ofOffset source first).Before (ofOffset source second) := by
  obtain ⟨front, more, hsplit, rfl, hplace⟩ := exists_front hfirst
  obtain ⟨front', more', hsplit', rfl, hplace'⟩ := exists_front hsecond
  rw [hplace, hplace']
  rcases List.append_eq_append_iff.1 (hsplit.symm.trans hsplit') with
    ⟨between, rfl, -⟩ | ⟨between, rfl, -⟩
  · rw [after_append]
    refine before_after _ ?_
    rintro rfl
    simp at hlt
  · rw [byteLength_append] at hlt
    omega

/-- No two offsets have the same place. -/
theorem ofOffset_injective (hfirst : (⟨first⟩ : String.Pos.Raw).IsValid source)
    (hsecond : (⟨second⟩ : String.Pos.Raw).IsValid source)
    (h : ofOffset source first = ofOffset source second) : first = second := by
  rcases Nat.lt_trichotomy first second with hlt | heq | hlt
  · exact absurd h (ofOffset_before hfirst hsecond hlt).ne
  · exact heq
  · exact absurd h.symm (ofOffset_before hsecond hfirst hlt).ne

end Position

/-! ## Windows -/

/-- The parts around the one with an index: as many as are shown on either side, and the others. -/
structure Window (tokens : List Token) (index : Nat) where
  /-- The parts in front that are not shown. -/
  earlier : List Token
  /-- The parts in front that are shown. -/
  front : List Token
  /-- The part itself. -/
  part : Token
  /-- The parts behind that are shown. -/
  behind : List Token
  /-- The parts behind that are not shown. -/
  later : List Token
  /-- These are all parts, in their order. -/
  split : earlier ++ front ++ part :: (behind ++ later) = tokens
  /-- The part has the index. -/
  length_before : (earlier ++ front).length = index
  /-- In front, as many are shown as there are, up to three. -/
  length_front : front.length = min 3 index
  /-- So are behind. -/
  length_behind : behind.length = min 3 (behind ++ later).length

/-- The window around a part. -/
def Window.around (tokens : List Token) (index : Nat) (h : index < tokens.length) :
    Window tokens index where
  earlier := (tokens.take index).take (index - radius)
  front := (tokens.take index).drop (index - radius)
  part := tokens[index]
  behind := (tokens.drop (index + 1)).take radius
  later := (tokens.drop (index + 1)).drop radius
  split := by
    rw [List.take_append_drop, List.take_append_drop, ← List.drop_eq_getElem_cons h,
      List.take_append_drop]
  length_before := by
    rw [List.take_append_drop]
    exact List.length_take_of_le h.le
  length_front := by
    rw [List.length_drop, List.length_take_of_le h.le, radius]
    omega
  length_behind := by rw [List.take_append_drop, List.length_take, radius]

/-- The text of parts that follow each other. -/
def textOf (tokens : List Token) : String := String.join (tokens.map Token.text)

theorem textOf_append (front more : List Token) :
    textOf (front ++ more) = textOf front ++ textOf more := by
  rw [textOf, List.map_append, String.join_append]
  rfl

/-! ## Shown texts -/

/-- A side of an excerpt. -/
inductive Side where
  /-- In front of the failing part. -/
  | before
  /-- Behind it. -/
  | after

/-- Two texts in the order in which they stand on a side: the one next to the failing part, and the
one far from it. -/
def Side.join (side : Side) (near far : String) : String :=
  match side with
  | .before => far ++ near
  | .after => near ++ far

/-- A literal of more than forty characters. -/
def Token.IsLengthy (token : Token) : Prop := token.kind = .literal ∧ 40 < token.text.length

/-- What is shown of a part: all of it, or of a lengthy literal the forty characters next to the
failing part and three points. -/
inductive Token.Shown (side : Side) (token : Token) : String → Prop where
  /-- All of it. -/
  | whole (h : ¬token.IsLengthy) : Shown side token token.text
  /-- The near end of a lengthy literal. -/
  | clipped (near far : String) (h : token.IsLengthy) (htext : token.text = side.join near far)
    (hlength : near.length = 40) : Shown side token (side.join near "...")

variable {token : Token}

theorem Token.isLong_iff : token.isLong ↔ token.IsLengthy := by
  rw [isLong, Bool.and_eq_true_iff, beq_iff_eq, decide_eq_true_iff]
  exact Iff.rfl

theorem Token.shownBefore_of_not_isLengthy (h : ¬token.IsLengthy) :
    token.shownBefore = token.text :=
  if_neg (mt isLong_iff.1 h)

theorem Token.shownAfter_of_not_isLengthy (h : ¬token.IsLengthy) : token.shownAfter = token.text :=
  if_neg (mt isLong_iff.1 h)

theorem Token.shown_before (token : Token) : token.Shown .before token.shownBefore := by
  by_cases h : token.IsLengthy
  · rw [shownBefore, if_pos (isLong_iff.2 h)]
    refine .clipped _ (String.ofList
      (token.text.toList.take (token.text.length - literalWidth))) h ?_ ?_
    · rw [Side.join, ← String.ofList_append, List.take_append_drop, String.ofList_toList]
    · have hlength := h.2
      rw [String.length_ofList, List.length_drop, String.length_toList, literalWidth]
      omega
  · rw [shownBefore_of_not_isLengthy h]
    exact .whole h

theorem Token.shown_after (token : Token) : token.Shown .after token.shownAfter := by
  by_cases h : token.IsLengthy
  · rw [shownAfter, if_pos (isLong_iff.2 h)]
    refine .clipped _ (String.ofList (token.text.toList.drop literalWidth)) h ?_ ?_
    · rw [Side.join, ← String.ofList_append, List.take_append_drop, String.ofList_toList]
    · rw [String.length_ofList, List.length_take, String.length_toList]
      exact Nat.min_eq_left h.2.le
  · rw [shownAfter_of_not_isLengthy h]
    exact .whole h

/-! ## Excerpts -/

/-- An excerpt shows the part of a window in its surroundings. -/
structure Excerpt.Depicts (source : String) {tokens : List Token} {index : Nat}
    (window : Window tokens index) (excerpt : Excerpt) : Prop where
  /-- The part is shown as it is. -/
  token : excerpt.token = window.part.text
  /-- Its place is the one of its offset. -/
  position : excerpt.position = Position.ofOffset source window.part.offset
  /-- In front of it stand the parts of the window, as they are shown there. -/
  before : ∃ texts, List.Forall₂ (Token.Shown .before) window.front texts ∧
    excerpt.before = String.join texts
  /-- Behind it, too. -/
  after : ∃ texts, List.Forall₂ (Token.Shown .after) window.behind texts ∧
    excerpt.after = String.join texts
  /-- Without a lengthy literal around the part, all is shown as it stands in the source. -/
  whole : (∀ token ∈ window.front ++ window.behind, ¬token.IsLengthy) →
    source = textOf window.earlier ++ (excerpt.before ++ excerpt.token ++ excerpt.after) ++
      textOf window.later

theorem join_map_of_not_isLengthy {tokens : List Token} {shown : Token → String}
    (hshown : ∀ token : Token, ¬token.IsLengthy → shown token = token.text)
    (h : ∀ token ∈ tokens, ¬token.IsLengthy) : String.join (tokens.map shown) = textOf tokens :=
  congrArg String.join (List.map_congr_left fun token htoken => hshown token (h token htoken))

theorem Excerpt.at_eq (source : String) {tokens : List Token} {index : Nat}
    (h : index < tokens.length) :
    Excerpt.at source tokens index =
      ⟨String.join ((Window.around tokens index h).front.map Token.shownBefore),
        (Window.around tokens index h).part.text,
        String.join ((Window.around tokens index h).behind.map Token.shownAfter),
        Position.ofOffset source (Window.around tokens index h).part.offset⟩ := by
  unfold Excerpt.at
  rw [List.getElem?_eq_getElem h]
  rfl

/-- The excerpt at a part of a source shows it in its window. -/
theorem Partition.depicts {source : String} {tokens : List Token} (hparts : Partition source tokens)
    {index : Nat} (h : index < tokens.length) :
    (Excerpt.at source tokens index).Depicts source (Window.around tokens index h) := by
  rw [Excerpt.at_eq source h]
  generalize Window.around tokens index h = window
  refine ⟨rfl, rfl, ⟨_, ?_, rfl⟩, ⟨_, ?_, rfl⟩, fun hshort => ?_⟩
  · exact List.forall₂_map_right_iff.2 (List.forall₂_same.2 fun token _ => token.shown_before)
  · exact List.forall₂_map_right_iff.2 (List.forall₂_same.2 fun token _ => token.shown_after)
  · obtain ⟨hfront, hbehind⟩ := List.forall_mem_append.1 hshort
    rw [join_map_of_not_isLengthy (fun _ => Token.shownBefore_of_not_isLengthy) hfront,
      join_map_of_not_isLengthy (fun _ => Token.shownAfter_of_not_isLengthy) hbehind]
    have hpart : textOf (window.part :: (window.behind ++ window.later)) =
        window.part.text ++ (textOf window.behind ++ textOf window.later) := by
      rw [textOf, List.map_cons, String.join_cons, ← textOf, textOf_append]
    calc source = textOf tokens := hparts.joins.symm
      _ = textOf (window.earlier ++ window.front ++
            window.part :: (window.behind ++ window.later)) := by rw [window.split]
      _ = _ := by
        rw [textOf_append, textOf_append, hpart]
        simp only [String.append_assoc]

/-- **Excerpts.** The line of a place is counted by the line feeds in front of it, its column by the
characters behind the last of them. Of two offsets between characters the one in front has the
earlier place, so that a place tells its offset. The excerpt at a part of a source has the text of
the part and the place of its offset. On either side it shows up to three parts in their order:
all but lengthy literals whole, and of those the forty characters next to the part, with three
points on the far side. If no literal around the part is lengthy, it is what stands in the source
from the first part shown to the last. -/
theorem excerpt_depicts :
    (∀ front more : String, Position.ofOffset (front ++ more) front.utf8ByteSize =
      ⟨1 + front.toList.count '\n',
        1 + (front.toList.reverse.takeWhile (· != '\n')).length⟩) ∧
    (∀ (source : String) (first second : Nat), (⟨first⟩ : String.Pos.Raw).IsValid source →
      (⟨second⟩ : String.Pos.Raw).IsValid source →
        (first < second →
          (Position.ofOffset source first).Before (Position.ofOffset source second)) ∧
        (Position.ofOffset source first = Position.ofOffset source second → first = second)) ∧
    ∀ source tokens, tokenize source = .ok tokens → ∀ index, index < tokens.length →
      ∃ window : Window tokens index, (Excerpt.at source tokens index).Depicts source window := by
  refine ⟨fun front more => ?_, fun source first second hfirst hsecond => ?_,
    fun source tokens htokens index h => ?_⟩
  · rw [← byteLength_toList, Position.ofOffset_front String.toList_append, Position.after_eq]
  · exact ⟨Position.ofOffset_before hfirst hsecond, Position.ofOffset_injective hfirst hsecond⟩
  · have hparts := tokenize_spec source
    rw [htokens] at hparts
    exact ⟨_, hparts.depicts h⟩

/-- A place behind a character of two bytes, and a token behind a long literal. -/
theorem excerpt_depicts_clipped :
    let source := "Näh\nMore than forty characters without a token: $\x7bx\x7d"
    let tokens : List Token :=
      [⟨.literal, "Näh\nMore than forty characters without a token: ", 0⟩,
        ⟨.expression, "$\x7bx\x7d", 49⟩, ⟨.literal, "", 53⟩]
    (⟨3⟩ : String.Pos.Raw).IsValid source ∧ (⟨5⟩ : String.Pos.Raw).IsValid source ∧
      (Position.ofOffset source 3).Before (Position.ofOffset source 5) ∧
      tokenize source = .ok tokens ∧
      ∃ window : Window tokens 1, (Excerpt.at source tokens 1).Depicts source window := by
  intro source tokens
  obtain ⟨-, hplaces, hexcerpts⟩ := excerpt_depicts
  have hfirst : (⟨3⟩ : String.Pos.Raw).IsValid source := by decide
  have hsecond : (⟨5⟩ : String.Pos.Raw).IsValid source := by decide
  have htokens : tokenize source = .ok tokens := by decide +kernel
  exact ⟨hfirst, hsecond, (hplaces source 3 5 hfirst hsecond).1 (by decide), htokens,
    hexcerpts source tokens htokens 1 (by decide)⟩

end TemplateEngine.Template
