import Mathlib.Data.String.Basic
import TemplateEngine.Proofs.Expr.Ends

/-!
# `Expr` · Lexemes and the gaps between them

Splitting an expression is local: no lexeme depends on another one, and nothing between them is lost
but blanks.

* **`Laid`** texts are blanks and lexemes that end where they stand, with some text behind all of
  them. `splitFrom` finds how a text is laid (`splitFrom_eq_ok_iff`).
* **Pieces.** Laid texts are put behind each other (`Laid.append`) and cut in front of a lexeme
  (`Laid.cut`). What is behind them may be exchanged for blanks (`Laid.behind_blank`), since a
  lexeme looks at no more than the start of the next one.
* **Gaps.** Blanks at the end of a laid text belong to none of its lexemes (`Laid.shorten`), so
  others can be put in front of them (`Laid.widen`).
* **`split_local`** says this of expressions, with offsets into the text.
-/

namespace TemplateEngine

open TemplateEngine.Text TemplateEngine.Template

namespace Lexeme

variable {c : Char} {cs text front gap space more rest after after' : List Char} {l : Lexeme}
  {ts earlier later : List (Lexeme × Nat)} {offset stop : Nat}

/-! ## Bytes -/

/-- Two cuts of a text behind as many bytes are the same cut. -/
theorem eq_of_byteLength_eq {front' more' : List Char} (h : front ++ more = front' ++ more')
    (hbytes : byteLength front = byteLength front') : front = front' ∧ more = more' := by
  rcases List.append_eq_append_iff.1 h with ⟨between, rfl, rfl⟩ | ⟨between, rfl, rfl⟩
  · rw [byteLength_append, Nat.left_eq_add, byteLength_eq_zero] at hbytes
    simp [hbytes]
  · rw [byteLength_append, Nat.add_eq_left, byteLength_eq_zero] at hbytes
    simp [hbytes]

/-- A lexeme that stands some bytes further behind. -/
def moved (bytes : Nat) (t : Lexeme × Nat) : Lexeme × Nat := (t.1, bytes + t.2)

/-- Where the first of some lexemes starts, or, if there is none, where the text ends. -/
def start (stop : Nat) (ts : List (Lexeme × Nat)) : Nat := (ts.head?.map Prod.snd).getD stop

/-- The piece of a source between two offsets. -/
def piece (source : String) (first stop : Nat) : String :=
  String.Pos.Raw.extract source ⟨first⟩ ⟨stop⟩

theorem piece_append (front text rest : String) :
    piece (front ++ text ++ rest) front.utf8ByteSize (front ++ text).utf8ByteSize = text := by
  have hbytes : ∀ s : String, s.utf8ByteSize = String.utf8Len s.toList := by
    intro s
    rw [← String.utf8ByteSize_ofList, String.ofList_toList]
  have hpiece := String.extract_of_valid front.toList text.toList rest.toList
  simpa only [piece, hbytes, String.utf8Len_append, String.ofList_append, String.ofList_toList,
    String.toList_append] using hpiece

/-! ## Laid texts -/

/-- A text at a byte offset, with another one behind it, is made of these lexemes and of blanks. -/
inductive Laid (after : List Char) : Nat → List Char → List (Lexeme × Nat) → Prop where
  /-- Of nothing. -/
  | nil (offset : Nat) : Laid after offset [] []
  /-- Of a blank and the rest. -/
  | blank {offset : Nat} {c : Char} {cs : List Char} {ts : List (Lexeme × Nat)} : isBlank c →
    Laid after (offset + c.utf8Size) cs ts → Laid after offset (c :: cs) ts
  /-- Of a lexeme, which ends where the rest follows, and the rest. -/
  | lexeme {offset : Nat} {text rest : List Char} {l : Lexeme} {ts : List (Lexeme × Nat)} :
    Spells text l → Ends l (rest ++ after) → Laid after (offset + byteLength text) rest ts →
    Laid after offset (text ++ rest) ((l, offset) :: ts)

/-- Splitting a text finds how it is laid. -/
theorem splitFrom_eq_ok_iff : splitFrom offset cs = .ok ts ↔ Laid [] offset cs ts := by
  constructor
  · intro h
    fun_induction splitFrom offset cs generalizing ts with
    | case1 offset =>
      cases h
      exact .nil offset
    | case2 offset c rest hblank ih => exact .blank hblank (ih h)
    | case3 => exact nomatch h
    | case4 offset c rest hblank l more hmore hnext ih =>
      obtain ⟨later, hlater, rfl⟩ := except_map_eq_ok h
      obtain ⟨text, hrest, hspells, hends⟩ := spells_of_next hnext
      dsimp only at hrest hends
      subst hrest
      have hbytes :
          byteLength (c :: (text ++ more)) - byteLength more = byteLength (c :: text) := by
        simp only [byteLength, byteLength_append]
        omega
      rw [hbytes] at hlater ih
      have hbehind : Ends l (more ++ []) := by rwa [List.append_nil]
      exact .lexeme hspells hbehind (ih hlater)
  · intro h
    induction h with
    | nil offset => exact splitFrom_nil offset
    | blank hblank _ ih => rw [splitFrom_blank _ hblank, ih]
    | @lexeme offset text rest l ts hspells hends _ ih =>
      obtain ⟨c, text, rfl⟩ := List.exists_cons_of_ne_nil hspells.ne_nil
      have hblank : isBlank c = false := by simpa using hspells.trimmed.1
      rw [List.append_nil] at hends
      obtain ⟨left, hnext, hleft⟩ := next_of_spells hspells hends offset
      have hbytes :
          byteLength (c :: (text ++ rest)) - byteLength rest = byteLength (c :: text) := by
        simp only [byteLength, byteLength_append]
        omega
      rw [List.cons_append, splitFrom_next hblank hnext, hleft, hbytes, ih]
      rfl

/-! ## Offsets -/

theorem Laid.le (h : Laid after offset cs ts) : ∀ t ∈ ts, offset ≤ t.2 := by
  induction h with
  | nil => exact fun t ht => nomatch ht
  | blank _ _ ih =>
    intro t ht
    exact le_trans (Nat.le_add_right _ _) (ih t ht)
  | lexeme _ _ _ ih =>
    intro t ht
    rcases List.mem_cons.1 ht with rfl | ht
    · exact le_rfl
    · exact le_trans (Nat.le_add_right _ _) (ih t ht)

/-- Lexemes stand one behind the other. -/
theorem Laid.pairwise (h : Laid after offset cs ts) : ts.Pairwise fun t u => t.2 < u.2 := by
  induction h with
  | nil => exact .nil
  | blank _ _ ih => exact ih
  | @lexeme offset text rest l ts hspells _ hrest ih =>
    refine .cons (fun t ht => ?_) ih
    have hle := hrest.le t ht
    have hpos : byteLength text ≠ 0 := fun hzero => hspells.ne_nil (byteLength_eq_zero.1 hzero)
    dsimp only
    omega

/-- The same text at another place. -/
theorem Laid.shifted (h : Laid after offset cs ts) (first : Nat) :
    Laid after first cs (ts.map fun t => (t.1, first + (t.2 - offset))) := by
  have hshift : ∀ {bytes offset first : Nat} {cs ts}, Laid after (offset + bytes) cs ts →
      (ts.map fun t => (t.1, first + bytes + (t.2 - (offset + bytes)))) =
        ts.map fun t => (t.1, first + (t.2 - offset)) := by
    intro bytes offset first cs ts h
    apply List.map_congr_left
    intro t ht
    have hle := h.le t ht
    rw [show first + bytes + (t.2 - (offset + bytes)) = first + (t.2 - offset) by omega]
  induction h generalizing first with
  | nil => exact .nil first
  | blank hblank hrest ih =>
    refine .blank hblank ?_
    rw [← hshift hrest]
    exact ih _
  | lexeme hspells hends hrest ih =>
    rw [List.map_cons, ← hshift hrest, Nat.sub_self, Nat.add_zero]
    exact .lexeme hspells hends (ih _)

/-! ## Pieces -/

theorem Laid.append (h : Laid (more ++ after) offset cs earlier)
    (hmore : Laid after (offset + byteLength cs) more later) :
    Laid after offset (cs ++ more) (earlier ++ later) := by
  induction h with
  | nil => exact hmore
  | blank hblank _ ih =>
    refine .blank hblank (ih ?_)
    rwa [Nat.add_assoc]
  | lexeme hspells hends _ ih =>
    rw [List.append_assoc]
    refine .lexeme hspells ?_ (ih ?_)
    · rwa [List.append_assoc]
    · rwa [byteLength_append, ← Nat.add_assoc] at hmore

/-- Blanks may stand in front of a laid text. -/
theorem Laid.behind_gap (hgap : ∀ c ∈ gap, isBlank c)
    (h : Laid after (offset + byteLength gap) cs ts) : Laid after offset (gap ++ cs) ts := by
  induction gap generalizing offset with
  | nil => exact h
  | cons c gap ih =>
    obtain ⟨hblank, hgap⟩ := List.forall_mem_cons.1 hgap
    refine .blank hblank (ih hgap ?_)
    rwa [Nat.add_assoc]

/-- A text is cut in front of any of its lexemes, or at its end. -/
theorem Laid.cut (h : Laid after offset cs (earlier ++ later)) :
    ∃ front more, cs = front ++ more ∧ Laid (more ++ after) offset front earlier ∧
      Laid after (offset + byteLength front) more later ∧
        start (offset + byteLength cs) later = offset + byteLength front := by
  generalize hts : earlier ++ later = ts at h
  induction h generalizing earlier with
  | nil offset =>
    obtain ⟨rfl, rfl⟩ := List.append_eq_nil_iff.1 hts
    exact ⟨[], [], rfl, .nil offset, .nil _, rfl⟩
  | @blank offset c cs ts hblank hrest ih =>
    obtain ⟨front, more, rfl, hfront, hmore, hstart⟩ := ih hts
    rw [Nat.add_assoc] at hmore hstart
    rw [Nat.add_assoc] at hstart
    exact ⟨c :: front, more, rfl, .blank hblank hfront, hmore, hstart⟩
  | @lexeme offset text rest l ts hspells hends hrest ih =>
    cases earlier with
    | nil =>
      obtain rfl : later = (l, offset) :: ts := hts
      exact ⟨[], text ++ rest, rfl, .nil offset, .lexeme hspells hends hrest, rfl⟩
    | cons t earlier =>
      obtain ⟨rfl, hlater⟩ := List.cons.inj hts
      obtain ⟨front, more, rfl, hfront, hmore, hstart⟩ := ih hlater
      refine ⟨text ++ front, more, (List.append_assoc ..).symm, .lexeme hspells ?_ hfront, ?_, ?_⟩
      · rwa [List.append_assoc] at hends
      · rwa [byteLength_append, ← Nat.add_assoc]
      · simpa only [byteLength_append, Nat.add_assoc] using hstart

/-- A text without lexemes is made of blanks. -/
theorem Laid.isBlank (h : Laid after offset cs []) : ∀ c ∈ cs, Text.isBlank c := by
  generalize hts : ([] : List (Lexeme × Nat)) = ts at h
  induction h with
  | nil => exact fun c hc => nomatch hc
  | blank hblank _ ih => exact List.forall_mem_cons.2 ⟨hblank, ih hts⟩
  | lexeme => exact nomatch hts

/-! ## What stands behind -/

/-- Behind a point that is all of a laid text stands no digit. -/
theorem Laid.startsWithDigit (h : Laid after offset ['.'] ts) :
    startsWithDigit after = false := by
  generalize hcs : ['.'] = cs at h
  cases h with
  | nil => exact nomatch hcs
  | blank hblank =>
    obtain ⟨rfl, -⟩ := List.cons.inj hcs
    exact nomatch hblank
  | @lexeme _ text rest l ts hspells hends =>
    obtain ⟨rfl, rfl⟩ : text = ['.'] ∧ rest = [] := by
      rcases List.singleton_eq_append_iff.1 hcs with ⟨rfl, -⟩ | h
      · exact absurd rfl hspells.ne_nil
      · exact h
    obtain rfl := hspells.eq_punct
    exact hends.1 rfl

/-- What a lexeme looks at in a laid text is not changed by blanks behind that text. -/
theorem Laid.ahead_eq (h : Laid after offset cs ts) (hcs : cs ≠ [])
    (hafter' : ∀ d ∈ after'.head?, Text.isBlank d) :
    ahead (cs ++ after) = ahead (cs ++ after') := by
  obtain ⟨c, cs, rfl⟩ := List.exists_cons_of_ne_nil hcs
  rw [List.cons_append, List.cons_append, ahead, ahead]
  cases cs with
  | cons d cs => rfl
  | nil =>
    by_cases hpoint : c = '.'
    · subst hpoint
      simp [h.startsWithDigit, startsWithDigit_of_blank hafter']
    · simp [beq_false_of_ne hpoint]

/-- Blanks behind a laid text, or its end, change nothing. -/
theorem Laid.behind_blank (h : Laid after offset cs ts)
    (hafter' : ∀ d ∈ after'.head?, Text.isBlank d) : Laid after' offset cs ts := by
  induction h with
  | nil => exact .nil _
  | blank hblank _ ih => exact .blank hblank ih
  | @lexeme offset text rest l ts hspells hends hrest ih =>
    refine .lexeme hspells ?_ ih
    by_cases hempty : rest = []
    · rw [hempty]
      exact hspells.ends_blank hafter'
    · exact hends.congr (hrest.ahead_eq hempty hafter')

/-! ## Gaps -/

/-- Blanks at the end of a laid text belong to none of its lexemes. -/
theorem Laid.shorten (h : Laid after offset (front ++ gap) ts) (hgap : ∀ c ∈ gap, Text.isBlank c)
    (hfront : ∀ t ∈ ts, t.2 < offset + byteLength front) : Laid (gap ++ after) offset front ts := by
  generalize hcs : front ++ gap = cs at h
  induction h generalizing front with
  | nil offset =>
    obtain ⟨rfl, rfl⟩ := List.append_eq_nil_iff.1 hcs
    exact .nil offset
  | @blank offset c cs ts hblank hrest ih =>
    cases front with
    | nil =>
      have hnone : ts = [] := by
        rw [List.eq_nil_iff_forall_not_mem]
        intro t ht
        have hlt := hfront t ht
        have hle := hrest.le t ht
        simp only [byteLength] at hlt
        omega
      rw [hnone]
      exact .nil offset
    | cons d front =>
      obtain ⟨rfl, hcs'⟩ := List.cons.inj hcs
      refine .blank hblank (ih ?_ hcs')
      intro t ht
      rw [Nat.add_assoc]
      exact hfront t ht
  | @lexeme offset text rest l ts hspells hends hrest ih =>
    -- No end of a lexeme is a blank, so all of the gap is behind it.
    obtain ⟨front, rfl, rfl⟩ : ∃ front', front = text ++ front' ∧ rest = front' ++ gap := by
      rcases List.append_eq_append_iff.1 hcs with ⟨inside, rfl, rfl⟩ | ⟨front', rfl, rfl⟩
      · rcases List.eq_nil_or_concat inside with rfl | ⟨inside, d, rfl⟩
        · exact ⟨[], by simp, by simp⟩
        · rw [List.concat_eq_append] at hspells hgap
          have hblank := hgap d (by simp)
          exact absurd hblank (hspells.trimmed.2 d (by simp))
      · exact ⟨front', rfl, rfl⟩
    refine .lexeme hspells ?_ (ih ?_ rfl)
    · rwa [List.append_assoc] at hends
    · intro t ht
      have hlt := hfront t (List.mem_cons_of_mem _ ht)
      rwa [byteLength_append, ← Nat.add_assoc] at hlt

/-- Blanks may be put in front of a gap. The lexemes behind it are moved. -/
theorem Laid.widen (h : Laid after offset (front ++ gap ++ rest) (earlier ++ later))
    (hfront : ∀ t ∈ earlier, t.2 < offset + byteLength front) (hgap : ∀ c ∈ gap, Text.isBlank c)
    (hlater : start (offset + byteLength (front ++ gap ++ rest)) later =
      offset + byteLength (front ++ gap)) (hspace : ∀ c ∈ space, Text.isBlank c) :
    Laid after offset (front ++ space ++ gap ++ rest)
      (earlier ++ later.map (moved (byteLength space))) := by
  obtain ⟨front', rest', hcs, hearlier, hmore, hstart⟩ := h.cut
  obtain ⟨rfl, rfl⟩ := eq_of_byteLength_eq hcs (by omega)
  have hmoved := hmore.shifted (offset + byteLength front + byteLength (space ++ gap))
  have hbehind : Laid after (offset + byteLength front) (space ++ gap ++ rest)
      (later.map (moved (byteLength space))) := by
    apply Laid.behind_gap
    · exact List.forall_mem_append.2 ⟨hspace, hgap⟩
    · convert hmoved using 1
      apply List.map_congr_left
      intro t ht
      have hle := hmore.le t ht
      simp only [byteLength_append] at hle ⊢
      rw [moved]
      congr 1
      omega
  have hinfront : Laid (space ++ gap ++ rest ++ after) offset front earlier := by
    have hshort := hearlier.shorten hgap hfront
    cases space with
    | nil => simpa using hshort
    | cons c space =>
      apply hshort.behind_blank
      simpa using hspace c List.mem_cons_self
  simpa only [List.append_assoc] using hinfront.append hbehind

/-! ## Expressions -/

theorem Laid.cut_string {source : String} (h : Laid after offset source.toList (earlier ++ later)) :
    ∃ front more : String, source = front ++ more ∧
      Laid (more.toList ++ after) offset front.toList earlier ∧
      Laid after (offset + front.utf8ByteSize) more.toList later ∧
      start (offset + source.utf8ByteSize) later = offset + front.utf8ByteSize := by
  obtain ⟨front, more, hsource, hfront, hmore, hstart⟩ := h.cut
  rw [byteLength_toList, ← utf8ByteSize_ofList] at hstart
  rw [← utf8ByteSize_ofList] at hmore
  refine ⟨String.ofList front, String.ofList more, ?_, ?_, ?_, hstart⟩
  · rw [← String.ofList_append, ← hsource, String.ofList_toList]
  · rwa [String.toList_ofList, String.toList_ofList]
  · rwa [String.toList_ofList]

/-- A source is cut in front of any of its lexemes. -/
theorem cut_source {source : String} (h : split source = .ok (earlier ++ later)) :
    ∃ front more : String, source = front ++ more ∧ Laid more.toList 0 front.toList earlier ∧
      Laid [] front.utf8ByteSize more.toList later ∧
      start source.utf8ByteSize later = front.utf8ByteSize := by
  have hcut := (splitFrom_eq_ok_iff.1 h).cut_string
  simpa only [Nat.zero_add, List.append_nil] using hcut

/-- The piece from a lexeme to the next one is that lexeme and the gap behind it. -/
theorem split_piece {source : String} (h : split source = .ok (earlier ++ (l, offset) :: later)) :
    split (piece source offset (start source.utf8ByteSize later)) = .ok [(l, 0)] := by
  obtain ⟨front, more, rfl, -, hmore, hoffset⟩ := cut_source h
  obtain rfl : offset = front.utf8ByteSize := hoffset
  rw [← List.singleton_append] at hmore
  obtain ⟨text, rest, rfl, htext, -, hstart⟩ := hmore.cut_string
  rw [String.utf8ByteSize_append, hstart, ← String.utf8ByteSize_append, ← String.append_assoc,
    piece_append]
  have halone : Laid [] front.utf8ByteSize text.toList [(l, front.utf8ByteSize)] :=
    htext.behind_blank fun d hd => nomatch hd
  have hmoved := halone.shifted 0
  rw [List.map_singleton, Nat.sub_self] at hmoved
  exact splitFrom_eq_ok_iff.2 hmoved

/-- **Locality.** Of an expression that is split into lexemes: they stand one behind the other,
each at an offset between characters, and in front of the first one there are only blanks. The piece
from a lexeme to the next one, or to the end, is split into that lexeme alone. And if further blanks
are put into a gap, at its start or between the blanks in it, then the lexemes behind it are moved
and nothing else changes. -/
theorem split_local {source : String} (h : split source = .ok ts) :
    ts.Pairwise (fun t u => t.2 < u.2) ∧
      (∀ t ∈ ts, (⟨t.2⟩ : String.Pos.Raw).IsValid source) ∧
      (∀ c ∈ (piece source 0 (start source.utf8ByteSize ts)).toList, isBlank c) ∧
      (∀ earlier l offset later, ts = earlier ++ (l, offset) :: later →
        split (piece source offset (start source.utf8ByteSize later)) = .ok [(l, 0)]) ∧
      ∀ (earlier later : List (Lexeme × Nat)) (front gap rest space : String),
        ts = earlier ++ later → source = front ++ gap ++ rest →
        (∀ t ∈ earlier, t.2 < front.utf8ByteSize) → (∀ c ∈ gap.toList, isBlank c) →
        (front ++ gap).utf8ByteSize = start source.utf8ByteSize later →
        (∀ c ∈ space.toList, isBlank c) →
          split (front ++ space ++ gap ++ rest) =
            .ok (earlier ++ later.map (moved space.utf8ByteSize)) := by
  refine ⟨(splitFrom_eq_ok_iff.1 h).pairwise, ?_, ?_, ?_, ?_⟩
  · intro t ht
    obtain ⟨earlier, later, rfl⟩ := List.append_of_mem ht
    obtain ⟨front, more, rfl, -, -, hstart⟩ := cut_source h
    rw [String.Pos.Raw.isValid_iff_exists_append]
    exact ⟨front, more, rfl, String.Pos.Raw.ext hstart⟩
  · obtain ⟨front, more, rfl, hfront, -, hstart⟩ := cut_source (List.nil_append ts ▸ h)
    have hlead := piece_append "" front more
    rw [String.empty_append] at hlead
    rw [hstart]
    exact hlead.symm ▸ hfront.isBlank
  · rintro earlier l offset later rfl
    exact split_piece h
  · rintro earlier later front gap rest space rfl rfl hfront hgap hlater hspace
    have hlaid : Laid [] 0 (front.toList ++ gap.toList ++ rest.toList) (earlier ++ later) := by
      simpa only [String.toList_append] using splitFrom_eq_ok_iff.1 h
    apply splitFrom_eq_ok_iff.2
    have hfront' : ∀ t ∈ earlier, t.2 < 0 + byteLength front.toList := by
      simpa only [Nat.zero_add, byteLength_toList] using hfront
    have hwide := hlaid.widen hfront' hgap ?_ hspace
    · simpa only [String.toList_append, byteLength_toList] using hwide
    · simpa only [Nat.zero_add, ← String.toList_append, byteLength_toList] using hlater.symm

/-- A point in front of a digit cuts the question mark off, with a new line in between or not. -/
theorem split_local_decimal :
    let ts : List (Lexeme × Nat) := [(.word "é", 0), (.punct "?", 2), (.number 0.5, 3)]
    split "é?.5 " = .ok ts ∧ ts.Pairwise (fun t u => t.2 < u.2) ∧
      split (piece "é?.5 " 2 3) = .ok [(.punct "?", 0)] ∧
      split (piece "é?.5 " 3 6) = .ok [(.number 0.5, 0)] ∧
      split ("é?" ++ "\n" ++ "" ++ ".5 ") =
        .ok [(.word "é", 0), (.punct "?", 2), (.number 0.5, 4)] := by
  intro ts
  have hnumber : Spells ['.', '5'] (.number 0.5) :=
    .number (.inr ⟨rfl, rfl⟩) (List.forall_mem_singleton.2 rfl) rfl
  have hlast : Laid [] 3 (['.', '5'] ++ [' ']) [(.number 0.5, 3)] :=
    .lexeme hnumber (hnumber.ends_blank (by simp; decide)) (.blank rfl (.nil _))
  have hsign : Laid [] 2 (['?'] ++ ['.', '5', ' ']) [(.punct "?", 2), (.number 0.5, 3)] :=
    .lexeme (@Spells.punct "?" (by decide)) ⟨by decide, by decide⟩ hlast
  have hword : Laid [] 0 (['é'] ++ ['?', '.', '5', ' ']) ts :=
    .lexeme (@Spells.word 'é' [] (by decide) nofun) (by simp [Ends]; decide) hsign
  have hsplit : split "é?.5 " = .ok ts := splitFrom_eq_ok_iff.2 hword
  obtain ⟨hpairwise, -, -, hpieces, hspace⟩ := split_local hsplit
  refine ⟨hsplit, hpairwise, ?_, ?_, ?_⟩
  · exact hpieces [(.word "é", 0)] (.punct "?") 2 [(.number 0.5, 3)] rfl
  · exact hpieces [(.word "é", 0), (.punct "?", 2)] (.number 0.5) 3 [] rfl
  · exact hspace [(.word "é", 0), (.punct "?", 2)] [(.number 0.5, 3)] "é?" "" ".5 " "\n" rfl
      rfl (by decide) (List.forall_mem_nil _) rfl (List.forall_mem_singleton.2 rfl)

end Lexeme

end TemplateEngine
