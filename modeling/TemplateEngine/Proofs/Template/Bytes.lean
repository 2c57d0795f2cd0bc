import TemplateEngine.Proofs.Template.Partition

/-!
# `Template` · Cuts on bytes

The partition of a source, made on its bytes in UTF-8 and at positions in them, as a scanner that
never decodes a character does it.

* **Loops.** `skipQuoted`, `expressionEnd`, `tagEnd`, `closerEnd` and `tokensFrom` look at one byte at
  a time. Behind a backslash two bytes are skipped, which may lead into the middle of a character.
* **`slice`** takes out a text between two positions. There is none if a position is behind the end
  of the source, in front of the other one, or inside of a character.
* **`tokens_eq_tokenize`**: there always is one, and the tokens are those of `tokenize`. With the
  partition of a source this is `tokenize_partitions`.

A byte of a character outside of ASCII is none of the bytes that the loops look for
(`eq_of_mem_encode`), so each loop goes from such a character to the next one (`steps_over`).
-/

namespace TemplateEngine.Template

open TemplateEngine.Text

namespace ByteScan

/-! ## Loops -/

/-- The position behind the quoted text that goes on at `i`, if it is closed. -/
def skipQuoted (bytes : List UInt8) (quote : Char) (i : Nat) : Option Nat :=
  if h : i < bytes.length then
    let c := Char.ofUInt8 bytes[i]
    if c = '\\' then skipQuoted bytes quote (i + 2)
    else if c = quote then some (i + 1)
    else skipQuoted bytes quote (i + 1)
  else none
termination_by bytes.length - i

theorem lt_of_skipQuoted {bytes : List UInt8} {quote : Char} {i stop : Nat}
    (h : skipQuoted bytes quote i = some stop) : i < stop := by
  fun_induction skipQuoted bytes quote i with
  | case1 i hi c hc ih => exact Nat.lt_of_succ_lt (Nat.lt_of_succ_lt (ih h))
  | case2 i hi c hc hquote =>
    cases h
    exact Nat.lt_succ_self i
  | case3 i hi c hc hquote ih => exact Nat.lt_of_succ_lt (ih h)
  | case4 => cases h

/-- The position behind an expression that goes on at `i` with `depth` open braces. -/
def expressionEnd (bytes : List UInt8) (depth i : Nat) : Except ScanFault Nat :=
  if hi : i < bytes.length then
    let c := Char.ofUInt8 bytes[i]
    if isQuote c then
      match hquoted : skipQuoted bytes c (i + 1) with
      | none => .error .openString
      | some j => expressionEnd bytes depth j
    else if c = '\x7b' then expressionEnd bytes (depth + 1) (i + 1)
    else if c = '\x7d' then
      if depth - 1 = 0 then .ok (i + 1) else expressionEnd bytes (depth - 1) (i + 1)
    else expressionEnd bytes depth (i + 1)
  else .error .openExpression
termination_by bytes.length - i
decreasing_by
  · have := lt_of_skipQuoted hquoted
    omega
  all_goals omega

theorem lt_of_expressionEnd {bytes : List UInt8} {depth i stop : Nat}
    (h : expressionEnd bytes depth i = .ok stop) : i < stop := by
  fun_induction expressionEnd bytes depth i with
  | case1 => cases h
  | case2 depth i hi c hc j hquoted ih =>
    exact Nat.lt_trans (Nat.lt_of_succ_lt (lt_of_skipQuoted hquoted)) (ih h)
  | case3 depth i hi c hc hopen ih => exact Nat.lt_of_succ_lt (ih h)
  | case4 depth i hi c hc hopen hclose hlast =>
    cases h
    exact Nat.lt_succ_self i
  | case5 depth i hi c hc hopen hclose hlast ih => exact Nat.lt_of_succ_lt (ih h)
  | case6 depth i hi c hc hopen hclose ih => exact Nat.lt_of_succ_lt (ih h)
  | case7 => cases h

/-- The position behind an opening tag that goes on at `i`. -/
def tagEnd (bytes : List UInt8) (i : Nat) : Except ScanFault Nat :=
  if hi : i < bytes.length then
    let c := Char.ofUInt8 bytes[i]
    if isTagQuote c then
      match hquoted : skipQuoted bytes c (i + 1) with
      | none => .error .openAttribute
      | some j => tagEnd bytes j
    else if c = '>' then .ok (i + 1)
    else tagEnd bytes (i + 1)
  else .error .openTag
termination_by bytes.length - i
decreasing_by
  · have := lt_of_skipQuoted hquoted
    omega
  · omega

theorem lt_of_tagEnd {bytes : List UInt8} {i stop : Nat} (h : tagEnd bytes i = .ok stop) :
    i < stop := by
  fun_induction tagEnd bytes i with
  | case1 => cases h
  | case2 i hi c hc j hquoted ih =>
    exact Nat.lt_trans (Nat.lt_of_succ_lt (lt_of_skipQuoted hquoted)) (ih h)
  | case3 i hi c hc hclose =>
    cases h
    exact Nat.lt_succ_self i
  | case4 i hi c hc hclose ih => exact Nat.lt_of_succ_lt (ih h)
  | case5 => cases h

/-- The first position from `i` on with another byte than those of a class. -/
def skipClass (bytes : List UInt8) (p : Char → Bool) (i : Nat) : Nat :=
  if h : i < bytes.length then
    if p (Char.ofUInt8 bytes[i]) then skipClass bytes p (i + 1) else i
  else i
termination_by bytes.length - i

theorem le_skipClass (bytes : List UInt8) (p : Char → Bool) (i : Nat) : i ≤ skipClass bytes p i := by
  fun_induction skipClass bytes p i with
  | case1 i hi hp ih => exact Nat.le_of_succ_le ih
  | case2 => exact Nat.le_refl _
  | case3 => exact Nat.le_refl _

/-- The position behind a closing tag that goes on at `i`. -/
def closerEnd (bytes : List UInt8) (i : Nat) : Except ScanFault Nat :=
  let j := skipClass bytes isAsciiBlank (skipClass bytes isNameChar i)
  if bytes[j]?.any fun b => Char.ofUInt8 b == '>' then .ok (j + 1) else .error .badCloser

/-- The bytes at `i` are those of a text of ASCII. -/
def startsWith (bytes : List UInt8) (i : Nat) (text : List Char) : Bool :=
  text.isPrefixOf ((bytes.drop i).map Char.ofUInt8)

/-- The bytes at `i` are those of a text of ASCII and the start of a name. -/
def startsName (bytes : List UInt8) (i : Nat) (text : List Char) : Bool :=
  startsWith bytes i text && bytes[i + text.length]?.any fun b => isNameStart (Char.ofUInt8 b)

/-- The token that starts at `i`, with the position behind it. -/
def tokenAt (bytes : List UInt8) (i : Nat) : Option (Kind × Except ScanFault Nat) :=
  if startsWith bytes i ['$', '\x7b'] then some (.expression, expressionEnd bytes 1 (i + 2))
  else if startsName bytes i ['<', '$', ':'] then some (.openTag, tagEnd bytes (i + 3))
  else if startsName bytes i ['<', '/', '$', ':'] then some (.closeTag, closerEnd bytes (i + 4))
  else none

theorem lt_of_tokenAt {bytes : List UInt8} {i stop : Nat} {kind : Kind}
    (h : tokenAt bytes i = some (kind, .ok stop)) : i < stop := by
  unfold tokenAt at h
  split at h
  · have hend := (Prod.mk.inj (Option.some.inj h)).2
    exact Nat.lt_of_succ_lt (Nat.lt_of_succ_lt (lt_of_expressionEnd hend))
  split at h
  · have hend := (Prod.mk.inj (Option.some.inj h)).2
    have := lt_of_tagEnd hend
    omega
  split at h
  · have hend := (Prod.mk.inj (Option.some.inj h)).2
    unfold closerEnd at hend
    dsimp only at hend
    split at hend
    · have hname := le_skipClass bytes isNameChar (i + 4)
      have hblanks := le_skipClass bytes isAsciiBlank (skipClass bytes isNameChar (i + 4))
      cases hend
      omega
    · cases hend
  · cases h

/-! ## Slices -/

/-- A text in front of a byte position and the rest, unless the position is behind the end or inside
of a character. -/
def splitAtByte : Nat → List Char → Option (List Char × List Char)
  | 0, cs => some ([], cs)
  | _ + 1, [] => none
  | n + 1, c :: cs =>
    if c.utf8Size ≤ n + 1 then
      (splitAtByte (n + 1 - c.utf8Size) cs).map fun (front, rest) => (c :: front, rest)
    else none

/-- The text between two byte positions. -/
def slice (source : List Char) (start stop : Nat) : Option String := do
  let (front, _) ← splitAtByte stop source
  let (_, text) ← splitAtByte start front
  return String.ofList text

/-- The tokens from `i` on, the literal in front of the next one starting at `start`. -/
def tokensFrom (source : List Char) (bytes : List UInt8) (start i : Nat) :
    Option (Except (ScanFault × Nat) (List Token)) :=
  if _h : i < bytes.length then
    match hfound : tokenAt bytes i with
    | none => tokensFrom source bytes start (i + 1)
    | some (_, .error fault) => some (.error (fault, i))
    | some (kind, .ok stop) => do
      let literal ← slice source start i
      let token ← slice source i stop
      let rest ← tokensFrom source bytes stop stop
      return rest.map fun later => ⟨.literal, literal, start⟩ :: ⟨kind, token, i⟩ :: later
  else do
    let literal ← slice source start bytes.length
    return .ok [⟨.literal, literal, start⟩]
termination_by bytes.length - i
decreasing_by
  · omega
  · have := lt_of_tokenAt hfound
    omega

/-- The tokens and literals of a source. -/
def tokens (source : String) : Option (Except (ScanFault × Nat) (List Token)) :=
  tokensFrom source.toList source.toUTF8.data.toList 0 0

/-! ## Characters and their bytes -/

/-- The bytes of a text. -/
def encode (cs : List Char) : List UInt8 := cs.flatMap String.utf8EncodeChar

@[simp] theorem encode_nil : encode [] = [] := rfl

@[simp] theorem encode_cons (c : Char) (cs : List Char) :
    encode (c :: cs) = String.utf8EncodeChar c ++ encode cs := rfl

@[simp] theorem encode_append (cs ds : List Char) : encode (cs ++ ds) = encode cs ++ encode ds :=
  List.flatMap_append

@[simp] theorem length_encode (cs : List Char) : (encode cs).length = byteLength cs := by
  induction cs with
  | nil => rfl
  | cons c cs ih => simp [byteLength, ih, String.length_utf8EncodeChar]

/-- The bytes of a string are those of its characters. -/
theorem toUTF8_eq_encode (source : String) :
    source.toUTF8.data.toList = encode source.toList := by
  have hencoded : source.toUTF8 = source.toList.utf8Encode := by
    rw [← String.toByteArray_ofList, String.ofList_toList]
    rfl
  rw [hencoded, List.utf8Encode, List.data_toByteArray, List.toList_toArray]
  rfl

variable {c d : Char} {b : UInt8}

/-- A character of ASCII is a byte. -/
theorem encode_ascii (h : c.toNat < 128) :
    ∃ b, String.utf8EncodeChar c = [b] ∧ Char.ofUInt8 b = c := by
  have hle : c.val.toNat ≤ 127 := Nat.le_of_lt_succ h
  refine ⟨UInt8.ofNat c.val.toNat, by simp only [String.utf8EncodeChar, hle, if_true], ?_⟩
  apply Char.ext
  apply UInt32.toNat_inj.1
  have hbyte : (UInt8.ofNat c.val.toNat).toNat = c.val.toNat := by
    rw [UInt8.toNat_ofNat']
    omega
  exact hbyte

/-- The bytes of a character outside of ASCII are outside of ASCII. -/
theorem le_of_mem_encode (hc : 128 ≤ c.toNat) (hb : b ∈ String.utf8EncodeChar c) :
    128 ≤ (Char.ofUInt8 b).toNat := by
  have hlow : ¬c.val.toNat ≤ 127 := Nat.not_le_of_lt hc
  show 128 ≤ b.toNat
  unfold String.utf8EncodeChar at hb
  simp only [hlow, if_false] at hb
  split at hb
  · simp only [List.mem_cons, List.not_mem_nil, or_false] at hb
    rcases hb with rfl | rfl <;> (rw [UInt8.toNat_ofNat']; omega)
  split at hb
  · simp only [List.mem_cons, List.not_mem_nil, or_false] at hb
    rcases hb with rfl | rfl | rfl <;> (rw [UInt8.toNat_ofNat']; omega)
  · simp only [List.mem_cons, List.not_mem_nil, or_false] at hb
    rcases hb with rfl | rfl | rfl | rfl <;> (rw [UInt8.toNat_ofNat']; omega)

/-- A byte of ASCII is a character, and no part of one. -/
theorem eq_of_mem_encode (hb : b ∈ String.utf8EncodeChar c) (h : (Char.ofUInt8 b).toNat < 128) :
    String.utf8EncodeChar c = [b] ∧ Char.ofUInt8 b = c := by
  rcases Nat.lt_or_ge c.toNat 128 with hc | hc
  · obtain ⟨d, hd, hchar⟩ := encode_ascii hc
    obtain rfl : b = d := by simpa [hd] using hb
    exact ⟨hd, hchar⟩
  · exact absurd (le_of_mem_encode hc hb) (Nat.not_le_of_lt h)

theorem exists_encode (c : Char) : ∃ b tail, String.utf8EncodeChar c = b :: tail := by
  apply List.exists_cons_of_ne_nil
  intro hnil
  have hlength := congrArg List.length hnil
  rw [String.length_utf8EncodeChar] at hlength
  exact absurd hlength (Nat.ne_of_gt c.utf8Size_pos)

/-- Behind the first byte of a character there is no byte of ASCII. -/
theorem le_of_mem_tail {tail : List UInt8} {e : UInt8} (hc : String.utf8EncodeChar c = b :: tail)
    (he : e ∈ tail) : 128 ≤ (Char.ofUInt8 e).toNat := by
  refine Nat.le_of_not_lt fun hascii => ?_
  obtain ⟨hall, -⟩ := eq_of_mem_encode (hc ▸ List.mem_cons_of_mem b he) hascii
  rw [hc] at hall
  obtain ⟨-, rfl⟩ := List.cons.inj hall
  cases he

theorem ne_of_mem_tail {tail : List UInt8} {e : UInt8} (hc : String.utf8EncodeChar c = b :: tail)
    (he : e ∈ tail) (hd : d.toNat < 128) : Char.ofUInt8 e ≠ d := by
  rintro rfl
  exact absurd hd (Nat.not_lt_of_le (le_of_mem_tail hc he))

theorem ne_of_mem_encode (hcd : c ≠ d) (hd : d.toNat < 128) (hb : b ∈ String.utf8EncodeChar c) :
    Char.ofUInt8 b ≠ d := by
  rintro rfl
  exact hcd (eq_of_mem_encode hb hd).2.symm

/-- A byte of a character is of a class of ASCII only if the character is. -/
theorem class_of_mem_encode {p : Char → Bool} (hp : ∀ c, p c → c.toNat < 128)
    (hb : b ∈ String.utf8EncodeChar c) (h : p (Char.ofUInt8 b)) : p c := by
  obtain ⟨-, rfl⟩ := eq_of_mem_encode hb (hp _ h)
  exact h

/-- A loop that goes on at each byte of a class goes on behind bytes of that class. -/
theorem steps_over {β : Type} {bytes front middle rest : List UInt8} (p : Char → Prop)
    {loop : Nat → β}
    (hloop : ∀ i (h : i < bytes.length), p (Char.ofUInt8 bytes[i]) → loop i = loop (i + 1))
    (hbytes : bytes = front ++ middle ++ rest) (hmiddle : ∀ b ∈ middle, p (Char.ofUInt8 b)) :
    loop front.length = loop (front ++ middle).length := by
  induction middle generalizing front with
  | nil => rw [List.append_nil]
  | cons b middle ih =>
    have hlt : front.length < bytes.length := by
      simp only [hbytes, List.length_append, List.length_cons]
      omega
    have hb : bytes[front.length] = b := by
      simp [hbytes]
    have hstep := hloop front.length hlt (hb ▸ hmiddle b (List.mem_cons_self ..))
    have hbytes' : bytes = (front ++ [b]) ++ middle ++ rest := by simp [hbytes]
    have hrest := ih hbytes' fun d hd => hmiddle d (List.mem_cons_of_mem b hd)
    rw [hstep]
    simpa using hrest

/-! ## Loops over characters -/

section Loops

variable {bytes front : List UInt8} {quote : Char} {cs : List Char}

theorem ofUInt8_getElem (hbytes : bytes = front ++ encode (c :: cs)) (hc : c.toNat < 128) :
    ∃ h : front.length < bytes.length, Char.ofUInt8 bytes[front.length] = c := by
  obtain ⟨b, hb, rfl⟩ := encode_ascii hc
  subst hbytes
  simp [hb]

theorem utf8Size_ascii (hc : c.toNat < 128) : c.utf8Size = 1 := by
  obtain ⟨b, hb, -⟩ := encode_ascii hc
  rw [← String.length_utf8EncodeChar, hb]
  rfl

/-- A quoted text ends on bytes where it ends on characters. -/
theorem skipQuoted_eq (hquote : quote.toNat < 128) (hbytes : bytes = front ++ encode cs) :
    skipQuoted bytes quote front.length =
      (quoted? quote cs).map fun found => front.length + byteLength found.1 := by
  have hstep : ∀ i (h : i < bytes.length), (Char.ofUInt8 bytes[i] ≠ '\\' ∧
      Char.ofUInt8 bytes[i] ≠ quote) → skipQuoted bytes quote i = skipQuoted bytes quote (i + 1) := by
    intro i h hother
    rw [skipQuoted]
    simp only [h, dif_pos, hother.1, hother.2, if_false]
  have hslash : '\\'.toNat < 128 := by decide
  fun_induction quoted? quote cs generalizing front with
  | case1 =>
    rw [skipQuoted, dif_neg (by simp [hbytes])]
    rfl
  | case2 =>
    obtain ⟨hlt, hchar⟩ := ofUInt8_getElem hbytes hslash
    have hlength : bytes.length = front.length + 1 := by
      simp [hbytes, utf8Size_ascii hslash]
    rw [skipQuoted, dif_pos hlt]
    simp only [hchar, if_true]
    rw [skipQuoted, dif_neg (by omega)]
    rfl
  | case3 c cs ih =>
    obtain ⟨hlt, hchar⟩ := ofUInt8_getElem hbytes hslash
    obtain ⟨b, hb, -⟩ := encode_ascii hslash
    obtain ⟨d, tail, hd⟩ := exists_encode c
    have hsplit : bytes = (front ++ [b, d]) ++ tail ++ encode cs := by simp [hbytes, hb, hd]
    -- The second byte that is skipped is the first one of the character behind the backslash.
    have hover := steps_over (fun c => c ≠ '\\' ∧ c ≠ quote) hstep hsplit fun e he =>
      ⟨ne_of_mem_tail hd he hslash, ne_of_mem_tail hd he hquote⟩
    have hlength : front.length + 2 = (front ++ [b, d]).length := by simp
    have hcharacter : c.utf8Size = tail.length + 1 := by
      rw [← String.length_utf8EncodeChar, hd, List.length_cons]
    rw [skipQuoted, dif_pos hlt]
    simp only [hchar, if_true]
    rw [hlength, hover, ih hsplit, Option.map_map]
    congr 1
    funext found
    simp [byteLength, utf8Size_ascii hslash, hcharacter]
    omega
  | case4 cs hlast hescape =>
    obtain ⟨hlt, hchar⟩ := ofUInt8_getElem hbytes hquote
    have hne : quote ≠ '\\' := ne_backslash hlast hescape
    rw [skipQuoted, dif_pos hlt]
    simp only [hchar, hne, if_false, if_true, Option.map_some, byteLength, utf8Size_ascii hquote]
  | case5 c cs hlast hescape hother ih =>
    have hne : c ≠ '\\' := ne_backslash hlast hescape
    have hsplit : bytes = front ++ String.utf8EncodeChar c ++ encode cs := by simp [hbytes]
    have hover := steps_over (fun c => c ≠ '\\' ∧ c ≠ quote) hstep hsplit fun e he =>
      ⟨ne_of_mem_encode hne hslash he, ne_of_mem_encode hother hquote he⟩
    rw [hover, ih hsplit, Option.map_map]
    congr 1
    funext found
    simp [byteLength, Nat.add_assoc]

theorem ascii_isTagQuote (h : isTagQuote c) : c.toNat < 128 := by
  simp only [isTagQuote, Bool.or_eq_true, beq_iff_eq] at h
  rcases h with rfl | rfl <;> decide

theorem ascii_isQuote (h : isQuote c) : c.toNat < 128 := by
  simp only [isQuote, Bool.or_eq_true, beq_iff_eq] at h
  rcases h with h | rfl
  · exact ascii_isTagQuote h
  · decide

/-- The position behind a character of ASCII is the next one. -/
theorem length_next (hc : c.toNat < 128) (front : List UInt8) :
    front.length + 1 = (front ++ String.utf8EncodeChar c).length := by
  rw [List.length_append, String.length_utf8EncodeChar, utf8Size_ascii hc]

theorem expressionEnd_quoted {depth : Nat} (hbytes : bytes = front ++ encode (c :: cs))
    (hc : isQuote c) : expressionEnd bytes depth front.length =
      (skipQuoted bytes c (front.length + 1)).elim (.error .openString)
        (expressionEnd bytes depth) := by
  obtain ⟨hlt, rfl⟩ := ofUInt8_getElem hbytes (ascii_isQuote hc)
  rw [expressionEnd, dif_pos hlt]
  simp only [hc, if_true]
  split
  · next hquoted => rw [hquoted]; rfl
  · next j hquoted => rw [hquoted]; rfl

/-- An expression ends on bytes where it ends on characters. -/
theorem expressionEnd_eq (depth : Nat) (hbytes : bytes = front ++ encode cs) :
    expressionEnd bytes depth front.length =
      (braced depth cs).map fun found => front.length + byteLength found.1 := by
  have hstep : ∀ depth i (h : i < bytes.length), (¬isQuote (Char.ofUInt8 bytes[i]) ∧
      Char.ofUInt8 bytes[i] ≠ '\x7b' ∧ Char.ofUInt8 bytes[i] ≠ '\x7d') →
        expressionEnd bytes depth i = expressionEnd bytes depth (i + 1) := by
    intro depth i h hother
    rw [expressionEnd]
    simp [h, hother]
  fun_induction braced depth cs generalizing front with
  | case1 depth =>
    rw [expressionEnd, dif_neg (by simp [hbytes])]
    rfl
  | case2 depth c cs hc hquoted =>
    have hsplit : bytes = (front ++ String.utf8EncodeChar c) ++ encode cs := by simp [hbytes]
    rw [expressionEnd_quoted hbytes hc, length_next (ascii_isQuote hc),
      skipQuoted_eq (ascii_isQuote hc) hsplit, hquoted]
    rfl
  | case3 depth c cs hc inner more hmore hquoted ih =>
    obtain ⟨hinner, -⟩ := quoted?_eq_some isQuote (ne_backslash_of_isQuote hc) hquoted
    have hsplit : bytes = (front ++ String.utf8EncodeChar c) ++ encode cs := by simp [hbytes]
    have hsplit' : bytes = (front ++ String.utf8EncodeChar c ++ encode inner) ++ encode more := by
      rw [hsplit, hinner, encode_append, List.append_assoc _ (encode inner)]
    have hlength : (front ++ String.utf8EncodeChar c).length + byteLength inner =
        (front ++ String.utf8EncodeChar c ++ encode inner).length := by
      simp [Nat.add_assoc]
    rw [expressionEnd_quoted hbytes hc, length_next (ascii_isQuote hc),
      skipQuoted_eq (ascii_isQuote hc) hsplit, hquoted, Option.map_some, Option.elim_some, hlength,
      ih hsplit', except_map_map]
    congr 1
    funext found
    simp [byteLength, Nat.add_assoc]
  | case4 depth c cs hc hend =>
    obtain ⟨rfl, hle⟩ := hend
    obtain ⟨hlt, hchar⟩ := ofUInt8_getElem hbytes (by decide)
    have hlast : depth - 1 = 0 := by omega
    rw [expressionEnd, dif_pos hlt]
    simp only [hchar]
    rw [if_neg hc, if_neg (by decide), if_pos trivial, if_pos hlast]
    rfl
  | case5 depth c cs hc hend deeper =>
    rename_i ih
    have hsplit : bytes = (front ++ String.utf8EncodeChar c) ++ encode cs := by simp [hbytes]
    have hnext : expressionEnd bytes depth front.length =
        expressionEnd bytes deeper (front ++ String.utf8EncodeChar c).length := by
      by_cases hopen : c = '\x7b'
      · subst hopen
        have hascii : '\x7b'.toNat < 128 := by decide
        obtain ⟨hlt, hchar⟩ := ofUInt8_getElem hbytes hascii
        rw [expressionEnd, dif_pos hlt]
        simp only [hchar]
        rw [if_neg hc, if_pos trivial, length_next hascii]
        rfl
      by_cases hclose : c = '\x7d'
      · subst hclose
        have hascii : '\x7d'.toNat < 128 := by decide
        obtain ⟨hlt, hchar⟩ := ofUInt8_getElem hbytes hascii
        have hlast : ¬depth - 1 = 0 := by
          intro hlast
          exact hend ⟨rfl, by omega⟩
        rw [expressionEnd, dif_pos hlt]
        simp only [hchar]
        rw [if_neg hc, if_neg hopen, if_pos trivial, if_neg hlast, length_next hascii]
        rfl
      · have hsame : deeper = depth := by
          simp only [deeper, hopen, hclose, dif_neg, not_false_eq_true]
        rw [hsame]
        refine steps_over (fun c => ¬isQuote c ∧ c ≠ '\x7b' ∧ c ≠ '\x7d') (hstep depth) hsplit ?_
        intro e he
        exact ⟨fun hquote => hc (class_of_mem_encode (fun _ => ascii_isQuote) he hquote),
          ne_of_mem_encode hopen (by decide) he, ne_of_mem_encode hclose (by decide) he⟩
    rw [hnext, ih hsplit, except_map_map]
    congr 1
    funext found
    simp [byteLength, Nat.add_assoc]

theorem tagEnd_quoted (hbytes : bytes = front ++ encode (c :: cs)) (hc : isTagQuote c) :
    tagEnd bytes front.length =
      (skipQuoted bytes c (front.length + 1)).elim (.error .openAttribute) (tagEnd bytes) := by
  obtain ⟨hlt, rfl⟩ := ofUInt8_getElem hbytes (ascii_isTagQuote hc)
  rw [tagEnd, dif_pos hlt]
  simp only [hc, if_true]
  split
  · next hquoted => rw [hquoted]; rfl
  · next j hquoted => rw [hquoted]; rfl

/-- An opening tag ends on bytes where it ends on characters. -/
theorem tagEnd_eq (hbytes : bytes = front ++ encode cs) :
    tagEnd bytes front.length =
      (Template.tagEnd cs).map fun found => front.length + byteLength found.1 := by
  have hstep : ∀ i (h : i < bytes.length), (¬isTagQuote (Char.ofUInt8 bytes[i]) ∧
      Char.ofUInt8 bytes[i] ≠ '>') → tagEnd bytes i = tagEnd bytes (i + 1) := by
    intro i h hother
    rw [tagEnd]
    simp [h, hother]
  fun_induction Template.tagEnd cs generalizing front with
  | case1 =>
    rw [tagEnd, dif_neg (by simp [hbytes])]
    rfl
  | case2 c cs hc hquoted =>
    have hsplit : bytes = (front ++ String.utf8EncodeChar c) ++ encode cs := by simp [hbytes]
    rw [tagEnd_quoted hbytes hc, length_next (ascii_isTagQuote hc),
      skipQuoted_eq (ascii_isTagQuote hc) hsplit, hquoted]
    rfl
  | case3 c cs hc inner more hmore hquoted ih =>
    obtain ⟨hinner, -⟩ :=
      quoted?_eq_some isTagQuote (ne_backslash_of_isTagQuote hc) hquoted
    have hsplit : bytes = (front ++ String.utf8EncodeChar c) ++ encode cs := by simp [hbytes]
    have hsplit' : bytes = (front ++ String.utf8EncodeChar c ++ encode inner) ++ encode more := by
      rw [hsplit, hinner, encode_append, List.append_assoc _ (encode inner)]
    have hlength : (front ++ String.utf8EncodeChar c).length + byteLength inner =
        (front ++ String.utf8EncodeChar c ++ encode inner).length := by
      simp [Nat.add_assoc]
    rw [tagEnd_quoted hbytes hc, length_next (ascii_isTagQuote hc),
      skipQuoted_eq (ascii_isTagQuote hc) hsplit, hquoted, Option.map_some, Option.elim_some,
      hlength, ih hsplit', except_map_map]
    congr 1
    funext found
    simp [byteLength, Nat.add_assoc]
  | case4 cs hc =>
    obtain ⟨hlt, hchar⟩ := ofUInt8_getElem hbytes (by decide)
    rw [tagEnd, dif_pos hlt]
    simp only [hchar]
    rw [if_neg hc, if_pos trivial]
    rfl
  | case5 c cs hc hend ih =>
    have hsplit : bytes = (front ++ String.utf8EncodeChar c) ++ encode cs := by simp [hbytes]
    have hover := steps_over (fun c => ¬isTagQuote c ∧ c ≠ '>') hstep hsplit fun e he =>
      ⟨fun hquote => hc (class_of_mem_encode (fun _ => ascii_isTagQuote) he hquote),
        ne_of_mem_encode hend (by decide) he⟩
    rw [hover, ih hsplit, except_map_map]
    congr 1
    funext found
    simp [byteLength, Nat.add_assoc]

/-- The characters of a class of ASCII are skipped. -/
theorem skipClass_eq (p : Char → Bool) (hp : ∀ c, p c → c.toNat < 128)
    (hbytes : bytes = front ++ encode cs) :
    skipClass bytes p front.length = (front ++ encode (cs.takeWhile p)).length := by
  induction cs generalizing front with
  | nil =>
    rw [skipClass, dif_neg (by simp [hbytes])]
    simp
  | cons c cs ih =>
    by_cases hc : p c
    · obtain ⟨hlt, hchar⟩ := ofUInt8_getElem hbytes (hp c hc)
      have hsplit : bytes = (front ++ String.utf8EncodeChar c) ++ encode cs := by simp [hbytes]
      rw [skipClass, dif_pos hlt, hchar, if_pos hc, length_next (hp c hc), ih hsplit,
        List.takeWhile_cons_of_pos hc, encode_cons, List.append_assoc]
    · obtain ⟨b, tail, hb⟩ := exists_encode c
      have hmem : b ∈ String.utf8EncodeChar c := hb ▸ List.mem_cons_self ..
      have hother : ¬p (Char.ofUInt8 b) := fun h => hc (class_of_mem_encode hp hmem h)
      have hlt : front.length < bytes.length := by simp [hbytes, hb]
      have hbyte : bytes[front.length] = b := by simp [hbytes, hb]
      rw [skipClass, dif_pos hlt, hbyte, if_neg hother, List.takeWhile_cons_of_neg hc]
      simp

theorem ascii_isNameChar (h : isNameChar c) : c.toNat < 128 := by
  unfold isNameChar isAsciiLetter isAsciiDigit at h
  simp only [Bool.or_eq_true, Bool.and_eq_true, decide_eq_true_eq, beq_iff_eq] at h
  rcases h with ((h | h) | rfl) | rfl
  · omega
  · omega
  · decide
  · decide

theorem ascii_isAsciiBlank (h : isAsciiBlank c) : c.toNat < 128 := by
  simp only [isAsciiBlank, Bool.or_eq_true, beq_iff_eq] at h
  omega

/-- The byte at which a character starts is of a class of ASCII if the character is, and then stands
for it. -/
theorem getElem?_front (p : Char → Bool) (hp : ∀ c, p c → c.toNat < 128)
    (hbytes : bytes = front ++ encode (c :: cs)) :
    ∃ b, bytes[front.length]? = some b ∧ (p (Char.ofUInt8 b) ↔ p c) ∧
      (p c → Char.ofUInt8 b = c) := by
  obtain ⟨b, tail, hb⟩ := exists_encode c
  have hmem : b ∈ String.utf8EncodeChar c := hb ▸ List.mem_cons_self ..
  have hchar : p c → Char.ofUInt8 b = c := by
    intro hc
    obtain ⟨e, he, rfl⟩ := encode_ascii (hp c hc)
    obtain ⟨rfl, -⟩ := List.cons.inj (he.symm.trans hb)
    rfl
  refine ⟨b, by simp [hbytes, hb], ⟨class_of_mem_encode hp hmem, fun hc => ?_⟩, hchar⟩
  rwa [hchar hc]

/-- The character at a position is of a class of ASCII if its byte there is. -/
theorem any_getElem? (p : Char → Bool) (hp : ∀ c, p c → c.toNat < 128)
    (hbytes : bytes = front ++ encode cs) :
    bytes[front.length]?.any (fun b => p (Char.ofUInt8 b)) = cs.head?.any p := by
  cases cs with
  | nil => simp [hbytes]
  | cons c cs =>
    obtain ⟨b, hbyte, hclass, -⟩ := getElem?_front p hp hbytes
    rw [hbyte, Option.any_some, List.head?_cons, Option.any_some, Bool.eq_iff_iff, hclass]

/-- What a closing tag takes off a text. -/
theorem map_closerEnd (cs : List Char) : (Template.closerEnd cs).map Prod.fst =
    if ((cs.dropWhile isNameChar).dropWhile isAsciiBlank).head?.any (· == '>') then
      .ok (cs.takeWhile isNameChar ++ (cs.dropWhile isNameChar).takeWhile isAsciiBlank ++ ['>'])
    else .error .badCloser := by
  unfold Template.closerEnd dropLeading
  dsimp only
  split
  · next hnil =>
    rw [Subtype.mk.inj hnil]
    rfl
  · next c rest hrest hcons =>
    rw [Subtype.mk.inj hcons]
    by_cases hc : c = '>'
    · subst hc
      rfl
    · simp [hc, Except.map]

/-- A closing tag ends on bytes where it ends on characters. -/
theorem closerEnd_eq (hbytes : bytes = front ++ encode cs) :
    closerEnd bytes front.length =
      (Template.closerEnd cs).map fun found => front.length + byteLength found.1 := by
  have hname := skipClass_eq isNameChar (fun _ => ascii_isNameChar) hbytes
  have hsplit : bytes = (front ++ encode (cs.takeWhile isNameChar)) ++
      encode (cs.dropWhile isNameChar) := by
    rw [hbytes, List.append_assoc, ← encode_append, List.takeWhile_append_dropWhile]
  have hblanks := skipClass_eq isAsciiBlank (fun _ => ascii_isAsciiBlank) hsplit
  have hsplit' : bytes = (front ++ encode (cs.takeWhile isNameChar) ++
      encode ((cs.dropWhile isNameChar).takeWhile isAsciiBlank)) ++
        encode ((cs.dropWhile isNameChar).dropWhile isAsciiBlank) := by
    rw [List.append_assoc _ (encode ((cs.dropWhile isNameChar).takeWhile isAsciiBlank)),
      ← encode_append, List.takeWhile_append_dropWhile, ← hsplit]
  have hmap : (Template.closerEnd cs).map (fun found => front.length + byteLength found.1) =
      ((Template.closerEnd cs).map Prod.fst).map fun text => front.length + byteLength text := by
    rw [except_map_map]
    rfl
  unfold closerEnd
  dsimp only
  rw [hname, hblanks, hmap, map_closerEnd]
  have hclose : '>'.toNat < 128 := by decide
  rw [any_getElem? (· == '>') (fun c hc => beq_iff_eq.1 hc ▸ hclose) hsplit']
  split
  · simp [Except.map, byteLength, utf8Size_ascii hclose, Nat.add_assoc]
  · rfl

end Loops

/-! ## Tokens -/

section Tokens

variable {bytes front : List UInt8} {cs : List Char}

/-- Bytes start like the text that they encode. -/
theorem startsWith_eq {text : List Char} (hbytes : bytes = front ++ encode cs)
    (htext : ∀ d ∈ text, d.toNat < 128) :
    startsWith bytes front.length text ↔ text <+: cs := by
  unfold startsWith
  rw [hbytes, List.drop_left, List.isPrefixOf_iff_prefix]
  clear hbytes
  induction text generalizing cs with
  | nil => simp
  | cons d text ih =>
    have hd := htext d (List.mem_cons_self ..)
    have htext' : ∀ e ∈ text, e.toNat < 128 := fun e he => htext e (List.mem_cons_of_mem d he)
    cases cs with
    | nil => simp
    | cons c cs =>
      obtain ⟨b, tail, hb⟩ := exists_encode c
      rw [encode_cons, hb, List.cons_append, List.map_cons, List.cons_prefix_cons,
        List.cons_prefix_cons]
      constructor
      · rintro ⟨rfl, hstarts⟩
        obtain ⟨hall, rfl⟩ := eq_of_mem_encode (hb ▸ List.mem_cons_self ..) hd
        obtain ⟨-, rfl⟩ := List.cons.inj (hb.symm.trans hall)
        exact ⟨rfl, (ih htext').1 hstarts⟩
      · rintro ⟨rfl, hstarts⟩
        obtain ⟨e, he, rfl⟩ := encode_ascii hd
        obtain ⟨rfl, rfl⟩ := List.cons.inj (he.symm.trans hb)
        exact ⟨rfl, (ih htext').2 hstarts⟩

theorem byteLength_ascii {text : List Char} (h : ∀ d ∈ text, d.toNat < 128) :
    byteLength text = text.length := by
  induction text with
  | nil => rfl
  | cons d text ih =>
    have hrest := ih fun e he => h e (List.mem_cons_of_mem d he)
    simp [byteLength, utf8Size_ascii (h d (List.mem_cons_self ..)), hrest, Nat.add_comm]

theorem ascii_isNameStart {c : Char} (h : isNameStart c) : c.toNat < 128 :=
  ascii_isNameChar (isNameChar_of_isNameStart h)

/-- A tag starts at a character where it starts in the text. -/
theorem startsName_eq {text : List Char} (hbytes : bytes = front ++ encode cs)
    (htext : ∀ d ∈ text, d.toNat < 128) :
    startsName bytes front.length text ↔ ∃ c, isNameStart c ∧ text ++ [c] <+: cs := by
  unfold startsName
  rw [Bool.and_eq_true, startsWith_eq hbytes htext]
  have hlength : front.length + text.length = (front ++ encode text).length := by
    simp [byteLength_ascii htext]
  have hbehind : ∀ rest, cs = text ++ rest →
      bytes[front.length + text.length]?.any (fun b => isNameStart (Char.ofUInt8 b)) =
        rest.head?.any isNameStart := by
    rintro rest rfl
    rw [hlength]
    exact any_getElem? isNameStart (fun _ => ascii_isNameStart) (by simp [hbytes])
  constructor
  · rintro ⟨⟨rest, hrest⟩, hname⟩
    rw [hbehind rest hrest.symm] at hname
    cases rest with
    | nil => cases hname
    | cons c rest => exact ⟨c, hname, rest, by simpa using hrest⟩
  · rintro ⟨c, hc, rest, hrest⟩
    have hsplit : cs = text ++ (c :: rest) := by simpa using hrest.symm
    exact ⟨⟨c :: rest, hsplit.symm⟩, (hbehind _ hsplit).trans hc⟩

theorem byteLength_opening (kind : Kind) : byteLength kind.opening = kind.opening.length := by
  apply byteLength_ascii
  cases kind <;> simp [Kind.opening]

/-- A token starts at a character where it starts in the text. -/
theorem tokenAt_eq (hbytes : bytes = front ++ encode cs) :
    tokenAt bytes front.length = (opener? cs).map fun found =>
      (found.1, (tokenEnd found.1 found.2.2.val).map fun ended =>
        front.length + byteLength (found.2.1 ++ ended.1)) := by
  have hexpression : startsWith bytes front.length ['$', '\x7b'] ↔ Opens .expression cs :=
    startsWith_eq hbytes (by simp)
  have hopen : startsName bytes front.length ['<', '$', ':'] ↔ Opens .openTag cs :=
    startsName_eq hbytes (by simp)
  have hclose : startsName bytes front.length ['<', '/', '$', ':'] ↔ Opens .closeTag cs :=
    startsName_eq hbytes (by simp)
  unfold tokenAt
  rcases hfound : opener? cs with _ | ⟨kind, opener, inner⟩
  · have hnone : ∀ kind, ¬Opens kind cs := by
      intro kind hopens
      have hsome := isSome_opener? hopens
      rw [hfound] at hsome
      cases hsome
    rw [if_neg (mt hexpression.1 (hnone _)), if_neg (mt hopen.1 (hnone _)),
      if_neg (mt hclose.1 (hnone _))]
    rfl
  · obtain ⟨hopens, rfl, hcs⟩ := opens_of_opener? hfound
    have hsplit : bytes = (front ++ encode kind.opening) ++ encode inner.val := by
      rw [hbytes, List.append_assoc, ← encode_append, ← hcs]
    have hlength : (front ++ encode kind.opening).length = front.length + kind.opening.length := by
      rw [List.length_append, length_encode, byteLength_opening]
    have hother : ∀ other, other ≠ kind → ¬Opens other cs := fun other hne h =>
      hne (h.unique hopens)
    have hbehind : ∀ body, front.length + byteLength (kind.opening ++ body) =
        front.length + kind.opening.length + byteLength body := by
      intro body
      rw [byteLength_append, byteLength_opening, Nat.add_assoc]
    simp only [Option.map_some, hbehind]
    cases kind with
    | literal => exact hopens.elim
    | expression =>
      have hend := expressionEnd_eq 1 hsplit
      rw [hlength] at hend
      rw [if_pos (hexpression.2 hopens)]
      exact congrArg (fun stop => some (_, stop)) hend
    | openTag =>
      have hend := tagEnd_eq hsplit
      rw [hlength] at hend
      rw [if_neg (mt hexpression.1 (hother .expression nofun)), if_pos (hopen.2 hopens)]
      exact congrArg (fun stop => some (_, stop)) hend
    | closeTag =>
      have hend := closerEnd_eq hsplit
      rw [hlength] at hend
      rw [if_neg (mt hexpression.1 (hother .expression nofun)),
        if_neg (mt hopen.1 (hother .openTag nofun)), if_pos (hclose.2 hopens)]
      exact congrArg (fun stop => some (_, stop)) hend

/-- No token starts inside of a character. -/
theorem tokenAt_eq_none {i : Nat} (h : i < bytes.length)
    (hbyte : 128 ≤ (Char.ofUInt8 bytes[i]).toNat) : tokenAt bytes i = none := by
  have hother : ∀ d text, d.toNat < 128 → ¬startsWith bytes i (d :: text) := by
    intro d text hd hstarts
    unfold startsWith at hstarts
    rw [List.drop_eq_getElem_cons h, List.map_cons, List.isPrefixOf_iff_prefix,
      List.cons_prefix_cons] at hstarts
    rw [← hstarts.1] at hbyte
    exact absurd hd (Nat.not_lt_of_le hbyte)
  unfold tokenAt startsName
  simp [hother]

end Tokens

/-! ## Cuts -/

theorem splitAtByte_append (cs ds : List Char) :
    splitAtByte (byteLength cs) (cs ++ ds) = some (cs, ds) := by
  induction cs with
  | nil => simp [byteLength, splitAtByte]
  | cons c cs ih =>
    obtain ⟨n, hn⟩ : ∃ n, byteLength (c :: cs) = n + 1 :=
      Nat.exists_eq_succ_of_ne_zero (by have := c.utf8Size_pos; simp only [byteLength]; omega)
    have hrest : n + 1 - c.utf8Size = byteLength cs := by
      rw [← hn]
      simp [byteLength]
    have hle : c.utf8Size ≤ n + 1 := by
      rw [← hn]
      simp [byteLength]
    rw [hn, List.cons_append, splitAtByte, if_pos hle, hrest, ih]
    rfl

/-- Between the ends of a text stands the text. -/
theorem slice_append (before text after : List Char) :
    slice (before ++ text ++ after) (byteLength before) (byteLength (before ++ text)) =
      some (String.ofList text) := by
  unfold slice
  rw [splitAtByte_append]
  simp [splitAtByte_append]

section Cuts

variable {source : List Char} {bytes front : List UInt8} {start i : Nat} {cs : List Char}

theorem tokensFrom_none (h : i < bytes.length) (hnone : tokenAt bytes i = none) :
    tokensFrom source bytes start i = tokensFrom source bytes start (i + 1) := by
  rw [tokensFrom, dif_pos h]
  split
  · rfl
  · next hfault => rw [hnone] at hfault; cases hfault
  · next hfound => rw [hnone] at hfound; cases hfound

theorem tokensFrom_error {kind : Kind} {fault : ScanFault} (h : i < bytes.length)
    (htoken : tokenAt bytes i = some (kind, .error fault)) :
    tokensFrom source bytes start i = some (.error (fault, i)) := by
  rw [tokensFrom, dif_pos h]
  split
  · next hnone => rw [htoken] at hnone; cases hnone
  · next hfault =>
    rw [htoken] at hfault
    cases hfault
    rfl
  · next hfound => rw [htoken] at hfound; cases hfound

theorem tokensFrom_token {kind : Kind} {stop : Nat} (h : i < bytes.length)
    (htoken : tokenAt bytes i = some (kind, .ok stop)) :
    tokensFrom source bytes start i = do
      let literal ← slice source start i
      let token ← slice source i stop
      let rest ← tokensFrom source bytes stop stop
      return rest.map fun later => ⟨.literal, literal, start⟩ :: ⟨kind, token, i⟩ :: later := by
  rw [tokensFrom, dif_pos h]
  split
  · next hnone => rw [htoken] at hnone; cases hnone
  · next hfault => rw [htoken] at hfault; cases hfault
  · next hfound =>
    rw [htoken] at hfound
    cases hfound
    rfl

/-- The loop goes on over a literal. -/
theorem tokensFrom_literal (hbytes : bytes = front ++ encode cs) :
    tokensFrom source bytes start front.length =
      tokensFrom source bytes start (front ++ encode (literal cs).1).length := by
  fun_induction literal cs generalizing front with
  | case1 => simp
  | case2 => simp
  | case3 c cs hopener text rest hliteral ih =>
    obtain ⟨b, tail, hb⟩ := exists_encode c
    have hlt : front.length < bytes.length := by simp [hbytes, hb]
    have hnone : tokenAt bytes front.length = none := by
      rw [tokenAt_eq hbytes, Option.not_isSome_iff_eq_none.1 hopener]
      rfl
    have hnext : front.length + 1 = (front ++ [b]).length := by simp
    have hsplit : bytes = (front ++ [b]) ++ tail ++ encode cs := by simp [hbytes, hb]
    -- Inside of the character no token starts either.
    have hloop : ∀ i (h : i < bytes.length), 128 ≤ (Char.ofUInt8 bytes[i]).toNat →
        tokensFrom source bytes start i = tokensFrom source bytes start (i + 1) :=
      fun i h hbyte => tokensFrom_none h (tokenAt_eq_none h hbyte)
    have hover := steps_over (fun c => 128 ≤ c.toNat) hloop hsplit fun e he => le_of_mem_tail hb he
    rw [hliteral] at ih
    rw [tokensFrom_none hlt hnone, hnext, hover, ih hsplit]
    congr 1
    simp [hb]

/-- From the end of a token the loop goes on to the next one. -/
theorem tokensFrom_front {text : List Char} {rest : NoLonger cs} (before : List Char)
    (hliteral : literal cs = (text, rest)) :
    tokensFrom (before ++ cs) (encode (before ++ cs)) (byteLength before) (byteLength before) =
      tokensFrom (before ++ cs) (encode (before ++ cs)) (byteLength before)
        (byteLength (before ++ text)) := by
  have hphase : tokensFrom (before ++ cs) (encode (before ++ cs)) (byteLength before)
      (encode before).length = tokensFrom (before ++ cs) (encode (before ++ cs)) (byteLength before)
        (encode before ++ encode (literal cs).1).length :=
    tokensFrom_literal (encode_append before cs)
  rwa [← encode_append, length_encode, length_encode, hliteral] at hphase

/-- Behind the literal at the front of a text the next token is found. -/
theorem tokenAt_rest {before text rest : List Char} {kind : Kind} {opener : List Char}
    {inner : Shorter rest} (hopener : opener? rest = some (kind, opener, inner)) :
    byteLength (before ++ text) < (encode (before ++ (text ++ rest))).length ∧
      tokenAt (encode (before ++ (text ++ rest))) (byteLength (before ++ text)) =
        some (kind, (tokenEnd kind inner.val).map fun ended =>
          byteLength (before ++ text) + byteLength (opener ++ ended.1)) := by
  have hbytes : encode (before ++ (text ++ rest)) = encode (before ++ text) ++ encode rest := by
    rw [← List.append_assoc, encode_append]
  have htoken := tokenAt_eq hbytes
  rw [hopener, length_encode] at htoken
  refine ⟨?_, htoken⟩
  cases rest with
  | nil => cases hopener
  | cons c rest =>
    have hpos := c.utf8Size_pos
    simp only [length_encode, byteLength_append, byteLength]
    omega

end Cuts

/-- The cuts on bytes are those on characters. -/
theorem tokensFrom_eq (offset : Nat) (before cs : List Char) (hoffset : offset = byteLength before) :
    tokensFrom (before ++ cs) (encode (before ++ cs)) offset offset =
      some ((partsFrom offset cs).map (place offset)) := by
  induction offset, cs using partsFrom.induct generalizing before with
  | case1 offset cs text rest hrest hliteral hopener =>
    subst hoffset
    obtain ⟨hsplit, -, hends⟩ := literal_spec cs
    rw [hliteral] at hsplit hends
    have hall : rest = [] := by simpa [hopener] using hends
    have hcs : cs = text := by simpa [hall] using hsplit
    have hslice := slice_append before text []
    rw [List.append_nil] at hslice
    rw [tokensFrom_front before hliteral, partsFrom_eq_literal hliteral hopener, hcs, tokensFrom,
      dif_neg (by simp), length_encode, hslice]
    rfl
  | case2 offset cs text rest hrest hliteral kind opener inner hinner hopener fault hend =>
    subst hoffset
    obtain ⟨hsplit, -⟩ := literal_spec cs
    simp only [hliteral] at hsplit
    obtain ⟨hlt, htoken⟩ : _ ∧ tokenAt (encode (before ++ (text ++ rest))) _ = _ :=
      tokenAt_rest hopener
    rw [hend] at htoken
    rw [tokensFrom_front before hliteral, partsFrom_eq_error hliteral hopener hend, hsplit,
      tokensFrom_error hlt htoken, byteLength_append]
    rfl
  | case3 offset cs text rest hrest hliteral kind opener inner hinner hopener start body more hmore
      hend token =>
    rename_i ih
    subst hoffset
    obtain ⟨hsplit, -⟩ := literal_spec cs
    simp only [hliteral] at hsplit
    obtain ⟨hparts, -⟩ := formed_token hopener hend
    have hcs : before ++ (text ++ rest) = before ++ text ++ token ++ more := by
      rw [hparts]
      simp [token]
    obtain ⟨hlt, htoken⟩ : _ ∧ tokenAt (encode (before ++ (text ++ rest))) _ = _ :=
      tokenAt_rest hopener
    have htoken : tokenAt (encode (before ++ (text ++ rest))) (byteLength (before ++ text)) =
        some (kind, .ok (byteLength (before ++ text ++ token))) := by
      rw [htoken, hend, byteLength_append _ token]
      rfl
    have hplace : start + byteLength token = byteLength (before ++ text ++ token) := by
      simp [start, Nat.add_assoc]
    have hliteralSlice : slice (before ++ (text ++ rest)) (byteLength before)
        (byteLength (before ++ text)) = some (String.ofList text) := by
      rw [← List.append_assoc]
      exact slice_append before text rest
    have htokenSlice : slice (before ++ (text ++ rest)) (byteLength (before ++ text))
        (byteLength (before ++ text ++ token)) = some (String.ofList token) := by
      rw [hcs]
      exact slice_append (before ++ text) token more
    have hlater := ih (before ++ text ++ token) hplace
    rw [hplace, ← hcs] at hlater
    have hstart : byteLength before + byteLength text + byteLength (opener ++ body) =
        byteLength (before ++ text ++ token) := hplace
    rw [tokensFrom_front before hliteral, partsFrom_eq_token hliteral hopener hend]
    dsimp only
    rw [hsplit, tokensFrom_token hlt htoken, hliteralSlice, htokenSlice, hlater, hstart]
    rcases partsFrom (byteLength (before ++ text ++ token)) more with fault | later
    · rfl
    · simp [Except.map, place, token, Nat.add_assoc]

/-- All indices and slices are in place, and the tokens are those of the characters. -/
theorem tokens_eq_tokenize (source : String) : tokens source = some (tokenize source) := by
  unfold tokens tokenize parts
  rw [toUTF8_eq_encode]
  exact tokensFrom_eq 0 [] source.toList rfl

end ByteScan

/-- A source is cut into all of it, or the place of an opener is found whose token has no end. The
cuts can be made on its bytes, and all of them stand between characters. -/
theorem tokenize_partitions (source : String) :
    ByteScan.tokens source = some (tokenize source) ∧
      match tokenize source with
      | .ok tokens => Partition source tokens
      | .error (_, start) => ∃ before after kind, source = before ++ after ∧
          start = before.utf8ByteSize ∧ Opens kind after.toList :=
  ⟨ByteScan.tokens_eq_tokenize source, tokenize_spec source⟩

end TemplateEngine.Template
