import Mathlib.Data.List.TakeWhile
import TemplateEngine.Proofs.Template.Bytes
import TemplateEngine.Proofs.Text.Cutting

/-!
# `Template` · The format of attributes

The attributes of a text are read exactly if it is written in their format.

* **`WritesAttributes`** is the format: attributes with blanks between them, each one a bare name, or
  a name and a value that is plain or in quotes.
* **`firstAttribute`** is what `attributesFrom` does for one attribute, without the bounds that make
  the recursion end (`attributesFrom_eq`). It finds what is written there
  (`firstAttribute_of_writes`), and nothing else (`writes_of_firstAttribute`), so that the whole text
  is covered by induction on the attributes in one direction, and on what each of them leaves in the
  other.
* **`ByteScan.attributes`** reads the bytes of a text, with positions in them and slices between
  them. All slices are in place, and it finds the same attributes and faults
  (`ByteScan.attributes_eq`).
-/

namespace TemplateEngine.Template

open TemplateEngine.Text

/-! ## The format -/

/-- A name of an attribute. -/
def IsAttributeName (name : List Char) : Prop :=
  name ≠ [] ∧ ∀ c ∈ name, isAttributeChar c ∧ ¬isTagQuote c

instance (name : List Char) : Decidable (IsAttributeName name) :=
  decidable_of_iff (name ≠ [] ∧ name.all fun c => isAttributeChar c && !isTagQuote c)
    (by simp [IsAttributeName])

/-- What follows an attribute: nothing, or a blank. -/
def StartsBlank (cs : List Char) : Prop := ∀ c ∈ cs.head?, isAsciiBlank c

/-- A text that writes a value. -/
inductive WritesValue : List Char → List Char → Prop where
  /-- A value without blanks and quotes stands for itself. -/
  | plain {value : List Char} (hvalue : ∀ c ∈ value, ¬isAsciiBlank c ∧ ¬isTagQuote c) :
      WritesValue value value
  /-- Any other one is quoted, and does not hold the quote. -/
  | quoted {value : List Char} {quote : Char} (hquote : isTagQuote quote) (hvalue : quote ∉ value) :
      WritesValue (quote :: (value ++ [quote])) value

/-- A text that writes one attribute, with the name and the value. -/
inductive WritesAttribute : List Char → List Char × List Char → Prop where
  /-- A bare name has an empty value. -/
  | bare {name : List Char} (hname : IsAttributeName name) : WritesAttribute name (name, [])
  /-- A name and a value. -/
  | valued {name text value : List Char} (hname : IsAttributeName name)
      (hvalue : WritesValue text value) : WritesAttribute (name ++ '=' :: text) (name, value)

/-- A text that writes attributes, with blanks between them and around them. -/
inductive WritesAttributes : List Char → List (List Char × List Char) → Prop where
  /-- Nothing but blanks. -/
  | nil {blanks : List Char} (hblanks : ∀ c ∈ blanks, isAsciiBlank c) : WritesAttributes blanks []
  /-- An attribute, behind it the end or a blank, and more of them. -/
  | cons {blanks text rest : List Char} {pair : List Char × List Char}
      {pairs : List (List Char × List Char)} (hblanks : ∀ c ∈ blanks, isAsciiBlank c)
      (hpair : WritesAttribute text pair) (hbreak : StartsBlank rest)
      (hrest : WritesAttributes rest pairs) :
      WritesAttributes (blanks ++ text ++ rest) (pair :: pairs)

variable {c d : Char} {cs name value rest text blanks : List Char} {start position : Nat}
  {pair : List Char × List Char} {pairs : List (List Char × List Char)}

theorem not_isAttributeChar_equals : ¬isAttributeChar '=' := by decide

theorem not_isAttributeChar_of_isAsciiBlank (hc : isAsciiBlank c) : ¬isAttributeChar c := by
  simp [isAttributeChar, hc]

theorem not_isTagQuote_of_isAsciiBlank (hc : isAsciiBlank c) : ¬isTagQuote c := by
  simp only [isTagQuote, Bool.or_eq_true, beq_iff_eq]
  rintro (rfl | rfl)
  · exact absurd hc (by decide)
  · exact absurd hc (by decide)

/-! ## One attribute -/

/-- The value that stands at the front of a text, and what follows it. -/
def firstValue (name : List Char) : List Char → Except AttributeFault (List Char × List Char)
  | [] => .ok ([], [])
  | c :: cs =>
    if isTagQuote c then
      match cs.dropWhile (· != c) with
      | [] => .error (.mismatchedQuote (String.ofList name))
      | _ :: after =>
        if after.head?.all isAsciiBlank then .ok (cs.takeWhile (· != c), after)
        else .error (.mismatchedQuote (String.ofList name))
    else
      let value := (c :: cs).takeWhile (!isAsciiBlank ·)
      if value.any isTagQuote then .error (.mismatchedQuote (String.ofList name))
      else .ok (value, (c :: cs).dropWhile (!isAsciiBlank ·))

theorem attributeValue_eq (name cs : List Char) :
    (attributeValue name cs).map (fun found => (found.1, found.2.val)) = firstValue name cs := by
  unfold attributeValue firstValue
  cases cs with
  | nil => rfl
  | cons c cs =>
    by_cases hc : isTagQuote c
    · dsimp only
      rw [if_pos hc, if_pos hc]
      unfold dropLeading
      split
      · next hnil =>
        rw [Subtype.mk.inj hnil]
        rfl
      · next d after hafter hcons =>
        rw [Subtype.mk.inj hcons]
        cases after with
        | nil => rfl
        | cons e after =>
          by_cases he : isAsciiBlank e
          · simp [he, Except.map, Shorter.noLonger, Shorter.cons]
          · simp [he, Except.map]
    · dsimp only
      rw [if_neg hc, if_neg hc]
      split
      · rfl
      · rfl

/-- The attribute of a name, after which the text goes on, and what follows that. -/
def behindName (name : List Char) :
    List Char → Except AttributeFault ((List Char × List Char) × List Char)
  | [] => .ok ((name, []), [])
  | d :: more =>
    if d = '=' then (firstValue name more).map fun (value, rest) => ((name, value), rest)
    else .ok ((name, []), d :: more)

/-- The attribute that a text starts with, and what follows it. -/
def firstAttribute (start : Nat) (cs : List Char) :
    Except AttributeFault ((List Char × List Char) × List Char) :=
  let name := cs.takeWhile isAttributeChar
  match name.findIdx? isTagQuote with
  | some i => .error (.quoteInName (start + byteLength (name.take i)))
  | none =>
    if name = [] then .error (.missingName start)
    else behindName name (cs.dropWhile isAttributeChar)

theorem attributesFrom_nil (position : Nat) : attributesFrom position [] = .ok [] := by
  rw [attributesFrom]
  rfl

/-- Attributes are read one after the other. -/
theorem attributesFrom_eq (position : Nat) (cs : List Char) :
    attributesFrom position cs =
      match cs.dropWhile isAsciiBlank with
      | [] => .ok []
      | c :: rest =>
        match firstAttribute (position + byteLength (cs.takeWhile isAsciiBlank)) (c :: rest) with
        | .error fault => .error fault
        | .ok (pair, final) =>
          (attributesFrom (position + (byteLength cs - byteLength final)) final).map (pair :: ·) := by
  rw [attributesFrom]
  unfold dropLeading firstAttribute
  split
  · next hnil => rw [Subtype.mk.inj hnil]
  · next c rest hrest hcons =>
    rw [Subtype.mk.inj hcons]
    dsimp only
    have hblank : ¬isAsciiBlank c := by
      have hhead : c ∈ (cs.dropWhile isAsciiBlank).head? := by
        rw [Subtype.mk.inj hcons]
        rfl
      exact not_of_mem_head?_dropWhile c hhead
    cases ((c :: rest).takeWhile isAttributeChar).findIdx? isTagQuote with
    | some i => rfl
    | none =>
      by_cases hc : c = '='
      · subst hc
        rw [List.takeWhile_cons_of_neg not_isAttributeChar_equals]
        rfl
      have hchar : isAttributeChar c := by simp [isAttributeChar, hblank, hc]
      have hname : (c :: rest).takeWhile isAttributeChar ≠ [] := by
        simp [List.takeWhile_cons_of_pos hchar]
      dsimp only
      rw [if_neg hc, if_neg hname, List.dropWhile_cons_of_pos hchar]
      split
      · next hafter _ =>
        rw [hafter]
        simp [behindName, attributesFrom_nil, Except.map]
      · next d more hn hafter _ =>
        rw [hafter]
        dsimp only [behindName]
        by_cases hd : d = '='
        · rw [if_pos hd, if_pos hd, ← attributeValue_eq]
          rcases attributeValue ((c :: rest).takeWhile isAttributeChar) more with fault | found
          · rfl
          · rfl
        · rw [if_neg hd, if_neg hd]

/-! ## What is read is what is written -/

theorem firstValue_quoted (hc : isTagQuote c) :
    firstValue name (c :: cs) =
      match cs.dropWhile (· != c) with
      | [] => .error (.mismatchedQuote (String.ofList name))
      | _ :: after =>
        if after.head?.all isAsciiBlank then .ok (cs.takeWhile (· != c), after)
        else .error (.mismatchedQuote (String.ofList name)) :=
  if_pos hc

theorem firstValue_plain (hcs : ∀ c ∈ cs.head?, ¬isTagQuote c) :
    firstValue name cs =
      if (cs.takeWhile (!isAsciiBlank ·)).any isTagQuote then
        .error (.mismatchedQuote (String.ofList name))
      else .ok (cs.takeWhile (!isAsciiBlank ·), cs.dropWhile (!isAsciiBlank ·)) := by
  cases cs with
  | nil => rfl
  | cons c cs => exact if_neg (hcs c rfl)

theorem startsBlank_iff_all : StartsBlank rest ↔ rest.head?.all isAsciiBlank := by
  cases rest with
  | nil => simp [StartsBlank]
  | cons c rest => simp [StartsBlank]

theorem writes_of_firstValue (h : firstValue name cs = .ok (value, rest)) :
    ∃ text, cs = text ++ rest ∧ WritesValue text value ∧ StartsBlank rest := by
  by_cases hhead : ∃ c ∈ cs.head?, isTagQuote c
  · obtain ⟨c, hc, hquote⟩ := hhead
    obtain ⟨cs, rfl⟩ := List.head?_eq_some_iff.1 hc
    rw [firstValue_quoted hquote] at h
    split at h
    · cases h
    next d after hafter =>
    split at h
    · next hbreak =>
      cases h
      -- The quote that ends the value is the one that it starts with.
      obtain rfl : d = c := by
        have hclose : ¬(d != c) := not_of_mem_head?_dropWhile d (by rw [hafter]; rfl)
        simpa using hclose
      have hsplit := List.takeWhile_append_dropWhile (p := (· != d)) (l := cs)
      rw [hafter] at hsplit
      refine ⟨d :: (cs.takeWhile (· != d) ++ [d]), by simpa using hsplit.symm,
        .quoted hquote fun hmem => ?_, startsBlank_iff_all.2 hbreak⟩
      simpa using List.mem_takeWhile_imp hmem
    · cases h
  · have hplain : ∀ c ∈ cs.head?, ¬isTagQuote c := fun c hc hquote => hhead ⟨c, hc, hquote⟩
    rw [firstValue_plain hplain] at h
    split at h
    · cases h
    next hfree =>
    cases h
    refine ⟨cs.takeWhile (!isAsciiBlank ·), List.takeWhile_append_dropWhile.symm,
      .plain fun d hd => ?_, fun d hd => ?_⟩
    · have hblank := List.mem_takeWhile_imp hd
      exact ⟨by simpa using hblank, fun hquote => hfree (List.any_eq_true.2 ⟨d, hd, hquote⟩)⟩
    · simpa using not_of_mem_head?_dropWhile d hd

theorem firstValue_of_writes (h : WritesValue text value) (hbreak : StartsBlank rest)
    (name : List Char) : firstValue name (text ++ rest) = .ok (value, rest) := by
  cases h with
  | plain hvalue =>
    have hblank : ∀ d ∈ value, !isAsciiBlank d := fun d hd => by simpa using (hvalue d hd).1
    have hrest : ∀ d ∈ rest.head?, ¬(!isAsciiBlank d) := fun d hd => by simpa using hbreak d hd
    have hfree : ¬value.any isTagQuote := by
      intro h
      obtain ⟨d, hd, hquote⟩ := List.any_eq_true.1 h
      exact (hvalue d hd).2 hquote
    have hplain : ∀ c ∈ (value ++ rest).head?, ¬isTagQuote c := by
      cases value with
      | nil => exact fun c hc => not_isTagQuote_of_isAsciiBlank (hbreak c hc)
      | cons d value =>
        rintro c ⟨⟩
        exact (hvalue d (List.mem_cons_self ..)).2
    rw [firstValue_plain hplain, takeWhile_append_boundary hblank hrest,
      dropWhile_append_boundary hblank hrest, if_neg hfree]
  | @quoted value quote hquote hvalue =>
    have hinner : ∀ d ∈ value, d != quote := fun d hd => bne_iff_ne.2 fun heq => hvalue (heq ▸ hd)
    have hclose : ∀ d ∈ (quote :: rest).head?, ¬(d != quote) := by simp
    have hcs : quote :: (value ++ [quote]) ++ rest = quote :: (value ++ quote :: rest) := by simp
    rw [hcs, firstValue_quoted hquote, takeWhile_append_boundary hinner hclose,
      dropWhile_append_boundary hinner hclose]
    dsimp only
    rw [if_pos (startsBlank_iff_all.1 hbreak)]

/-- Behind a name stands its end, or an equals sign and a value. -/
theorem firstAttribute_append (hname : IsAttributeName name)
    (hrest : ∀ c ∈ rest.head?, ¬isAttributeChar c) :
    firstAttribute start (name ++ rest) = behindName name rest := by
  have hchars : ∀ c ∈ name, isAttributeChar c := fun c hc => (hname.2 c hc).1
  have hquote : name.findIdx? isTagQuote = none :=
    List.findIdx?_eq_none_iff.2 fun c hc => by simpa using (hname.2 c hc).2
  unfold firstAttribute
  dsimp only
  rw [takeWhile_append_boundary hchars hrest, dropWhile_append_boundary hchars hrest, hquote]
  dsimp only
  rw [if_neg hname.1]

theorem firstAttribute_of_writes (h : WritesAttribute text pair) (hbreak : StartsBlank rest)
    (start : Nat) : firstAttribute start (text ++ rest) = .ok (pair, rest) := by
  cases h with
  | bare hname =>
    have hrest : ∀ c ∈ rest.head?, ¬isAttributeChar c := fun c hc =>
      not_isAttributeChar_of_isAsciiBlank (hbreak c hc)
    rw [firstAttribute_append hname hrest]
    cases rest with
    | nil => rfl
    | cons c rest =>
      have hc : c ≠ '=' := by
        rintro rfl
        exact absurd (hbreak '=' rfl) (by decide)
      exact if_neg hc
  | @valued name text value hname hvalue =>
    have hfirst := firstValue_of_writes hvalue hbreak name
    rw [List.append_assoc, List.cons_append,
      firstAttribute_append hname (by simp [not_isAttributeChar_equals])]
    simp [behindName, hfirst, Except.map]

theorem writes_of_firstAttribute (h : firstAttribute start cs = .ok (pair, rest)) :
    ∃ text, cs = text ++ rest ∧ WritesAttribute text pair ∧ StartsBlank rest := by
  unfold firstAttribute at h
  dsimp only at h
  split at h
  · cases h
  next hquote =>
  split at h
  · cases h
  next hne =>
  have hname : IsAttributeName (cs.takeWhile isAttributeChar) :=
    ⟨hne, fun c hc => ⟨List.mem_takeWhile_imp hc, by
      simpa using List.findIdx?_eq_none_iff.1 hquote c hc⟩⟩
  have hsplit := List.takeWhile_append_dropWhile (p := isAttributeChar) (l := cs)
  unfold behindName at h
  split at h
  · next hend =>
    cases h
    rw [hend] at hsplit
    exact ⟨_, hsplit.symm, .bare hname, by simp [StartsBlank]⟩
  · next d more hmore =>
    rw [hmore] at hsplit
    by_cases hd : d = '='
    · subst hd
      rw [if_pos rfl] at h
      obtain ⟨⟨value, final⟩, hvalue, heq⟩ := except_map_eq_ok h
      cases heq
      obtain ⟨text, rfl, hwrites, hbreak⟩ := writes_of_firstValue hvalue
      exact ⟨_, by simpa using hsplit.symm, .valued hname hwrites, hbreak⟩
    · rw [if_neg hd] at h
      cases h
      -- A character that ends a name and is no equals sign is a blank.
      refine ⟨_, hsplit.symm, .bare hname, ?_⟩
      rintro e ⟨⟩
      have hother : ¬isAttributeChar d := not_of_mem_head?_dropWhile d (by rw [hmore]; rfl)
      simpa [isAttributeChar, hd] using hother

/-! ## All attributes -/

theorem IsAttributeName.head (hname : IsAttributeName name) :
    ∃ c rest, name = c :: rest ∧ isAttributeChar c ∧ ¬isTagQuote c := by
  obtain ⟨c, rest, rfl⟩ := List.exists_cons_of_ne_nil hname.1
  exact ⟨c, rest, rfl, hname.2 c (List.mem_cons_self ..)⟩

/-- What is written starts with a name. -/
theorem WritesAttribute.head (h : WritesAttribute text pair) :
    ∃ c rest, text = c :: rest ∧ isAttributeChar c := by
  cases h with
  | bare hname =>
    obtain ⟨c, rest, rfl, hc, -⟩ := hname.head
    exact ⟨c, rest, rfl, hc⟩
  | valued hname =>
    obtain ⟨c, rest, rfl, hc, -⟩ := hname.head
    exact ⟨c, _, rfl, hc⟩

theorem attributesFrom_blanks (hblanks : ∀ c ∈ blanks, isAsciiBlank c) (position : Nat) :
    attributesFrom position blanks = .ok [] := by
  rw [attributesFrom_eq, List.dropWhile_eq_nil_iff.2 hblanks]

/-- Behind an attribute, reading goes on at the position there. -/
theorem attributesFrom_append (hblanks : ∀ c ∈ blanks, isAsciiBlank c)
    (hpair : WritesAttribute text pair) (hbreak : StartsBlank rest) (position : Nat) :
    attributesFrom position (blanks ++ text ++ rest) =
      (attributesFrom (position + byteLength (blanks ++ text)) rest).map (pair :: ·) := by
  obtain ⟨c, more, hmore, hc⟩ := hpair.head
  have hstart : ∀ d ∈ (text ++ rest).head?, ¬isAsciiBlank d := by
    rw [hmore]
    rintro d ⟨⟩
    exact fun hblank => not_isAttributeChar_of_isAsciiBlank hblank hc
  have hdrop : (blanks ++ text ++ rest).dropWhile isAsciiBlank = c :: (more ++ rest) := by
    rw [List.append_assoc, dropWhile_append_boundary hblanks hstart, hmore, List.cons_append]
  have hfirst : ∀ start, firstAttribute start (c :: (more ++ rest)) = .ok (pair, rest) := by
    rw [← List.cons_append, ← hmore]
    exact firstAttribute_of_writes hpair hbreak
  rw [attributesFrom_eq, hdrop]
  dsimp only
  rw [hfirst]
  dsimp only
  rw [byteLength_append (blanks ++ text), Nat.add_sub_cancel]

theorem attributesFrom_of_writes (h : WritesAttributes cs pairs) (position : Nat) :
    attributesFrom position cs = .ok pairs := by
  induction h generalizing position with
  | nil hblanks => exact attributesFrom_blanks hblanks position
  | cons hblanks hpair hbreak hrest ih =>
    rw [attributesFrom_append hblanks hpair hbreak, ih]
    rfl

/-- What is accepted is written in the format; the induction is on what an attribute leaves. -/
theorem writes_of_attributesFrom (h : attributesFrom position cs = .ok pairs) :
    WritesAttributes cs pairs := by
  induction hlength : cs.length using Nat.strong_induction_on generalizing cs position pairs with
  | _ length ih =>
    have hsplit := List.takeWhile_append_dropWhile (p := isAsciiBlank) (l := cs)
    have hblanks : ∀ c ∈ cs.takeWhile isAsciiBlank, isAsciiBlank c := fun c hc =>
      List.mem_takeWhile_imp hc
    rw [attributesFrom_eq] at h
    split at h
    · next hnil =>
      cases h
      rw [hnil, List.append_nil] at hsplit
      exact hsplit ▸ .nil hblanks
    · next c more hmore =>
      rw [hmore] at hsplit
      split at h
      · cases h
      · next pair rest hfirst =>
        obtain ⟨later, hlater, rfl⟩ := except_map_eq_ok h
        obtain ⟨text, htext, hpair, hbreak⟩ := writes_of_firstAttribute hfirst
        rw [htext, ← List.append_assoc] at hsplit
        obtain ⟨d, tail, htail, -⟩ := hpair.head
        have hshorter : rest.length < length := by
          rw [← hlength, ← hsplit, htail]
          simp only [List.length_append, List.length_cons]
          omega
        rw [← hsplit]
        exact .cons hblanks hpair hbreak (ih rest.length hshorter hlater rfl)

theorem attributesFrom_eq_ok_iff (position : Nat) :
    attributesFrom position cs = .ok pairs ↔ WritesAttributes cs pairs :=
  ⟨writes_of_attributesFrom, fun h => attributesFrom_of_writes h position⟩

/-! ## Cuts on bytes -/

namespace ByteScan

/-- The first position from `i` on with a character outside of a class, or that of a quote in front
of it. -/
def unquotedEnd (bytes : List UInt8) (inside : Char → Bool) (i : Nat) : Except Nat Nat :=
  if h : i < bytes.length then
    let c := Char.ofUInt8 bytes[i]
    if inside c then if isTagQuote c then .error i else unquotedEnd bytes inside (i + 1)
    else .ok i
  else .ok i
termination_by bytes.length - i

/-- The value at `i` and the position behind it. -/
def valueAt (source : List Char) (bytes : List UInt8) (name : String) (i : Nat) :
    Option (Except AttributeFault (String × Nat)) :=
  match (bytes[i]?.map Char.ofUInt8).filter isTagQuote with
  | some quote =>
    let j := skipClass bytes (· != quote) (i + 1)
    if j < bytes.length then do
      let value ← slice source (i + 1) j
      if bytes[j + 1]?.all fun b => isAsciiBlank (Char.ofUInt8 b) then return .ok (value, j + 1)
      else return .error (.mismatchedQuote name)
    else some (.error (.mismatchedQuote name))
  | none =>
    match unquotedEnd bytes (!isAsciiBlank ·) i with
    | .error _ => some (.error (.mismatchedQuote name))
    | .ok j => do
      let value ← slice source i j
      return .ok (value, j)

/-- The attribute at `i` and the position behind it. -/
def attributeAt (source : List Char) (bytes : List UInt8) (i : Nat) :
    Option (Except AttributeFault ((String × String) × Nat)) :=
  match unquotedEnd bytes isAttributeChar i with
  | .error position => some (.error (.quoteInName position))
  | .ok j => do
    let name ← slice source i j
    if j = i then return .error (.missingName j)
    else if bytes[j]?.any fun b => Char.ofUInt8 b == '=' then
      let found ← valueAt source bytes name (j + 1)
      return found.map fun (value, stop) => ((name, value), stop)
    else return .ok ((name, ""), j)

theorem le_of_unquotedEnd {bytes : List UInt8} {inside : Char → Bool} {i stop : Nat}
    (h : unquotedEnd bytes inside i = .ok stop) : i ≤ stop := by
  fun_induction unquotedEnd bytes inside i with
  | case1 => cases h
  | case2 i hi c hc hquote ih => exact Nat.le_of_succ_le (ih h)
  | case3 =>
    cases h
    exact Nat.le_refl _
  | case4 =>
    cases h
    exact Nat.le_refl _

theorem le_of_valueAt {source : List Char} {bytes : List UInt8} {name value : String}
    {i stop : Nat} (h : valueAt source bytes name i = some (.ok (value, stop))) : i ≤ stop := by
  unfold valueAt at h
  split at h
  · next quote hquote =>
    have := le_skipClass bytes (· != quote) (i + 1)
    dsimp only at h
    split at h
    · obtain ⟨value', -, h⟩ := Option.bind_eq_some_iff.1 h
      split at h
      · cases h
        omega
      · cases h
    · cases h
  · split at h
    · cases h
    · next j hend =>
      obtain ⟨value', -, h⟩ := Option.bind_eq_some_iff.1 h
      cases h
      exact le_of_unquotedEnd hend

theorem lt_of_attributeAt {source : List Char} {bytes : List UInt8} {i stop : Nat}
    {pair : String × String} (h : attributeAt source bytes i = some (.ok (pair, stop))) :
    i < stop := by
  unfold attributeAt at h
  split at h
  · cases h
  · next j hend =>
    have hle := le_of_unquotedEnd hend
    obtain ⟨name, -, h⟩ := Option.bind_eq_some_iff.1 h
    split at h
    · cases h
    · next hne =>
      split at h
      · obtain ⟨found, hfound, h⟩ := Option.bind_eq_some_iff.1 h
        obtain ⟨⟨value, next⟩, rfl, heq⟩ := except_map_eq_ok (Option.some.inj h)
        cases heq
        have := le_of_valueAt hfound
        omega
      · cases h
        omega

/-- The attributes from `i` on. -/
def attributesFrom (source : List Char) (bytes : List UInt8) (i : Nat) :
    Option (Except AttributeFault (List (String × String))) :=
  let start := skipClass bytes isAsciiBlank i
  if start < bytes.length then
    match _hfound : attributeAt source bytes start with
    | none => none
    | some (.error fault) => some (.error fault)
    | some (.ok (pair, stop)) => do
      let rest ← attributesFrom source bytes stop
      return rest.map (pair :: ·)
  else some (.ok [])
termination_by bytes.length - i
decreasing_by
  have := lt_of_attributeAt _hfound
  have := le_skipClass bytes isAsciiBlank i
  omega

/-- The attributes of a text. -/
def attributes (text : String) : Option (Except AttributeFault (List (String × String))) :=
  attributesFrom text.toList text.toUTF8.data.toList 0

section Loops

variable {bytes front : List UInt8}

/-- The characters of a class that leaves out some of ASCII are skipped. -/
theorem skipClass_eq_of_not (p : Char → Bool) (hp : ∀ c, ¬p c → c.toNat < 128)
    (hbytes : bytes = front ++ encode cs) :
    skipClass bytes p front.length = (front ++ encode (cs.takeWhile p)).length := by
  have hstep : ∀ i (h : i < bytes.length), p (Char.ofUInt8 bytes[i]) →
      skipClass bytes p i = skipClass bytes p (i + 1) := by
    intro i h hinside
    rw [skipClass, dif_pos h, if_pos hinside]
  induction cs generalizing front with
  | nil =>
    rw [skipClass, dif_neg (by simp [hbytes])]
    simp
  | cons c cs ih =>
    by_cases hc : p c
    · have hsplit : bytes = front ++ String.utf8EncodeChar c ++ encode cs := by simp [hbytes]
      have hmiddle : ∀ b ∈ String.utf8EncodeChar c, p (Char.ofUInt8 b) := by
        intro b hb
        by_contra hother
        exact hother ((eq_of_mem_encode hb (hp _ hother)).2 ▸ hc)
      rw [steps_over (fun c => p c) hstep hsplit hmiddle, ih hsplit,
        List.takeWhile_cons_of_pos hc, encode_cons, List.append_assoc]
    · obtain ⟨hlt, hchar⟩ := ofUInt8_getElem hbytes (hp c hc)
      rw [skipClass, dif_pos hlt, hchar, if_neg hc, List.takeWhile_cons_of_neg hc]
      simp

theorem unquotedEnd_eq (inside : Char → Bool) (hinside : ∀ c, ¬inside c → c.toNat < 128)
    (hbytes : bytes = front ++ encode cs) :
    unquotedEnd bytes inside front.length =
      match (cs.takeWhile inside).findIdx? isTagQuote with
      | some i => .error (front.length + byteLength ((cs.takeWhile inside).take i))
      | none => .ok (front.length + byteLength (cs.takeWhile inside)) := by
  have hstep : ∀ i (h : i < bytes.length), (inside (Char.ofUInt8 bytes[i]) ∧
      ¬isTagQuote (Char.ofUInt8 bytes[i])) →
        unquotedEnd bytes inside i = unquotedEnd bytes inside (i + 1) := by
    intro i h hother
    rw [unquotedEnd]
    simp [h, hother]
  induction cs generalizing front with
  | nil =>
    rw [unquotedEnd, dif_neg (by simp [hbytes])]
    rfl
  | cons c cs ih =>
    have hsplit : bytes = front ++ String.utf8EncodeChar c ++ encode cs := by simp [hbytes]
    by_cases hc : inside c
    · rw [List.takeWhile_cons_of_pos hc, List.findIdx?_cons]
      by_cases hquote : isTagQuote c
      · obtain ⟨hlt, hchar⟩ := ofUInt8_getElem hbytes (ascii_isTagQuote hquote)
        rw [unquotedEnd, dif_pos hlt]
        simp [hchar, hc, hquote, byteLength]
      · have hmiddle : ∀ b ∈ String.utf8EncodeChar c,
            inside (Char.ofUInt8 b) ∧ ¬isTagQuote (Char.ofUInt8 b) := by
          intro b hb
          refine ⟨?_, fun h => hquote (class_of_mem_encode (fun _ => ascii_isTagQuote) hb h)⟩
          by_contra hother
          exact hother ((eq_of_mem_encode hb (hinside _ hother)).2 ▸ hc)
        rw [steps_over (fun c => inside c ∧ ¬isTagQuote c) hstep hsplit hmiddle, ih hsplit,
          if_neg hquote]
        cases (cs.takeWhile inside).findIdx? isTagQuote with
        | none => simp [byteLength, Nat.add_assoc]
        | some i => simp [byteLength, Nat.add_assoc]
    · obtain ⟨hlt, hchar⟩ := ofUInt8_getElem hbytes (hinside c hc)
      rw [unquotedEnd, dif_pos hlt, List.takeWhile_cons_of_neg hc]
      simp [hchar, hc, byteLength]

end Loops

theorem ascii_of_not_isAttributeChar (h : ¬isAttributeChar c) : c.toNat < 128 := by
  by_cases hblank : isAsciiBlank c
  · exact ascii_isAsciiBlank hblank
  · obtain rfl : c = '=' := by simpa [isAttributeChar, hblank] using h
    decide

section Cuts

variable {bytes front : List UInt8}

theorem all_getElem? (p : Char → Bool) (hp : ∀ c, p c → c.toNat < 128)
    (hbytes : bytes = front ++ encode cs) :
    bytes[front.length]?.all (fun b => p (Char.ofUInt8 b)) = cs.head?.all p := by
  cases cs with
  | nil => simp [hbytes]
  | cons c cs =>
    obtain ⟨b, hbyte, hclass, -⟩ := getElem?_front p hp hbytes
    rw [hbyte, Option.all_some, List.head?_cons, Option.all_some, Bool.eq_iff_iff, hclass]

theorem filter_getElem? (p : Char → Bool) (hp : ∀ c, p c → c.toNat < 128)
    (hbytes : bytes = front ++ encode cs) :
    (bytes[front.length]?.map Char.ofUInt8).filter p = cs.head?.filter p := by
  cases cs with
  | nil => simp [hbytes]
  | cons c cs =>
    obtain ⟨b, hbyte, hclass, hchar⟩ := getElem?_front p hp hbytes
    rw [hbyte, Option.map_some, List.head?_cons]
    by_cases hc : p c
    · rw [hchar hc]
    · simp [Option.filter, hc, mt hclass.1 hc]

theorem slice_front {before : List Char} (hcs : cs = text ++ rest) :
    slice (before ++ cs) (byteLength before) (byteLength before + byteLength text) =
      some (String.ofList text) := by
  rw [hcs, ← List.append_assoc, ← byteLength_append]
  exact slice_append before text rest

/-- A value ends on bytes where it ends on characters. -/
theorem valueAt_eq (before name cs : List Char) :
    valueAt (before ++ cs) (encode (before ++ cs)) (String.ofList name) (byteLength before) =
      some ((firstValue name cs).map fun (value, rest) =>
        (String.ofList value, byteLength (before ++ cs) - byteLength rest)) := by
  have hbytes : encode (before ++ cs) = encode before ++ encode cs := encode_append before cs
  have hhead := filter_getElem? isTagQuote (fun _ => ascii_isTagQuote) hbytes
  rw [length_encode] at hhead
  unfold valueAt
  rw [hhead]
  by_cases hquoted : ∃ c ∈ cs.head?, isTagQuote c
  · obtain ⟨c, hc, hquote⟩ := hquoted
    obtain ⟨cs, rfl⟩ := List.head?_eq_some_iff.1 hc
    have hascii : c.toNat < 128 := ascii_isTagQuote hquote
    have hnext : ∀ text, byteLength text + 1 = byteLength (text ++ [c]) := fun text => by
      simp [byteLength, utf8Size_ascii hascii]
    obtain ⟨front, hfront⟩ : ∃ front, front = before ++ [c] := ⟨_, rfl⟩
    obtain ⟨value, hvalue⟩ : ∃ value, value = cs.takeWhile (· != c) := ⟨_, rfl⟩
    have hcs : before ++ c :: cs = front ++ cs := by simp [hfront]
    have hsplit : cs = value ++ cs.dropWhile (· != c) := by
      rw [hvalue, List.takeWhile_append_dropWhile]
    have hclose : skipClass (encode (front ++ cs)) (· != c) (byteLength front) =
        byteLength (front ++ value) := by
      have hstop := skipClass_eq_of_not (· != c) (fun d hd => by
        obtain rfl : d = c := by simpa using hd
        exact hascii) (encode_append front cs)
      rwa [← encode_append, length_encode, length_encode, ← hvalue] at hstop
    have hslice : slice (front ++ cs) (byteLength front) (byteLength (front ++ value)) =
        some (String.ofList value) := by
      rw [byteLength_append]
      exact slice_front hsplit
    rw [firstValue_quoted hquote, hcs]
    simp only [List.head?_cons, Option.filter_some, hquote, if_true, hnext, ← hfront, ← hvalue,
      hclose, hslice, length_encode]
    cases hafter : cs.dropWhile (· != c) with
    | nil =>
      rw [hafter, List.append_nil] at hsplit
      rw [if_neg (by rw [← hsplit]; exact Nat.lt_irrefl _)]
      rfl
    | cons d after =>
      obtain rfl : d = c := by
        have hstop : ¬(d != c) := not_of_mem_head?_dropWhile d (by rw [hafter]; rfl)
        simpa using hstop
      have hsource : front ++ cs = front ++ value ++ [d] ++ after := by
        rw [hsplit, hafter]
        simp
      have hall := all_getElem? isAsciiBlank (fun _ => ascii_isAsciiBlank)
        (encode_append (front ++ value ++ [d]) after)
      rw [length_encode, ← hsource] at hall
      have hlength : byteLength (front ++ cs) =
          byteLength (front ++ value ++ [d]) + byteLength after := by
        rw [hsource, byteLength_append _ after]
      rw [if_pos (by rw [hlength, ← hnext]; omega), hall, hlength]
      dsimp only
      split
      · simp [Except.map]
      · rfl
  · have hplain : ∀ c ∈ cs.head?, ¬isTagQuote c := fun c hc hquote => hquoted ⟨c, hc, hquote⟩
    have hnone : cs.head?.filter isTagQuote = none := Option.filter_eq_none_iff.2 hplain
    have hend := unquotedEnd_eq (!isAsciiBlank ·)
      (fun c hc => ascii_isAsciiBlank (by simpa using hc)) hbytes
    rw [length_encode] at hend
    have hsplit := List.takeWhile_append_dropWhile (p := (!isAsciiBlank ·)) (l := cs)
    rw [hnone, firstValue_plain hplain]
    dsimp only
    rw [hend]
    cases hfound : (cs.takeWhile (!isAsciiBlank ·)).findIdx? isTagQuote with
    | some i =>
      have hany : (cs.takeWhile (!isAsciiBlank ·)).any isTagQuote := by
        rw [← List.findIdx?_isSome, hfound]
        rfl
      rw [if_pos hany]
      rfl
    | none =>
      have hany : ¬(cs.takeWhile (!isAsciiBlank ·)).any isTagQuote := by
        rw [← List.findIdx?_isSome, hfound]
        exact Bool.false_ne_true
      have hlength := congrArg byteLength hsplit
      rw [byteLength_append] at hlength
      have hstop : byteLength (before ++ cs) - byteLength (cs.dropWhile (!isAsciiBlank ·)) =
          byteLength before + byteLength (cs.takeWhile (!isAsciiBlank ·)) := by
        rw [byteLength_append]
        omega
      rw [if_neg hany]
      dsimp only [Except.map]
      rw [slice_front hsplit.symm, hstop]
      rfl

/-- An attribute ends on bytes where it ends on characters. -/
theorem attributeAt_eq (before cs : List Char) :
    attributeAt (before ++ cs) (encode (before ++ cs)) (byteLength before) =
      some ((firstAttribute (byteLength before) cs).map fun ((name, value), rest) =>
        ((String.ofList name, String.ofList value),
          byteLength (before ++ cs) - byteLength rest)) := by
  have hend := unquotedEnd_eq isAttributeChar (fun _ => ascii_of_not_isAttributeChar)
    (encode_append before cs)
  rw [length_encode] at hend
  have hsplit := List.takeWhile_append_dropWhile (p := isAttributeChar) (l := cs)
  unfold attributeAt firstAttribute
  dsimp only
  rw [hend]
  generalize cs.takeWhile isAttributeChar = name at hsplit ⊢
  generalize cs.dropWhile isAttributeChar = rest at hsplit ⊢
  subst hsplit
  cases name.findIdx? isTagQuote with
  | some i => rfl
  | none =>
    have hempty : byteLength before + byteLength name = byteLength before ↔ name = [] := by
      rw [Nat.add_eq_left, byteLength_eq_zero]
    dsimp only
    rw [slice_front rfl]
    simp only [Option.bind_eq_bind, Option.bind_some, hempty]
    by_cases hname : name = []
    · subst hname
      rfl
    rw [if_neg hname, if_neg hname]
    have hequals := any_getElem? (· == '=') (fun c hc => by
      obtain rfl : c = '=' := by simpa using hc
      decide) (encode_append (before ++ name) rest)
    rw [length_encode, List.append_assoc, byteLength_append] at hequals
    rw [hequals]
    cases rest with
    | nil => simp [behindName, Except.map, byteLength]
    | cons d more =>
      by_cases hd : d = '='
      · subst hd
        have hvalue := valueAt_eq (before ++ name ++ ['=']) name more
        have hnext : byteLength (before ++ name ++ ['=']) =
            byteLength before + byteLength name + 1 := by
          simp [byteLength, utf8Size_ascii (show '='.toNat < 128 by decide), Nat.add_assoc]
        have hsource : before ++ name ++ ['='] ++ more = before ++ (name ++ '=' :: more) := by simp
        rw [hsource, hnext] at hvalue
        simp only [List.head?_cons, Option.any_some, beq_self_eq_true, if_true, hvalue,
          Option.bind_some, behindName, except_map_map]
        rfl
      · simp only [List.head?_cons, Option.any_some, beq_iff_eq, hd, if_false, behindName,
          Except.map, byteLength_append, ← Nat.add_assoc, Nat.add_sub_cancel]
        rfl

theorem attributesFrom_error {source : List Char} {fault : AttributeFault} {i start : Nat}
    (hskip : skipClass bytes isAsciiBlank i = start) (h : start < bytes.length)
    (hfirst : attributeAt source bytes start = some (.error fault)) :
    attributesFrom source bytes i = some (.error fault) := by
  subst hskip
  rw [attributesFrom, if_pos h]
  split
  · next hnone => rw [hfirst] at hnone; cases hnone
  · next hfault =>
    rw [hfirst] at hfault
    cases hfault
    rfl
  · next hfound => rw [hfirst] at hfound; cases hfound

theorem attributesFrom_cons {source : List Char} {pair : String × String} {i start stop : Nat}
    (hskip : skipClass bytes isAsciiBlank i = start) (h : start < bytes.length)
    (hfirst : attributeAt source bytes start = some (.ok (pair, stop))) :
    attributesFrom source bytes i = do
      let rest ← attributesFrom source bytes stop
      return rest.map (pair :: ·) := by
  subst hskip
  rw [attributesFrom, if_pos h]
  split
  · next hnone => rw [hfirst] at hnone; cases hnone
  · next hfault => rw [hfirst] at hfault; cases hfault
  · next hfound =>
    rw [hfirst] at hfound
    cases hfound
    rfl

/-- The cuts on bytes are those on characters. -/
theorem attributesFrom_eq (before cs : List Char) :
    attributesFrom (before ++ cs) (encode (before ++ cs)) (byteLength before) =
      some ((Template.attributesFrom (byteLength before) cs).map fun pairs =>
        pairs.map fun (name, value) => (String.ofList name, String.ofList value)) := by
  induction hlength : cs.length using Nat.strong_induction_on generalizing before cs with
  | _ length ih =>
    have hskip := skipClass_eq isAsciiBlank (fun _ => ascii_isAsciiBlank)
      (encode_append before cs)
    rw [← encode_append, length_encode, length_encode] at hskip
    have hsplit := List.takeWhile_append_dropWhile (p := isAsciiBlank) (l := cs)
    rw [Template.attributesFrom_eq]
    generalize cs.takeWhile isAsciiBlank = blanks at hsplit hskip ⊢
    generalize cs.dropWhile isAsciiBlank = more at hsplit ⊢
    subst hsplit
    cases more with
    | nil =>
      rw [attributesFrom, hskip, if_neg (by simp)]
      rfl
    | cons c more =>
      have hlt : byteLength (before ++ blanks) <
          (encode (before ++ (blanks ++ c :: more))).length := by
        have := c.utf8Size_pos
        simp only [length_encode, byteLength_append, byteLength]
        omega
      have hfirst := attributeAt_eq (before ++ blanks) (c :: more)
      rw [List.append_assoc] at hfirst
      rw [← byteLength_append]
      dsimp only
      cases hread : firstAttribute (byteLength (before ++ blanks)) (c :: more) with
      | error fault =>
        rw [hread] at hfirst
        exact attributesFrom_error hskip hlt hfirst
      | ok found =>
        obtain ⟨pair, rest⟩ := found
        obtain ⟨text, htext, hpair, -⟩ := writes_of_firstAttribute hread
        obtain ⟨d, tail, htail, -⟩ := hpair.head
        have hsource : before ++ (blanks ++ c :: more) = before ++ blanks ++ text ++ rest := by
          rw [htext]
          simp
        have hstop : byteLength (before ++ (blanks ++ c :: more)) - byteLength rest =
            byteLength (before ++ blanks ++ text) := by
          rw [hsource, byteLength_append _ rest, Nat.add_sub_cancel]
        have hposition : byteLength before + (byteLength (blanks ++ c :: more) - byteLength rest) =
            byteLength (before ++ blanks ++ text) := by
          rw [htext]
          simp only [byteLength_append]
          omega
        have hshorter : rest.length < length := by
          rw [← hlength, htext, htail]
          simp only [List.length_append, List.length_cons]
          omega
        have hrest := ih rest.length hshorter (before ++ blanks ++ text) rest rfl
        rw [hread] at hfirst
        simp only [Except.map, hstop] at hfirst
        rw [← hsource] at hrest
        rw [attributesFrom_cons hskip hlt hfirst]
        simp only [hrest, hposition, Option.bind_eq_bind, Option.bind_some, except_map_map]
        rfl

end Cuts

/-- All indices and slices are in place, and the attributes are those of the characters. -/
theorem attributes_eq (text : String) : attributes text = some (Template.attributes text) := by
  unfold attributes Template.attributes
  rw [toUTF8_eq_encode]
  exact attributesFrom_eq [] text.toList

end ByteScan

/-- Exactly the texts of the format are accepted, with the names and values that they write. Reading
always ends, and can be done on bytes with no cut inside of a character. -/
theorem attributes_iff_writes (text : String) :
    ByteScan.attributes text = some (attributes text) ∧
      ∀ pairs, attributes text = .ok pairs ↔
        WritesAttributes text.toList
          (pairs.map fun (name, value) => (name.toList, value.toList)) := by
  refine ⟨ByteScan.attributes_eq text, fun pairs => ?_⟩
  refine Iff.trans ?_ (attributesFrom_eq_ok_iff 0)
  unfold attributes
  constructor
  · intro h
    obtain ⟨found, hfound, rfl⟩ := except_map_eq_ok h
    rw [hfound, List.map_map]
    simp [Function.comp_def]
  · intro h
    rw [h]
    simp [Except.map, Function.comp_def]

end TemplateEngine.Template
