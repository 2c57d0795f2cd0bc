import TemplateEngine.Proofs.Expr.Regions
import TemplateEngine.Proofs.Template.Bytes

/-!
# `Expr` · Ends of quoted texts

Three readers pass over a quoted text: the one that cuts a template, which looks at bytes and skips
two of them for a backslash, the one that splits an expression into lexemes, which interprets the
escapes, and the one that writes the roots, which leaves the text alone.

* **`stringEnd?_val`** and **`taken_skipString`**: the last two stop where the first one (`quoted?`,
  which is `ByteScan.skipQuoted` on characters) does. A text without a closing quote is a fault for
  a lexeme, and reaches to the end for the pass.
* **`quoted_scans_agree`** puts the three side by side, at each quote in a source.
-/

namespace TemplateEngine

open TemplateEngine.Text TemplateEngine.Template TemplateEngine.RootPath

variable {quote : Char}

/-! ## The same end -/

theorem Lexeme.stringEnd?_val (quote : Char) (cs : List Char) :
    (stringEnd? quote cs).map (·.2.val) = (quoted? quote cs).map (·.2.val) := by
  fun_induction quoted? quote cs with
  | case1 | case2 => rfl
  | case3 c cs ih => simpa [stringEnd?, Function.comp_def, Shorter.cons] using ih
  | case4 cs hlast hescape => simp [stringEnd?]
  | case5 c cs hlast hescape hquote ih =>
    simpa [stringEnd?, ne_backslash hlast hescape, hquote, Function.comp_def, Shorter.cons] using ih

theorem RootPath.taken_skipString (quote : Char) (cs : List Char) :
    taken (skipString quote cs) =
      ((quoted? quote cs).map fun found => (found.1, found.2.val)).getD (cs, []) := by
  fun_induction quoted? quote cs with
  | case1 | case2 => rfl
  | case3 c cs ih =>
    rw [skipString_escape ih]
    cases quoted? quote cs <;> rfl
  | case4 cs hlast hescape => exact skipString_close (ne_backslash hlast hescape) cs
  | case5 c cs hlast hescape hquote ih =>
    rw [skipString_cons (ne_backslash hlast hescape) hquote ih]
    cases quoted? quote cs <;> rfl

/-- A quoted text as a lexeme. -/
theorem Lexeme.next_quote (hquote : isQuote quote) (offset : Nat) (cs : List Char) :
    next offset quote cs =
      match stringEnd? quote cs with
      | some (value, rest) => .ok (.string (String.ofList value), rest.noLonger)
      | none => .error (.openString offset) := by
  have hother : (isAsciiDigit quote || (quote == '.' && startsWithDigit cs)) = false ∧
      isWordStart quote = false := by
    simp only [isQuote, isTagQuote, Bool.or_eq_true, beq_iff_eq] at hquote
    rcases hquote with (rfl | rfl) | rfl <;> exact ⟨rfl, by decide⟩
  unfold next
  refine (if_neg (Bool.eq_false_iff.1 hother.1)).trans <|
    (if_neg (Bool.eq_false_iff.1 hother.2)).trans <| (if_pos hquote).trans ?_
  cases stringEnd? quote cs <;> rfl

/-! ## Sources -/

/-- Behind a quote in a source, bytes and characters are skipped alike. -/
theorem Template.ByteScan.skipQuoted_source (hquote : isQuote quote) (before rest : List Char) :
    skipQuoted (String.ofList (before ++ quote :: rest)).toUTF8.data.toList quote
        (byteLength before + 1) =
      (quoted? quote rest).map fun found => byteLength (before ++ quote :: found.1) := by
  have hascii : quote.toNat < 128 := ascii_isQuote hquote
  have hbytes : (String.ofList (before ++ quote :: rest)).toUTF8.data.toList =
      encode (before ++ [quote]) ++ encode rest := by
    rw [toUTF8_eq_encode, String.toList_ofList]
    simp
  have hstart : byteLength before + 1 = (encode (before ++ [quote])).length := by
    simp [utf8Size_ascii hascii]
  rw [hstart, skipQuoted_eq hascii hbytes]
  congr 1
  funext found
  simp [byteLength, Nat.add_assoc]

/-- **Quoted texts.** At each quote in a source: the scan over bytes, which is the one that cuts a
template, finds an end if and only if the text is a lexeme; then the lexeme ends there, and so does
the text that the pass leaves alone. If it finds none, the lexeme is faulty for want of a closing
quote, and the pass leaves all of the rest alone. -/
theorem quoted_scans_agree (hquote : isQuote quote) (before rest : List Char) :
    let bytes := (String.ofList (before ++ quote :: rest)).toUTF8.data.toList
    let start := byteLength before
    ByteScan.skipQuoted bytes quote (start + 1) =
        (quoted? quote rest).map (fun found => byteLength (before ++ quote :: found.1)) ∧
      ((∃ stop, ByteScan.skipQuoted bytes quote (start + 1) = some stop) ↔
        ∃ value left, Lexeme.next start quote rest = .ok (.string value, left)) ∧
      (∀ stop, ByteScan.skipQuoted bytes quote (start + 1) = some stop →
        ∃ text more value left, rest = text ++ more ∧
          stop = byteLength (before ++ quote :: text) ∧
          Lexeme.next start quote rest = .ok (.string value, left) ∧ left.val = more ∧
          (skipString quote rest).1 = text ∧ (skipString quote rest).2.val = more) ∧
      (ByteScan.skipQuoted bytes quote (start + 1) = none →
        Lexeme.next start quote rest = .error (.openString start) ∧
          (skipString quote rest).1 = rest ∧ (skipString quote rest).2.val = []) := by
  dsimp only
  have hpass := taken_skipString quote rest
  have hlexeme := Lexeme.stringEnd?_val quote rest
  rw [ByteScan.skipQuoted_source hquote, Lexeme.next_quote hquote]
  refine ⟨rfl, ?_⟩
  cases hcut : quoted? quote rest with
  | none =>
    rw [hcut] at hpass hlexeme
    rw [Option.map_eq_none_iff.1 hlexeme]
    refine ⟨iff_of_false nofun nofun, nofun, fun _ => ⟨rfl, ?_⟩⟩
    exact Prod.mk.inj hpass
  | some found =>
    obtain ⟨text, left⟩ := found
    rw [hcut] at hpass hlexeme
    obtain ⟨⟨value, after⟩, hend, hafter⟩ := Option.map_eq_some_iff.1 hlexeme
    rw [hend]
    refine ⟨iff_of_true ⟨_, rfl⟩ ⟨_, _, rfl⟩, fun stop hstop => ?_, nofun⟩
    cases hstop
    exact ⟨text, left.val, _, _, (skipString_join hpass).symm, rfl, rfl, hafter,
      Prod.mk.inj hpass⟩

/-- A character of two bytes behind the backslash, and a backslash at the end. -/
theorem quoted_scans_agree_escapes :
    (∃ text more value left, "a\\é\x60b".toList = text ++ more ∧
        8 = byteLength ("é".toList ++ '\x60' :: text) ∧
        Lexeme.next 2 '\x60' "a\\é\x60b".toList = .ok (.string value, left) ∧ left.val = more ∧
        (skipString '\x60' "a\\é\x60b".toList).1 = text ∧
        (skipString '\x60' "a\\é\x60b".toList).2.val = more) ∧
      Lexeme.next 0 '"' "é\\".toList = .error (.openString 0) ∧
        (skipString '"' "é\\".toList).1 = "é\\".toList ∧
        (skipString '"' "é\\".toList).2.val = [] := by
  have hclosed : ByteScan.skipQuoted
      (String.ofList ("é".toList ++ '\x60' :: "a\\é\x60b".toList)).toUTF8.data.toList '\x60'
        (byteLength "é".toList + 1) = some 8 := by
    rw [ByteScan.skipQuoted_source (by decide)]
    decide
  have hopen : ByteScan.skipQuoted
      (String.ofList ([] ++ '"' :: "é\\".toList)).toUTF8.data.toList '"'
        (byteLength [] + 1) = none := by
    rw [ByteScan.skipQuoted_source (by decide)]
    decide
  exact ⟨(quoted_scans_agree (by decide) _ _).2.2.1 8 hclosed,
    (quoted_scans_agree (by decide) _ _).2.2.2 hopen⟩

end TemplateEngine
