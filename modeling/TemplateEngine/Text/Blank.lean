/-!
# `Text` · White space

The two notions of white space that templates use, and what is cut along them.

* **Classes** `isBlank` (the White_Space characters of Unicode) and `isAsciiBlank` (space, tab,
  line feed, form feed and carriage return; the vertical tab is not among them).
* **Cutting** `trimStart`, `trimEnd`, `trim` take blanks off the ends of a text; `words` are the
  pieces between blanks; `cutAtBlank` splits at the first one.
-/

namespace TemplateEngine.Text

/-! ## Classes -/

/-- A white space character of Unicode. -/
def isBlank (c : Char) : Bool :=
  let n := c.toNat
  (9 ≤ n && n ≤ 13) || n == 32 || n == 133 || n == 160 || n == 5760 ||
    (8192 ≤ n && n ≤ 8202) || n == 8232 || n == 8233 || n == 8239 || n == 8287 || n == 12288

/-- A white space character of ASCII. -/
def isAsciiBlank (c : Char) : Bool :=
  let n := c.toNat
  n == 9 || n == 10 || n == 12 || n == 13 || n == 32

/-- Every blank of ASCII is a blank. -/
theorem isBlank_of_isAsciiBlank {c : Char} (h : isAsciiBlank c = true) : isBlank c = true := by
  simp only [isAsciiBlank, isBlank, Bool.or_eq_true, beq_iff_eq, Bool.and_eq_true,
    decide_eq_true_eq] at h ⊢
  omega

/-! ## Cutting -/

/-- The text without the blanks it starts with. -/
def trimStart (cs : List Char) : List Char := cs.dropWhile isBlank

/-- The text without the blanks it ends with. -/
def trimEnd (cs : List Char) : List Char := (cs.reverse.dropWhile isBlank).reverse

/-- The text without the blanks at either end. -/
def trim (cs : List Char) : List Char := trimEnd (trimStart cs)

/-- A string without the blanks at either end. -/
def trimString (s : String) : String := String.ofList (trim s.toList)

/-- The longest pieces of a text that hold no blank. -/
def words (cs : List Char) : List (List Char) := (cs.splitOnP isBlank).filter (!·.isEmpty)

/-- What stands before the first blank, and, if there is one, what stands after it. -/
def cutAtBlank (cs : List Char) : List Char × Option (List Char) :=
  match cs.dropWhile (fun c => !isBlank c) with
  | [] => (cs, none)
  | _ :: rest => (cs.takeWhile (fun c => !isBlank c), some rest)

/-- What stands before the first `mark`, and, if there is one, what stands after it. -/
def cutAt (mark : Char) (cs : List Char) : List Char × Option (List Char) :=
  match cs.dropWhile (fun c => c != mark) with
  | [] => (cs, none)
  | _ :: rest => (cs.takeWhile (fun c => c != mark), some rest)

/-- The number of bytes that a text takes in UTF-8. -/
def byteLength : List Char → Nat
  | [] => 0
  | c :: cs => c.utf8Size + byteLength cs

end TemplateEngine.Text
