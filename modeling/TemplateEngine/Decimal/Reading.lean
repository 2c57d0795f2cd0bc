import TemplateEngine.Text.Letter

/-!
# `Decimal` · Reading numbers

The text of a number and the double that it stands for.

* **Grammar** (`parse?`): an optional sign, then `inf`, `infinity` or `nan` in any case of letters,
  or digits with at most one point among or beside them and an optional exponent `e` with an
  optional sign and at least one digit. No blanks.
* **Value**: the double nearest to the number as written (`ofDecimal`).
* **Indices** (`index?`): an optional plus sign and digits, at most `2 ^ 64 - 1`.
-/

namespace TemplateEngine.Decimal

open TemplateEngine.Text

/-- The value of a run of decimal digits, read after `before`. -/
def digitsValue (before : Nat) (cs : List Char) : Nat :=
  cs.foldl (fun n c => 10 * n + (c.toNat - 48)) before

/-- The digits that a text starts with, and the rest. -/
def spanDigits (cs : List Char) : List Char × List Char := cs.span isAsciiDigit

/-- The double nearest to `mantissa · 10 ^ exponent`. An exponent far outside the range of doubles
is answered without computing the power. -/
def ofDecimal (mantissa : Nat) (exponent : Int) : Float :=
  let size := ((Nat.toDigits 10 mantissa).length : Int) + exponent
  if mantissa = 0 then 0.0
  else if size > 400 then 1.0 / 0.0
  else if size < -400 then 0.0
  else
    match exponent with
    | .ofNat k => Float.ofScientific mantissa false k
    | .negSucc k => Float.ofScientific mantissa true (k + 1)

/-- An optional sign and the rest; `true` for a minus. -/
def spanSign : List Char → Bool × List Char
  | '-' :: cs => (true, cs)
  | '+' :: cs => (false, cs)
  | cs => (false, cs)

/-- An exponent, which has to be the whole text: nothing, or `e` with a sign and digits. -/
def exponentPart? : List Char → Option Int
  | [] => some 0
  | c :: cs =>
    if c = 'e' ∨ c = 'E' then
      let (negative, rest) := spanSign cs
      match spanDigits rest with
      | ([], _) => none
      | (ds, []) => some (if negative then -(digitsValue 0 ds : Int) else digitsValue 0 ds)
      | (_, _ :: _) => none
    else none

/-- A number without its sign: digits, an optional point with digits, an optional exponent. -/
def unsigned? (cs : List Char) : Option Float :=
  let (before, rest) := spanDigits cs
  let (after, rest) :=
    match rest with
    | '.' :: more => spanDigits more
    | more => ([], more)
  if before.isEmpty ∧ after.isEmpty then none
  else
    (exponentPart? rest).map fun exponent =>
      ofDecimal (digitsValue (digitsValue 0 before) after) (exponent - after.length)

/-- A letter of ASCII in lower case, and any other character. -/
def asciiLower (c : Char) : Char :=
  if 65 ≤ c.toNat ∧ c.toNat ≤ 90 then Char.ofNat (c.toNat + 32) else c

/-- The number that a whole text writes. -/
def parse? (cs : List Char) : Option Float :=
  let (negative, rest) := spanSign cs
  let word := String.ofList (rest.map asciiLower)
  let magnitude :=
    if word = "inf" ∨ word = "infinity" then some (1.0 / 0.0)
    else if word = "nan" then some (0.0 / 0.0)
    else unsigned? rest
  magnitude.map fun x => if negative then -x else x

/-- The index that a whole text writes: an optional plus sign and digits, below `2 ^ 64`. -/
def index? (cs : List Char) : Option Nat :=
  let ds :=
    match cs with
    | '+' :: rest => rest
    | rest => rest
  if !ds.isEmpty && ds.all isAsciiDigit then
    let n := digitsValue 0 ds
    if n < Nat.pow 2 64 then some n else none
  else none

end TemplateEngine.Decimal
