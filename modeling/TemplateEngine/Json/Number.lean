import TemplateEngine.Decimal.Binary
import TemplateEngine.Decimal.Reading
import TemplateEngine.Json.Basic

/-!
# `Json` · Reading numbers

A number is a sign, digits without superfluous zeros in front, and optionally a point with digits
and an exponent. No character of a number may follow a number, so its text is the longest run of
such characters, and `ofText?` reads the whole run.

* **Integers** without point and exponent that fit in 64 bits are kept as integers; a negative
  zero and larger ones become doubles.
* **Doubles** are read by scaling: as many leading digits as fit in 64 bits are one significand,
  rounded to a double and then multiplied with or divided by a power of ten (`scaled?`). Digits
  that no longer fit only count for the exponent.
* **Overflow** is refused, underflow gives zero.
-/

namespace TemplateEngine.Json

open TemplateEngine.Text TemplateEngine.Decimal

/-- The largest significand. -/
def significandLimit : Nat := Nat.pow 2 64 - 1

/-- The largest exponent that is computed with, in both directions. -/
def exponentLimit : Int := 2147483647

/-- Appends digits to a significand while it fits; gives it with the number of digits left over. -/
def extend (significand : Nat) : List Char → Nat × Nat
  | [] => (significand, 0)
  | c :: cs =>
    let next := 10 * significand + (c.toNat - 48)
    if significandLimit < next then (significand, cs.length + 1) else extend next cs

/-- Divides a double by `10 ^ e`, in steps of at most `10 ^ 308`. -/
def shrink : Nat → Float → Nat → Float
  | 0, x, _ => x
  | steps + 1, x, e =>
    if e ≤ 308 then x / ofDecimal 1 e
    else if x == 0.0 then x
    else shrink steps (x / ofDecimal 1 308) (e - 308)

/-- The double `significand · 10 ^ exponent` by scaling; `none` if it is too large. -/
def scaled? (significand : Nat) (exponent : Int) : Option Float :=
  let x := Float.ofNat significand
  match exponent with
  | .ofNat e =>
    if e ≤ 308 then
      let y := x * ofDecimal 1 e
      if Decimal.isFinite y then some y else none
    else if significand = 0 then some x
    else none
  | .negSucc e => some (shrink ((e + 1) / 308 + 1) x (e + 1))

/-- The double written with digits before and after the point and an exponent. An exponent that
does not fit in 32 bits overflows or gives zero. -/
def float? (negative : Bool) (whole fraction : List Char) (exponent : Int) : Option Float :=
  let (head, left) := extend 0 whole
  let (significand, unread) := extend head fraction
  let places := fraction.length - unread
  let magnitude :=
    if exponent > exponentLimit then if significand = 0 then some 0.0 else none
    else if exponent < -exponentLimit then some 0.0
    else scaled? significand ((left : Int) - places + exponent)
  magnitude.map fun x => if negative then -x else x

/-- A number without point and exponent. -/
def whole? (negative : Bool) (ds : List Char) : Option Number :=
  let n := digitsValue 0 ds
  if negative then
    if n = 0 ∨ Nat.pow 2 63 < n then (float? true ds [] 0).map .float else some (.int (-(n : Int)))
  else if n ≤ significandLimit then some (.int n)
  else (float? false ds [] 0).map .float

/-- A character that a number may hold. -/
def isNumberChar (c : Char) : Bool :=
  isAsciiDigit c || c == '-' || c == '+' || c == '.' || c == 'e' || c == 'E'

/-- A sign in front of a number: nothing or a minus. -/
def spanMinus : List Char → Bool × List Char
  | '-' :: cs => (true, cs)
  | cs => (false, cs)

/-- The number that a whole text writes. -/
def Number.ofText? (cs : List Char) : Option Number :=
  let (negative, cs) := spanMinus cs
  let (whole, rest) := spanDigits cs
  if whole.isEmpty || (whole.head? == some '0' && whole.length > 1) then none
  else
    match rest with
    | [] => whole? negative whole
    | '.' :: more =>
      match spanDigits more with
      | ([], _) => none
      | (fraction, tail) => do
        let exponent ← exponentPart? tail
        let x ← float? negative whole fraction exponent
        return .float x
    | tail => do
      let exponent ← exponentPart? tail
      let x ← float? negative whole [] exponent
      return .float x

end TemplateEngine.Json
