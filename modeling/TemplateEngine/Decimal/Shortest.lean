import TemplateEngine.Decimal.Binary

/-!
# `Decimal` · Shortest digits

The fewest decimal digits that read back as the same double, and of those the nearest.

* **Interval.** The reals that round to `m · 2 ^ q` reach half way to its neighbours; the lower
  neighbour of a power of two is twice as near. The ends belong to the interval iff `m` is even.
* **Grid.** With `n` digits the candidates are the two neighbours of the value on the grid of its
  `n`-digit numbers: if any point of a grid lies in the interval, one of these two does.
* **`shortest`** takes the first grid with a hit, of two hits the nearer, and breaks an exact tie
  by `Tie`. The result is a pair of digits and exponent, `d · 10 ^ k`, with `d` not a multiple of
  ten unless it is zero.
-/

namespace TemplateEngine.Decimal

/-- Which of two equally near candidates is taken. -/
inductive Tie where
  /-- The larger one. -/
  | up
  /-- The one whose last digit is even. -/
  | even
  deriving Repr, DecidableEq, Inhabited

/-- The number of decimal digits of `n`; zero has none. -/
def digitCount (n : Nat) : Nat := if n = 0 then 0 else (Nat.toDigits 10 n).length

/-- The exponent of the leading digit of the positive fraction `num / den`. -/
def leadingExponent (num den : Nat) : Int :=
  if den ≤ num then (digitCount (num / den) : Int) - 1
  else -(digitCount ((den - 1) / num) : Int)

/-- The interval of reals that round to a double, scaled by `4 / 2 ^ q`. -/
structure Interval where
  /-- Four times the significand. -/
  value : Nat
  /-- The lower end. -/
  low : Nat
  /-- The upper end. -/
  high : Nat
  /-- The ends round to the double too. -/
  closed : Bool

/-- The interval of the double `m · 2 ^ q`. -/
def Interval.of (m : Nat) (q : Int) : Interval where
  value := 4 * m
  low := if m = Nat.pow 2 52 ∧ q > -1074 then 4 * m - 1 else 4 * m - 2
  high := 4 * m + 2
  closed := m % 2 == 0

/-- Whether `x / d` lies in the interval whose ends are `low / d` and `high / d`. -/
def Interval.holds (i : Interval) (scale x : Nat) : Bool :=
  if i.closed then i.low * scale ≤ x && x ≤ i.high * scale
  else i.low * scale < x && x < i.high * scale

/-- The nearest point of the grid `10 ^ k` in the interval of `m · 2 ^ q`, if one lies there. -/
def onGrid (tie : Tie) (i : Interval) (q k : Int) : Option Nat :=
  -- value / grid = i.value * scale / unit
  let scale := Nat.pow 2 (q - 2).toNat * Nat.pow 10 (-k).toNat
  let unit := Nat.pow 10 k.toNat * Nat.pow 2 (2 - q).toNat
  let below := i.value * scale / unit
  let rest := i.value * scale % unit
  let above := below + 1
  match i.holds scale (below * unit), i.holds scale (above * unit) with
  | true, true =>
    if 2 * rest < unit then some below
    else if unit < 2 * rest then some above
    else
      match tie with
      | .up => some above
      | .even => if below % 2 = 0 then some below else some above
  | true, false => some below
  | false, true => some above
  | false, false => none

/-- Digits and exponent without the zeros at the end of the digits. -/
def dropZeros : Nat → Nat → Int → Nat × Int
  | 0, d, k => (d, k)
  | fuel + 1, d, k => if d % 10 = 0 ∧ d ≠ 0 then dropZeros fuel (d / 10) (k + 1) else (d, k)

/-- The first hit on the grids of `n`, `n + 1`, … digits; `lead` is the exponent of the value's
leading digit and `left` the number of grids still to try. -/
def firstHit (tie : Tie) (i : Interval) (q lead : Int) : Nat → Nat → Nat × Int
  | 0, n => (0, lead - n)
  | left + 1, n =>
    match onGrid tie i q (lead - n) with
    | some d => dropZeros (digitCount d) d (lead - n)
    | none => firstHit tie i q lead left (n + 1)

/-- The shortest digits of `m · 2 ^ q`. Seventeen digits are enough for every double. -/
def shortest (tie : Tie) (m : Nat) (q : Int) : Nat × Int :=
  if m = 0 then (0, 0)
  else
    let lead := leadingExponent (m * Nat.pow 2 q.toNat) (Nat.pow 2 (-q).toNat)
    firstHit tie (Interval.of m q) q lead 17 0

end TemplateEngine.Decimal
