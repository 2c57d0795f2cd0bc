/-!
# `Decimal` · The parts of a double

A finite double is a sign and a number `m · 2 ^ q`; everything that is exact about numbers in this
library (their text, their remainder) is computed on `m` and `q` in natural numbers.

* **`Parts`**: not a number, an infinity, or sign, `m` and `q`.
* **`Parts.ofFloat`** reads them off the bits; `isIntegral` and `wholeDigits` say when a double is
  a whole number and which.
-/

namespace TemplateEngine.Decimal

/-- What a double stands for. -/
inductive Parts where
  /-- Not a number. -/
  | nan
  /-- An infinity, negative or not. -/
  | infinite (negative : Bool)
  /-- The number `m · 2 ^ q`, negated if `negative`. -/
  | finite (negative : Bool) (m : Nat) (q : Int)
  deriving Repr, DecidableEq, Inhabited

namespace Parts

/-- The parts written in 64 bits: one of sign, eleven of exponent, fifty-two of fraction. -/
def ofBits (bits : Nat) : Parts :=
  let negative : Bool := bits / Nat.pow 2 63 % 2 == 1
  let exponent : Nat := bits / Nat.pow 2 52 % Nat.pow 2 11
  let fraction : Nat := bits % Nat.pow 2 52
  if exponent = 2047 then
    if fraction = 0 then infinite negative else nan
  else if exponent = 0 then finite negative fraction (-1074)
  else finite negative (fraction + Nat.pow 2 52) ((exponent : Int) - 1075)

/-- The parts of a double. -/
def ofFloat (x : Float) : Parts := ofBits x.toBits.toNat

/-- The whole number `m · 2 ^ q`, if it is one. -/
def whole? (m : Nat) (q : Int) : Option Nat :=
  match q with
  | .ofNat k => some (m * Nat.pow 2 k)
  | .negSucc k =>
    let unit := Nat.pow 2 (k + 1)
    if m % unit = 0 then some (m / unit) else none

end Parts

/-- The value of a double that is a whole number, without its sign. -/
def whole? (x : Float) : Option Nat :=
  match Parts.ofFloat x with
  | .finite _ m q => Parts.whole? m q
  | _ => none

/-- A double that is neither an infinity nor not a number. -/
def isFinite (x : Float) : Bool :=
  match Parts.ofFloat x with
  | .finite .. => true
  | _ => false

/-- A double with the sign bit set. -/
def isNegative (x : Float) : Bool :=
  match Parts.ofFloat x with
  | .finite negative _ _ => negative
  | .infinite negative => negative
  | .nan => false

/-- The integer that a double is, if it is one; negative zero is zero. -/
def integer? (x : Float) : Option Int :=
  (whole? x).map fun n => if isNegative x then -(n : Int) else n

/-- An integer that fits in 64 bits, of which one is the sign. -/
def fitsSigned (n : Int) : Bool := -(Nat.pow 2 63 : Int) ≤ n && n < (Nat.pow 2 63 : Int)

end TemplateEngine.Decimal
