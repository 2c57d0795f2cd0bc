import TemplateEngine.Decimal.Binary

/-!
# `Decimal` · Remainder

The remainder of a division that rounds toward zero, exact for all doubles: it has the sign of the
dividend, it is the dividend if the divisor is infinite, and there is none for an infinite dividend
or a divisor of zero.
-/

namespace TemplateEngine.Decimal

/-- The exact remainder of `m₁ · 2 ^ q₁` by `m₂ · 2 ^ q₂` as a significand and the smaller
exponent. -/
def remainderParts (m₁ : Nat) (q₁ : Int) (m₂ : Nat) (q₂ : Int) : Nat × Int :=
  let q := min q₁ q₂
  ((m₁ * Nat.pow 2 (q₁ - q).toNat) % (m₂ * Nat.pow 2 (q₂ - q).toNat), q)

/-- The remainder of `x` divided by `y`. -/
def remainder (x y : Float) : Float :=
  match Parts.ofFloat x, Parts.ofFloat y with
  | .finite negative m₁ q₁, .finite _ m₂ q₂ =>
    if m₂ = 0 then 0.0 / 0.0
    else
      let (r, q) := remainderParts m₁ q₁ m₂ q₂
      let magnitude := (Float.ofNat r).scaleB q
      if negative then -magnitude else magnitude
  | .finite .., .infinite _ => x
  | _, _ => 0.0 / 0.0

end TemplateEngine.Decimal
