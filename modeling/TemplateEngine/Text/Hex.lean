/-!
# `Text` · Hexadecimal digits

The value of a hexadecimal digit in either case, and of a run of them.
-/

namespace TemplateEngine.Text

/-- The value of a hexadecimal digit. -/
def hexValue? (c : Char) : Option Nat :=
  let n := c.toNat
  if 48 ≤ n ∧ n ≤ 57 then some (n - 48)
  else if 97 ≤ n ∧ n ≤ 102 then some (n - 87)
  else if 65 ≤ n ∧ n ≤ 70 then some (n - 55)
  else none

/-- The value of a run of hexadecimal digits, read after `before`. -/
def hexRun? (before : Nat) : List Char → Option Nat
  | [] => some before
  | c :: cs => (hexValue? c).bind fun digit => hexRun? (16 * before + digit) cs

/-- The value of a hexadecimal digit is below sixteen. -/
theorem hexValue?_lt {c : Char} {n : Nat} (h : hexValue? c = some n) : n < 16 := by
  unfold hexValue? at h
  simp only at h
  split at h
  · have : n = c.toNat - 48 := by simpa using h.symm
    omega
  · split at h
    · have : n = c.toNat - 87 := by simpa using h.symm
      omega
    · split at h
      · have : n = c.toNat - 55 := by simpa using h.symm
        omega
      · simp at h

end TemplateEngine.Text
