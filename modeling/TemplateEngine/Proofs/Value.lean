import Mathlib
import TemplateEngine.Value

/-!
# Equality of values

Neither equality asks which value stands on the left, and strict equality is the finer one.

* **`Comparison`**: a loose comparison is answered at once, or two other values are compared
  instead. **`compareLoosely`** lists the rules in their order; it does the same for two values and
  for the two exchanged (`compareLoosely_comm`).
* **`LooselyCompared`** follows the comparisons up to the answer. There is always one, because what
  is compared instead of a truth value is a number (`compareLoosely_number`), and it is the one of
  `looseEquals` (`looselyCompared_iff`).
-/

namespace TemplateEngine.Value

/-! ## Strict equality -/

variable {a b c d : Value} {r : Bool}

/-- By the kinds that may be equal; among the numbers zero has two signs, and one is not equal to
itself. -/
theorem strictEquals_symm (h : a.strictEquals b = true) : b.strictEquals a = true := by
  revert h
  fun_cases strictEquals a b with
  | case1 | case2 => exact id
  | case3 | case4 | case5 | case6 | case7 => exact BEq.symm
  | case8 => exact nofun

theorem strictEquals_comm (a b : Value) : a.strictEquals b = b.strictEquals a :=
  Bool.eq_iff_iff.2 ⟨strictEquals_symm, strictEquals_symm⟩

/-! ## Loose equality -/

/-- What a loose comparison comes to first. -/
inductive Comparison where
  /-- It is answered. -/
  | answer (r : Bool)
  /-- Two other values are compared instead. -/
  | instead (a b : Value)

/-- The rules of a loose comparison, of which the first one that fits counts. -/
def compareLoosely (a b : Value) : Comparison :=
  if a.isNullish && b.isNullish then .answer true
  else
    match a, b with
    | .number x, .string s => .answer (writes s x)
    | .string s, .number x => .answer (writes s x)
    | .bool p, .bool q => .answer (strictEquals (.bool p) (.bool q))
    | .bool p, other => .instead (.number (toNumber (.bool p))) other
    | other, .bool p => .instead (.number (toNumber (.bool p))) other
    | a, b => .answer (a.strictEquals b)

/-- The recursion of a loose comparison: it is answered, or what is compared instead of it is. -/
inductive LooselyCompared : Value → Value → Bool → Prop where
  | answer {a b : Value} {r : Bool} : compareLoosely a b = .answer r → LooselyCompared a b r
  | instead {a b c d : Value} {r : Bool} :
    compareLoosely a b = .instead c d → LooselyCompared c d r → LooselyCompared a b r

/-- Two values of one kind that are not both missing are compared strictly. -/
theorem compareLoosely_of_strict (hab : compareLoosely a b = .answer (a.strictEquals b))
    (hba : compareLoosely b a = .answer (b.strictEquals a)) :
    compareLoosely a b = compareLoosely b a := by
  rw [hab, hba, strictEquals_comm]

/-- The rules are the same for two values that are exchanged. -/
theorem compareLoosely_comm (a b : Value) : compareLoosely a b = compareLoosely b a := by
  cases a with
  | bool p =>
    cases b with
    | bool q => exact compareLoosely_of_strict rfl rfl
    | _ => rfl
  | number x =>
    cases b with
    | number y => exact compareLoosely_of_strict rfl rfl
    | _ => rfl
  | string s =>
    cases b with
    | string t => exact compareLoosely_of_strict rfl rfl
    | _ => rfl
  | object i =>
    cases b with
    | object j => exact compareLoosely_of_strict rfl rfl
    | _ => rfl
  | function i =>
    cases b with
    | function j => exact compareLoosely_of_strict rfl rfl
    | _ => rfl
  | undefined | null | array | promise => cases b <;> rfl

/-- A comparison of a number with a value that is no truth value is answered at once. -/
theorem compareLoosely_number (x : Float) (hb : ∀ p, b ≠ .bool p) :
    compareLoosely (.number x) b = .answer (numberEquals x b) := by
  cases b with
  | bool p => exact absurd rfl (hb p)
  | _ => rfl

/-- Only a truth value is exchanged for another value, and it is exchanged for a number. -/
theorem eq_number_of_instead (h : compareLoosely a b = .instead c d) :
    (∃ x, c = .number x) ∧ ∀ p, d ≠ .bool p := by
  cases a <;> cases b <;> cases h <;> exact ⟨⟨_, rfl⟩, nofun⟩

/-- Loose equality follows the rules. -/
theorem looseEquals_eq (a b : Value) :
    a.looseEquals b =
      match compareLoosely a b with
      | .answer r => r
      | .instead c d => c.looseEquals d := by
  cases a <;> cases b <;> rfl

theorem looseEquals_comm (a b : Value) : a.looseEquals b = b.looseEquals a := by
  rw [looseEquals_eq, looseEquals_eq, compareLoosely_comm]

/-- Values that are strictly equal are of one kind, and no rule says otherwise of them. -/
theorem looseEquals_of_strictEquals (h : a.strictEquals b = true) : a.looseEquals b = true := by
  revert h
  fun_cases strictEquals a b with
  | case1 | case2 | case3 | case4 | case5 | case6 | case7 => exact id
  | case8 => exact nofun

/-- The recursion ends with the answer of loose equality, at the latest with what is compared
instead of the two values. -/
theorem looselyCompared_iff : LooselyCompared a b r ↔ a.looseEquals b = r := by
  constructor
  · intro h
    induction h with
    | answer h => rw [looseEquals_eq, h]
    | instead h _ ih => rw [looseEquals_eq, h, ← ih]
  · rintro rfl
    cases h : compareLoosely a b with
    | answer r =>
      rw [looseEquals_eq, h]
      exact .answer h
    | instead c d =>
      obtain ⟨⟨x, rfl⟩, hd⟩ := eq_number_of_instead h
      have hlast := compareLoosely_number x hd
      rw [looseEquals_eq, h]
      dsimp only
      rw [looseEquals_eq, hlast]
      exact .instead h (.answer hlast)

/-- **Equality.** Both equalities are symmetric, strict equality implies loose equality, and the
recursion of a loose comparison ends, with the answer of loose equality and with no other. -/
theorem equality_laws (a b : Value) :
    a.looseEquals b = b.looseEquals a ∧ a.strictEquals b = b.strictEquals a ∧
      (a.strictEquals b = true → a.looseEquals b = true) ∧
      ∀ r, LooselyCompared a b r ↔ a.looseEquals b = r :=
  ⟨looseEquals_comm a b, strictEquals_comm a b, looseEquals_of_strictEquals,
    fun _ => looselyCompared_iff⟩

/-- The two zeros are one number. -/
theorem equality_laws_zeros :
    (number 0.0).strictEquals (number (-0.0)) = true ∧
      (number 0.0).looseEquals (number (-0.0)) = true := by
  have hstrict : (number 0.0).strictEquals (number (-0.0)) = true := by decide
  exact ⟨hstrict, (equality_laws _ _).2.2.1 hstrict⟩

end TemplateEngine.Value
