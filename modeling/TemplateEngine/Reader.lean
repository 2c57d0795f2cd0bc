/-!
# Readers

A reading step takes something off the front of a list and leaves a rest. The rest carries the
proof that it is shorter, which is what ends every loop that reads on from there.

* **`Shorter xs`** are the lists shorter than `xs`, **`NoLonger xs`** those at most as long.
* **Rests of rests.** `tail` and `all` are the plainest rests; a rest of a list is also one of that
  list with elements in front (`cons`).
-/

namespace TemplateEngine

/-- A rest of `xs` from which something was taken. -/
abbrev Shorter {α : Type} (xs : List α) := { rest : List α // rest.length < xs.length }

/-- A rest of `xs` from which nothing or something was taken. -/
abbrev NoLonger {α : Type} (xs : List α) := { rest : List α // rest.length ≤ xs.length }

/-- Only the first element was taken. -/
@[inline] def Shorter.tail {α : Type} (x : α) (xs : List α) : Shorter (x :: xs) :=
  ⟨xs, Nat.lt_succ_self _⟩

/-- Nothing was taken. -/
@[inline] def NoLonger.all {α : Type} (xs : List α) : NoLonger xs := ⟨xs, Nat.le_refl _⟩

/-- A shorter rest, with one element in front of the list. -/
@[inline] def Shorter.cons {α : Type} {x : α} {xs : List α} (rest : Shorter xs) :
    Shorter (x :: xs) :=
  ⟨rest.val, Nat.lt_succ_of_lt rest.property⟩

/-- A rest, with one element in front of the list. -/
@[inline] def NoLonger.cons {α : Type} {x : α} {xs : List α} (rest : NoLonger xs) :
    Shorter (x :: xs) :=
  ⟨rest.val, Nat.lt_succ_of_le rest.property⟩

/-- A shorter rest of a shorter rest. -/
@[inline] def Shorter.trans {α : Type} {xs : List α} (rest : Shorter xs)
    (more : Shorter rest.val) : Shorter xs :=
  ⟨more.val, Nat.lt_trans more.property rest.property⟩

/-- A shorter rest of a rest. -/
@[inline] def NoLonger.trans {α : Type} {xs : List α} (rest : NoLonger xs)
    (more : Shorter rest.val) : Shorter xs :=
  ⟨more.val, Nat.lt_of_lt_of_le more.property rest.property⟩

/-- A shorter rest as one that is at most as long. -/
@[inline] def Shorter.noLonger {α : Type} {xs : List α} (rest : Shorter xs) : NoLonger xs :=
  ⟨rest.val, Nat.le_of_lt rest.property⟩

/-- A rest of a shorter rest. -/
@[inline] def Shorter.onward {α : Type} {xs : List α} (rest : Shorter xs)
    (more : NoLonger rest.val) : Shorter xs :=
  ⟨more.val, Nat.lt_of_le_of_lt more.property rest.property⟩

/-- A rest of a rest. -/
@[inline] def NoLonger.onward {α : Type} {xs : List α} (rest : NoLonger xs)
    (more : NoLonger rest.val) : NoLonger xs :=
  ⟨more.val, Nat.le_trans more.property rest.property⟩

/-- Some elements at the front were taken. -/
@[inline] def NoLonger.drop {α : Type} (count : Nat) (xs : List α) : NoLonger xs :=
  ⟨xs.drop count, List.length_drop ▸ Nat.sub_le xs.length count⟩

/-- What `dropWhile` leaves is at most as long. -/
theorem length_dropWhile_le {α : Type} (p : α → Bool) (xs : List α) :
    (xs.dropWhile p).length ≤ xs.length := by
  induction xs with
  | nil => simp
  | cons x xs ih =>
    rw [List.dropWhile_cons]
    split
    · exact Nat.le_succ_of_le ih
    · exact Nat.le_refl _

/-- The elements that a list starts with and that satisfy `p` are taken off. -/
def dropLeading {α : Type} (p : α → Bool) (xs : List α) : NoLonger xs :=
  ⟨xs.dropWhile p, length_dropWhile_le p xs⟩

end TemplateEngine
