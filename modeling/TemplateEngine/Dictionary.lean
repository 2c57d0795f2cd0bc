/-!
# Dictionaries

Values under text keys, in the order of the keys.

* **Entries** are a list sorted by key (`SortedKeys`); `insertEntry` puts a value at a key in one
  pass and keeps the list sorted.
* **`Dictionary`** carries the order as an invariant. Its view is `find?`: reading after
  `insert` gives the new value at the key and the old one elsewhere (`find?_insert`), after `erase`
  none and the old one (`find?_erase`).
-/

namespace TemplateEngine

variable {α : Type}

/-! ## Entries -/

/-- The keys of the entries increase. -/
def SortedKeys (entries : List (String × α)) : Prop := entries.Pairwise fun a b => a.1 < b.1

/-- The entries with `value` at `key`. -/
def insertEntry (key : String) (value : α) : List (String × α) → List (String × α)
  | [] => [(key, value)]
  | (k, v) :: rest =>
    if key < k then (key, value) :: (k, v) :: rest
    else if key = k then (key, value) :: rest
    else (k, v) :: insertEntry key value rest

/-- An entry after `insertEntry` is the new one or an old one. -/
theorem mem_insertEntry {key : String} {value : α} {entries : List (String × α)} {e : String × α}
    (h : e ∈ insertEntry key value entries) : e = (key, value) ∨ e ∈ entries := by
  induction entries with
  | nil => simpa [insertEntry] using h
  | cons head rest ih =>
    obtain ⟨k, v⟩ := head
    simp only [insertEntry] at h
    split at h
    · simpa using h
    · split at h
      · simp only [List.mem_cons] at h ⊢
        exact h.imp_right .inr
      · simp only [List.mem_cons] at h ⊢
        rcases h with h | h
        · exact .inr (.inl h)
        · exact (ih h).imp_right .inr

/-- Of two different texts one is smaller. -/
theorem lt_of_not_lt_of_ne {a b : String} (h : ¬a < b) (hne : a ≠ b) : b < a := by
  by_cases hb : b < a
  · exact hb
  · exact absurd (String.le_antisymm (String.not_lt.1 hb) (String.not_lt.1 h)) hne

/-- Putting a value at a key keeps the keys sorted. -/
theorem sortedKeys_insertEntry (key : String) (value : α) {entries : List (String × α)}
    (h : SortedKeys entries) : SortedKeys (insertEntry key value entries) := by
  induction entries with
  | nil => exact List.pairwise_singleton _ _
  | cons head rest ih =>
    obtain ⟨k, v⟩ := head
    have hrest := List.pairwise_cons.1 h
    simp only [insertEntry]
    split
    · next hlt =>
      refine List.pairwise_cons.2 ⟨fun e he => ?_, h⟩
      rcases List.mem_cons.1 he with rfl | he
      · exact hlt
      · exact String.lt_trans hlt (hrest.1 e he)
    · next hlt =>
      split
      · next heq =>
        subst heq
        exact List.pairwise_cons.2 ⟨fun e he => hrest.1 e he, hrest.2⟩
      · next hne =>
        refine List.pairwise_cons.2 ⟨fun e he => ?_, ih hrest.2⟩
        rcases mem_insertEntry he with rfl | he
        · exact lt_of_not_lt_of_ne hlt hne
        · exact hrest.1 e he

/-- The value just put at a key is read there. -/
theorem lookup_insertEntry_self (key : String) (value : α) (entries : List (String × α)) :
    (insertEntry key value entries).lookup key = some value := by
  induction entries with
  | nil => exact List.lookup_cons_self
  | cons head rest ih =>
    obtain ⟨k, v⟩ := head
    rw [insertEntry]
    split
    · exact List.lookup_cons_self
    · split
      · exact List.lookup_cons_self
      · next hne => rw [List.lookup_cons, beq_false_of_ne hne, ih]

/-- The values at other keys are read as before. -/
theorem lookup_insertEntry_of_ne {key other : String} (hne : other ≠ key) (value : α)
    (entries : List (String × α)) :
    (insertEntry key value entries).lookup other = entries.lookup other := by
  induction entries with
  | nil => rw [insertEntry, List.lookup_cons, beq_false_of_ne hne]
  | cons head rest ih =>
    obtain ⟨k, v⟩ := head
    rw [insertEntry]
    split
    · rw [List.lookup_cons, beq_false_of_ne hne]
    · split
      · next heq =>
        subst heq
        rw [List.lookup_cons, List.lookup_cons, beq_false_of_ne hne]
      · rw [List.lookup_cons, List.lookup_cons, ih]

/-- Without the entries at a key, only the values at other keys are read. -/
theorem lookup_filter_ne (key other : String) (entries : List (String × α)) :
    (entries.filter fun e => e.1 != key).lookup other =
      if other = key then none else entries.lookup other := by
  induction entries with
  | nil => simp
  | cons head rest ih =>
    obtain ⟨k, v⟩ := head
    by_cases hk : k = key
    · subst hk
      by_cases ho : other = k
      · simpa [ho] using ih
      · simpa [ho, List.lookup_cons, beq_false_of_ne ho] using ih
    · by_cases ho : other = k
      · subst ho
        simp [hk]
      · simpa [hk, List.lookup_cons, beq_false_of_ne ho] using ih

/-! ## Dictionaries -/

/-- Values under text keys. -/
structure Dictionary (α : Type) where
  /-- The entries in the order of their keys. -/
  entries : List (String × α)
  /-- The keys increase. -/
  sorted : SortedKeys entries

namespace Dictionary

instance : Inhabited (Dictionary α) := ⟨⟨[], List.Pairwise.nil⟩⟩

/-- No entries. -/
def empty : Dictionary α := ⟨[], List.Pairwise.nil⟩

/-- The value at a key. -/
def find? (d : Dictionary α) (key : String) : Option α := d.entries.lookup key

/-- A value stands at the key. -/
def contains (d : Dictionary α) (key : String) : Bool := (d.find? key).isSome

/-- The dictionary with a value at a key. -/
def insert (d : Dictionary α) (key : String) (value : α) : Dictionary α :=
  ⟨insertEntry key value d.entries, sortedKeys_insertEntry key value d.sorted⟩

/-- The dictionary without the value at a key. -/
def erase (d : Dictionary α) (key : String) : Dictionary α :=
  ⟨d.entries.filter fun e => e.1 != key, d.sorted.filter _⟩

/-- The dictionary of a list of entries; of two with one key the last counts. -/
def ofList (entries : List (String × α)) : Dictionary α :=
  entries.foldl (fun d e => d.insert e.1 e.2) empty

/-- The number of entries. -/
def size (d : Dictionary α) : Nat := d.entries.length

/-- Reading after writing. -/
theorem find?_insert (d : Dictionary α) (key other : String) (value : α) :
    (d.insert key value).find? other = if other = key then some value else d.find? other := by
  split
  · next h =>
    subst h
    exact lookup_insertEntry_self other value d.entries
  · next h => exact lookup_insertEntry_of_ne h value d.entries

/-- Reading after removing. -/
theorem find?_erase (d : Dictionary α) (key other : String) :
    (d.erase key).find? other = if other = key then none else d.find? other :=
  lookup_filter_ne key other d.entries

/-- Entries put in one after the other: the last of two with one key is read. -/
theorem find?_foldl_insert (entries : List (String × α)) (d : Dictionary α) (key : String) :
    (entries.foldl (fun d e => d.insert e.1 e.2) d).find? key =
      (entries.reverse.lookup key).or (d.find? key) := by
  induction entries generalizing d with
  | nil => rfl
  | cons entry rest ih =>
    obtain ⟨k, value⟩ := entry
    rw [List.foldl_cons, ih, find?_insert, List.reverse_cons, List.lookup_append, Option.or_assoc]
    congr 1
    by_cases hk : key = k
    · subst hk
      simp
    · simp [List.lookup_cons, beq_false_of_ne hk, hk]

/-- The last entry with a key is the one that is read. -/
theorem find?_ofList (entries : List (String × α)) (key : String) :
    (ofList entries).find? key = entries.reverse.lookup key := by
  unfold ofList
  rw [find?_foldl_insert]
  exact Option.or_none

end Dictionary

end TemplateEngine
