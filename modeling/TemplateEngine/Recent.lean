/-!
# Recently used values

A store under text keys that keeps a limited number of values and forgets the one that was not used
for the longest time.

* **`Recent`** lists its entries from the most recently used on.
* **Using** an entry is reading it (`get?`) or writing it (`put`); both move it to the front.
-/

namespace TemplateEngine

/-- Values under text keys, the most recently used first. -/
structure Recent (α : Type) where
  /-- How many values are kept; at least one is. -/
  capacity : Nat
  /-- The entries, the most recently used first. -/
  entries : List (String × α)

namespace Recent

variable {α : Type}

/-- No entries; a capacity of zero counts as one. -/
def empty (capacity : Nat) : Recent α := ⟨max capacity 1, []⟩

/-- The entries other than the one at a key. -/
def others (store : Recent α) (key : String) : List (String × α) :=
  store.entries.filter fun e => e.1 != key

/-- The value at a key, and the store in which it was used. -/
def get? (store : Recent α) (key : String) : Option α × Recent α :=
  match store.entries.lookup key with
  | some value => (some value, { store with entries := (key, value) :: store.others key })
  | none => (none, store)

/-- The store with a value at a key; the last entry goes if there are too many. -/
def put (store : Recent α) (key : String) (value : α) : Recent α :=
  { store with entries := ((key, value) :: store.others key).take store.capacity }

/-- The store without the value at a key. -/
def erase (store : Recent α) (key : String) : Recent α :=
  { store with entries := store.others key }

/-- The store without values. -/
def clear (store : Recent α) : Recent α := { store with entries := [] }

/-- The number of values. -/
def size (store : Recent α) : Nat := store.entries.length

end Recent

end TemplateEngine
