import TemplateEngine.Proofs.Graph.Placed

/-!
# Graphs that have grown

More may be made in a graph while all that is there stays as it is.

* **`Graph.IsPrefix g h`**: all that is in `g` is in `h`, at the same places.
* **`Placement.past`**: what was there stays where it is, and what is made next has its place behind
  all that the larger graph has. So a closed graph stands in each graph of which it is a prefix
  (`IsPrefix.placed_past`).
* **`Graph.Embedded p g h`**: what is in `g` is found in `h` at its places, whatever is made next.
-/

namespace TemplateEngine

variable {α : Type}

/-! ## Arrays -/

theorem getElem?_of_isPrefix {a b : Array α} (h : a.toList <+: b.toList) {i : Nat} (hi : i < a.size) :
    b[i]? = a[i]? := by
  obtain ⟨more, hmore⟩ := h
  rw [← Array.getElem?_toList, ← Array.getElem?_toList, ← hmore,
    List.getElem?_append_left (Array.length_toList ▸ hi)]

theorem size_le_of_isPrefix {a b : Array α} (h : a.toList <+: b.toList) : a.size ≤ b.size := by
  rw [← Array.length_toList, ← Array.length_toList]
  exact h.length_le

theorem prefix_push (a : Array α) (x : α) : a.toList <+: (a.push x).toList := by
  rw [Array.toList_push]
  exact List.prefix_append _ _

/-- A change behind an array. -/
theorem prefix_modify {a b : Array α} (h : a.toList <+: b.toList) {i : Nat} (hi : a.size ≤ i)
    (F : α → α) : a.toList <+: (b.modify i F).toList := by
  refine List.prefix_iff_eq_take.2 (List.ext_getElem? fun j => ?_)
  rw [List.getElem?_take, Array.getElem?_toList, Array.getElem?_toList]
  split
  · next hj =>
    rw [Array.length_toList] at hj
    rw [Array.getElem?_modify, if_neg (by omega), getElem?_of_isPrefix h hj]
  · next hj => exact Array.getElem?_eq_none (by rw [Array.length_toList] at hj; omega)

namespace Graph

/-! ## Prefixes -/

/-- All that is in a graph is in another one, at the same places. -/
structure IsPrefix (g h : Graph) : Prop where
  /-- The objects, with their members. -/
  objects : g.objects.toList <+: h.objects.toList
  /-- The functions. -/
  functions : g.functions.toList <+: h.functions.toList
  /-- The promises, with their states. -/
  promises : g.promises.toList <+: h.promises.toList

variable {g h k : Graph}

namespace IsPrefix

theorem refl (g : Graph) : g.IsPrefix g :=
  ⟨List.prefix_refl _, List.prefix_refl _, List.prefix_refl _⟩

theorem trans (hgh : g.IsPrefix h) (hhk : h.IsPrefix k) : g.IsPrefix k :=
  ⟨hgh.objects.trans hhk.objects, hgh.functions.trans hhk.functions,
    hgh.promises.trans hhk.promises⟩

theorem newObject (hgh : g.IsPrefix h) (members : Dictionary Value) :
    g.IsPrefix (h.newObject members).2 :=
  ⟨hgh.objects.trans (prefix_push _ _), hgh.functions, hgh.promises⟩

theorem newFunction (hgh : g.IsPrefix h) (callable : Callable) :
    g.IsPrefix (h.newFunction callable).2 :=
  ⟨hgh.objects, hgh.functions.trans (prefix_push _ _), hgh.promises⟩

theorem newPromise (hgh : g.IsPrefix h) (state : PromiseState) :
    g.IsPrefix (h.newPromise state).2 :=
  ⟨hgh.objects, hgh.functions, hgh.promises.trans (prefix_push _ _)⟩

/-- What was made since may be changed. -/
theorem write (hgh : g.IsPrefix h) {id : ObjectId} (hid : g.objects.size ≤ id.index) (key : String)
    (value : Value) : g.IsPrefix (h.write id key value) :=
  ⟨prefix_modify hgh.objects hid _, hgh.functions, hgh.promises⟩

theorem setPromise (hgh : g.IsPrefix h) {id : PromiseId} (hid : g.promises.size ≤ id.index)
    (state : PromiseState) : g.IsPrefix (h.setPromise id state) :=
  ⟨hgh.objects, hgh.functions, prefix_modify hgh.promises hid _⟩

theorem addFunctions (hgh : g.IsPrefix h) (callables : List (String × Callable))
    (members : Dictionary Value) :
    g.IsPrefix (callables.foldl addFunction (members, h)).2 ∧
      (callables.foldl addFunction (members, h)).2.objects = h.objects := by
  induction callables generalizing members h with
  | nil => exact ⟨hgh, rfl⟩
  | cons named rest ih => exact ih (hgh.newFunction named.2) _

/-- New functions and their object. -/
theorem newLibrary (hgh : g.IsPrefix h) (callables : List (String × Callable)) :
    g.IsPrefix (h.newLibrary callables).2 ∧ (h.newLibrary callables).1 = ⟨h.objects.size⟩ := by
  obtain ⟨hgrown, hobjects⟩ := hgh.addFunctions callables .empty
  exact ⟨hgrown.newObject _, congrArg (ObjectId.mk ·.size) hobjects⟩

end IsPrefix

end Graph

/-! ## Places behind -/

/-- Everything stays where it is. -/
def Placement.still (slot : SlotId → Prop) : Placement where
  object i := i
  function i := i
  promise i := i
  object_injective _ _ h := h
  function_injective _ _ h := h
  promise_injective _ _ h := h
  slot := slot
  native _ := True

theorem Placement.fixes_still (slot : SlotId → Prop) (e : Extent) : (still slot).Fixes e :=
  ⟨fun _ _ => rfl, fun _ _ => rfl, fun _ _ => rfl⟩

/-- An array stands in itself if its elements are not changed. -/
theorem Stands.of_fixed {f : α → α} {a : Array α} (hf : ∀ x ∈ a, f x = x) :
    Stands (fun i => i) f a a where
  getElem? i := by
    rcases hget : a[i]? with _ | x
    · rfl
    · exact congrArg some (hf x (Array.mem_of_getElem? hget)).symm
  next _ := rfl

/-- A graph in which nothing refers to what is not there is placed in itself. -/
theorem Graph.Closed.placed_still {slot : SlotId → Prop} {g : Graph} (hclosed : g.Closed)
    (hcallable : ∀ callable ∈ g.functions, callable.Known (.still slot))
    (hstate : ∀ state ∈ g.promises, state.Known (.still slot)) : g.Placed (.still slot) g where
  objects := .of_fixed fun members hmem =>
    Refs.members.fixed (Placement.fixes_still slot _) (hclosed.objects members hmem)
  functions := .of_fixed fun _ _ => rfl
  promises := .of_fixed fun state hmem =>
    Refs.state.fixed (Placement.fixes_still slot _) (hclosed.promises state hmem)
  closed := hclosed
  callable := hcallable
  state := hstate

/-- What is below `n` stays where it is, and what follows has its place from `n + d` on. -/
def past (n d i : Nat) : Nat := if i < n then i else i + d

theorem past_of_lt {n d i : Nat} (h : i < n) : past n d i = i := if_pos h

theorem past_add (n d k : Nat) : past n d (n + k) = n + d + k := by
  unfold past
  split <;> omega

theorem past_injective (n d : Nat) : Function.Injective (past n d) := by
  intro i j h
  unfold past at h
  split at h <;> split at h <;> omega

/-- Between the two, nothing has its place. -/
theorem past_ne {n d j : Nat} (h : n ≤ j) (h' : j < n + d) (i : Nat) : past n d i ≠ j := by
  unfold past
  split <;> omega

/-- What is within `e` stays where it is, and what is made next has its place behind `e'`. -/
def Placement.past (slot : SlotId → Prop) (e e' : Extent) : Placement where
  object := TemplateEngine.past e.objects (e'.objects - e.objects)
  function := TemplateEngine.past e.functions (e'.functions - e.functions)
  promise := TemplateEngine.past e.promises (e'.promises - e.promises)
  object_injective := past_injective _ _
  function_injective := past_injective _ _
  promise_injective := past_injective _ _
  slot := slot
  native _ := True

theorem Placement.fixes_past (slot : SlotId → Prop) (e e' : Extent) : (past slot e e').Fixes e :=
  ⟨fun _ => past_of_lt, fun _ => past_of_lt, fun _ => past_of_lt⟩

/-- An array stands in each one of which it is a prefix. -/
theorem Stands.of_isPrefix {f : α → α} {a b : Array α} (h : a.toList <+: b.toList)
    (hf : ∀ x ∈ a, f x = x) : Stands (past a.size (b.size - a.size)) f a b where
  getElem? i := by
    have hsize := size_le_of_isPrefix h
    by_cases hi : i < a.size
    · rw [past_of_lt hi, getElem?_of_isPrefix h hi, Array.getElem?_eq_getElem hi, Option.map_some,
        hf _ (Array.getElem_mem hi)]
    · obtain ⟨j, rfl⟩ := Nat.exists_eq_add_of_le (Nat.le_of_not_lt hi)
      rw [past_add, Array.getElem?_eq_none (by omega), Array.getElem?_eq_none (by omega)]
      rfl
  next k := by
    have hsize := size_le_of_isPrefix h
    rw [past_add]
    omega

/-- An array that stands still is the whole other one. -/
theorem Stands.eq_of_fixed {f : α → α} {a b : Array α} (h : Stands (fun i => i) f a b)
    (hf : ∀ x ∈ a, f x = x) : b = a := by
  refine Array.ext_getElem? fun i => (h.getElem? i).trans ?_
  rcases hi : a[i]? with _ | x
  · rfl
  · exact congrArg some (hf x (Array.mem_of_getElem? hi))

namespace Graph

variable {p : Placement} {slot : SlotId → Prop} {g h k : Graph}

/-- A closed graph stands in each graph of which it is a prefix. -/
theorem IsPrefix.placed_past (hgh : g.IsPrefix h) (hclosed : g.Closed)
    (hcallable : ∀ callable ∈ g.functions, callable.Known (.past slot g.extent h.extent))
    (hstate : ∀ state ∈ g.promises, state.Known (.past slot g.extent h.extent)) :
    g.Placed (.past slot g.extent h.extent) h where
  objects := Stands.of_isPrefix hgh.objects fun members hmembers =>
    Refs.members.fixed (Placement.fixes_past _ _ _) (hclosed.objects members hmembers)
  functions := Stands.of_isPrefix hgh.functions fun _ _ => rfl
  promises := Stands.of_isPrefix hgh.promises fun state hstate =>
    Refs.state.fixed (Placement.fixes_past _ _ _) (hclosed.promises state hstate)
  closed := hclosed
  callable := hcallable
  state := hstate

/-- What stands still is the whole graph. -/
theorem Placed.eq_of_still (hg : g.Placed (.still slot) h) : h = g := by
  have hobjects : h.objects = g.objects := hg.objects.eq_of_fixed fun members hmembers =>
    Refs.members.fixed (Placement.fixes_still _ _) (hg.closed.objects members hmembers)
  have hfunctions : h.functions = g.functions := hg.functions.eq_of_fixed fun _ _ => rfl
  have hpromises : h.promises = g.promises := hg.promises.eq_of_fixed fun state hstate =>
    Refs.state.fixed (Placement.fixes_still _ _) (hg.closed.promises state hstate)
  obtain ⟨objects, functions, promises⟩ := h
  dsimp only at hobjects hfunctions hpromises
  rw [hobjects, hfunctions, hpromises]

/-! ## Embedded graphs -/

/-- What is in a graph is found in another one, at its places. -/
structure Embedded (p : Placement) (g h : Graph) : Prop where
  /-- The objects. -/
  objects : ∀ i < g.objects.size, h.objects[p.object i]? = g.objects[i]?.map (Refs.members.placed p)
  /-- The functions. -/
  functions : ∀ i < g.functions.size, h.functions[p.function i]? = g.functions[i]?
  /-- The promises. -/
  promises : ∀ i < g.promises.size, h.promises[p.promise i]? = g.promises[i]?.map (Refs.state.placed p)

theorem Placed.embedded (hg : g.Placed p h) : g.Embedded p h where
  objects i _ := hg.objects.getElem? i
  functions i _ := by rw [hg.functions.getElem? i, Option.map_id']
  promises i _ := hg.promises.getElem? i

/-- More may be made. -/
theorem Embedded.of_isPrefix (hg : g.Embedded p h) (hhk : h.IsPrefix k) : g.Embedded p k where
  objects i hi := by
    have hlive := hg.objects i hi
    rw [Array.getElem?_eq_getElem hi, Option.map_some] at hlive
    rw [getElem?_of_isPrefix hhk.objects (Array.getElem?_eq_some_iff.1 hlive).1]
    exact hg.objects i hi
  functions i hi := by
    have hlive := hg.functions i hi
    rw [Array.getElem?_eq_getElem hi] at hlive
    rw [getElem?_of_isPrefix hhk.functions (Array.getElem?_eq_some_iff.1 hlive).1]
    exact hg.functions i hi
  promises i hi := by
    have hlive := hg.promises i hi
    rw [Array.getElem?_eq_getElem hi, Option.map_some] at hlive
    rw [getElem?_of_isPrefix hhk.promises (Array.getElem?_eq_some_iff.1 hlive).1]
    exact hg.promises i hi

/-- Promises that have their places elsewhere may be settled. -/
theorem Embedded.setPromise (hg : g.Embedded p h) {id : PromiseId}
    (hid : ∀ i, p.promise i ≠ id.index) (state : PromiseState) :
    g.Embedded p (h.setPromise id state) where
  objects := hg.objects
  functions := hg.functions
  promises i hi := by
    unfold Graph.setPromise
    dsimp only
    rw [Array.getElem?_modify, if_neg fun heq => hid i heq.symm]
    exact hg.promises i hi

end Graph

end TemplateEngine
