import Mathlib.Data.Finset.Card
import Mathlib.Data.Finset.Range
import TemplateEngine.Proofs.Graph.Placement

/-!
# Graphs in larger graphs

What is done with a graph can as well be done where it stands in a larger one.

* **`Stands`** relates two arrays: the elements of the one are found, changed, at their places in
  the other, and what is pushed next gets places that correspond.
* **`Graph.Closed`**: nothing in a graph refers to what is not there.
* **`Graph.Placed p g h`**: the graph `g`, which is closed, stands in `h`. Its members are read
  there at their places, and so are its functions and promises.
* **`Graph.Changed`**: `g` was changed, and `h` was changed accordingly; nothing else has changed in
  `h` (`Graph.Beside`). There is one lemma for each change that is made to graphs.
-/

namespace TemplateEngine

variable {α β : Type} {p : Placement}

/-! ## Arrays -/

/-- The elements of `a`, changed by `g`, stand in `b` at the places that `f` says; what is pushed
on both next gets corresponding places. -/
structure Stands (f : Nat → Nat) (g : α → β) (a : Array α) (b : Array β) : Prop where
  /-- What stands at a place. -/
  getElem? : ∀ i, b[f i]? = a[i]?.map g
  /-- What is pushed next. -/
  next : ∀ k, f (a.size + k) = b.size + k

/-- Where `f` places nothing, `b'` is as `b`. -/
def Kept (f : Nat → Nat) (b b' : Array β) : Prop := ∀ j, (∀ i, f i ≠ j) → b'[j]? = b[j]?

namespace Stands

variable {f : Nat → Nat} {g : α → β} {a : Array α} {b : Array β}

theorem place_size (h : Stands f g a b) : f a.size = b.size := h.next 0

/-- A larger array is at least as large. -/
theorem size_le (h : Stands f g a b) (hf : Function.Injective f) : a.size ≤ b.size := by
  have hmaps : ∀ i ∈ Finset.range a.size, f i ∈ Finset.range b.size := by
    intro i hi
    have hget := h.getElem? i
    rw [Array.getElem?_eq_getElem (Finset.mem_range.1 hi)] at hget
    exact Finset.mem_range.2 (Array.getElem?_eq_some_iff.1 hget).1
  simpa using Finset.card_le_card_of_injOn f hmaps hf.injOn

theorem push (h : Stands f g a b) (hf : Function.Injective f) (x : α) :
    Stands f g (a.push x) (b.push (g x)) where
  getElem? i := by
    rw [Array.getElem?_push, Array.getElem?_push, ← h.place_size]
    by_cases hi : i = a.size
    · simp [hi]
    · rw [if_neg (fun hfi => hi (hf hfi)), if_neg hi]
      exact h.getElem? i
  next k := by
    rw [Array.size_push, Array.size_push, Nat.add_assoc, h.next, Nat.add_assoc]

theorem modify (h : Stands f g a b) (hf : Function.Injective f) (i : Nat) (F : α → α) (F' : β → β)
    (hF : ∀ x, F' (g x) = g (F x)) : Stands f g (a.modify i F) (b.modify (f i) F') where
  getElem? j := by
    rw [Array.getElem?_modify, Array.getElem?_modify, h.getElem?]
    by_cases hij : i = j
    · subst hij
      rcases a[i]? with _ | x
      · simp
      · simp [hF]
    · simp [hij, hf.eq_iff]
  next k := by
    rw [Array.size_modify, Array.size_modify, h.next]

end Stands

namespace Kept

variable {f : Nat → Nat} {b b' b'' : Array β}

theorem refl (f : Nat → Nat) (b : Array β) : Kept f b b := fun _ _ => rfl

theorem trans (h : Kept f b b') (h' : Kept f b' b'') : Kept f b b'' := fun j hj =>
  (h' j hj).trans (h j hj)

theorem push {i : Nat} (h : f i = b.size) (x : β) : Kept f b (b.push x) := by
  intro j hj
  rw [Array.getElem?_push, if_neg fun hsize => hj i (h.trans hsize.symm)]

theorem modify (i : Nat) (F : β → β) : Kept f b (b.modify (f i) F) := by
  intro j hj
  rw [Array.getElem?_modify, if_neg (hj i)]

end Kept

/-- What holds of all elements and of what a change makes of them holds of all elements after the
change. -/
theorem forall_mem_modify {P : α → Prop} {a : Array α} {i : Nat} {F : α → α}
    (h : ∀ x ∈ a, P x) (hF : ∀ x, P x → P (F x)) : ∀ x ∈ a.modify i F, P x := by
  intro x hx
  obtain ⟨j, hj⟩ := Array.getElem?_of_mem hx
  rw [Array.getElem?_modify] at hj
  split at hj
  · obtain ⟨y, hy, rfl⟩ := Option.map_eq_some_iff.1 hj
    exact hF y (h y (Array.mem_of_getElem? hy))
  · exact h x (Array.mem_of_getElem? hj)

theorem forall_mem_push {P : α → Prop} {a : Array α} {y : α} (h : ∀ x ∈ a, P x) (hy : P y) :
    ∀ x ∈ a.push y, P x := by
  intro x hx
  rcases Array.mem_push.1 hx with hx | rfl
  · exact h x hx
  · exact hy

/-! ## Members -/

namespace Dictionary

/-- The entries with changed values. -/
def mapEntries (f : α → β) (entries : List (String × α)) : List (String × β) :=
  entries.map fun e => (e.1, f e.2)

theorem sortedKeys_mapEntries (f : α → β) {entries : List (String × α)} (h : SortedKeys entries) :
    SortedKeys (mapEntries f entries) :=
  List.pairwise_map.2 h

/-- The values changed, under the same keys. -/
def map (f : α → β) (d : Dictionary α) : Dictionary β :=
  ⟨mapEntries f d.entries, sortedKeys_mapEntries f d.sorted⟩

theorem insertEntry_mapEntries (f : α → β) (key : String) (value : α)
    (entries : List (String × α)) :
    insertEntry key (f value) (mapEntries f entries) =
      mapEntries f (insertEntry key value entries) := by
  induction entries with
  | nil => rfl
  | cons head rest ih =>
    obtain ⟨k, v⟩ := head
    show insertEntry key (f value) ((k, f v) :: mapEntries f rest) = _
    rw [insertEntry, insertEntry, ih]
    split
    · rfl
    · split
      · rfl
      · rfl

theorem insert_map (f : α → β) (d : Dictionary α) (key : String) (value : α) :
    (d.map f).insert key (f value) = (d.insert key value).map f := by
  unfold insert map
  congr 1
  exact insertEntry_mapEntries f key value d.entries

theorem find?_map (f : α → β) (d : Dictionary α) (key : String) :
    (d.map f).find? key = (d.find? key).map f := by
  show (mapEntries f d.entries).lookup key = (d.entries.lookup key).map f
  induction d.entries with
  | nil => rfl
  | cons head rest ih =>
    obtain ⟨k, v⟩ := head
    show List.lookup key ((k, f v) :: mapEntries f rest) = _
    rw [List.lookup_cons, List.lookup_cons, ih]
    cases key == k <;> rfl

theorem ofList_map (f : α → β) (entries : List (String × α)) :
    ofList (mapEntries f entries) = (ofList entries).map f := by
  have hfold : ∀ d : Dictionary α,
      (mapEntries f entries).foldl (fun d e => d.insert e.1 e.2) (d.map f) =
        (entries.foldl (fun d e => d.insert e.1 e.2) d).map f := by
    induction entries with
    | nil => exact fun d => rfl
    | cons head rest ih =>
      intro d
      show (mapEntries f rest).foldl _ ((d.map f).insert head.1 (f head.2)) = _
      rw [insert_map, ih, List.foldl_cons]
  exact hfold empty

/-- The entry that was inserted is there. -/
theorem mem_insert_self (d : Dictionary α) (key : String) (value : α) :
    (key, value) ∈ (d.insert key value).entries := by
  have hmem : ∀ entries : List (String × α), (key, value) ∈ insertEntry key value entries := by
    intro entries
    induction entries with
    | nil => exact List.mem_singleton_self _
    | cons head rest ih =>
      rw [insertEntry]
      split
      · exact List.mem_cons_self
      · split
        · exact List.mem_cons_self
        · exact List.mem_cons_of_mem head ih
  exact hmem d.entries

/-- What holds of all entries and of a new one holds of all entries after the insertion. -/
theorem forall_mem_insert {P : String × α → Prop} {d : Dictionary α} {key : String} {value : α}
    (h : ∀ e ∈ d.entries, P e) (hnew : P (key, value)) : ∀ e ∈ (d.insert key value).entries, P e := by
  intro e he
  rcases mem_insertEntry he with rfl | he
  · exact hnew
  · exact h e he

theorem forall_mem_ofList {P : String × α → Prop} {entries : List (String × α)}
    (h : ∀ e ∈ entries, P e) : ∀ e ∈ (ofList entries).entries, P e := by
  have hfold : ∀ d : Dictionary α, (∀ e ∈ d.entries, P e) →
      ∀ e ∈ (entries.foldl (fun d e => d.insert e.1 e.2) d).entries, P e := by
    induction entries with
    | nil => exact fun d hd => hd
    | cons head rest ih =>
      intro d hd
      exact ih (fun e he => h e (List.mem_cons_of_mem head he)) _
        (forall_mem_insert hd (h head (List.mem_cons_self ..)))
  exact hfold empty nofun

end Dictionary

/-- The references of the members of an object. -/
def Refs.members : Refs (Dictionary Value) where
  placed p := Dictionary.map (Value.placed p)
  Within e members := (Refs.value.named).list.Within e members.entries
  mono h hmembers := (Refs.value.named).list.mono h hmembers
  fixed := by
    intro p e members h hmembers
    obtain ⟨entries, hsorted⟩ := members
    have hentries : Dictionary.mapEntries (Value.placed p) entries = entries :=
      (Refs.value.named).list.fixed h hmembers
    unfold Dictionary.map
    congr 1

theorem Refs.insert_placed (members : Dictionary Value) (key : String) (value : Value) :
    (Refs.members.placed p members).insert key (value.placed p) =
      Refs.members.placed p (members.insert key value) :=
  Dictionary.insert_map _ members key value

/-! ## Promises -/

/-- The references of a computation. -/
def Refs.work : Refs Work where
  placed p
    | .native id args => .native id (Refs.value.list.placed p args)
    | .content slot => .content slot
  Within e
    | .native _ args => Refs.value.list.Within e args
    | .content _ => True
  mono := by
    intro e e' work h hwork
    cases work with
    | native id args => exact Refs.value.list.mono h hwork
    | content slot => exact trivial
  fixed := by
    intro p e work h hwork
    cases work with
    | native id args => exact congrArg (Work.native id) (Refs.value.list.fixed h hwork)
    | content slot => rfl

/-- The references of a promise. -/
def Refs.state : Refs PromiseState where
  placed p
    | .pending work => .pending (Refs.work.placed p work)
    | .running => .running
    | .settled result => .settled (Refs.value.result.placed p result)
  Within e
    | .pending work => Refs.work.Within e work
    | .running => True
    | .settled result => Refs.value.result.Within e result
  mono := by
    intro e e' state h hstate
    cases state with
    | pending work => exact Refs.work.mono h hstate
    | running => exact trivial
    | settled result => exact Refs.value.result.mono h hstate
  fixed := by
    intro p e state h hstate
    cases state with
    | pending work => exact congrArg PromiseState.pending (Refs.work.fixed h hstate)
    | running => rfl
    | settled result => exact congrArg PromiseState.settled (Refs.value.result.fixed h hstate)

/-- Only slots and native functions that are known are referred to. -/
def Callable.Known (p : Placement) : Callable → Prop
  | .content slot => p.slot slot
  | .native id => p.native id
  | .nativeAsync id => p.native id
  | _ => True

/-- Only slots and native functions that are known are referred to. -/
def Work.Known (p : Placement) : Work → Prop
  | .native id _ => p.native id
  | .content slot => p.slot slot

/-- Only slots and native functions that are known are referred to. -/
def PromiseState.Known (p : Placement) : PromiseState → Prop
  | .pending work => work.Known p
  | _ => True

/-! ## Graphs -/

namespace Graph

/-- How much there is in a graph. -/
def extent (graph : Graph) : Extent :=
  ⟨graph.objects.size, graph.functions.size, graph.promises.size⟩

/-- Nothing in a graph refers to what is not there. -/
structure Closed (graph : Graph) : Prop where
  /-- The members of objects. -/
  objects : ∀ members ∈ graph.objects, Refs.members.Within graph.extent members
  /-- The states of promises. -/
  promises : ∀ state ∈ graph.promises, Refs.state.Within graph.extent state

/-- A closed graph stands in another one, and only known slots and native functions are referred
to. -/
structure Placed (p : Placement) (g h : Graph) : Prop where
  /-- The objects. -/
  objects : Stands p.object (Refs.members.placed p) g.objects h.objects
  /-- The functions, which are the same. -/
  functions : Stands p.function (fun callable => callable) g.functions h.functions
  /-- The promises. -/
  promises : Stands p.promise (Refs.state.placed p) g.promises h.promises
  /-- Nothing refers to what is not there. -/
  closed : g.Closed
  /-- What functions refer to. -/
  callable : ∀ callable ∈ g.functions, callable.Known p
  /-- What promises refer to. -/
  state : ∀ state ∈ g.promises, state.Known p

/-- Where nothing is placed, a graph is as before. -/
structure Beside (p : Placement) (h h' : Graph) : Prop where
  /-- The objects. -/
  objects : Kept p.object h.objects h'.objects
  /-- The functions. -/
  functions : Kept p.function h.functions h'.functions
  /-- The promises. -/
  promises : Kept p.promise h.promises h'.promises

theorem Beside.refl (p : Placement) (h : Graph) : Beside p h h :=
  ⟨.refl _ _, .refl _ _, .refl _ _⟩

theorem Beside.trans {h h' h'' : Graph} (hb : Beside p h h') (hb' : Beside p h' h'') :
    Beside p h h'' :=
  ⟨hb.objects.trans hb'.objects, hb.functions.trans hb'.functions, hb.promises.trans hb'.promises⟩

/-- A change of `g`, with a value, and the change of `h` that corresponds to it. -/
structure Changed (p : Placement) (r : Refs α) (g h : Graph) (x y : α × Graph) : Prop where
  /-- The values correspond. -/
  value : y.1 = r.placed p x.1
  /-- The value refers to what is there. -/
  within : r.Within x.2.extent x.1
  /-- The one graph still stands in the other. -/
  placed : x.2.Placed p y.2
  /-- Nothing else has changed. -/
  beside : Beside p h y.2
  /-- Nothing was taken away. -/
  grows : g.extent ≤ x.2.extent

variable {g h : Graph}

/-! ### Reading -/

namespace Closed

theorem members (hg : g.Closed) (id : ObjectId) : Refs.members.Within g.extent (g.members id) := by
  unfold Graph.members
  rcases hfind : g.objects[id.index]? with _ | members
  · exact nofun
  · exact hg.objects members (Array.mem_of_getElem? hfind)

theorem read (hg : g.Closed) (id : ObjectId) (key : String) : (g.read id key).Within g.extent := by
  unfold Graph.read Dictionary.find?
  rcases hfind : (g.members id).entries.lookup key with _ | value
  · exact trivial
  · obtain ⟨before, rest, hentries, -⟩ := List.lookup_eq_some_iff.1 hfind
    exact hg.members id (key, value) (by simp [hentries])

theorem memberOf (hg : g.Closed) {value : Value} (hvalue : value.Within g.extent) (key : String) :
    Refs.value.Within g.extent (((g.memberOf value key).toOption).getD .undefined) := by
  cases value with
  | object id => exact hg.read id key
  | array items =>
    unfold Graph.memberOf
    dsimp only
    split
    · exact trivial
    · rcases Decimal.index? key.toList with _ | i
      · exact trivial
      · rcases hitem : items[i]? with _ | item
        · simp only [Option.bind_some, hitem]
          exact trivial
        · simp only [Option.bind_some, hitem]
          exact Value.withinItems_iff.1 hvalue item (List.mem_of_getElem? hitem)
  | string s =>
    unfold Graph.memberOf
    dsimp only
    split
    · exact trivial
    · rcases (Decimal.index? key.toList).bind (s.toList[·]?) with _ | c <;> exact trivial
  | _ => exact trivial

theorem promise? (hg : g.Closed) {id : PromiseId} {state : PromiseState}
    (h : g.promise? id = some state) : Refs.state.Within g.extent state :=
  hg.promises state (Array.mem_of_getElem? h)

end Closed

namespace Placed

theorem members (hg : g.Placed p h) (id : ObjectId) :
    h.members (p.objectId id) = Refs.members.placed p (g.members id) := by
  unfold Graph.members Placement.objectId
  rw [hg.objects.getElem?]
  rcases g.objects[id.index]? with _ | members <;> rfl

theorem has (hg : g.Placed p h) (id : ObjectId) (key : String) :
    h.has (p.objectId id) key = g.has id key := by
  unfold Graph.has Dictionary.contains
  rw [hg.members, Refs.members, Dictionary.find?_map, Option.isSome_map]

theorem read (hg : g.Placed p h) (id : ObjectId) (key : String) :
    h.read (p.objectId id) key = (g.read id key).placed p := by
  unfold Graph.read
  rw [hg.members, Refs.members, Dictionary.find?_map]
  rcases (g.members id).find? key with _ | value <;> rfl

theorem memberOf (hg : g.Placed p h) (value : Value) (key : String) :
    h.memberOf (value.placed p) key = (g.memberOf value key).map (Value.placed p) := by
  cases value with
  | object id => exact congrArg Except.ok (hg.read id key)
  | array items =>
    simp only [Value.placed, Graph.memberOf, Value.placedItems_eq_map, List.length_map]
    split
    · rfl
    · refine congrArg Except.ok ?_
      rcases Decimal.index? key.toList with _ | i
      · rfl
      · rw [Option.bind_some, Option.bind_some, List.getElem?_map]
        rcases items[i]? with _ | item <;> rfl
  | string s =>
    simp only [Value.placed, Graph.memberOf]
    split
    · rfl
    · refine congrArg Except.ok ?_
      rcases (Decimal.index? key.toList).bind (s.toList[·]?) with _ | c <;> rfl
  | _ => rfl

theorem function? (hg : g.Placed p h) (id : FunctionId) :
    h.functions[(p.functionId id).index]? = g.functions[id.index]? :=
  (hg.functions.getElem? id.index).trans Option.map_id'

theorem promise? (hg : g.Placed p h) (id : PromiseId) :
    h.promise? (p.promiseId id) = (g.promise? id).map (Refs.state.placed p) :=
  hg.promises.getElem? id.index

end Placed

/-! ### Changes -/

namespace Placed

theorem write (hg : g.Placed p h) (id : ObjectId) (key : String) {value : Value}
    (hvalue : value.Within g.extent) :
    Changed p .free g h ((), g.write id key value)
      ((), h.write (p.objectId id) key (value.placed p)) := by
  have hextent : (g.write id key value).extent = g.extent := by
    simp [extent, Graph.write]
  refine ⟨rfl, trivial, ?_, ⟨.modify id.index _, .refl _ _, .refl _ _⟩,
    hextent ▸ Extent.le_refl _⟩
  refine { hg with objects := ?_, closed := ⟨?_, ?_⟩ }
  · exact hg.objects.modify p.object_injective id.index (·.insert key value)
      (·.insert key (value.placed p)) fun members => Refs.insert_placed members key value
  · rw [hextent]
    exact forall_mem_modify hg.closed.objects fun members hmembers =>
      Dictionary.forall_mem_insert hmembers hvalue
  · rw [hextent]
    exact hg.closed.promises

theorem newObject (hg : g.Placed p h) {members : Dictionary Value}
    (hmembers : Refs.members.Within g.extent members) :
    Changed p .object g h (g.newObject members)
      (h.newObject (Refs.members.placed p members)) := by
  have hgrows : g.extent ≤ (g.newObject members).2.extent :=
    ⟨by simp [extent, Graph.newObject], Nat.le_refl _, Nat.le_refl _⟩
  refine ⟨congrArg ObjectId.mk hg.objects.place_size.symm, ?_, ?_,
    ⟨.push hg.objects.place_size _, .refl _ _, .refl _ _⟩, hgrows⟩
  · simp [Refs.object, extent, Graph.newObject]
  · refine { hg with
      objects := hg.objects.push p.object_injective members
      closed := ⟨?_, fun state hstate => Refs.state.mono hgrows (hg.closed.promises state hstate)⟩ }
    exact forall_mem_push (fun other hother =>
      Refs.members.mono hgrows (hg.closed.objects other hother)) (Refs.members.mono hgrows hmembers)

theorem newFunction (hg : g.Placed p h) {callable : Callable} (hcallable : callable.Known p) :
    Changed p .function g h (g.newFunction callable) (h.newFunction callable) := by
  have hgrows : g.extent ≤ (g.newFunction callable).2.extent :=
    ⟨Nat.le_refl _, by simp [extent, Graph.newFunction], Nat.le_refl _⟩
  refine ⟨congrArg FunctionId.mk hg.functions.place_size.symm, ?_, ?_,
    ⟨.refl _ _, .push hg.functions.place_size _, .refl _ _⟩, hgrows⟩
  · simp [Refs.function, extent, Graph.newFunction]
  · exact { hg with
      functions := hg.functions.push p.function_injective callable
      closed := ⟨fun members hmembers => Refs.members.mono hgrows (hg.closed.objects _ hmembers),
        fun state hstate => Refs.state.mono hgrows (hg.closed.promises _ hstate)⟩
      callable := forall_mem_push hg.callable hcallable }

theorem newPromise (hg : g.Placed p h) {state : PromiseState} (hknown : state.Known p)
    (hstate : Refs.state.Within g.extent state) :
    Changed p .promise g h (g.newPromise state) (h.newPromise (Refs.state.placed p state)) := by
  have hgrows : g.extent ≤ (g.newPromise state).2.extent :=
    ⟨Nat.le_refl _, Nat.le_refl _, by simp [extent, Graph.newPromise]⟩
  refine ⟨congrArg PromiseId.mk hg.promises.place_size.symm, ?_, ?_,
    ⟨.refl _ _, .refl _ _, .push hg.promises.place_size _⟩, hgrows⟩
  · simp [Refs.promise, extent, Graph.newPromise]
  · refine { hg with
      promises := hg.promises.push p.promise_injective state
      closed := ⟨fun members hmembers => Refs.members.mono hgrows (hg.closed.objects _ hmembers), ?_⟩
      state := forall_mem_push hg.state hknown }
    exact forall_mem_push (fun other hother =>
      Refs.state.mono hgrows (hg.closed.promises other hother)) (Refs.state.mono hgrows hstate)

theorem setPromise (hg : g.Placed p h) (id : PromiseId) {state : PromiseState}
    (hknown : state.Known p) (hstate : Refs.state.Within g.extent state) :
    Changed p .free g h ((), g.setPromise id state)
      ((), h.setPromise (p.promiseId id) (Refs.state.placed p state)) := by
  have hextent : (g.setPromise id state).extent = g.extent := by
    simp [extent, Graph.setPromise]
  refine ⟨rfl, trivial, ?_, ⟨.refl _ _, .refl _ _, .modify id.index _⟩,
    hextent ▸ Extent.le_refl _⟩
  refine { hg with promises := ?_, closed := ⟨?_, ?_⟩, state := ?_ }
  · exact hg.promises.modify p.promise_injective id.index (fun _ => state)
      (fun _ => Refs.state.placed p state) fun _ => rfl
  · rw [hextent]
    exact hg.closed.objects
  · rw [hextent]
    exact forall_mem_modify hg.closed.promises fun _ _ => hstate
  · exact forall_mem_modify hg.state fun _ _ => hknown

end Placed

/-- One change after another. -/
theorem Changed.trans {r : Refs α} {r' : Refs β} {x y : α × Graph} {x' y' : β × Graph}
    (hxy : Changed p r g h x y) (hnext : Changed p r' x.2 y.2 x' y') : Changed p r' g h x' y' :=
  ⟨hnext.value, hnext.within, hnext.placed, hxy.beside.trans hnext.beside,
    Extent.le_trans hxy.grows hnext.grows⟩

/-- New functions that are members of an object. -/
theorem Placed.addFunctions (hg : g.Placed p h) {callables : List (String × Callable)}
    (hcallables : ∀ named ∈ callables, named.2.Known p) {members : Dictionary Value}
    (hmembers : Refs.members.Within g.extent members) :
    Changed p .members g h (callables.foldl addFunction (members, g))
      (callables.foldl addFunction (Refs.members.placed p members, h)) := by
  induction callables generalizing members g h with
  | nil => exact ⟨rfl, hmembers, hg, .refl p h, Extent.le_refl _⟩
  | cons named rest ih =>
    have hnew := hg.newFunction (hcallables named (List.mem_cons_self ..))
    have hadd : addFunction (Refs.members.placed p members, h) named =
        (Refs.members.placed p (members.insert named.1 (.function (g.newFunction named.2).1)),
          (h.newFunction named.2).2) := by
      have hid : (h.newFunction named.2).1 = p.functionId (g.newFunction named.2).1 := hnew.value
      rw [← Refs.insert_placed, Value.placed, ← hid]
      rfl
    rw [List.foldl_cons, List.foldl_cons, hadd]
    refine hnew.trans (ih hnew.placed (fun other hother =>
      hcallables other (List.mem_cons_of_mem named hother)) ?_)
    exact Dictionary.forall_mem_insert (Refs.members.mono hnew.grows hmembers) hnew.within

theorem Placed.newLibrary (hg : g.Placed p h) {callables : List (String × Callable)}
    (hcallables : ∀ named ∈ callables, named.2.Known p) :
    Changed p .object g h (g.newLibrary callables) (h.newLibrary callables) := by
  have hempty : Refs.members.Within g.extent .empty := nofun
  have hfold := hg.addFunctions hcallables hempty
  have hnew := hfold.placed.newObject hfold.within
  rw [← hfold.value] at hnew
  exact hfold.trans hnew

end Graph

end TemplateEngine
