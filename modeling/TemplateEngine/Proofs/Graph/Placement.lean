import TemplateEngine.Builtins
import TemplateEngine.Expr.Operators

/-!
# Values at other places

A value graph may stand in a larger one, with its objects, functions and promises at other places.

* **`Placement`** says where things stand, and to what outside of itself the graph refers.
* **`Extent`** says how much there is in a graph. A value is within an extent if it refers only to
  what is there.
* **`Value.placed`** is a value whose references are changed to the places of what they refer to.
  **`Refs`** is the same for other types that hold references.
* Conversions and operators look at references at most to compare them, and different things have
  different places. So they do not notice the change (`Value.display_placed`,
  `Value.looseEquals_placed`, `BinaryOp.apply_placed` and others).
-/

namespace TemplateEngine

/-- Where the objects, functions and promises of a graph stand in another one, and what of the
slots and of the native functions the graph refers to. -/
structure Placement where
  /-- The places of objects. -/
  object : Nat → Nat
  /-- The places of functions. -/
  function : Nat → Nat
  /-- The places of promises. -/
  promise : Nat → Nat
  /-- Different objects have different places. -/
  object_injective : Function.Injective object
  /-- Different functions have different places. -/
  function_injective : Function.Injective function
  /-- Different promises have different places. -/
  promise_injective : Function.Injective promise
  /-- Slots whose content may be asked for. -/
  slot : SlotId → Prop
  /-- Native functions that may be called. -/
  native : NativeId → Prop

variable {p : Placement}

namespace Placement

/-- The place of an object. -/
def objectId (p : Placement) (id : ObjectId) : ObjectId := ⟨p.object id.index⟩

/-- The place of a function. -/
def functionId (p : Placement) (id : FunctionId) : FunctionId := ⟨p.function id.index⟩

/-- The place of a promise. -/
def promiseId (p : Placement) (id : PromiseId) : PromiseId := ⟨p.promise id.index⟩

theorem objectId_inj {a b : ObjectId} : p.objectId a = p.objectId b ↔ a = b := by
  obtain ⟨i⟩ := a
  obtain ⟨j⟩ := b
  simp [objectId, p.object_injective.eq_iff]

theorem functionId_inj {a b : FunctionId} : p.functionId a = p.functionId b ↔ a = b := by
  obtain ⟨i⟩ := a
  obtain ⟨j⟩ := b
  simp [functionId, p.function_injective.eq_iff]

end Placement

/-- How many objects, functions and promises there are. -/
structure Extent where
  /-- The objects. -/
  objects : Nat
  /-- The functions. -/
  functions : Nat
  /-- The promises. -/
  promises : Nat

namespace Extent

instance : LE Extent :=
  ⟨fun a b => a.objects ≤ b.objects ∧ a.functions ≤ b.functions ∧ a.promises ≤ b.promises⟩

theorem le_refl (e : Extent) : e ≤ e := ⟨Nat.le_refl _, Nat.le_refl _, Nat.le_refl _⟩

theorem le_trans {a b c : Extent} (h : a ≤ b) (h' : b ≤ c) : a ≤ c :=
  ⟨Nat.le_trans h.1 h'.1, Nat.le_trans h.2.1 h'.2.1, Nat.le_trans h.2.2 h'.2.2⟩

end Extent

/-- What is within an extent stays where it is. -/
structure Placement.Fixes (p : Placement) (e : Extent) : Prop where
  /-- Objects. -/
  object : ∀ i < e.objects, p.object i = i
  /-- Functions. -/
  function : ∀ i < e.functions, p.function i = i
  /-- Promises. -/
  promise : ∀ i < e.promises, p.promise i = i

theorem Placement.Fixes.mono {e e' : Extent} (he : e ≤ e') (h : p.Fixes e') : p.Fixes e where
  object i hi := h.object i (Nat.lt_of_lt_of_le hi he.1)
  function i hi := h.function i (Nat.lt_of_lt_of_le hi he.2.1)
  promise i hi := h.promise i (Nat.lt_of_lt_of_le hi he.2.2)

/-- How the values of a type refer to the things in a graph. -/
structure Refs (α : Type) where
  /-- The references changed to the places of what they refer to. -/
  placed : Placement → α → α
  /-- There are references only to what is there. -/
  Within : Extent → α → Prop
  /-- What is there stays there. -/
  mono : ∀ {e e' a}, e ≤ e' → Within e a → Within e' a
  /-- References to what stays where it is are not changed. -/
  fixed : ∀ {p e a}, p.Fixes e → Within e a → placed p a = a

namespace Refs

variable {α β : Type}

/-- There are no references. -/
def free : Refs α := ⟨fun _ a => a, fun _ _ => True, fun _ h => h, fun _ _ => rfl⟩

/-- The references of a value that may be missing. -/
def option (r : Refs α) : Refs (Option α) where
  placed p := Option.map (r.placed p)
  Within e chain := ∀ a, chain = some a → r.Within e a
  mono h ha a hsome := r.mono h (ha a hsome)
  fixed := by
    intro p e chain h ha
    cases chain with
    | none => rfl
    | some a => exact congrArg some (r.fixed h (ha a rfl))

/-- The references of several values. -/
def list (r : Refs α) : Refs (List α) where
  placed p := List.map (r.placed p)
  Within e items := ∀ a ∈ items, r.Within e a
  mono h ha a hmem := r.mono h (ha a hmem)
  fixed := by
    intro p e items h ha
    rw [List.map_congr_left fun a hmem => r.fixed h (ha a hmem), List.map_id']

/-- The references of a value with a name. -/
def named (r : Refs α) : Refs (String × α) where
  placed p e := (e.1, r.placed p e.2)
  Within e a := r.Within e a.2
  mono h ha := r.mono h ha
  fixed h ha := Prod.ext rfl (r.fixed h ha)

/-- The references of a result. -/
def result (r : Refs α) : Refs (Except Error α) where
  placed p := Except.map (r.placed p)
  Within e result := ∀ a, result = .ok a → r.Within e a
  mono h ha a hok := r.mono h (ha a hok)
  fixed := by
    intro p e result h ha
    cases result with
    | ok a => exact congrArg Except.ok (r.fixed h (ha a rfl))
    | error error => rfl

/-- The references of two values. -/
def pair (r : Refs α) (r' : Refs β) : Refs (α × β) where
  placed p a := (r.placed p a.1, r'.placed p a.2)
  Within e a := r.Within e a.1 ∧ r'.Within e a.2
  mono h ha := ⟨r.mono h ha.1, r'.mono h ha.2⟩
  fixed h ha := Prod.ext (r.fixed h ha.1) (r'.fixed h ha.2)

/-- A reference to an object. -/
def object : Refs ObjectId where
  placed p := p.objectId
  Within e id := id.index < e.objects
  mono h hid := Nat.lt_of_lt_of_le hid h.1
  fixed h hid := congrArg ObjectId.mk (h.object _ hid)

/-- A reference to a function. -/
def function : Refs FunctionId where
  placed p := p.functionId
  Within e id := id.index < e.functions
  mono h hid := Nat.lt_of_lt_of_le hid h.2.1
  fixed h hid := congrArg FunctionId.mk (h.function _ hid)

/-- A reference to a promise. -/
def promise : Refs PromiseId where
  placed p := p.promiseId
  Within e id := id.index < e.promises
  mono h hid := Nat.lt_of_lt_of_le hid h.2.2
  fixed h hid := congrArg PromiseId.mk (h.promise _ hid)

end Refs

/-! ## Values -/

namespace Value

mutual

/-- A value with its references changed to the places of what they refer to. -/
def placed (p : Placement) : Value → Value
  | .undefined => .undefined
  | .null => .null
  | .bool b => .bool b
  | .number x => .number x
  | .string s => .string s
  | .array items => .array (placedItems p items)
  | .object id => .object (p.objectId id)
  | .function id => .function (p.functionId id)
  | .promise id => .promise (p.promiseId id)

/-- The items of an array with their references changed. -/
def placedItems (p : Placement) : List Value → List Value
  | [] => []
  | item :: rest => placed p item :: placedItems p rest

end

mutual

/-- A value refers only to what is there. -/
def Within (e : Extent) : Value → Prop
  | .undefined => True
  | .null => True
  | .bool _ => True
  | .number _ => True
  | .string _ => True
  | .array items => WithinItems e items
  | .object id => Refs.object.Within e id
  | .function id => Refs.function.Within e id
  | .promise id => Refs.promise.Within e id

/-- The items of an array refer only to what is there. -/
def WithinItems (e : Extent) : List Value → Prop
  | [] => True
  | item :: rest => Within e item ∧ WithinItems e rest

end

theorem withinItems_iff {e : Extent} {items : List Value} :
    WithinItems e items ↔ ∀ item ∈ items, item.Within e := by
  induction items with
  | nil => exact ⟨nofun, fun _ => trivial⟩
  | cons item rest ih => rw [WithinItems, ih, List.forall_mem_cons]

mutual

theorem Within.mono {e e' : Extent} (h : e ≤ e') : {v : Value} → v.Within e → v.Within e'
  | .undefined, _ => trivial
  | .null, _ => trivial
  | .bool _, _ => trivial
  | .number _, _ => trivial
  | .string _, _ => trivial
  | .array _, hv => withinItems_mono h hv
  | .object _, hv => Refs.object.mono h hv
  | .function _, hv => Refs.function.mono h hv
  | .promise _, hv => Refs.promise.mono h hv

theorem withinItems_mono {e e' : Extent} (h : e ≤ e') :
    {items : List Value} → WithinItems e items → WithinItems e' items
  | [], _ => trivial
  | _ :: _, hitems => ⟨hitems.1.mono h, withinItems_mono h hitems.2⟩

end

mutual

theorem Within.placed_eq {e : Extent} (h : p.Fixes e) : {v : Value} → v.Within e → v.placed p = v
  | .undefined, _ => rfl
  | .null, _ => rfl
  | .bool _, _ => rfl
  | .number _, _ => rfl
  | .string _, _ => rfl
  | .array _, hv => congrArg Value.array (placedItems_eq h hv)
  | .object _, hv => congrArg Value.object (Refs.object.fixed h hv)
  | .function _, hv => congrArg Value.function (Refs.function.fixed h hv)
  | .promise _, hv => congrArg Value.promise (Refs.promise.fixed h hv)

theorem placedItems_eq {e : Extent} (h : p.Fixes e) :
    {items : List Value} → WithinItems e items → placedItems p items = items
  | [], _ => rfl
  | _ :: _, hitems => by rw [placedItems, hitems.1.placed_eq h, placedItems_eq h hitems.2]

end

theorem placedItems_eq_map (items : List Value) : placedItems p items = items.map (placed p) := by
  induction items with
  | nil => rfl
  | cons item rest ih => rw [placedItems, ih, List.map_cons]

@[simp] theorem isNullish_placed (v : Value) : (v.placed p).isNullish = v.isNullish := by
  cases v <;> rfl

@[simp] theorem truthy_placed (v : Value) : (v.placed p).truthy = v.truthy := by
  cases v <;> rfl

@[simp] theorem typeName_placed (v : Value) : (v.placed p).typeName = v.typeName := by
  cases v <;> rfl

@[simp] theorem toNumber_placed (v : Value) : (v.placed p).toNumber = v.toNumber := by
  cases v <;> rfl

@[simp] theorem isTextual_placed (v : Value) : (v.placed p).isTextual = v.isTextual := by
  cases v <;> rfl

mutual

@[simp] theorem display_placed : (v : Value) → (v.placed p).display = v.display
  | .undefined => rfl
  | .null => rfl
  | .bool _ => rfl
  | .number _ => rfl
  | .string _ => rfl
  | .array items => by rw [placed, display, display, displayItems_placed items]
  | .object _ => rfl
  | .function _ => rfl
  | .promise _ => rfl

theorem displayItems_placed : (items : List Value) →
    displayItems (placedItems p items) = displayItems items
  | [] => rfl
  | item :: rest => by
    rw [placedItems, displayItems, displayItems, isNullish_placed, display_placed item,
      displayItems_placed rest]

end

@[simp] theorem text_placed (v : Value) : (v.placed p).text = v.text := by
  unfold text
  rw [isNullish_placed, display_placed]

@[simp] theorem strictEquals_placed (v w : Value) :
    (v.placed p).strictEquals (w.placed p) = v.strictEquals w := by
  cases v with
  | object a =>
    cases w with
    | object b => simp [placed, strictEquals, BEq.beq, Placement.objectId_inj]
    | _ => rfl
  | function a =>
    cases w with
    | function b => simp [placed, strictEquals, BEq.beq, Placement.functionId_inj]
    | _ => rfl
  | _ => cases w <;> rfl

@[simp] theorem looseEquals_placed (v w : Value) :
    (v.placed p).looseEquals (w.placed p) = v.looseEquals w := by
  unfold looseEquals
  rw [isNullish_placed, isNullish_placed]
  split
  · rfl
  · have hstrict := strictEquals_placed (p := p) v w
    cases v <;> cases w <;> first | rfl | exact hstrict

@[simp] theorem compare_placed (v w : Value) : (v.placed p).compare (w.placed p) = v.compare w := by
  cases v <;> cases w <;> rfl

@[simp] theorem sum_placed (v w : Value) : (v.placed p).sum (w.placed p) = v.sum w := by
  simp [sum]

theorem firstArg_placed (values : List Value) :
    firstArg (values.map (placed p)) = (firstArg values).placed p := by
  cases values <;> rfl

end Value

/-- The references of a value. -/
def Refs.value : Refs Value :=
  ⟨Value.placed, Value.Within, fun h hv => hv.mono h, fun h hv => hv.placed_eq h⟩

/-- An operator with one operand gives a value without references. -/
theorem UnaryOp.apply_placed (op : UnaryOp) (v : Value) :
    op.apply (v.placed p) = (op.apply v).placed p := by
  cases op <;> simp [apply, Value.placed]

/-- So does an operator with two operands. -/
theorem BinaryOp.apply_placed (op : BinaryOp) (v w : Value) :
    op.apply (v.placed p) (w.placed p) = (op.apply v w).placed p := by
  have hsum : (v.sum w).placed p = v.sum w := by
    unfold Value.sum
    split <;> rfl
  cases op <;> simp [apply, Value.placed, hsum]

theorem UnaryOp.within_apply (op : UnaryOp) (v : Value) (e : Extent) : (op.apply v).Within e := by
  cases op <;> exact trivial

theorem BinaryOp.within_apply (op : BinaryOp) (v w : Value) (e : Extent) :
    (op.apply v w).Within e := by
  have hsum : (v.sum w).Within e := by
    unfold Value.sum
    split <;> exact trivial
  cases op <;> first | exact trivial | exact hsum

theorem LogicalOp.isDecided_placed (op : LogicalOp) (v : Value) :
    op.isDecided (v.placed p) = op.isDecided v := by
  cases op <;> simp [isDecided]

end TemplateEngine
