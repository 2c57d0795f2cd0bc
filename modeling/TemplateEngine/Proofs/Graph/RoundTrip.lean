import TemplateEngine.Proofs.Graph.Cycles
import TemplateEngine.Proofs.Graph.Prefix

/-!
# JSON in and out of the value graph

The objects of a request are made from JSON, and JSON is written from them.

* **`Json.Ordered`**, **`Json.numbers`**: a JSON value whose objects have their keys in order, and
  the numbers in it.
* **`Graph.writes_ofJson`**: what is made from JSON is written as that JSON, now and whatever is
  made later, if the numbers come back. The induction is on the JSON value; an object is written as
  the entries that its members were made from, which stand in the same order.
* **`Graph.Carries`**: an object stands behind those that it holds, and is written as some entries.
  A function at another key changes nothing of that, since it is left out.
* **`toJson?_dataOfJson`**: the data of a request comes back.
-/

namespace TemplateEngine

/-! ## JSON values -/

namespace Json

mutual

/-- The keys of every object increase. -/
def Ordered : Json → Prop
  | .arr items => OrderedItems items
  | .obj entries => SortedKeys entries ∧ OrderedEntries entries
  | _ => True

/-- The keys of every object in the items increase. -/
def OrderedItems : List Json → Prop
  | [] => True
  | item :: rest => Ordered item ∧ OrderedItems rest

/-- The keys of every object in the entries increase. -/
def OrderedEntries : List (String × Json) → Prop
  | [] => True
  | (_, json) :: rest => Ordered json ∧ OrderedEntries rest

end

mutual

/-- The numbers in a JSON value. -/
def numbers : Json → List Number
  | .num n => [n]
  | .arr items => numbersOfItems items
  | .obj entries => numbersOfEntries entries
  | _ => []

/-- The numbers in items. -/
def numbersOfItems : List Json → List Number
  | [] => []
  | item :: rest => numbers item ++ numbersOfItems rest

/-- The numbers in entries. -/
def numbersOfEntries : List (String × Json) → List Number
  | [] => []
  | (_, json) :: rest => numbers json ++ numbersOfEntries rest

end

/-- The entries of the data that is made from a JSON value: those of an object, none for `null`, and
otherwise the value itself. -/
def asData : Json → List (String × Json)
  | .obj entries => entries
  | .null => []
  | json => [("value", json)]

end Json

/-! ## Entries -/

section Entries

variable {α : Type}

/-- Behind smaller keys an entry is put at the end. -/
theorem insertEntry_of_forall_lt {key : String} {entries : List (String × α)} (value : α)
    (h : ∀ e ∈ entries, e.1 < key) : insertEntry key value entries = entries ++ [(key, value)] := by
  induction entries with
  | nil => rfl
  | cons head rest ih =>
    obtain ⟨k, v⟩ := head
    obtain ⟨hlt, hrest⟩ := List.forall_mem_cons.1 h
    rw [insertEntry, if_neg (String.lt_asymm hlt), if_neg (String.ne_of_lt hlt).symm, ih hrest,
      List.cons_append]

end Entries

namespace Graph

variable {g h : Graph} {members : List (String × Value)} {entries : List (String × Json)}

theorem WritesMembers.append {more : List (String × Value)} {later : List (String × Json)}
    (hmembers : g.WritesMembers members entries) (hmore : g.WritesMembers more later) :
    g.WritesMembers (members ++ more) (entries ++ later) := by
  induction members generalizing entries with
  | nil =>
    cases hmembers
    exact hmore
  | cons member rest ih =>
    cases hmembers with
    | omitted homitted hrest => exact .omitted homitted (ih hrest)
    | cons hkept h hrest => exact .cons hkept h (ih hrest)

/-- A value that is left out may be set at a key that no entry has. -/
theorem WritesMembers.insertEntry {key : String} {value : Value} (homitted : isOmitted value = true)
    (hmembers : g.WritesMembers members entries) (hkey : key ∉ entries.map Prod.fst) :
    g.WritesMembers (insertEntry key value members) entries := by
  induction members generalizing entries with
  | nil => exact .omitted homitted hmembers
  | cons member rest ih =>
    obtain ⟨k, v⟩ := member
    rw [TemplateEngine.insertEntry]
    split
    · exact .omitted homitted hmembers
    · cases hmembers with
      | omitted hv hrest =>
        split
        · exact .omitted homitted hrest
        · exact .omitted hv (ih hrest hkey)
      | cons hkept hv hrest =>
        rw [List.map_cons, List.mem_cons, not_or] at hkey
        rw [if_neg hkey.1]
        exact .cons hkept hv (ih hrest hkey.2)

/-! ## Values from JSON -/

theorem isOmitted_ofJson (g : Graph) (json : Json) : isOmitted (g.ofJson json).1 = false := by
  cases json <;> rfl

mutual

/-- What is there stays while values are made from JSON. -/
theorem isPrefix_ofJson {g : Graph} : (json : Json) → g.IsPrefix (g.ofJson json).2
  | .null => .refl g
  | .bool _ => .refl g
  | .num _ => .refl g
  | .str _ => .refl g
  | .arr items => isPrefix_ofJsonItems items
  | .obj entries => (isPrefix_ofJsonEntries .empty entries).newObject _

theorem isPrefix_ofJsonItems {g : Graph} : (items : List Json) →
    g.IsPrefix (g.ofJsonItems items).2
  | [] => .refl g
  | item :: rest => (isPrefix_ofJson item).trans (isPrefix_ofJsonItems rest)

theorem isPrefix_ofJsonEntries {g : Graph} (before : Dictionary Value) :
    (entries : List (String × Json)) → g.IsPrefix (g.ofJsonEntries before entries).2
  | [] => .refl g
  | (_, json) :: rest => (isPrefix_ofJson json).trans (isPrefix_ofJsonEntries _ rest)

end

/-- A number comes back from the double that it becomes. -/
def Returns (n : Json.Number) : Prop := numberJson n.toFloat = .num n

/-- The members of an object that was just made, whatever has been made since. -/
theorem members_of_isPrefix_newObject {made : Dictionary Value}
    (hmade : (g.newObject made).2.IsPrefix h) : h.members (g.newObject made).1 = made := by
  have hsize : g.objects.size < (g.objects.push made).size := by simp
  have hfound : h.objects[g.objects.size]? = (g.objects.push made)[g.objects.size]? :=
    getElem?_of_isPrefix hmade.objects hsize
  show h.objects[g.objects.size]?.getD .empty = made
  rw [hfound, Array.getElem?_push_size, Option.getD_some]

mutual

/-- What is made from JSON is written as that JSON, whatever has been made since. -/
theorem writes_ofJson {g : Graph} : (json : Json) → json.Ordered →
    (∀ n ∈ json.numbers, Returns n) → ∀ h, (g.ofJson json).2.IsPrefix h →
      h.Writes (g.ofJson json).1 json
  | .null, _, _, _, _ => .null
  | .bool b, _, _, _, _ => .bool b
  | .num n, _, hnumbers, h, _ => by
    have hwrites : h.Writes (.number n.toFloat) (numberJson n.toFloat) := .number n.toFloat
    rwa [hnumbers n (List.mem_singleton_self n)] at hwrites
  | .str s, _, _, _, _ => .string s
  | .arr items, hordered, hnumbers, h, hprefix =>
    .array (writesItems_ofJsonItems items hordered hnumbers h hprefix)
  | .obj entries, hordered, hnumbers, h, hprefix => by
    have hmembers := members_of_isPrefix_newObject hprefix
    refine .object (hmembers ▸ ?_)
    exact writesMembers_ofJsonEntries .empty [] entries hordered.1 nofun hordered.2 hnumbers
      (fun _ _ => .nil) h (((IsPrefix.refl _).newObject _).trans hprefix)

theorem writesItems_ofJsonItems {g : Graph} : (items : List Json) → Json.OrderedItems items →
    (∀ n ∈ Json.numbersOfItems items, Returns n) → ∀ h, (g.ofJsonItems items).2.IsPrefix h →
      h.WritesItems (g.ofJsonItems items).1 items
  | [], _, _, _, _ => .nil
  | item :: rest, hordered, hnumbers, h, hprefix => by
    obtain ⟨hitem, hrest⟩ := List.forall_mem_append.1 hnumbers
    exact .cons (writes_ofJson item hordered.1 hitem h ((isPrefix_ofJsonItems rest).trans hprefix))
      (writesItems_ofJsonItems rest hordered.2 hrest h hprefix)

theorem writesMembers_ofJsonEntries {g : Graph} (before : Dictionary Value)
    (written : List (String × Json)) : (entries : List (String × Json)) → SortedKeys entries →
    (∀ member ∈ before.entries, ∀ entry ∈ entries, member.1 < entry.1) →
    Json.OrderedEntries entries → (∀ n ∈ Json.numbersOfEntries entries, Returns n) →
    (∀ h, g.IsPrefix h → h.WritesMembers before.entries written) →
    ∀ h, (g.ofJsonEntries before entries).2.IsPrefix h →
      h.WritesMembers (g.ofJsonEntries before entries).1.entries (written ++ entries)
  | [], _, _, _, _, hbefore, h, hprefix => by
    rw [List.append_nil]
    exact hbefore h hprefix
  | (key, json) :: rest, hsorted, hlt, hordered, hnumbers, hbefore, h, hprefix => by
    obtain ⟨hkey, hsorted⟩ := List.pairwise_cons.1 hsorted
    obtain ⟨hjson, hrest⟩ := List.forall_mem_append.1 hnumbers
    have hfront : ∀ member ∈ before.entries, member.1 < key := fun member hmem =>
      hlt member hmem (key, json) List.mem_cons_self
    have hinsert : (before.insert key (g.ofJson json).1).entries =
        before.entries ++ [(key, (g.ofJson json).1)] := insertEntry_of_forall_lt _ hfront
    have hlater := writesMembers_ofJsonEntries (g := (g.ofJson json).2)
      (before.insert key (g.ofJson json).1) (written ++ [(key, json)]) rest hsorted ?_ hordered.2
      hrest ?_ h hprefix
    · rwa [List.append_assoc] at hlater
    · rw [hinsert]
      intro member hmem entry hentry
      rcases List.mem_append.1 hmem with hmem | hmem
      · exact hlt member hmem entry (List.mem_cons_of_mem _ hentry)
      · obtain rfl := List.mem_singleton.1 hmem
        exact hkey entry hentry
    · intro k hk
      rw [hinsert]
      exact (hbefore k ((isPrefix_ofJson json).trans hk)).append (.cons (isOmitted_ofJson g json)
        (writes_ofJson json hordered.1 hjson k hk) .nil)

end

/-! ## Data -/

/-- Sets a new function at a key of an object. -/
def setFunction (id : ObjectId) (graph : Graph) (named : String × Callable) : Graph :=
  let (function, graph) := graph.newFunction named.2
  graph.write id named.1 (.function function)

/-- An object that was made behind all that it holds, and what it is written as. -/
structure Carries (front g : Graph) (id : ObjectId) (entries : List (String × Json)) : Prop where
  /-- What stands in front of it is there. -/
  grown : front.IsPrefix g
  /-- It was made behind that. -/
  behind : front.objects.size ≤ id.index
  /-- It is there. -/
  there : id.index < g.objects.size
  /-- Its members hold what stands in front, and are written as the entries. -/
  written : ∀ h, front.IsPrefix h → h.WritesMembers (g.members id).entries entries

variable {front : Graph} {id : ObjectId}

theorem Carries.newObject (made : Dictionary Value)
    (hwritten : ∀ h, g.IsPrefix h → h.WritesMembers made.entries entries) :
    Carries g (g.newObject made).2 (g.newObject made).1 entries where
  grown := (IsPrefix.refl g).newObject made
  behind := Nat.le_refl _
  there := by simp [Graph.newObject]
  written h hprefix := by
    rw [members_of_isPrefix_newObject (.refl _)]
    exact hwritten h hprefix

/-- A function at a further key is left out. -/
theorem Carries.setFunction (hg : Carries front g id entries) {named : String × Callable}
    (hkey : named.1 ∉ entries.map Prod.fst) :
    Carries front (g.setFunction id named) id entries where
  grown := (hg.grown.newFunction named.2).write hg.behind _ _
  behind := hg.behind
  there := hg.there.trans_eq Array.size_modify.symm
  written h hprefix := by
    have hmembers : (g.setFunction id named).members id =
        (g.members id).insert named.1 (.function (g.newFunction named.2).1) :=
      members_write_self (g := (g.newFunction named.2).2) hg.there
    rw [hmembers]
    exact (hg.written h hprefix).insertEntry rfl hkey

theorem Carries.setFunctions {functions : List (String × Callable)}
    (hg : Carries front g id entries)
    (hkeys : ∀ named ∈ functions, named.1 ∉ entries.map Prod.fst) :
    Carries front (functions.foldl (Graph.setFunction id) g) id entries := by
  induction functions generalizing g with
  | nil => exact hg
  | cons named rest ih =>
    obtain ⟨hkey, hrest⟩ := List.forall_mem_cons.1 hkeys
    exact ih (hg.setFunction hkey) hrest

theorem Carries.toJson? (hg : Carries front g id entries) :
    g.toJson? (.object id) = some (.obj entries) :=
  toJson?_eq_some_iff.2 (.object (hg.written g hg.grown))

/-- The data from a JSON value is the object that is made last. -/
theorem carries_dataOfJson (g : Graph) {json : Json} (hordered : json.Ordered)
    (hnumbers : ∀ n ∈ json.numbers, Returns n) :
    ∃ front, Carries front (g.dataOfJson json).2 (g.dataOfJson json).1 json.asData := by
  have hwrites := writes_ofJson (g := g) json hordered hnumbers
  have hvalue : ∀ h, (g.ofJson json).2.IsPrefix h →
      h.WritesMembers [("value", (g.ofJson json).1)] [("value", json)] := fun h hprefix =>
    .cons (isOmitted_ofJson g json) (hwrites h hprefix) .nil
  cases json with
  | obj entries =>
    exact ⟨_, .newObject _ (writesMembers_ofJsonEntries .empty [] entries hordered.1 nofun
      hordered.2 hnumbers fun _ _ => .nil)⟩
  | null => exact ⟨_, .newObject .empty fun _ _ => .nil⟩
  | bool | num | str | arr =>
    exact ⟨_, .newObject (Dictionary.empty.insert "value" _) hvalue⟩

end Graph

open TemplateEngine.Graph

/-- An integer of at most 53 bits comes back if its double is that integer. -/
theorem returns_int {n : Int} (h : n.natAbs ≤ Nat.pow 2 53)
    (hexact : Decimal.integer? (Float.ofInt n) = some n) : Returns (.int n) := by
  have hfits : Decimal.fitsSigned n = true := by
    have hpow : (Nat.pow 2 63 : Int) = 9223372036854775808 := rfl
    have hbound : n.natAbs ≤ 9007199254740992 := h
    rw [Decimal.fitsSigned, hpow, Bool.and_eq_true_iff, decide_eq_true_iff, decide_eq_true_iff]
    omega
  unfold Returns numberJson
  rw [show Json.Number.toFloat (.int n) = Float.ofInt n from rfl, hexact]
  exact if_pos hfits

/-- **Data from JSON and back.** Given that integers of at most 53 bits are what their doubles are
read as, the JSON of the data from a JSON value is that value if it is an object. It is an empty
object for `null`, and otherwise an object with the value under `value`. Functions that are set at
further keys of the data change nothing. -/
theorem toJson?_dataOfJson (g : Graph) (json : Json) (hordered : json.Ordered)
    (hintegers : ∀ n ∈ json.numbers, ∃ i : Int, n = .int i ∧ i.natAbs ≤ Nat.pow 2 53)
    (hexact : ∀ i : Int, Json.Number.int i ∈ json.numbers → i.natAbs ≤ Nat.pow 2 53 →
      Decimal.integer? (Float.ofInt i) = some i)
    (functions : List (String × Callable))
    (hfurther : ∀ named ∈ functions, named.1 ∉ json.asData.map Prod.fst) :
    (functions.foldl (setFunction (g.dataOfJson json).1) (g.dataOfJson json).2).toJson?
      (.object (g.dataOfJson json).1) = some (.obj json.asData) := by
  have hnumbers : ∀ n ∈ json.numbers, Returns n := by
    intro n hn
    obtain ⟨i, rfl, hbound⟩ := hintegers n hn
    exact returns_int hbound (hexact i hn hbound)
  obtain ⟨front, hcarries⟩ := carries_dataOfJson g hordered hnumbers
  exact (hcarries.setFunctions hfurther).toJson?

/-- Empty and missing values within an object, which gets functions, and one of them twice. -/
theorem toJson?_dataOfJson_nested :
    let json : Json := .obj [("a", .arr [.null, .obj [], .arr [], .str "x"]),
      ("b", .obj [("c", .bool true), ("d", .null)])]
    let functions : List (String × Callable) :=
      [("f", .native 0), ("aa", .nativeAsync 1), ("f", .native 2)]
    (json.Ordered ∧ (∀ n ∈ json.numbers, ∃ i : Int, n = .int i ∧ i.natAbs ≤ Nat.pow 2 53) ∧
      (∀ i : Int, Json.Number.int i ∈ json.numbers → i.natAbs ≤ Nat.pow 2 53 →
        Decimal.integer? (Float.ofInt i) = some i) ∧
      ∀ named ∈ functions, named.1 ∉ json.asData.map Prod.fst) ∧
    (functions.foldl (setFunction (Graph.empty.dataOfJson json).1)
      (Graph.empty.dataOfJson json).2).toJson? (.object (Graph.empty.dataOfJson json).1) =
        some json := by
  intro json functions
  have hordered : json.Ordered := by
    simp only [json, Json.Ordered, Json.OrderedItems, Json.OrderedEntries, SortedKeys]
    decide
  have hintegers : ∀ n ∈ json.numbers, ∃ i : Int, n = .int i ∧ i.natAbs ≤ Nat.pow 2 53 := nofun
  have hexact : ∀ i : Int, Json.Number.int i ∈ json.numbers → i.natAbs ≤ Nat.pow 2 53 →
      Decimal.integer? (Float.ofInt i) = some i := nofun
  have hfurther : ∀ named ∈ functions, named.1 ∉ json.asData.map Prod.fst := by
    simp [functions, json, Json.asData]
  exact ⟨⟨hordered, hintegers, hexact, hfurther⟩,
    toJson?_dataOfJson .empty json hordered hintegers hexact functions hfurther⟩

end TemplateEngine
