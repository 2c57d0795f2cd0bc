import Mathlib.Data.Fintype.EquivFin
import Mathlib.Logic.Relation
import TemplateEngine.Expr.Eval
import TemplateEngine.Proofs.Graph.Json
import TemplateEngine.Proofs.Render.Operations
import TemplateEngine.RenderCommand

/-!
# Objects that hold themselves

The JSON of a value is written by a recursion through arrays and objects. Nothing bounds it, and
an assignment may put an object into itself.

* **`Graph.Writes`** is the recursion without a bound: one rule for each kind of value. The bound of
  `Graph.toJson?` takes nothing away from it (`Graph.toJson?_eq_some_iff`).
* **Ways** from object to object (`Graph.Points`): a member of the one holds the other, itself or in
  an array. An object holds itself if a way leads from it back to it.
* **Ends** (`Graph.exists_writes_iff`): there is a JSON value iff no object in reach holds itself.
  If there is one, then no way from there is endless; and as there are only so many objects, a way
  that never comes back to an object ends.
* **Assignments** (`Graph.acyclic_write_iff`): among objects that do not hold themselves, an
  assignment makes one that does iff the object that it changes is in reach of the value.
* **Data from JSON** (`Graph.acyclic_dataOfJson`): an object is made after those that it holds, so
  none holds itself.
-/

namespace TemplateEngine

/-- The value is the object, or an array with an item that holds it. -/
inductive Value.Holds : Value → ObjectId → Prop
  /-- The object. -/
  | object (id : ObjectId) : Holds (.object id) id
  /-- An array. -/
  | item {items : List Value} {item : Value} {id : ObjectId} (hmem : item ∈ items)
    (h : Holds item id) : Holds (.array items) id

namespace Graph

variable {g : Graph} {id : ObjectId}

/-! ## The recursion without a bound -/

mutual

/-- A value is written as JSON. -/
inductive Writes (g : Graph) : Value → Json → Prop
  /-- A missing value. -/
  | undefined : Writes g .undefined .null
  /-- A missing value. -/
  | null : Writes g .null .null
  /-- A truth value. -/
  | bool (b : Bool) : Writes g (.bool b) (.bool b)
  /-- A number. -/
  | number (x : Float) : Writes g (.number x) (numberJson x)
  /-- A text. -/
  | string (s : String) : Writes g (.string s) (.str s)
  /-- An array, item by item. -/
  | array {items : List Value} {values : List Json} (h : WritesItems g items values) :
    Writes g (.array items) (.arr values)
  /-- An object, member by member. -/
  | object {id : ObjectId} {entries : List (String × Json)}
    (h : WritesMembers g (g.members id).entries entries) : Writes g (.object id) (.obj entries)
  /-- A function. -/
  | function (id : FunctionId) : Writes g (.function id) .null
  /-- A promise. -/
  | promise (id : PromiseId) : Writes g (.promise id) .null

/-- Values are written as JSON. -/
inductive WritesItems (g : Graph) : List Value → List Json → Prop
  /-- No values. -/
  | nil : WritesItems g [] []
  /-- A value, and more. -/
  | cons {item : Value} {rest : List Value} {json : Json} {later : List Json}
    (h : Writes g item json) (hrest : WritesItems g rest later) :
    WritesItems g (item :: rest) (json :: later)

/-- Members are written as JSON entries. -/
inductive WritesMembers (g : Graph) : List (String × Value) → List (String × Json) → Prop
  /-- No members. -/
  | nil : WritesMembers g [] []
  /-- A member that is left out, and more. -/
  | omitted {key : String} {value : Value} {rest : List (String × Value)}
    {later : List (String × Json)} (homitted : isOmitted value = true)
    (hrest : WritesMembers g rest later) : WritesMembers g ((key, value) :: rest) later
  /-- A member, and more. -/
  | cons {key : String} {value : Value} {rest : List (String × Value)} {json : Json}
    {later : List (String × Json)} (hkept : isOmitted value = false) (h : Writes g value json)
    (hrest : WritesMembers g rest later) :
    WritesMembers g ((key, value) :: rest) ((key, json) :: later)

end

/-! ### The bound takes nothing away -/

variable {object : ObjectId → Option Json}

mutual

theorem writes_of_jsonOf (h : ∀ id json, object id = some json → g.Writes (.object id) json) :
    (value : Value) → ∀ json, jsonOf object value = some json → g.Writes value json
  | .undefined, _, hjson => Option.some.inj hjson ▸ .undefined
  | .null, _, hjson => Option.some.inj hjson ▸ .null
  | .bool b, _, hjson => Option.some.inj hjson ▸ .bool b
  | .number x, _, hjson => Option.some.inj hjson ▸ .number x
  | .string s, _, hjson => Option.some.inj hjson ▸ .string s
  | .array items, json, hjson => by
    obtain ⟨values, hvalues, rfl⟩ := Option.map_eq_some_iff.1 hjson
    exact .array (writesItems_of_jsonOf h items values hvalues)
  | .object id, json, hjson => h id json hjson
  | .function id, _, hjson => Option.some.inj hjson ▸ .function id
  | .promise id, _, hjson => Option.some.inj hjson ▸ .promise id

theorem writesItems_of_jsonOf
    (h : ∀ id json, object id = some json → g.Writes (.object id) json) :
    (items : List Value) → ∀ values, jsonOfItems object items = some values →
      g.WritesItems items values
  | [], _, hvalues => Option.some.inj hvalues ▸ .nil
  | item :: rest, values, hvalues => by
    obtain ⟨first, hfirst, hrest⟩ := Option.bind_eq_some_iff.1 hvalues
    obtain ⟨later, hlater, hsome⟩ := Option.bind_eq_some_iff.1 hrest
    cases hsome
    exact .cons (writes_of_jsonOf h item first hfirst) (writesItems_of_jsonOf h rest later hlater)

end

theorem writesMembers_of_jsonOf
    (h : ∀ id json, object id = some json → g.Writes (.object id) json)
    (members : List (String × Value)) {entries : List (String × Json)}
    (hentries : jsonOfMembers object members = some entries) : g.WritesMembers members entries := by
  induction members generalizing entries with
  | nil =>
    cases hentries
    exact .nil
  | cons member rest ih =>
    obtain ⟨key, value⟩ := member
    rw [jsonOfMembers] at hentries
    by_cases homitted : isOmitted value
    · rw [if_pos homitted] at hentries
      exact .omitted homitted (ih hentries)
    · rw [if_neg homitted] at hentries
      obtain ⟨first, hfirst, hrest⟩ := Option.bind_eq_some_iff.1 hentries
      obtain ⟨later, hlater, hsome⟩ := Option.bind_eq_some_iff.1 hrest
      cases hsome
      exact .cons (Bool.eq_false_iff.2 homitted) (writes_of_jsonOf h value first hfirst)
        (ih hlater)

theorem writes_of_objectJson? (depth : Nat) (id : ObjectId) {json : Json}
    (hjson : g.objectJson? depth id = some json) : g.Writes (.object id) json := by
  induction depth generalizing id json with
  | zero => cases hjson
  | succ depth ih =>
    obtain ⟨entries, hentries, rfl⟩ := Option.map_eq_some_iff.1 hjson
    exact .object (writesMembers_of_jsonOf (fun id json => ih id) _ hentries)

mutual

/-- No level is missing at the bound, since the next one gives nothing new. -/
theorem Writes.jsonOf {value : Value} {json : Json} : g.Writes value json →
    jsonOf (g.objectJson? (g.objects.size + 1)) value = some json
  | .undefined => rfl
  | .null => rfl
  | .bool _ => rfl
  | .number _ => rfl
  | .string _ => rfl
  | .array h => by rw [Graph.jsonOf, h.jsonOfItems, Option.map_some]
  | .object h => by
    rw [Graph.jsonOf, ← g.settled_size, objectJson?, h.jsonOfMembers, Option.map_some]
  | .function _ => rfl
  | .promise _ => rfl

theorem WritesItems.jsonOfItems {items : List Value} {values : List Json} :
    g.WritesItems items values →
      jsonOfItems (g.objectJson? (g.objects.size + 1)) items = some values
  | .nil => rfl
  | .cons h hrest => by
    rw [Graph.jsonOfItems, h.jsonOf, hrest.jsonOfItems]
    rfl

theorem WritesMembers.jsonOfMembers {members : List (String × Value)}
    {entries : List (String × Json)} : g.WritesMembers members entries →
      jsonOfMembers (g.objectJson? (g.objects.size + 1)) members = some entries
  | .nil => rfl
  | .omitted homitted hrest => by
    rw [Graph.jsonOfMembers, if_pos homitted, hrest.jsonOfMembers]
  | .cons hkept h hrest => by
    rw [Graph.jsonOfMembers, if_neg (Bool.eq_false_iff.1 hkept), h.jsonOf, hrest.jsonOfMembers]
    rfl

end

/-- The JSON of a value is what the recursion without a bound writes. -/
theorem toJson?_eq_some_iff {value : Value} {json : Json} :
    g.toJson? value = some json ↔ g.Writes value json :=
  ⟨writes_of_jsonOf (fun id _ => writes_of_objectJson? _ id) value json, Writes.jsonOf⟩

/-! ## Ways from object to object -/

/-- A member of the one object holds the other one. -/
def Points (g : Graph) (a b : ObjectId) : Prop :=
  ∃ member ∈ (g.members a).entries, member.2.Holds b

/-- A way leads from a value to an object. -/
def InReach (g : Graph) (value : Value) (id : ObjectId) : Prop :=
  ∃ first, value.Holds first ∧ Relation.ReflTransGen g.Points first id

/-- A way leads from an object back to it. -/
def HoldsItself (g : Graph) (id : ObjectId) : Prop := Relation.TransGen g.Points id id

/-- No way that leads on from an object is endless. -/
def Ending (g : Graph) (id : ObjectId) : Prop := Acc (fun b a => g.Points a b) id

theorem not_holds_of_isOmitted {value : Value} (h : isOmitted value = true) : ¬value.Holds id := by
  intro hholds
  cases hholds with
  | object => cases h
  | item => cases h

/-- A missing object points nowhere. -/
theorem not_points_of_le {a b : ObjectId} (h : g.objects.size ≤ a.index) : ¬g.Points a b := by
  rintro ⟨member, hmem, -⟩
  rw [members, Array.getElem?_eq_none h] at hmem
  cases hmem

theorem Ending.of_reach {a b : ObjectId} (h : g.Ending a)
    (hreach : Relation.ReflTransGen g.Points a b) : g.Ending b := by
  induction hreach with
  | refl => exact h
  | tail _ hpoints ih => exact ih.inv hpoints

theorem Ending.not_holdsItself (h : g.Ending id) : ¬g.HoldsItself id := by
  induction h with
  | intro a _ ih =>
    intro hself
    -- The first step of the way back is an object that holds itself too.
    obtain ⟨b, hfirst, hback⟩ := Relation.TransGen.head'_iff.1 hself
    exact ih b hfirst (.tail' hback hfirst)

/-- If no object in reach holds itself, no way is endless: there are only so many objects. -/
theorem ending_of_acyclic {value : Value} (h : ∀ id, g.InReach value id → ¬g.HoldsItself id)
    (hid : g.InReach value id) : g.Ending id := by
  -- Objects that are there, ordered by the ways between them.
  let Reached := { a : ObjectId // g.InReach value a ∧ a.index < g.objects.size }
  let behind : Reached → Reached → Prop := fun b a => Relation.TransGen g.Points a.1 b.1
  have hfinite : Finite Reached :=
    Finite.of_injective (fun a : Reached => (⟨a.1.index, a.2.2⟩ : Fin g.objects.size))
      fun a b hab => Subtype.ext (congrArg ObjectId.mk (Fin.mk.inj hab))
  have htrans : IsTrans Reached behind := ⟨fun _ _ _ hba hcb => hcb.trans hba⟩
  have hirrefl : Std.Irrefl behind := ⟨fun a => h a.1 a.2.1⟩
  have hwf : WellFounded behind := Finite.wellFounded_of_trans_of_irrefl behind
  have hthere : ∀ a : Reached, g.Ending a.1 := by
    intro a
    induction a using hwf.induction with
    | _ a ih =>
      refine Acc.intro _ fun b hpoints => ?_
      obtain ⟨first, hfirst, hway⟩ := a.2.1
      by_cases hb : b.index < g.objects.size
      · exact ih ⟨b, ⟨first, hfirst, hway.tail hpoints⟩, hb⟩ (.single hpoints)
      · exact Acc.intro _ fun c hc => absurd hc (not_points_of_le (Nat.le_of_not_lt hb))
  by_cases hsize : id.index < g.objects.size
  · exact hthere ⟨id, hid, hsize⟩
  · exact Acc.intro _ fun c hc => absurd hc (not_points_of_le (Nat.le_of_not_lt hsize))

/-! ## Ends -/

mutual

/-- What is written has no endless way from it. -/
theorem Writes.ending {value : Value} {json : Json} : g.Writes value json →
    ∀ id, value.Holds id → g.Ending id
  | .array h, id, .item hmem hholds => h.ending _ hmem id hholds
  | .object h, _, .object _ => Acc.intro _ fun b ⟨_, hmem, hholds⟩ => h.ending _ hmem b hholds

theorem WritesItems.ending {items : List Value} {values : List Json} :
    g.WritesItems items values → ∀ item ∈ items, ∀ id, item.Holds id → g.Ending id
  | .cons h hrest, item, hmem, id, hholds => by
    rcases List.mem_cons.1 hmem with rfl | hmem
    · exact h.ending id hholds
    · exact hrest.ending item hmem id hholds

theorem WritesMembers.ending {members : List (String × Value)} {entries : List (String × Json)} :
    g.WritesMembers members entries →
      ∀ member ∈ members, ∀ id, member.2.Holds id → g.Ending id
  | .omitted homitted hrest, member, hmem, id, hholds => by
    rcases List.mem_cons.1 hmem with rfl | hmem
    · exact absurd hholds (not_holds_of_isOmitted homitted)
    · exact hrest.ending member hmem id hholds
  | .cons _ h hrest, member, hmem, id, hholds => by
    rcases List.mem_cons.1 hmem with rfl | hmem
    · exact h.ending id hholds
    · exact hrest.ending member hmem id hholds

end

mutual

/-- A value is written if the objects that it holds are. -/
theorem exists_writes_of_holds : (value : Value) →
    (∀ id, value.Holds id → ∃ json, g.Writes (.object id) json) → ∃ json, g.Writes value json
  | .undefined, _ => ⟨_, .undefined⟩
  | .null, _ => ⟨_, .null⟩
  | .bool b, _ => ⟨_, .bool b⟩
  | .number x, _ => ⟨_, .number x⟩
  | .string s, _ => ⟨_, .string s⟩
  | .array items, h => by
    obtain ⟨values, hvalues⟩ := exists_writesItems_of_holds items fun item hmem id hholds =>
      h id (.item hmem hholds)
    exact ⟨_, .array hvalues⟩
  | .object id, h => h id (.object id)
  | .function id, _ => ⟨_, .function id⟩
  | .promise id, _ => ⟨_, .promise id⟩

theorem exists_writesItems_of_holds : (items : List Value) →
    (∀ item ∈ items, ∀ id, item.Holds id → ∃ json, g.Writes (.object id) json) →
      ∃ values, g.WritesItems items values
  | [], _ => ⟨_, .nil⟩
  | item :: rest, h => by
    obtain ⟨hitem, hrest⟩ := List.forall_mem_cons.1 h
    obtain ⟨json, hjson⟩ := exists_writes_of_holds item hitem
    obtain ⟨values, hvalues⟩ := exists_writesItems_of_holds rest hrest
    exact ⟨_, .cons hjson hvalues⟩

end

theorem exists_writesMembers_of_holds (members : List (String × Value))
    (h : ∀ member ∈ members, ∀ id, member.2.Holds id → ∃ json, g.Writes (.object id) json) :
    ∃ entries, g.WritesMembers members entries := by
  induction members with
  | nil => exact ⟨_, .nil⟩
  | cons member rest ih =>
    obtain ⟨key, value⟩ := member
    obtain ⟨hvalue, hrest⟩ := List.forall_mem_cons.1 h
    obtain ⟨later, hlater⟩ := ih hrest
    by_cases homitted : isOmitted value = true
    · exact ⟨later, .omitted homitted hlater⟩
    · obtain ⟨json, hjson⟩ := exists_writes_of_holds value hvalue
      exact ⟨_, .cons (Bool.eq_false_iff.2 homitted) hjson hlater⟩

theorem Ending.exists_writes (h : g.Ending id) : ∃ json, g.Writes (.object id) json := by
  induction h with
  | intro a _ ih =>
    obtain ⟨entries, hentries⟩ := exists_writesMembers_of_holds (g := g) (g.members a).entries
      fun member hmem id hholds => ih id ⟨member, hmem, hholds⟩
    exact ⟨_, .object hentries⟩

/-- A value is written iff no object in reach holds itself. -/
theorem exists_writes_iff {value : Value} :
    (∃ json, g.Writes value json) ↔ ∀ id, g.InReach value id → ¬g.HoldsItself id := by
  constructor
  · rintro ⟨json, hjson⟩ id ⟨first, hfirst, hreach⟩
    exact ((hjson.ending first hfirst).of_reach hreach).not_holdsItself
  · intro h
    exact exists_writes_of_holds value fun id hholds =>
      (ending_of_acyclic h ⟨id, hholds, .refl⟩).exists_writes

/-! ## Assignments -/

/-- No object holds itself. -/
def Acyclic (g : Graph) : Prop := ∀ id, ¬g.HoldsItself id

section Assignment

variable {key : String} {value : Value} {a b : ObjectId}

theorem members_write_of_ne (h : a ≠ id) : (g.write id key value).members a = g.members a := by
  have hindex : id.index ≠ a.index := fun hindex => h (congrArg ObjectId.mk hindex).symm
  unfold members write
  rw [Array.getElem?_modify, if_neg hindex]

theorem members_write_self (h : id.index < g.objects.size) :
    (g.write id key value).members id = (g.members id).insert key value := by
  unfold members write
  rw [Array.getElem?_modify, if_pos rfl, Array.getElem?_eq_getElem h]
  rfl

theorem points_write_of_ne (h : a ≠ id) : (g.write id key value).Points a b ↔ g.Points a b := by
  unfold Points
  rw [members_write_of_ne h]

/-- The object that was changed points to what the value holds. -/
theorem points_write_self (hid : id.index < g.objects.size) (h : value.Holds b) :
    (g.write id key value).Points id b := by
  refine ⟨(key, value), ?_, h⟩
  rw [members_write_self hid]
  exact Dictionary.mem_insert_self _ key value

/-- An object points to what it pointed to before, or it is the one that was changed. -/
theorem points_of_write (h : (g.write id key value).Points a b) :
    g.Points a b ∨ a = id ∧ value.Holds b := by
  by_cases ha : a = id
  · subst ha
    obtain ⟨member, hmem, hholds⟩ := h
    by_cases hid : a.index < g.objects.size
    · rw [members_write_self hid] at hmem
      rcases mem_insertEntry hmem with rfl | hmem
      · exact .inr ⟨rfl, hholds⟩
      · exact .inl ⟨member, hmem, hholds⟩
    · rw [members, Array.getElem?_eq_none] at hmem
      · cases hmem
      · exact (Array.size_modify).trans_le (Nat.le_of_not_lt hid)
  · exact .inl ((points_write_of_ne ha).1 h)

/-- A way to an object need not go on from it. -/
theorem reach_avoiding {a b : ObjectId} (h : Relation.ReflTransGen g.Points a b) :
    Relation.ReflTransGen (fun x y => x ≠ b ∧ g.Points x y) a b := by
  induction h using Relation.ReflTransGen.head_induction_on with
  | refl => exact .refl
  | @head a _ hpoints _ ih =>
    by_cases ha : a = b
    · exact ha ▸ .refl
    · exact ih.head ⟨ha, hpoints⟩

/-- A way after an assignment is one from before, or it goes through the object that was changed
and the value. -/
theorem way_of_write (h : Relation.TransGen (g.write id key value).Points a b) :
    Relation.TransGen g.Points a b ∨
      ∃ first, value.Holds first ∧ Relation.ReflTransGen (g.write id key value).Points a id ∧
        Relation.ReflTransGen (g.write id key value).Points first b := by
  induction h with
  | single hpoints =>
    rcases points_of_write hpoints with hpoints | ⟨rfl, hholds⟩
    · exact .inl (.single hpoints)
    · exact .inr ⟨_, hholds, .refl, .refl⟩
  | tail hway hpoints ih =>
    rcases ih with hold | ⟨first, hfirst, hto, hfrom⟩
    · rcases points_of_write hpoints with hpoints | ⟨rfl, hholds⟩
      · exact .inl (hold.tail hpoints)
      · exact .inr ⟨_, hholds, hway.to_reflTransGen, .refl⟩
    · exact .inr ⟨first, hfirst, hto, hfrom.tail hpoints⟩

/-- What is in reach of a value after an assignment of it was in reach before, unless the object
that is changed was. -/
theorem inReach_of_write (hreach : ¬g.InReach value id) (hb : g.InReach value a)
    (h : Relation.ReflTransGen (g.write id key value).Points a b) : g.InReach value b := by
  induction h with
  | refl => exact hb
  | tail _ hpoints ih =>
    obtain ⟨first, hfirst, hway⟩ := ih
    rcases points_of_write hpoints with hpoints | ⟨rfl, -⟩
    · exact ⟨first, hfirst, hway.tail hpoints⟩
    · exact absurd ⟨first, hfirst, hway⟩ hreach

/-- An assignment makes an object hold itself iff the object that it changes is in reach of the
value. -/
theorem acyclic_write_iff (h : g.Acyclic) (hid : id.index < g.objects.size) :
    (g.write id key value).Acyclic ↔ ¬g.InReach value id := by
  constructor
  · rintro hacyclic ⟨first, hfirst, hway⟩
    have hway' : Relation.ReflTransGen (g.write id key value).Points first id :=
      Relation.ReflTransGen.mono (fun _ _ ⟨hx, hpoints⟩ => (points_write_of_ne hx).2 hpoints) _ _
        (reach_avoiding hway)
    exact hacyclic id (.head' (points_write_self hid hfirst) hway')
  · intro hreach a hself
    rcases way_of_write hself with hold | ⟨first, hfirst, hto, hfrom⟩
    · exact h a hold
    · exact hreach (inReach_of_write hreach ⟨first, hfirst, .refl⟩ (hfrom.trans hto))

end Assignment

/-! ## Data from JSON -/

/-- Objects point to earlier ones. -/
def Descends (g : Graph) : Prop := ∀ a b, g.Points a b → b.index < a.index

theorem Descends.acyclic (h : g.Descends) : g.Acyclic := by
  have hlt : ∀ a b, Relation.TransGen g.Points a b → b.index < a.index := by
    intro a b hway
    induction hway with
    | single hpoints => exact h _ _ hpoints
    | tail _ hpoints ih => exact (h _ _ hpoints).trans ih
  exact fun id hself => Nat.lt_irrefl _ (hlt id id hself)

/-- A new object may hold all that are there. -/
theorem Descends.newObject (h : g.Descends) {members : Dictionary Value}
    (hmembers : ∀ member ∈ members.entries, ∀ id, member.2.Holds id → id.index < g.objects.size) :
    (g.newObject members).2.Descends := by
  rintro a b ⟨member, hmem, hholds⟩
  rw [Graph.members, Graph.newObject, Array.getElem?_push] at hmem
  split at hmem
  · next ha => exact ha ▸ hmembers member hmem b hholds
  · exact h a b ⟨member, hmem, hholds⟩

/-- What a graph is like after something was made from JSON that holds some objects. -/
structure Made (g : Graph) (held : ObjectId → Prop) (h : Graph) : Prop where
  /-- Objects point to earlier ones. -/
  descends : h.Descends
  /-- None is gone. -/
  size_le : g.objects.size ≤ h.objects.size
  /-- Those that are held are there. -/
  there : ∀ id, held id → id.index < h.objects.size

mutual

theorem made_ofJson {g : Graph} (hg : g.Descends) : (json : Json) →
    Made g (g.ofJson json).1.Holds (g.ofJson json).2
  | .null => ⟨hg, Nat.le_refl _, nofun⟩
  | .bool _ => ⟨hg, Nat.le_refl _, nofun⟩
  | .num _ => ⟨hg, Nat.le_refl _, nofun⟩
  | .str _ => ⟨hg, Nat.le_refl _, nofun⟩
  | .arr items => by
    have hitems := made_ofJsonItems hg items
    refine ⟨hitems.descends, hitems.size_le, ?_⟩
    rintro id (_ | ⟨hmem, hholds⟩)
    exact hitems.there id ⟨_, hmem, hholds⟩
  | .obj entries => by
    have hentries := made_ofJsonEntries hg .empty nofun entries
    refine ⟨hentries.descends.newObject fun member hmem id hholds =>
      hentries.there id ⟨member, hmem, hholds⟩, ?_, ?_⟩
    · exact hentries.size_le.trans (by simp [ofJson, Graph.newObject])
    · rintro id (_ | _)
      simp [ofJson, Graph.newObject]

theorem made_ofJsonItems {g : Graph} (hg : g.Descends) : (items : List Json) →
    Made g (fun id => ∃ item ∈ (g.ofJsonItems items).1, item.Holds id) (g.ofJsonItems items).2
  | [] => ⟨hg, Nat.le_refl _, fun _ ⟨_, hmem, _⟩ => nomatch hmem⟩
  | item :: rest => by
    have hitem := made_ofJson hg item
    have hrest := made_ofJsonItems hitem.descends rest
    refine ⟨hrest.descends, hitem.size_le.trans hrest.size_le, ?_⟩
    rintro id ⟨value, hmem, hholds⟩
    rcases List.mem_cons.1 hmem with rfl | hmem
    · exact (hitem.there id hholds).trans_le hrest.size_le
    · exact hrest.there id ⟨value, hmem, hholds⟩

theorem made_ofJsonEntries {g : Graph} (hg : g.Descends) (before : Dictionary Value)
    (hbefore : ∀ member ∈ before.entries, ∀ id, member.2.Holds id → id.index < g.objects.size) :
    (entries : List (String × Json)) →
      Made g (fun id => ∃ member ∈ (g.ofJsonEntries before entries).1.entries, member.2.Holds id)
        (g.ofJsonEntries before entries).2
  | [] => ⟨hg, Nat.le_refl _, fun id ⟨member, hmem, hholds⟩ => hbefore member hmem id hholds⟩
  | (key, json) :: rest => by
    have hjson := made_ofJson hg json
    have hmembers : ∀ member ∈ (before.insert key (g.ofJson json).1).entries,
        ∀ id, member.2.Holds id → id.index < (g.ofJson json).2.objects.size :=
      Dictionary.forall_mem_insert
        (fun member hmem id hholds => (hbefore member hmem id hholds).trans_le hjson.size_le)
        hjson.there
    have hrest := made_ofJsonEntries hjson.descends _ hmembers rest
    exact ⟨hrest.descends, hjson.size_le.trans hrest.size_le, hrest.there⟩

end

/-- In data from JSON no object holds itself. -/
theorem acyclic_dataOfJson (json : Json) : (empty.dataOfJson json).2.Acyclic := by
  have hempty : empty.Descends := by
    rintro a b ⟨member, hmem, -⟩
    cases hmem
  have hmade := made_ofJson hempty json
  unfold dataOfJson
  rcases hvalue : empty.ofJson json with ⟨value, graph⟩
  rw [hvalue] at hmade
  have hnone : ∀ member ∈ (Dictionary.empty : Dictionary Value).entries,
      ∀ id, member.2.Holds id → id.index < graph.objects.size :=
    fun _ hmem => absurd hmem List.not_mem_nil
  cases value with
  | object id => exact hmade.descends.acyclic
  | null => exact (hmade.descends.newObject hnone).acyclic
  | _ =>
    exact (hmade.descends.newObject (Dictionary.forall_mem_insert hnone hmade.there)).acyclic

end Graph

/-! ## Serializing -/

open Render

variable {σ : Type}

theorem exec_json (host : Host σ) (args : List Value) (s : Store σ) :
    exec (Callable.json.call host args) s =
      match s.graph.toJson? (firstArg args) with
      | some json => (.ok (.string json.render), s)
      | none => (.error .exhausted, s) := by
  unfold Callable.call
  rw [exec_bind, exec_withGraph]
  rcases s.graph.toJson? (firstArg args) with _ | json
  · rfl
  · rfl

/-- **Serializing.** The recursion that writes a value as JSON ends iff no object in reach of the
value holds itself. Where it ends, its result is the JSON of the value, and the function `json`
gives the text of it; where it does not, the function has no value either. In data from JSON no
object holds itself, and an assignment makes one do so iff it changes an object in reach of the
value. -/
theorem serializing_ends_iff (g : Graph) (value : Value) :
    ((∃ json, g.Writes value json) ↔ ∀ id, g.InReach value id → ¬g.HoldsItself id) ∧
    (∀ json, g.Writes value json → g.toJson? value = some json ∧
      ∀ (host : Host σ) (s : Store σ), s.graph = g →
        exec (Callable.json.call host [value]) s = (.ok (.string json.render), s)) ∧
    ((¬∃ json, g.Writes value json) → g.toJson? value = none ∧
      ∀ (host : Host σ) (s : Store σ), s.graph = g →
        exec (Callable.json.call host [value]) s = (.error .exhausted, s)) ∧
    (∀ json, (Graph.empty.dataOfJson json).2.Acyclic) ∧
    ∀ id key, g.Acyclic → id.index < g.objects.size →
      ((g.write id key value).Acyclic ↔ ¬g.InReach value id) := by
  have hjson : ∀ (host : Host σ) (s : Store σ), s.graph = g →
      exec (Callable.json.call host [value]) s =
        match g.toJson? value with
        | some json => (.ok (.string json.render), s)
        | none => (.error .exhausted, s) := by
    rintro host s rfl
    exact exec_json host [value] s
  refine ⟨Graph.exists_writes_iff, fun json hwrites => ?_, fun hnone => ?_,
    Graph.acyclic_dataOfJson, fun id key => Graph.acyclic_write_iff⟩
  · have hsome := Graph.toJson?_eq_some_iff.2 hwrites
    refine ⟨hsome, fun host s hs => ?_⟩
    rw [hjson host s hs, hsome]
  · have hmissing : g.toJson? value = none :=
      Option.eq_none_iff_forall_ne_some.2 fun json hsome =>
        hnone ⟨json, Graph.toJson?_eq_some_iff.1 hsome⟩
    refine ⟨hmissing, fun host s hs => ?_⟩
    rw [hjson host s hs, hmissing]

/-- After `$.self = $` the data has no JSON, and `json($)` has no value. -/
theorem no_json_of_self :
    let data := (Graph.empty.dataOfJson (.obj [])).1
    let library := (Graph.empty.dataOfJson (.obj [])).2.newLibrary standardCallables
    let s : Store Unit := { Store.fresh .nothing () with graph := library.2 }
    let scope : Scope := ⟨data, library.1, ⟨0⟩⟩
    let t := { s with graph := library.2.write data "self" (.object data) }
    exec (Expr.eval .none scope (.assign (.member .root "self" false) .root)) s =
      (.ok (.object data), t) ∧
    (¬∃ json, t.graph.Writes (.object data) json) ∧
    exec (Expr.eval .none scope (.call (.ident "json") [.root] false)) t =
      (.error .exhausted, t) := by
  intro data library s scope t
  have hself : t.graph.HoldsItself data :=
    .single (Graph.points_write_self (by decide) (.object data))
  refine ⟨rfl, fun hwrites => ?_, rfl⟩
  exact Graph.exists_writes_iff.1 hwrites data ⟨data, .object data, .refl⟩ hself

end TemplateEngine
