import TemplateEngine.Proofs.Graph.Placed

/-!
# The JSON of placed graphs

The JSON of an object is found by going at most as deep as there are objects. Going deeper gives
nothing new (`Graph.objectJson?_eq_of_lt`): each further level at which some object gets its JSON
makes one more object have it, and there are only so many. So it makes no difference that a graph
stands in one with more objects (`Graph.Placed.toJson?`).
-/

namespace TemplateEngine

variable {p : Placement}

namespace Graph

/-! ## Going deeper -/

mutual

/-- What has a JSON keeps it if more objects have theirs. -/
theorem jsonOf_mono {object object' : ObjectId → Option Json}
    (h : ∀ id json, object id = some json → object' id = some json) :
    (value : Value) → ∀ json, jsonOf object value = some json → jsonOf object' value = some json
  | .undefined, _, hjson => hjson
  | .null, _, hjson => hjson
  | .bool _, _, hjson => hjson
  | .number _, _, hjson => hjson
  | .string _, _, hjson => hjson
  | .array items, json, hjson => by
    obtain ⟨values, hvalues, rfl⟩ := Option.map_eq_some_iff.1 hjson
    rw [jsonOf, jsonOfItems_mono h items values hvalues, Option.map_some]
  | .object id, json, hjson => h id json hjson
  | .function _, _, hjson => hjson
  | .promise _, _, hjson => hjson

theorem jsonOfItems_mono {object object' : ObjectId → Option Json}
    (h : ∀ id json, object id = some json → object' id = some json) :
    (items : List Value) → ∀ values, jsonOfItems object items = some values →
      jsonOfItems object' items = some values
  | [], _, hvalues => hvalues
  | item :: rest, values, hvalues => by
    obtain ⟨first, hfirst, hrest⟩ := Option.bind_eq_some_iff.1 hvalues
    obtain ⟨later, hlater, hsome⟩ := Option.bind_eq_some_iff.1 hrest
    rw [jsonOfItems, jsonOf_mono h item first hfirst, jsonOfItems_mono h rest later hlater]
    exact hsome

end

theorem jsonOfMembers_mono {object object' : ObjectId → Option Json}
    (h : ∀ id json, object id = some json → object' id = some json)
    (members : List (String × Value)) {entries : List (String × Json)}
    (hentries : jsonOfMembers object members = some entries) :
    jsonOfMembers object' members = some entries := by
  induction members generalizing entries with
  | nil => exact hentries
  | cons member rest ih =>
    obtain ⟨key, value⟩ := member
    rw [jsonOfMembers] at hentries ⊢
    by_cases homitted : isOmitted value
    · rw [if_pos homitted] at hentries ⊢
      exact ih hentries
    · rw [if_neg homitted] at hentries ⊢
      obtain ⟨first, hfirst, hrest⟩ := Option.bind_eq_some_iff.1 hentries
      obtain ⟨later, hlater, hsome⟩ := Option.bind_eq_some_iff.1 hrest
      rw [jsonOf_mono h value first hfirst, ih hlater]
      exact hsome

variable {g h : Graph}

theorem objectJson?_succ (depth : Nat) (id : ObjectId) {json : Json}
    (hjson : g.objectJson? depth id = some json) : g.objectJson? (depth + 1) id = some json := by
  induction depth generalizing id json with
  | zero => cases hjson
  | succ depth ih =>
    obtain ⟨entries, hentries, rfl⟩ := Option.map_eq_some_iff.1 hjson
    rw [objectJson?, jsonOfMembers_mono (fun id json => ih id) _ hentries, Option.map_some]

/-- The next level gives nothing new. -/
def Settled (g : Graph) (depth : Nat) : Prop := g.objectJson? (depth + 1) = g.objectJson? depth

theorem Settled.succ {depth : Nat} (hg : g.Settled depth) : g.Settled (depth + 1) := by
  funext id
  exact congrArg (fun object => (jsonOfMembers object (g.members id).entries).map Json.obj) hg

/-- Then no level gives anything new. -/
theorem Settled.add {depth : Nat} (hg : g.Settled depth) (more : Nat) :
    g.objectJson? (depth + more) = g.objectJson? depth := by
  induction more generalizing depth with
  | zero => rfl
  | succ more ih => rw [← Nat.succ_add_eq_add_succ, ih hg.succ, hg]

/-- The objects that have their JSON at a level. -/
def written (g : Graph) (depth : Nat) : Finset Nat :=
  {i ∈ Finset.range g.objects.size | (g.objectJson? depth ⟨i⟩).isSome}

theorem mem_written {depth i : Nat} :
    i ∈ g.written depth ↔ i < g.objects.size ∧ (g.objectJson? depth ⟨i⟩).isSome := by
  rw [written, Finset.mem_filter, Finset.mem_range]

theorem written_subset (g : Graph) (depth : Nat) : g.written depth ⊆ g.written (depth + 1) := by
  intro i hi
  obtain ⟨hsize, hsome⟩ := mem_written.1 hi
  obtain ⟨json, hjson⟩ := Option.isSome_iff_exists.1 hsome
  exact mem_written.2 ⟨hsize, Option.isSome_of_eq_some (objectJson?_succ depth ⟨i⟩ hjson)⟩

/-- If no object gets its JSON at the next level, then that level gives nothing new. A missing
object has had its JSON at the first level. -/
theorem settled_of_written {depth : Nat} (h : g.written (depth + 2) ⊆ g.written (depth + 1)) :
    g.Settled (depth + 1) := by
  funext id
  rcases hjson : g.objectJson? (depth + 1) id with _ | json
  · rcases hnext : g.objectJson? (depth + 2) id with _ | json
    · rfl
    by_cases hid : id.index < g.objects.size
    · have hmem := h (mem_written.2 ⟨hid, Option.isSome_of_eq_some hnext⟩)
      have hsome := (mem_written.1 hmem).2
      rw [hjson] at hsome
      cases hsome
    · have hmissing : g.members id = .empty := by
        unfold members
        rw [Array.getElem?_eq_none (Nat.le_of_not_lt hid), Option.getD_none]
      rw [objectJson?, hmissing] at hjson
      cases hjson
  · exact objectJson?_succ (depth + 1) id hjson

/-- Until nothing new is given, each level has more objects with their JSON than the one before. -/
theorem settled_or_card_written (g : Graph) (depth : Nat) :
    g.Settled (depth + 1) ∨ depth ≤ (g.written (depth + 1)).card := by
  induction depth with
  | zero => exact .inr (Nat.zero_le _)
  | succ depth ih =>
    rcases ih with hsettled | hcard
    · exact .inl hsettled.succ
    · by_cases hsubset : g.written (depth + 2) ⊆ g.written (depth + 1)
      · exact .inl (settled_of_written hsubset).succ
      · right
        have hlt : g.written (depth + 1) ⊂ g.written (depth + 2) :=
          ⟨g.written_subset (depth + 1), hsubset⟩
        exact Nat.lt_of_le_of_lt hcard (Finset.card_lt_card hlt)

/-- Beyond the number of objects, no level gives anything new. -/
theorem settled_size (g : Graph) : g.Settled (g.objects.size + 1) := by
  rcases g.settled_or_card_written g.objects.size with hsettled | hcard
  · exact hsettled
  · -- All objects have their JSON.
    have hall : g.written (g.objects.size + 1) = Finset.range g.objects.size :=
      Finset.eq_of_subset_of_card_le (Finset.filter_subset _ _) (by rwa [Finset.card_range])
    refine settled_of_written ?_
    rw [hall]
    exact Finset.filter_subset _ _

/-- The JSON of an object does not depend on the depth, as long as that exceeds the number of
objects. -/
theorem objectJson?_eq_of_lt {depth : Nat} (h : g.objects.size < depth) :
    g.objectJson? depth = g.objectJson? (g.objects.size + 1) := by
  obtain ⟨more, rfl⟩ := Nat.exists_eq_add_of_le h
  exact g.settled_size.add more

/-! ## Placed graphs -/

mutual

/-- The JSON of a value that is placed, if its objects have the same. -/
theorem jsonOf_placed {object object' : ObjectId → Option Json}
    (h : ∀ id, object' (p.objectId id) = object id) :
    (value : Value) → jsonOf object' (value.placed p) = jsonOf object value
  | .undefined => rfl
  | .null => rfl
  | .bool _ => rfl
  | .number _ => rfl
  | .string _ => rfl
  | .array items => by rw [Value.placed, jsonOf, jsonOf, jsonOfItems_placed h items]
  | .object id => h id
  | .function _ => rfl
  | .promise _ => rfl

theorem jsonOfItems_placed {object object' : ObjectId → Option Json}
    (h : ∀ id, object' (p.objectId id) = object id) :
    (items : List Value) →
      jsonOfItems object' (Value.placedItems p items) = jsonOfItems object items
  | [] => rfl
  | item :: rest => by
    rw [Value.placedItems, jsonOfItems, jsonOfItems, jsonOf_placed h item, jsonOfItems_placed h rest]

end

theorem isOmitted_placed (value : Value) : isOmitted (value.placed p) = isOmitted value := by
  cases value <;> rfl

theorem jsonOfMembers_placed {object object' : ObjectId → Option Json}
    (h : ∀ id, object' (p.objectId id) = object id) (members : List (String × Value)) :
    jsonOfMembers object' (Dictionary.mapEntries (Value.placed p) members) =
      jsonOfMembers object members := by
  induction members with
  | nil => rfl
  | cons member rest ih =>
    obtain ⟨key, value⟩ := member
    show jsonOfMembers object' ((key, value.placed p) :: Dictionary.mapEntries _ rest) = _
    rw [jsonOfMembers, jsonOfMembers, isOmitted_placed, ih, jsonOf_placed h]

theorem Placed.objectJson? (hg : g.Placed p h) (depth : Nat) (id : ObjectId) :
    h.objectJson? depth (p.objectId id) = g.objectJson? depth id := by
  induction depth generalizing id with
  | zero => rfl
  | succ depth ih =>
    rw [Graph.objectJson?, Graph.objectJson?, hg.members]
    exact congrArg (Option.map Json.obj) (jsonOfMembers_placed ih _)

/-- A value has the same JSON where it is placed. -/
theorem Placed.toJson? (hg : g.Placed p h) (value : Value) :
    h.toJson? (value.placed p) = g.toJson? value := by
  have hsize := hg.objects.size_le p.object_injective
  refine jsonOf_placed (fun id => ?_) value
  rw [hg.objectJson?, objectJson?_eq_of_lt (Nat.lt_succ_of_le hsize)]

end Graph

end TemplateEngine
