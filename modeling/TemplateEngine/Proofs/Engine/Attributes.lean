import TemplateEngine.Proofs.Engine.Changes
import TemplateEngine.Proofs.Expr.Chains

/-!
# `Engine` · The attributes of an invocation

A template reads the plain attributes of the tag that invoked it through the function `attr`, which
searches their list, and through the object `attrs`, into which they were put one after the other.

* **`ServerTag.plain`**: the attributes that are left when a tag has been read as an invocation
  (`attributes_ofTag`).
* **`Graph.Offers`**: the function and the object stand for a list of attributes. Every change of the
  graph preserves this if it does not write to the object (`Graph.Offers.step`), and so do any
  number of them (`Graph.Offers.of_steps`). Nothing writes to the object of the names itself, which
  is no value.
* **`attr_agrees_iff`**: the function gives the first attribute with a name, and the object has the
  last one.
-/

namespace TemplateEngine

open Render TemplateEngine.Text TemplateEngine.Template

variable {σ : Type}

/-! ## Tags -/

/-- The plain attributes of a tag, in their order. -/
def Template.ServerTag.plain (tag : ServerTag) : List (String × String) :=
  tag.attributes.filter fun named => named.1.toList.head? != some '$'

namespace Invocation

variable {tag : String} {p p' : Parameters} {named : String × String}
  {attributes : List (String × String)}

/-- A name of a member of the data starts with a dollar sign. -/
theorem head?_of_dataName? {name member : String} (h : dataName? name = some member) :
    name.toList.head? = some '$' := by
  obtain ⟨rest, hrest, -⟩ := Option.map_eq_some_iff.1 h
  rw [← List.isPrefixOf?_eq_some_iff_append_eq.1 hrest]
  rfl

/-- A plain attribute is put behind those before, and any other leaves them as they are. -/
theorem plain_add (h : p.add tag named = .ok p') :
    p'.plain = p.plain ++ [named].filter fun named => named.1.toList.head? != some '$' := by
  obtain ⟨name, value⟩ := named
  unfold Parameters.add at h
  dsimp only at h
  split at h
  · next hpath =>
    cases h
    subst hpath
    simp
  · split at h
    · next hexpression =>
      cases h
      rcases hexpression with rfl | rfl <;> simp
    · split at h
      · next hmember =>
        cases h
        simp [head?_of_dataName? hmember]
      · split at h
        · cases h
        · next hplain =>
          cases h
          simp [hplain]

theorem plain_foldlM_add (h : attributes.foldlM (Parameters.add tag) p = .ok p') :
    p'.plain = p.plain ++ attributes.filter fun named => named.1.toList.head? != some '$' := by
  induction attributes generalizing p with
  | nil =>
    cases h
    exact (List.append_nil _).symm
  | cons named rest ih =>
    rw [List.foldlM_cons] at h
    cases hadd : p.add tag named with
    | error fault =>
      rw [hadd] at h
      cases h
    | ok middle =>
      rw [hadd] at h
      rw [ih h, plain_add hadd, List.append_assoc, ← List.filter_append]
      rfl

/-- An invocation has the plain attributes of its tag. -/
theorem attributes_ofTag {tag : ServerTag} {body : Option SlotId} {invocation : Invocation}
    (h : ofTag tag body = .ok invocation) : invocation.attributes = tag.plain := by
  unfold ofTag at h
  split at h
  · cases h
  · cases hread : tag.attributes.foldlM (Parameters.add tag.name) ⟨none, [], [], []⟩ with
    | error fault =>
      rw [hread] at h
      cases h
    | ok p =>
      rw [hread] at h
      dsimp only [bind, Except.bind] at h
      split at h
      · split at h
        · cases h
        · cases h
          exact plain_foldlM_add hread
      · cases h

end Invocation

/-! ## First and last attributes -/

/-- The value of an attribute that a list may lack. -/
def textOrUndefined (text? : Option String) : Value := (text?.map .string).getD .undefined

theorem textOrUndefined_injective : Function.Injective textOrUndefined := by
  intro a b h
  cases a <;> cases b <;> cases h <;> rfl

/-- The last attribute with a name is the member of the object. -/
theorem find?_textMembers (attributes : List (String × String)) (name : String) :
    (textMembers attributes).find? name = (attributes.reverse.lookup name).map .string := by
  unfold textMembers
  rw [Dictionary.find?_ofList, ← List.map_reverse]
  induction attributes.reverse with
  | nil => rfl
  | cons named rest ih =>
    obtain ⟨key, value⟩ := named
    rw [List.map_cons, List.lookup_cons, List.lookup_cons, ih]
    split <;> rfl

theorem lookup_eq_none_iff_notMem {attributes : List (String × String)} {name : String} :
    attributes.lookup name = none ↔ name ∉ attributes.map Prod.fst := by
  rw [List.lookup_eq_none_iff]
  constructor
  · intro h hmem
    obtain ⟨named, hnamed, rfl⟩ := List.mem_map.1 hmem
    exact bne_iff_ne.1 (h named hnamed) rfl
  · intro h named hnamed
    exact bne_iff_ne.2 fun heq => h (List.mem_map.2 ⟨named, hnamed, heq.symm⟩)

/-- Without a name that occurs twice, the first attribute with a name is the last one. -/
theorem lookup_reverse_of_nodup {attributes : List (String × String)}
    (h : (attributes.map Prod.fst).Nodup) (name : String) :
    attributes.reverse.lookup name = attributes.lookup name := by
  induction attributes with
  | nil => rfl
  | cons named rest ih =>
    obtain ⟨key, value⟩ := named
    obtain ⟨hkey, hrest⟩ := List.nodup_cons.1 h
    rw [List.reverse_cons, List.lookup_append, ih hrest]
    by_cases hname : name = key
    · subst hname
      simp [lookup_eq_none_iff_notMem.2 hkey]
    · simp [List.lookup_cons, beq_false_of_ne hname]

/-! ## The function and the object -/

namespace Graph

variable {g h : Graph} {builtins attrs : ObjectId} {attributes : List (String × String)}

/-- In the graph, the function and the object stand for attributes. -/
structure Offers (g : Graph) (builtins attrs : ObjectId) (attributes : List (String × String)) :
    Prop where
  /-- The function searches the attributes. -/
  function : ∃ id, g.read builtins "attr" = .function id ∧
    g.functions[id.index]? = some (.attribute attributes)
  /-- The object is known. -/
  object : g.read builtins "attrs" = .object attrs
  /-- The attributes are its members. -/
  members : g.members attrs = textMembers attributes
  /-- The names are there. -/
  exists_builtins : builtins.index < g.objects.size
  /-- The object is there. -/
  exists_attrs : attrs.index < g.objects.size

/-- What stands for attributes in a graph does so in each one that has the same two objects and
has its functions. -/
theorem Offers.of_members (hg : g.Offers builtins attrs attributes)
    (hbuiltins : h.members builtins = g.members builtins)
    (hattrs : h.members attrs = g.members attrs) (hsize : g.objects.size ≤ h.objects.size)
    (hfunctions : g.functions.toList <+: h.functions.toList) :
    h.Offers builtins attrs attributes where
  function := by
    obtain ⟨id, hread, hfunction⟩ := hg.function
    refine ⟨id, ?_, ?_⟩
    · unfold read
      rw [hbuiltins]
      exact hread
    · rw [getElem?_of_isPrefix hfunctions (Array.getElem?_eq_some_iff.1 hfunction).1, hfunction]
  object := by
    unfold read
    rw [hbuiltins]
    exact hg.object
  members := hattrs.trans hg.members
  exists_builtins := hg.exists_builtins.trans_le hsize
  exists_attrs := hg.exists_attrs.trans_le hsize

/-- One change that writes to neither object. -/
theorem Offers.step (hg : g.Offers builtins attrs attributes)
    (hstep : Step (fun id => id = builtins ∨ id = attrs) g h) :
    h.Offers builtins attrs attributes :=
  hg.of_members (hstep.members (.inl rfl) hg.exists_builtins)
    (hstep.members (.inr rfl) hg.exists_attrs) hstep.size_objects hstep.functions

/-- Any number of changes that write to neither object. -/
theorem Offers.of_steps (hg : g.Offers builtins attrs attributes)
    (hsteps : Relation.ReflTransGen (Step fun id => id = builtins ∨ id = attrs) g h) :
    h.Offers builtins attrs attributes := by
  induction hsteps with
  | refl => exact hg
  | tail _ hstep ih => exact ih.step hstep

/-! ## How they are made -/

variable {name : String} {callables front back : List (String × Callable)} {callable : Callable}

/-- Members with other names stay when functions are added. -/
theorem find?_foldl_addFunction (hname : name ∉ callables.map Prod.fst)
    (members : Dictionary Value) (g : Graph) :
    (callables.foldl addFunction (members, g)).1.find? name = members.find? name := by
  induction callables generalizing members g with
  | nil => rfl
  | cons named rest ih =>
    obtain ⟨hne, hrest⟩ := not_or.1 fun hor => hname (List.mem_cons.2 hor)
    exact (ih hrest _ _).trans ((Dictionary.find?_insert _ _ _ _).trans (if_neg hne))

/-- A library is one more object. -/
theorem objects_newLibrary (g : Graph) (callables : List (String × Callable)) :
    (g.newLibrary callables).2.objects =
      g.objects.push (callables.foldl addFunction (.empty, g)).1 :=
  congrArg (fun objects => objects.push (callables.foldl addFunction (.empty, g)).1)
    ((IsPrefix.refl g).addFunctions callables .empty).2

theorem newLibrary_fst (g : Graph) (callables : List (String × Callable)) :
    (g.newLibrary callables).1 = ⟨g.objects.size⟩ :=
  ((IsPrefix.refl g).newLibrary callables).2

/-- A name that does not recur in a library stands for its function. -/
theorem exists_function_newLibrary (hname : name ∉ back.map Prod.fst) (g : Graph) :
    let library := g.newLibrary (front ++ (name, callable) :: back)
    ∃ id, library.2.read library.1 name = .function id ∧
      library.2.functions[id.index]? = some callable := by
  obtain ⟨⟨before, middle⟩, hfront⟩ :
    ∃ made, front.foldl addFunction (.empty, g) = made := ⟨_, rfl⟩
  have hadded : (front ++ (name, callable) :: back).foldl addFunction (.empty, g) =
      back.foldl addFunction (before.insert name (.function ⟨middle.functions.size⟩),
        (middle.newFunction callable).2) := by
    rw [List.foldl_append, hfront]
    rfl
  have hgrown := ((IsPrefix.refl (middle.newFunction callable).2).addFunctions back
    (before.insert name (.function ⟨middle.functions.size⟩))).1.functions
  refine ⟨⟨middle.functions.size⟩, ?_, ?_⟩
  · unfold read members
    rw [newLibrary_fst, objects_newLibrary, hadded, Array.getElem?_push_size, Option.getD_some,
      find?_foldl_addFunction hname, Dictionary.find?_insert, if_pos rfl]
    rfl
  · show ((front ++ (name, callable) :: back).foldl addFunction (.empty, g)).2.functions[_]? = _
    rw [hadded]
    exact (getElem?_of_isPrefix hgrown (by simp [newFunction])).trans (by simp [newFunction])

/-- A library with the function stands for attributes when their object has become a member. -/
theorem offers_write (hfunction : ∃ id, g.read builtins "attr" = .function id ∧
      g.functions[id.index]? = some (.attribute attributes))
    (hmembers : g.members attrs = textMembers attributes)
    (hbuiltins : builtins.index < g.objects.size) (hattrs : attrs.index < g.objects.size)
    (hne : attrs ≠ builtins) :
    (g.write builtins "attrs" (.object attrs)).Offers builtins attrs attributes where
  function := by
    obtain ⟨id, hread, hcallable⟩ := hfunction
    refine ⟨id, ?_, hcallable⟩
    unfold read
    rw [members_write_self hbuiltins, Dictionary.find?_insert, if_neg (by decide)]
    exact hread
  object := by
    unfold read
    rw [members_write_self hbuiltins, Dictionary.find?_insert, if_pos rfl]
    rfl
  members := (members_write_of_ne hne).trans hmembers
  exists_builtins := hbuiltins.trans_eq Array.size_modify.symm
  exists_attrs := hattrs.trans_eq Array.size_modify.symm

end Graph

/-- The names beside the data of an invocation stand for its attributes. -/
theorem exec_viewBuiltins_offers (attributes : List (String × String)) (request : RequestId)
    (s : Store σ) : ∃ builtins attrs graph,
      exec (viewBuiltins attributes request) s = (.ok builtins, { s with graph := graph }) ∧
        graph.Offers builtins attrs attributes := by
  let first := s.graph.newObject (textMembers attributes)
  let library := first.2.newLibrary (standardCallables ++
    [("attr", .attribute attributes), ("redirect", .redirect request)])
  have hobjects : library.2.objects = _ := Graph.objects_newLibrary first.2 _
  have hlibrary : library.1 = ⟨s.graph.objects.size + 1⟩ :=
    (Graph.newLibrary_fst first.2 _).trans (congrArg ObjectId.mk (Array.size_push _))
  have hsize : library.2.objects.size = s.graph.objects.size + 2 := by
    rw [hobjects, Array.size_push]
    exact congrArg (· + 1) (Array.size_push _)
  refine ⟨library.1, first.1, library.2.write library.1 "attrs" (.object first.1), rfl,
    Graph.offers_write (Graph.exists_function_newLibrary (by simp) first.2) ?_ ?_ ?_ ?_⟩
  · have hprefix : first.2.IsPrefix library.2 := ((Graph.IsPrefix.refl first.2).newLibrary _).1
    have hfirst : first.1.index < first.2.objects.size :=
      (Nat.lt_succ_self _).trans_eq (Array.size_push _).symm
    unfold Graph.members
    rw [getElem?_of_isPrefix hprefix.objects hfirst]
    simp [first, Graph.newObject]
  · rw [hlibrary, hsize]
    exact Nat.lt_succ_self _
  · rw [hsize]
    exact Nat.lt_add_of_pos_right Nat.two_pos
  · rw [hlibrary]
    exact fun heq => Nat.ne_of_lt (Nat.lt_succ_self _) (congrArg ObjectId.index heq)

/-! ## Expressions -/

namespace Expr

/-- The call `attr("name")`. -/
def attrCall (name : String) : Expr := .call (.ident "attr") [.string name] false

/-- The member `attrs.name`. -/
def attrsMember (name : String) : Expr := .member (.ident "attrs") name false

/-- The member `attrs["name"]`. -/
def attrsKey (name : String) : Expr := .index (.ident "attrs") (.string name) false

variable {scope : Scope} {attrs : ObjectId} {attributes : List (String × String)}
  {t : Store σ}

/-- A name that the data does not define is one beside it. -/
theorem exec_walk_ident (host : Host σ) {name : String} (hdata : t.graph.has scope.data name = false) :
    exec (walk host scope (.ident name)) t =
      (.ok (some (t.graph.read scope.builtins name)), t) := by
  unfold walk lookup
  rw [exec_bind_ok (exec_withGraph _ t), if_neg (Bool.eq_false_iff.1 hdata)]
  rfl

/-- The function gives the first attribute with a name. -/
theorem exec_eval_attrCall (host : Host σ)
    (hoffers : t.graph.Offers scope.builtins attrs attributes)
    (hdata : t.graph.has scope.data "attr" = false) (name : String) :
    exec (eval host scope (attrCall name)) t =
      (.ok (textOrUndefined (attributes.lookup name)), t) := by
  obtain ⟨id, hread, hfunction⟩ := hoffers.function
  have hcallee := exec_walk_ident host hdata
  rw [hread] at hcallee
  have hcall : exec (TemplateEngine.call host id [.string name]) t =
      (.ok (textOrUndefined (attributes.lookup name)), t) := by
    unfold TemplateEngine.call
    rw [exec_bind_ok (exec_withGraph _ t), hfunction]
    rfl
  unfold eval attrCall walk
  exact (exec_settle_link hcallee _).trans hcall

/-- The object has the last attribute with a name. -/
theorem exec_eval_attrsMember (host : Host σ)
    (hoffers : t.graph.Offers scope.builtins attrs attributes)
    (hdata : t.graph.has scope.data "attrs" = false) (name : String) :
    exec (eval host scope (attrsMember name)) t =
        (.ok (textOrUndefined (attributes.reverse.lookup name)), t) ∧
      exec (eval host scope (attrsKey name)) t =
        (.ok (textOrUndefined (attributes.reverse.lookup name)), t) := by
  have hholder := exec_walk_ident host hdata
  rw [hoffers.object] at hholder
  have hread : exec (readMember (.object attrs) name (.ident "attrs")) t =
      (.ok (textOrUndefined (attributes.reverse.lookup name)), t) := by
    unfold readMember
    rw [exec_bind_ok (exec_withGraph _ t)]
    show exec (pure (t.graph.read attrs name)) t = _
    unfold Graph.read
    rw [hoffers.members, find?_textMembers]
    rfl
  constructor
  · unfold eval attrsMember walk
    exact (exec_settle_link hholder _).trans hread
  · unfold eval attrsKey walk
    exact (exec_settle_link hholder _).trans hread

end Expr

/-! ## Agreement -/

theorem textOrUndefined_lookup_eq_undefined_iff {attributes : List (String × String)}
    {name : String} :
    textOrUndefined (attributes.lookup name) = .undefined ↔ name ∉ attributes.map Prod.fst := by
  rw [← lookup_eq_none_iff_notMem]
  exact textOrUndefined_injective.eq_iff (b := none)

/-- **Attributes.** In an invocation by a tag, before anything is written to `attrs`, the function
`attr` gives the first plain attribute with a name, and `attrs` has the last one; both are
`undefined` iff there is none. So they agree iff the first and the last one have the same value, as
they have if no name occurs twice. -/
theorem attr_agrees_iff (host : Host σ) {tag : ServerTag} {body : Option SlotId}
    {invocation : Invocation} (htag : Invocation.ofTag tag body = .ok invocation)
    (request : RequestId) (s : Store σ) :
    ∃ builtins attrs graph,
      exec (viewBuiltins invocation.attributes request) s =
        (.ok builtins, { s with graph := graph }) ∧
      graph.read builtins "attrs" = .object attrs ∧
      ∀ (scope : Scope) (t : Store σ), scope.builtins = builtins →
        Relation.ReflTransGen (Graph.Step fun id => id = builtins ∨ id = attrs) graph t.graph →
        t.graph.has scope.data "attr" = false → t.graph.has scope.data "attrs" = false →
        ∀ name,
          let called := exec (Expr.eval host scope (Expr.attrCall name)) t
          let read := exec (Expr.eval host scope (Expr.attrsMember name)) t
          called = (.ok (textOrUndefined (tag.plain.lookup name)), t) ∧
          read = (.ok (textOrUndefined (tag.plain.reverse.lookup name)), t) ∧
          exec (Expr.eval host scope (Expr.attrsKey name)) t = read ∧
          (called = (.ok .undefined, t) ↔ name ∉ tag.plain.map Prod.fst) ∧
          (read = (.ok .undefined, t) ↔ name ∉ tag.plain.map Prod.fst) ∧
          (called = read ↔ tag.plain.lookup name = tag.plain.reverse.lookup name) ∧
          ((tag.plain.map Prod.fst).Nodup → called = read) := by
  obtain ⟨builtins, attrs, graph, hexec, hoffers⟩ :=
    exec_viewBuiltins_offers invocation.attributes request s
  rw [Invocation.attributes_ofTag htag] at hoffers
  refine ⟨builtins, attrs, graph, hexec, hoffers.object, ?_⟩
  rintro scope t rfl hsteps hattr hattrs name called read
  have hlater := hoffers.of_steps hsteps
  have hcalled : called = _ := Expr.exec_eval_attrCall host hlater hattr name
  obtain ⟨hmember, hkey⟩ := Expr.exec_eval_attrsMember host hlater hattrs name
  have hread : read = _ := hmember
  have hvalues : ∀ a b : Value, ((Except.ok a, t) : Except Stop Value × Store σ) = (.ok b, t) ↔
      a = b := by simp
  have hagree : called = read ↔ tag.plain.lookup name = tag.plain.reverse.lookup name := by
    rw [hcalled, hread, hvalues, textOrUndefined_injective.eq_iff]
  refine ⟨hcalled, hread, hkey.trans hread.symm, ?_, ?_, hagree, fun hnodup =>
    hagree.2 (lookup_reverse_of_nodup hnodup name).symm⟩
  · rw [hcalled, hvalues, textOrUndefined_lookup_eq_undefined_iff]
  · rw [hread, hvalues, textOrUndefined_lookup_eq_undefined_iff, List.map_reverse,
      List.mem_reverse]

/-- The tag `<$:view $path="c" b="2" a="1" />`. -/
def viewTag : ServerTag := ⟨"view", [("$path", "c"), ("b", "2"), ("a", "1")], true⟩

/-- After an object was made, the template that the tag invokes reads its attribute `a` both ways,
and finds no attribute `$path`. -/
theorem attr_agrees_iff_view :
    ∃ invocation builtins attrs graph, Invocation.ofTag viewTag none = .ok invocation ∧
      exec (viewBuiltins invocation.attributes ⟨0⟩) Expr.bareStore =
        (.ok builtins, { Expr.bareStore with graph := graph }) ∧
      graph.read builtins "attrs" = .object attrs ∧
      let t := { Expr.bareStore with graph := (graph.newObject .empty).2 }
      let eval := Expr.eval Host.none ⟨⟨0⟩, builtins, ⟨0⟩⟩
      t.graph.has ⟨0⟩ "attr" = false ∧ t.graph.has ⟨0⟩ "attrs" = false ∧
      exec (eval (Expr.attrCall "a")) t = (.ok (.string "1"), t) ∧
      exec (eval (Expr.attrCall "a")) t = exec (eval (Expr.attrsMember "a")) t ∧
      exec (eval (Expr.attrsMember "$path")) t = (.ok .undefined, t) := by
  have htag : Invocation.ofTag viewTag none =
    .ok ⟨.fresh, "c", [], [], [("b", "2"), ("a", "1")], none⟩ := by rfl
  obtain ⟨builtins, attrs, graph, hexec, hobject, hlater⟩ :=
    attr_agrees_iff Host.none htag ⟨0⟩ Expr.bareStore
  have hgraph : (exec (viewBuiltins [("b", "2"), ("a", "1")] ⟨0⟩) Expr.bareStore).2.graph =
    graph := congrArg (fun result => result.2.graph) hexec
  have hattr : (graph.newObject .empty).2.has ⟨0⟩ "attr" = false := by
    subst hgraph
    rfl
  have hattrs : (graph.newObject .empty).2.has ⟨0⟩ "attrs" = false := by
    subst hgraph
    rfl
  have hread := hlater ⟨⟨0⟩, builtins, ⟨0⟩⟩
    { Expr.bareStore with graph := (graph.newObject .empty).2 } rfl (.single (.object .empty))
    hattr hattrs
  obtain ⟨hcalled, -, -, -, -, -, hagree⟩ := hread "a"
  obtain ⟨-, -, -, -, hnone, -⟩ := hread "$path"
  exact ⟨_, builtins, attrs, graph, htag, hexec, hobject, hattr, hattrs, hcalled,
    hagree (by decide), hnone.2 (by decide)⟩

/-- With an attribute that is written twice, the function gives one value and the object has the
other. -/
theorem attr_of_repeated :
    ∃ tag invocation builtins t,
      ServerTag.parse "<$:view $path=\"c\" a=\"1\" a=\"2\" />" = .ok tag ∧
      Invocation.ofTag tag none = .ok invocation ∧
      exec (viewBuiltins invocation.attributes ⟨0⟩) Expr.bareStore = (.ok builtins, t) ∧
      exec (Expr.eval .none ⟨⟨0⟩, builtins, ⟨0⟩⟩ (Expr.attrCall "a")) t =
        (.ok (.string "1"), t) ∧
      exec (Expr.eval .none ⟨⟨0⟩, builtins, ⟨0⟩⟩ (Expr.attrsMember "a")) t =
        (.ok (.string "2"), t) := by
  have hparse : ServerTag.parse "<$:view $path=\"c\" a=\"1\" a=\"2\" />" =
      .ok ⟨"view", [("$path", "c"), ("a", "1"), ("a", "2")], true⟩ := by decide +kernel
  have htag : Invocation.ofTag ⟨"view", [("$path", "c"), ("a", "1"), ("a", "2")], true⟩ none =
      .ok ⟨.fresh, "c", [], [], [("a", "1"), ("a", "2")], none⟩ := by rfl
  exact ⟨_, _, _, _, hparse, htag, rfl, rfl, rfl⟩

end TemplateEngine
