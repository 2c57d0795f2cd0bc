import TemplateEngine.Files.Tree

/-!
# `Files` · Where paths lead

What it is that a path leads to a place, said without the walk that finds it.

* **`Leads`** is one rule for each kind of name: it stays, goes up or down, or is a link and is
  replaced with the names of the link's target. It counts the links. `follow_eq_ok_iff` says that the
  walk finds exactly the places that a path leads to through the links that it may follow.
* **`Leads.append`**: names lead where their parts lead one after the other.
* **`LinkFree`**: no link stands on the way from the root directory to a place. A path that starts
  at such a place leads to such a place (`Leads.linkFree`), whatever the links on the way say.
-/

namespace TemplateEngine.FileTree

/-- A name that stands for something in a directory. -/
structure IsEntryName (name : String) : Prop where
  /-- It does not stand for the directory itself. -/
  stays : ¬(name = "" ∨ name = ".")
  /-- It does not stand for the directory above. -/
  up : name ≠ ".."
  /-- It is not too long. -/
  size : name.utf8ByteSize ≤ maxNameSize

/-- Where a path starts that is read at a place. -/
def origin (place : Location) (path : String) : Location := if isRooted path then [] else place

/-- Names lead from one place to another through a number of links. -/
inductive Leads (tree : FileTree) : Nat → Location → List String → Location → Prop
  /-- Without names one stays. -/
  | here (place : Location) : Leads tree 0 place [] place
  /-- A name for the directory itself. -/
  | stay {n place name rest target} (hplace : tree.entry? place = some .directory)
      (hname : name = "" ∨ name = ".") (h : Leads tree n place rest target) :
      Leads tree n place (name :: rest) target
  /-- The name for the directory above. -/
  | up {n place rest target} (hplace : tree.entry? place = some .directory)
      (h : Leads tree n place.dropLast rest target) : Leads tree n place (".." :: rest) target
  /-- The name of anything but a link. -/
  | down {n place name rest target entry} (hplace : tree.entry? place = some .directory)
      (hname : IsEntryName name) (hentry : tree.entry? (place ++ [name]) = some entry)
      (hlink : ∀ path, entry ≠ .link path) (h : Leads tree n (place ++ [name]) rest target) :
      Leads tree n place (name :: rest) target
  /-- The name of a link, which stands for the path of the link. -/
  | link {n place name rest target path} (hplace : tree.entry? place = some .directory)
      (hname : IsEntryName name) (hentry : tree.entry? (place ++ [name]) = some (.link path))
      (h : Leads tree n (origin place path) (namesOf path ++ rest) target) :
      Leads tree (n + 1) place (name :: rest) target

variable {tree : FileTree} {n m links : Nat} {place middle target other : Location} {name : String}
  {names more rest : List String}

/-! ## The walk -/

/-- By induction along the walk, whose cases are the rules. -/
theorem leads_of_follow (h : tree.follow links place names = .ok target) :
    ∃ n ≤ links, tree.Leads n place names target := by
  induction links, place, names using follow.induct tree with
  | case1 links place =>
    rw [follow] at h
    cases h
    exact ⟨0, Nat.zero_le links, .here target⟩
  | case2 links place name rest hplace =>
    rw [follow, if_pos hplace] at h
    cases h
  | case3 links place name rest hplace hname ih =>
    rw [follow, if_neg hplace, if_pos hname] at h
    obtain ⟨n, hn, hleads⟩ := ih h
    exact ⟨n, hn, .stay (Decidable.not_not.1 hplace) hname hleads⟩
  | case4 links place rest hplace hname ih =>
    rw [follow, if_neg hplace, if_neg hname, if_pos rfl] at h
    obtain ⟨n, hn, hleads⟩ := ih h
    exact ⟨n, hn, .up (Decidable.not_not.1 hplace) hleads⟩
  | case5 links place name rest hplace hname hup hsize =>
    rw [follow, if_neg hplace, if_neg hname, if_neg hup, if_pos hsize] at h
    cases h
  | case6 links place name rest hplace hname hup hsize hentry =>
    rw [follow, if_neg hplace, if_neg hname, if_neg hup, if_neg hsize, hentry] at h
    cases h
  | case7 place name rest hplace hname hup hsize path hentry =>
    rw [follow, if_neg hplace, if_neg hname, if_neg hup, if_neg hsize, hentry] at h
    cases h
  | case8 place name rest hplace hname hup hsize path hentry links ih =>
    rw [follow, if_neg hplace, if_neg hname, if_neg hup, if_neg hsize, hentry] at h
    obtain ⟨n, hn, hleads⟩ := ih h
    exact ⟨n + 1, Nat.succ_le_succ hn, .link (Decidable.not_not.1 hplace)
      ⟨hname, hup, Nat.le_of_not_lt hsize⟩ hentry hleads⟩
  | case9 links place name rest hplace hname hup hsize entry hlink hentry ih =>
    have hfollow : tree.follow links (place ++ [name]) rest = .ok target := by
      rw [follow, if_neg hplace, if_neg hname, if_neg hup, if_neg hsize, hentry] at h
      cases entry with
      | link path => exact absurd rfl (hlink path)
      | file | unreadable | directory => exact h
    obtain ⟨n, hn, hleads⟩ := ih hfollow
    exact ⟨n, hn, .down (Decidable.not_not.1 hplace) ⟨hname, hup, Nat.le_of_not_lt hsize⟩ hentry
      hlink hleads⟩

theorem follow_of_leads (h : tree.Leads n place names target) (hn : n ≤ links) :
    tree.follow links place names = .ok target := by
  induction h generalizing links with
  | here place => rw [follow]
  | stay hplace hname _ ih =>
    rw [follow, if_neg (Decidable.not_not.2 hplace), if_pos hname, ih hn]
  | up hplace _ ih =>
    rw [follow, if_neg (Decidable.not_not.2 hplace), if_neg (by decide), if_pos rfl, ih hn]
  | @down n place name rest target entry hplace hname hentry hlink _ ih =>
    rw [follow, if_neg (Decidable.not_not.2 hplace), if_neg hname.stays, if_neg hname.up,
      if_neg (Nat.not_lt_of_le hname.size), hentry]
    cases entry with
    | link path => exact absurd rfl (hlink path)
    | file | unreadable | directory => exact ih hn
  | link hplace hname hentry _ ih =>
    rw [follow, if_neg (Decidable.not_not.2 hplace), if_neg hname.stays, if_neg hname.up,
      if_neg (Nat.not_lt_of_le hname.size), hentry]
    cases links with
    | zero => exact absurd hn (Nat.not_succ_le_zero _)
    | succ links => exact ih (Nat.le_of_succ_le_succ hn)

/-- The walk finds the places that a path leads to through no more links than it may follow. -/
theorem follow_eq_ok_iff :
    tree.follow links place names = .ok target ↔ ∃ n ≤ links, tree.Leads n place names target :=
  ⟨leads_of_follow, fun ⟨_, hn, h⟩ => follow_of_leads h hn⟩

/-- Names lead to one place at most. -/
theorem Leads.unique (h : tree.Leads n place names target) (h' : tree.Leads m place names other) :
    target = other := by
  have hfollow := follow_of_leads h (Nat.le_max_left n m)
  rw [follow_of_leads h' (Nat.le_max_right n m)] at hfollow
  exact (Except.ok.inj hfollow).symm

theorem resolve_eq_ok_iff {path : String} :
    tree.resolve path = .ok target ↔ path ≠ "" ∧ '\x00' ∉ path.toList ∧
      ∃ n ≤ maxLinks, tree.Leads n (origin tree.current path) (namesOf path) target := by
  unfold resolve
  by_cases hempty : path = ""
  · subst hempty
    exact iff_of_false nofun fun h => h.1 rfl
  rw [if_neg (by simpa using hempty)]
  by_cases hnul : '\x00' ∈ path.toList
  · rw [if_pos (by simpa using hnul)]
    exact iff_of_false nofun fun h => h.2.1 hnul
  · rw [if_neg (by simpa using hnul), follow_eq_ok_iff]
    exact ⟨fun h => ⟨hempty, hnul, h⟩, fun h => h.2.2⟩

/-! ## Parts of a path -/

theorem Leads.append (h : tree.Leads n place names middle) (h' : tree.Leads m middle more target) :
    tree.Leads (n + m) place (names ++ more) target := by
  induction h with
  | here place => rwa [Nat.zero_add]
  | stay hplace hname _ ih => exact .stay hplace hname (ih h')
  | up hplace _ ih => exact .up hplace (ih h')
  | down hplace hname hentry hlink _ ih => exact .down hplace hname hentry hlink (ih h')
  | link hplace hname hentry _ ih =>
    rw [Nat.add_right_comm]
    have hmore := ih h'
    rw [List.append_assoc] at hmore
    exact .link hplace hname hentry hmore

/-- Nothing is split off. -/
theorem Leads.whole {k : Nat} (h : tree.Leads k place more target) :
    ∃ n m middle, k = n + m ∧ tree.Leads n place [] middle ∧ tree.Leads m middle more target :=
  ⟨0, k, place, (Nat.zero_add k).symm, .here place, h⟩

/-- Names that lead to a place lead there through the place to which their first part leads. -/
theorem Leads.split {all : List String} {k : Nat} (h : tree.Leads k place all target)
    (hall : all = names ++ more) :
    ∃ n m middle, k = n + m ∧ tree.Leads n place names middle ∧ tree.Leads m middle more target := by
  induction h generalizing names with
  | here place =>
    obtain ⟨rfl, rfl⟩ := List.append_eq_nil_iff.1 hall.symm
    exact (Leads.here place).whole
  | stay hplace hname h ih =>
    cases names with
    | nil =>
      subst hall
      exact (Leads.stay hplace hname h).whole
    | cons first names =>
      obtain ⟨rfl, hrest⟩ := List.cons.inj hall
      obtain ⟨n, m, middle, rfl, hfirst, hmore⟩ := ih hrest
      exact ⟨n, m, middle, rfl, .stay hplace hname hfirst, hmore⟩
  | up hplace h ih =>
    cases names with
    | nil =>
      subst hall
      exact (Leads.up hplace h).whole
    | cons first names =>
      obtain ⟨rfl, hrest⟩ := List.cons.inj hall
      obtain ⟨n, m, middle, rfl, hfirst, hmore⟩ := ih hrest
      exact ⟨n, m, middle, rfl, .up hplace hfirst, hmore⟩
  | down hplace hname hentry hlink h ih =>
    cases names with
    | nil =>
      subst hall
      exact (Leads.down hplace hname hentry hlink h).whole
    | cons first names =>
      obtain ⟨rfl, hrest⟩ := List.cons.inj hall
      obtain ⟨n, m, middle, rfl, hfirst, hmore⟩ := ih hrest
      exact ⟨n, m, middle, rfl, .down hplace hname hentry hlink hfirst, hmore⟩
  | link hplace hname hentry h ih =>
    cases names with
    | nil =>
      subst hall
      exact (Leads.link hplace hname hentry h).whole
    | cons first names =>
      obtain ⟨rfl, hrest⟩ := List.cons.inj hall
      obtain ⟨n, m, middle, rfl, hfirst, hmore⟩ := ih (congrArg (namesOf _ ++ ·) hrest |>.trans (List.append_assoc ..).symm)
      exact ⟨n + 1, m, middle, Nat.add_right_comm n m 1, .link hplace hname hentry hfirst, hmore⟩

theorem leads_append_iff {k : Nat} : tree.Leads k place (names ++ more) target ↔
    ∃ n m middle, k = n + m ∧ tree.Leads n place names middle ∧ tree.Leads m middle more target := by
  refine ⟨fun h => h.split rfl, ?_⟩
  rintro ⟨n, m, middle, rfl, h, h'⟩
  exact h.append h'

/-- An empty name asks for a directory. -/
theorem leads_empty_iff (hname : name = "") : tree.Leads n place [name] target ↔
    n = 0 ∧ target = place ∧ tree.entry? place = some .directory := by
  constructor
  · intro h
    cases h with
    | stay hplace _ h =>
      cases h
      exact ⟨rfl, rfl, hplace⟩
    | up => exact absurd hname (by decide)
    | down _ hentry => exact absurd (.inl hname) hentry.stays
    | link _ hentry => exact absurd (.inl hname) hentry.stays
  · rintro ⟨rfl, rfl, hplace⟩
    exact .stay hplace (.inl hname) (.here _)

/-- Names are followed from a directory only. -/
theorem Leads.directory (h : tree.Leads n place names target) (hnames : names ≠ []) :
    tree.entry? place = some .directory := by
  cases h with
  | here => exact absurd rfl hnames
  | stay hplace | up hplace | down hplace | link hplace => exact hplace

/-! ## Places without links -/

/-- No link stands on the way from the root directory to a place. -/
def LinkFree (tree : FileTree) (place : Location) : Prop :=
  ∀ front, front <+: place → front ≠ [] → ∀ path, tree.entry? front ≠ some (.link path)

theorem linkFree_nil : tree.LinkFree [] := fun _ hfront hne =>
  absurd (List.prefix_nil.1 hfront) hne

theorem LinkFree.of_prefix (h : tree.LinkFree place) (hbefore : other <+: place) :
    tree.LinkFree other := fun front hfront => h front (hfront.trans hbefore)

theorem LinkFree.concat (h : tree.LinkFree place)
    (hentry : ∀ path, tree.entry? (place ++ [name]) ≠ some (.link path)) :
    tree.LinkFree (place ++ [name]) := by
  intro front hfront hne
  rcases List.prefix_concat_iff.1 hfront with rfl | hfront
  · exact hentry
  · exact h front hfront hne

theorem LinkFree.origin (h : tree.LinkFree place) (path : String) :
    tree.LinkFree (origin place path) := by
  unfold FileTree.origin
  split
  · exact linkFree_nil
  · exact h

/-- From a place without links a path leads to one, through whatever links. -/
theorem Leads.linkFree (h : tree.Leads n place names target) (hplace : tree.LinkFree place) :
    tree.LinkFree target := by
  induction h with
  | here => exact hplace
  | stay _ _ _ ih => exact ih hplace
  | up _ _ ih => exact ih (hplace.of_prefix (List.dropLast_prefix _))
  | down _ _ hentry hlink _ ih =>
    refine ih (hplace.concat fun path hpath => ?_)
    rw [hentry] at hpath
    exact hlink path (Option.some.inj hpath)
  | link _ _ _ _ ih => exact ih (hplace.origin _)

end TemplateEngine.FileTree
