import TemplateEngine.Proofs.Expr.Rooting

/-!
# `Expr` · Roots of paths

What the pass that writes the roots makes of a path: a chain of names with a dot in front of each.

* **`links`** are the dots and names of a path, **`rootedLinks`** what the pass writes for them. It
  looks only at the last word that it has written, and takes a property whose name is an operator's
  word for the operator: the dot behind such a name gets a root as well.
* **`writeRoots_path_iff`**: a path gets its root and nothing else, and a path that has its root is
  left alone, exactly if no name but the last is one of these words (`operandWords`).
-/

namespace TemplateEngine.RootPath

open TemplateEngine.Text TemplateEngine.Template TemplateEngine.Lexeme

variable {name : String} {names : List String} {w rest : List Char}

/-! ## Behind a name -/

/-- A dot behind a name starts a path if the name is a word that asks for an operand, whether it
stands there as that word or as the name of a property. -/
theorem startsPath_word (h : Expr.IsWord name) (hw : Fresh w) :
    startsPath (name.toList.reverse ++ w) = operandWords.contains name := by
  unfold startsPath
  rw [expectsOperand_word h hw]
  obtain ⟨c, cs, hcs⟩ := List.exists_cons_of_ne_nil (mt List.reverse_eq_nil_iff.1 h.ne_nil)
  have hc : isWordChar c := h.chars c (List.mem_reverse.1 (hcs ▸ List.mem_cons_self))
  have hmark : c ≠ '?' := by
    rintro rfl
    cases hc
  rw [hcs, List.cons_append, List.head?_cons]
  simp [hmark]

/-! ## Paths -/

/-- Names with a dot in front of each. -/
def links : List String → List Char
  | [] => []
  | name :: names => '.' :: (name.toList ++ links names)

/-- What is written for names with a dot in front of each: a dot gets a root if a path starts there,
and behind each name it depends on the name. -/
def rootedLinks (starts : Bool) : List String → List Char
  | [] => []
  | name :: names =>
    (if starts then ['$', '.'] else ['.']) ++
      (name.toList ++ rootedLinks (operandWords.contains name) names)

/-- The text of a path. -/
def path (names : List String) : String := String.ofList (links names)

/-- By induction over the names; the text written so far counts only by its last word. -/
theorem takes_links (hnames : ∀ name ∈ names, Expr.IsWord name) {starts : Bool}
    (hw : startsPath w = starts) : Takes w (links names) (rootedLinks starts names) rest := by
  induction names generalizing w starts with
  | nil => exact Takes.nil
  | cons name names ih =>
    obtain ⟨hname, hrest⟩ := List.forall_mem_cons.1 hnames
    have hdot : Fresh ('.' :: w) := fun _ hd => Option.mem_some.1 hd ▸ rfl
    have hroot : Fresh ('.' :: '$' :: w) := fun _ hd => Option.mem_some.1 hd ▸ rfl
    cases starts with
    | true =>
      have hpath : Takes w ('.' :: name.toList) ('$' :: '.' :: name.toList) (links names ++ rest) :=
        (writeRootsFrom_path hw (wordFollows_word hname)).trans
          ((writeRootsFrom_word hname).trans (by simp))
      refine hpath.append (ih hrest ?_)
      have hword := startsPath_word hname hroot
      simpa using hword
    | false =>
      have hmember : Takes w ('.' :: name.toList) ('.' :: name.toList) (links names ++ rest) :=
        .dot (.inr hw) (takes_word hname)
      refine hmember.append (ih hrest ?_)
      have hword := startsPath_word hname hdot
      simpa using hword

/-- The pass on a path, and on a path behind its root. -/
theorem writeRoots_path (hnames : ∀ name ∈ names, Expr.IsWord name) :
    writeRoots (path names) = String.ofList (rootedLinks true names) ∧
      writeRoots ("$" ++ path names) = String.ofList ('$' :: rootedLinks false names) := by
  have hstart : Takes [] (links names) (rootedLinks true names) [] := takes_links hnames rfl
  have hbehind : Takes [] ('$' :: links names) ('$' :: rootedLinks false names) [] :=
    .cons (by decide) (takes_links hnames (by decide))
  have hend : ∀ w, writeRootsFrom w false [] = w := fun w => by rw [writeRootsFrom.eq_def]
  unfold Takes at hstart hbehind
  rw [List.append_nil, hend, List.append_nil] at hstart hbehind
  constructor
  · unfold writeRoots writeRootsChars path
    rw [String.toList_ofList, hstart, List.reverse_reverse]
  · unfold writeRoots writeRootsChars path
    have htext : ("$" ++ String.ofList (links names)).toList = '$' :: links names := by
      simp
    rw [htext, hbehind, List.reverse_reverse]

/-- Only names that stand in front of others make a difference. -/
theorem rootedLinks_false_iff :
    rootedLinks false names = links names ↔ ∀ name ∈ names.dropLast, name ∉ operandWords := by
  induction names with
  | nil => exact iff_of_true rfl nofun
  | cons name names ih =>
    have hcons : rootedLinks false (name :: names) = links (name :: names) ↔
        rootedLinks (operandWords.contains name) names = links names := by
      simp [rootedLinks, links]
    rw [hcons]
    cases names with
    | nil => exact iff_of_true rfl nofun
    | cons next names =>
      rw [List.dropLast_cons_cons, List.forall_mem_cons, ← ih]
      by_cases hword : name ∈ operandWords
      · -- The next dot gets a root of its own.
        rw [List.contains_iff_mem.2 hword]
        refine iff_of_false (fun h => ?_) fun h => h.1 hword
        cases (List.cons.inj h).1
      · rw [Bool.eq_false_iff.2 (mt List.contains_iff_mem.1 hword)]
        exact (and_iff_right hword).symm

/-- **Roots of paths.** A path gets a root in front and is left alone otherwise exactly if no name in
front of another one is a word after which an operand is expected; a path that has its root is left
alone exactly then, too. -/
theorem writeRoots_path_iff (names : List String) (hne : names ≠ [])
    (hnames : ∀ name ∈ names, Expr.IsWord name) :
    (writeRoots (path names) = "$" ++ path names ↔
        ∀ name ∈ names.dropLast, name ∉ operandWords) ∧
      (writeRoots ("$" ++ path names) = "$" ++ path names ↔
        ∀ name ∈ names.dropLast, name ∉ operandWords) := by
  obtain ⟨hstart, hbehind⟩ := writeRoots_path hnames
  have hroot : "$" ++ path names = String.ofList ('$' :: links names) := by
    unfold path
    rw [String.ofList_cons]
    rfl
  have hbegins : rootedLinks true names = '$' :: rootedLinks false names := by
    obtain ⟨name, later, rfl⟩ := List.exists_cons_of_ne_nil hne
    rfl
  have hsame : String.ofList ('$' :: rootedLinks false names) =
      String.ofList ('$' :: links names) ↔ rootedLinks false names = links names := by
    rw [String.ofList_inj, List.cons.injEq]
    exact and_iff_right rfl
  constructor
  · rw [hstart, hbegins, hroot, hsame, rootedLinks_false_iff]
  · rw [hbehind, hroot, hsame, rootedLinks_false_iff]

/-- The words may stand at the end of a path, and longer names may start with them. -/
theorem writeRoots_path_inside :
    path ["index", "of_", "in"] = ".index.of_.in" ∧
      writeRoots ".index.of_.in" = "$.index.of_.in" := by
  have hpath : path ["index", "of_", "in"] = ".index.of_.in" := by decide
  have hwords : ∀ name ∈ ["index", "of_", "in"], Expr.IsWord name := by
    simp only [List.forall_mem_cons]
    exact ⟨.of_text rfl, .of_text rfl, .of_text rfl, nofun⟩
  have hiff := (writeRoots_path_iff _ (by decide) hwords).1
  rw [hpath] at hiff
  exact ⟨hpath, hiff.2 (by decide)⟩

/-- A dot behind a property with the name of an operator gets a root that does not belong there. -/
theorem root_behind_property :
    writeRoots ".user.of.name" = "$.user.of$.name" ∧
      writeRoots ".user.of.name" ≠ "$" ++ ".user.of.name" := by
  have hwords : ∀ name ∈ ["user", "of", "name"], Expr.IsWord name := by
    simp only [List.forall_mem_cons]
    exact ⟨.of_text rfl, .of_text rfl, .of_text rfl, nofun⟩
  have hwritten : writeRoots ".user.of.name" = "$.user.of$.name" := (writeRoots_path hwords).1
  refine ⟨hwritten, ?_⟩
  rw [hwritten]
  decide

end TemplateEngine.RootPath
