import TemplateEngine.Proofs.Engine.Contract
import TemplateEngine.Proofs.Path.Combine
import TemplateEngine.Proofs.Text.Cutting

/-!
# `Engine` · What written paths stand for

The paths that templates write are read in directories, and get an extension if they stand for
templates.

* **`path_laws`**: paths are brought to normal forms, and reading them step by step is reading them
  at once. A template path is in normal form and has its extension.
* **`resolve_named_iff`**: behind the name of a directory, a path is read in that directory, where
  it stays if it has no `..`. A slash in front of it makes the directory be forgotten.
-/

namespace TemplateEngine.Engine

open TemplateEngine.Path TemplateEngine.Text

variable {σ : Type} {context : Context} {name dir tail path resolved : String}

/-! ## Paths of templates -/

theorem resolvePath_eq_ok {engine : Engine σ}
    (h : engine.resolvePath context path = .ok resolved) : ∃ directory,
      resolveDirectory context (trimString path) = .ok directory ∧
        withExtension engine.config.extension directory = resolved := by
  unfold resolvePath at h
  cases hdirectory : resolveDirectory context (trimString path) with
  | error fault =>
    rw [hdirectory] at h
    cases h
  | ok directory =>
    rw [hdirectory] at h
    cases h
    exact ⟨directory, rfl, rfl⟩

theorem isNormal_combine (dir relative : String) : IsNormal (combine dir relative) := by
  unfold combine
  split
  · exact isNormal_normalize _
  · exact isNormal_normalize _

/-- A path is in normal form when it has been read. -/
theorem isNormal_of_resolveDirectory (h : resolveDirectory context path = .ok resolved) :
    IsNormal resolved := by
  unfold resolveDirectory at h
  split at h
  · dsimp only at h
    split at h
    · cases h
      exact isNormal_combine _ _
    · cases h
  · cases h
    exact isNormal_combine _ _

/-- **Laws of paths.** All paths are brought to a normal form, in which they stay; a directory may be
normalized before a path is read in it, two paths may be read one after the other, and `..` at the
root does nothing. A normal path is its last segment in its directory. The path of a template is
normal and keeps its extension. -/
theorem path_laws (engine : Engine σ) :
    (∀ path, IsNormal (normalize path) ∧ normalize (normalize path) = normalize path) ∧
    (∀ dir relative, combine (normalize dir) relative = combine dir relative) ∧
    (∀ dir a b, a ≠ "" → b.toList.head? ≠ some '/' →
      combine (combine dir a) b = combine dir (a ++ "/" ++ b)) ∧
    (∀ front back, (∀ c ∈ front.toList.getLast?, isSeparator c) →
      (∀ c ∈ back.toList.head?, isSeparator c) → normalize front = "/" →
        normalize (front ++ ".." ++ back) = normalize (front ++ back)) ∧
    (∀ path, normalize path = path → path ≠ "/" →
      combine (directory path) (String.ofList (fileName path)) = path) ∧
    ∀ context path resolved, IsExtension engine.config.extension →
      engine.resolvePath context path = .ok resolved →
        normalize resolved = resolved ∧ withExtension engine.config.extension resolved = resolved := by
  refine ⟨fun path => ⟨isNormal_normalize path, normalize_normalize path⟩, combine_normalize,
    fun dir a b ha hb => combine_combine ha hb dir,
    fun front back hfront hback hroot => normalize_climbing hfront hback hroot,
    fun path hnormal hroot => combine_directory_fileName (normalize_eq_self_iff.1 hnormal) hroot,
    fun context path resolved hextension hresolved => ?_⟩
  obtain ⟨directory, hdirectory, rfl⟩ := resolvePath_eq_ok hresolved
  have hnormal := hextension.isNormal_withExtension (isNormal_of_resolveDirectory hdirectory)
  exact ⟨normalize_eq_self_iff.2 hnormal, hextension.withExtension_withExtension directory⟩

/-- The extension of the standard configuration. -/
theorem isExtension_standard : IsExtension Config.standard.extension :=
  ⟨"html".toList, by decide, List.all_eq_true.1 (by decide), by decide⟩

/-- Separators of both kinds, a climb above the root, and the root as a template. -/
theorem path_laws_climbing :
    combine (combine "/pages" "..\\parts") "./../../x" = "/x" ∧
      normalize ("a/..\\" ++ ".." ++ "\\b") = "/b" ∧
      combine (directory "/a.b/c") (String.ofList (fileName "/a.b/c")) = "/a.b/c" ∧
      (Engine.inMemory .standard []).resolvePath (.first "/page.html" "content") " ../.. " =
        .ok "/.html" ∧
      normalize "/.html" = "/.html" ∧ withExtension ".html" "/.html" = "/.html" := by
  obtain ⟨-, -, hsteps, hclimb, hlast, htemplate⟩ := path_laws (Engine.inMemory .standard [])
  have hresolved : (Engine.inMemory .standard []).resolvePath (.first "/page.html" "content")
      " ../.. " = .ok "/.html" := by rfl
  have hfront : ∀ c ∈ "a/..\\".toList.getLast?, isSeparator c := by
    intro c hc
    obtain rfl : '\\' = c := Option.some.inj hc
    decide
  have hback : ∀ c ∈ "\\b".toList.head?, isSeparator c := by
    intro c hc
    obtain rfl : '\\' = c := Option.some.inj hc
    decide
  refine ⟨(hsteps "/pages" "..\\parts" "./../../x" (by decide) (by decide)).trans (by decide),
    (hclimb "a/..\\" "\\b" hfront hback (by decide)).trans (by decide),
    hlast "/a.b/c" (by decide) (by decide), hresolved, ?_⟩
  exact htemplate (.first "/page.html" "content") " ../.. " "/.html" isExtension_standard hresolved

/-! ## Names of directories -/

/-- A path behind the name of a directory. -/
def named (name tail : String) : String := "$" ++ name ++ "/" ++ tail

theorem toList_named (name tail : String) :
    (named name tail).toList = '$' :: (name.toList ++ '/' :: tail.toList) := by
  simp [named]

/-- The rest of the path is read in the directory of the name. -/
theorem resolveDirectory_named (hname : '/' ∉ name.toList)
    (hdir : context.basePaths.find? name = some dir) (tail : String) :
    resolveDirectory context (named name tail) = .ok (combine dir tail) := by
  unfold resolveDirectory
  rw [toList_named]
  simp [cutAt_append hname, hdir]

theorem trimString_named (htail : Trimmed tail.toList) (name : String) :
    trimString (named name tail) = named name tail := by
  have htrimmed : Trimmed (named name tail).toList := by
    rw [toList_named]
    refine ⟨by simp [isBlank], fun c hc => ?_⟩
    rw [← List.cons_append, List.getLast?_append] at hc
    cases hlast : tail.toList.getLast? with
    | none =>
      rw [List.getLast?_eq_none_iff.1 hlast] at hc
      obtain rfl : c = '/' := by simpa using hc.symm
      decide
    | some d =>
      rw [List.getLast?_cons, hlast] at hc
      obtain rfl : c = d := by simpa using hc.symm
      exact htail.2 c hlast
  unfold trimString
  rw [trim_of_trimmed htrimmed, String.ofList_toList]

/-- With an extension, a path that is not the directory itself stays in it. -/
theorem isWithin_withExtension {extension : String}
    (hplain : ∀ c ∈ extension.toList, isSeparator c = false) (hnormal : IsNormal path)
    (hwithin : IsWithin dir path) (hbelow : normalSegments dir.toList ≠ normalSegments path.toList) :
    IsWithin dir (withExtension extension path) := by
  have hroot : path ≠ "/" := by
    rintro rfl
    exact hbelow (List.prefix_nil.1 hwithin)
  obtain ⟨parts, last, hparts, hlast, rfl⟩ := hnormal.exists_last hroot
  obtain ⟨extended, hextended, hwith⟩ := exists_withExtension parts hlast hplain
  have hall : ∀ s ∈ parts ++ [last], IsSegment s :=
    List.forall_mem_append.2 ⟨hparts, by simpa using hlast⟩
  have hall' : ∀ s ∈ parts ++ [extended], IsSegment s :=
    List.forall_mem_append.2 ⟨hparts, by simpa using hextended⟩
  unfold IsWithin at hwithin ⊢
  rw [hwith, String.toList_ofList, normalSegments_ofSegments hall']
  rw [String.toList_ofList, normalSegments_ofSegments hall] at hwithin hbelow
  rcases List.prefix_concat_iff.1 hwithin with heq | hfront
  · exact absurd heq hbelow
  · exact hfront.trans (List.prefix_append _ _)

/-- **Names of directories.** A path behind the name of a directory is read in that directory, and
without `..` it stays there. A slash in front of it makes the directory be forgotten; that gives the
same path exactly if the path leaves all of the directory. -/
theorem resolve_named_iff (engine : Engine σ) (hname : '/' ∉ name.toList)
    (hdir : context.basePaths.find? name = some dir) (htail : Trimmed tail.toList) :
    resolveDirectory context (named name tail) = .ok (combine dir tail) ∧
      engine.resolvePath context (named name tail) =
        .ok (withExtension engine.config.extension (combine dir tail)) ∧
      (combine dir tail = normalize (dir ++ "/" ++ tail) ↔
        (tail.toList.head? = some '/' →
          (normalSegments dir.toList).length ≤ climbs tail.toList)) ∧
      (tail.toList.head? ≠ some '/' → (∀ s ∈ segments tail.toList, s ≠ ['.', '.']) →
        IsWithin dir (combine dir tail) ∧
          ((∀ c ∈ engine.config.extension.toList, isSeparator c = false) →
            normalSegments tail.toList ≠ [] →
              IsWithin dir (withExtension engine.config.extension (combine dir tail)))) := by
  have hdirectory := resolveDirectory_named hname hdir tail
  refine ⟨hdirectory, ?_, combine_eq_append_iff, fun hrelative hdots => ?_⟩
  · unfold resolvePath
    rw [trimString_named htail, hdirectory]
    rfl
  · have hwithin := isWithin_combine hrelative hdots dir
    refine ⟨hwithin, fun hplain hsome => ?_⟩
    refine isWithin_withExtension hplain (isNormal_combine dir tail) hwithin fun heq => hsome ?_
    rw [combine_relative hrelative, normalSegments_normalize, normalSegments_below,
      climbs_eq_zero hdots, List.rdrop_zero] at heq
    exact List.self_eq_append_right.1 heq

/-- A template that calls the directory `/parts` `p`. -/
def partsContext : Context :=
  { Context.first "/page.html" "content" with basePaths := Dictionary.empty.insert "p" "/parts" }

/-- A path with separators of both kinds stays in the directory. -/
theorem resolve_named_iff_parts :
    '/' ∉ "p".toList ∧ partsContext.basePaths.find? "p" = some "/parts" ∧
      Trimmed ".\\sub//card".toList ∧
      resolveDirectory partsContext "$p/.\\sub//card" = .ok "/parts/sub/card" ∧
      (inMemory .standard []).resolvePath partsContext "$p/.\\sub//card" =
        .ok "/parts/sub/card.html" ∧
      combine "/parts" ".\\sub//card" = normalize ("/parts" ++ "/" ++ ".\\sub//card") ∧
      IsWithin "/parts" "/parts/sub/card.html" := by
  have hname : '/' ∉ "p".toList := by decide
  have hdir : partsContext.basePaths.find? "p" = some "/parts" := by decide
  have htail : Trimmed ".\\sub//card".toList := trimmed_of_forall fun c hc hblank => by
    have hfree : ".\\sub//card".toList.all fun c => !isBlank c := by decide
    simpa [hblank] using List.all_eq_true.1 hfree c hc
  obtain ⟨hdirectory, hpath, hiff, hwithin⟩ :=
    resolve_named_iff (inMemory .standard []) hname hdir htail
  have hplain : ∀ c ∈ (inMemory .standard []).config.extension.toList, isSeparator c = false :=
    isExtension_standard.plain
  exact ⟨hname, hdir, htail, hdirectory.trans (by rfl), hpath.trans (by rfl),
    hiff.2 (by decide), (hwithin (by decide) (by decide)).2 hplain (by decide)⟩

/-- Behind a second slash the directory is forgotten: the path is read from the root. -/
theorem directory_forgotten :
    resolveDirectory partsContext "$p//card" = .ok "/card" ∧
      (inMemory .standard []).resolvePath partsContext "$p//card" = .ok "/card.html" ∧
      normalize ("/parts" ++ "/" ++ "/card") = "/parts/card" ∧ ¬IsWithin "/parts" "/card" := by
  refine ⟨by rfl, by rfl, by decide, ?_⟩
  unfold IsWithin
  decide

end TemplateEngine.Engine
