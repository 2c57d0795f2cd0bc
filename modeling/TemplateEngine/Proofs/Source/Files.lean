import TemplateEngine.Proofs.Files.Tree
import TemplateEngine.Proofs.Path
import TemplateEngine.Source.Files

/-!
# `Source` · What is read from files

A template path stands for a file below the root directory, or for none.

* **`FileSource.Leads`**: where the root and a template path lead, every link followed: first to the
  root directory, and from there along the names of the normalized path. That the text of the path
  and the text of the root are put together into one path makes no difference
  (`resolve_eq_ok_iff_leads`).
* **`read_confined`**: a text is read exactly if the path leads to a file that lies below the root
  directory, both taken at their places without links, and it is the text of that file; a path that
  leads out of the root directory is refused.
-/

namespace TemplateEngine

open FileTree

variable {tree : FileTree} {place root : Location} {text : String}

/-! ## Texts of paths -/

namespace FileTree

/-- The character that ends paths stands in a path if it stands in one of its names. -/
theorem nul_mem_iff (path : String) :
    '\x00' ∈ path.toList ↔ ∃ name ∈ namesOf path, '\x00' ∈ name.toList := by
  have hpieces := Path.mem_splitOnP_iff (p := (· == '/')) (x := '\x00') rfl path.toList
  unfold namesOf
  rw [hpieces]
  constructor
  · rintro ⟨piece, hpiece, hnul⟩
    exact ⟨String.ofList piece, List.mem_map_of_mem hpiece, by rwa [String.toList_ofList]⟩
  · rintro ⟨name, hname, hnul⟩
    obtain ⟨piece, hpiece, rfl⟩ := List.mem_map.1 hname
    exact ⟨piece, hpiece, by rwa [String.toList_ofList] at hnul⟩

theorem namesOf_slash (before after : List Char) :
    namesOf (String.ofList (before ++ '/' :: after)) =
      namesOf (String.ofList before) ++ namesOf (String.ofList after) := by
  unfold namesOf
  rw [String.toList_ofList, String.toList_ofList, String.toList_ofList,
    List.splitOnP_append_cons _ _ rfl, List.map_append]

theorem textAt_eq_ok_iff : tree.textAt place = .ok text ↔ tree.entry? place = some (.file text) := by
  unfold textAt
  rcases tree.entry? place with _ | _ | _ | _ | _ <;> simp

end FileTree

namespace FileSource

variable {source : FileSource} {path : String}

/-! ## Files of templates -/

/-- The names of a template path below the root directory; without any it is the directory itself. -/
def below (path : String) : List String :=
  if Path.normalNames path = [] then [""] else Path.normalNames path

/-- The text of a template path behind that of the root. -/
def relative (path : String) : List Char := (Path.normalize path).toList.dropWhile (· == '/')

theorem namesOf_relative (path : String) : namesOf (String.ofList (relative path)) = below path := by
  have hsegments : ∀ segment ∈ Path.normalSegments path.toList, Path.IsSegment segment :=
    Path.isSegment_of_mem_normalSegments
  have hsplit := Path.splitOnP_ofSegments hsegments
  unfold namesOf relative below Path.normalize Path.normalNames
  rw [String.toList_ofList, String.toList_ofList, hsplit]
  by_cases hnone : Path.normalSegments path.toList = []
  · rw [if_pos hnone, if_pos (by rw [hnone]; rfl)]
    rfl
  · rw [if_neg hnone, if_neg (by simpa using hnone)]

theorem isRooted_relative (path : String) : isRooted (String.ofList (relative path)) = false := by
  have hhead := List.head?_dropWhile_not (· == '/') (Path.normalize path).toList
  unfold isRooted relative
  rw [String.toList_ofList]
  cases hrest : (Path.normalize path).toList.dropWhile (· == '/') with
  | nil => rfl
  | cons c rest =>
    rw [hrest] at hhead
    simpa using hhead

/-- The text of the root, with a slash at its end, and that of the template path. -/
theorem toList_fileOf (path : String) (hroot : source.root ≠ "") : ∃ front,
    (source.root.toList = front ∨ source.root.toList = front ++ ['/']) ∧
      (source.fileOf path).toList = front ++ '/' :: relative path := by
  have hrooted : isRooted (String.ofList (relative path)) = false := isRooted_relative path
  have hnonempty : source.root.isEmpty = false := by simpa using hroot
  unfold fileOf join
  change ∃ front, _ ∧ (if isRooted (String.ofList (relative path)) || source.root.isEmpty then _ else
    _ : String).toList = _
  rw [hrooted, hnonempty, if_neg (by decide)]
  split
  · next hlast =>
    obtain ⟨front, hfront⟩ := List.getLast?_eq_some_iff.1 hlast
    refine ⟨front, .inr hfront, ?_⟩
    rw [String.toList_append, hfront, String.toList_ofList, List.append_assoc]
    rfl
  · exact ⟨source.root.toList, .inl rfl, by simp [relative]⟩

/-- The names of the root, without an empty one behind a slash at its end, are followed by those of
the template path. -/
theorem namesOf_fileOf (path : String) (hroot : source.root ≠ "") : ∃ front,
    (namesOf source.root = front ∨ namesOf source.root = front ++ [""]) ∧
      namesOf (source.fileOf path) = front ++ below path := by
  obtain ⟨front, hfront, hfile⟩ := toList_fileOf path hroot
  refine ⟨namesOf (String.ofList front), ?_, ?_⟩
  · rw [← String.ofList_toList (s := source.root)]
    rcases hfront with hfront | hfront
    · rw [hfront]
      exact .inl rfl
    · rw [hfront]
      exact .inr (namesOf_slash front [])
  · rw [← String.ofList_toList (s := source.fileOf path), hfile, namesOf_slash, namesOf_relative]

theorem origin_fileOf (hroot : source.root ≠ "") (place : Location) :
    origin place (source.fileOf path) = origin place source.root := by
  obtain ⟨front, hfront, hfile⟩ := toList_fileOf path hroot
  have hhead : (source.fileOf path).toList.head? = source.root.toList.head? := by
    rw [hfile]
    rcases hfront with hfront | hfront
    · have hne : front ≠ [] := by
        rw [← hfront]
        simpa using hroot
      obtain ⟨c, rest, rfl⟩ := List.exists_cons_of_ne_nil hne
      rw [hfront]
      rfl
    · rw [hfront, List.head?_append, List.head?_append]
      rfl
  unfold origin isRooted
  rw [hhead]

/-- The template path leads from the root directory to a place, all links followed. -/
structure Leads (source : FileSource) (path : String) (root place : Location) : Prop where
  /-- The root has a path. -/
  named : source.root ≠ ""
  /-- The path of the root does not hold the character that ends paths. -/
  clean : '\x00' ∉ source.root.toList
  /-- Nor does a name of the template path. -/
  cleanNames : ∀ name ∈ Path.normalNames path, '\x00' ∉ name.toList
  /-- The root is a directory. -/
  directory : source.tree.entry? root = some .directory
  /-- The path of the root leads there, and the names of the template path lead on from there,
  through no more links than a path may have. -/
  ways : ∃ n m, n + m ≤ maxLinks ∧
    source.tree.Leads n (origin source.tree.current source.root) (namesOf source.root) root ∧
      source.tree.Leads m root (Path.normalNames path) place

/-- Below a directory the names of a template path lead where its normal form leads. -/
theorem leads_below_iff {m : Nat} : tree.Leads m root (below path) place ↔
    tree.entry? root = some .directory ∧ tree.Leads m root (Path.normalNames path) place := by
  unfold below
  split
  · next hnone =>
    rw [hnone, leads_empty_iff rfl]
    constructor
    · rintro ⟨rfl, rfl, hdirectory⟩
      exact ⟨hdirectory, .here _⟩
    · rintro ⟨hdirectory, hleads⟩
      cases hleads
      exact ⟨rfl, rfl, hdirectory⟩
  · next hsome => exact ⟨fun h => ⟨h.directory hsome, h⟩, fun h => h.2⟩

theorem nul_mem_fileOf (path : String) (hroot : source.root ≠ "") :
    '\x00' ∈ (source.fileOf path).toList ↔
      '\x00' ∈ source.root.toList ∨ ∃ name ∈ Path.normalNames path, '\x00' ∈ name.toList := by
  obtain ⟨front, hfront, hfile⟩ := toList_fileOf path hroot
  have hrelative : '\x00' ∈ relative path ↔
      ∃ name ∈ Path.normalNames path, '\x00' ∈ name.toList := by
    have hnames := nul_mem_iff (String.ofList (relative path))
    rw [String.toList_ofList, namesOf_relative] at hnames
    rw [hnames]
    unfold below
    split
    · next hnone => simp [hnone]
    · exact Iff.rfl
  have hends : '\x00' ∈ source.root.toList ↔ '\x00' ∈ front := by
    rcases hfront with hfront | hfront <;> simp [hfront]
  rw [hfile, hends, ← hrelative]
  simp

/-- The root and the file of a template path have their places exactly if the path leads from the one
to the other. -/
theorem resolve_eq_ok_iff_leads :
    (source.tree.resolve source.root = .ok root ∧
        source.tree.resolve (source.fileOf path) = .ok place) ↔ source.Leads path root place := by
  by_cases hroot : source.root = ""
  · refine iff_of_false (fun h => ?_) fun h => h.named hroot
    exact (resolve_eq_ok_iff.1 h.1).1 hroot
  obtain ⟨front, hfront, hfile⟩ := namesOf_fileOf path hroot
  have hnamed : source.fileOf path ≠ "" := by
    obtain ⟨_, -, htext⟩ := toList_fileOf path hroot
    intro hempty
    rw [hempty] at htext
    simp at htext
  have hnul := nul_mem_fileOf path hroot
  rw [resolve_eq_ok_iff, resolve_eq_ok_iff, origin_fileOf hroot, hfile]
  let start : Location := origin source.tree.current source.root
  -- An empty name at the end of the root asks for a directory and nothing else.
  have hshort : ∀ n, source.tree.Leads n start (namesOf source.root) root →
      source.tree.Leads n start front root := by
    intro n hleads
    rcases hfront with hfront | hfront
    · exact hfront ▸ hleads
    · obtain ⟨n, m, middle, rfl, hleads, hempty⟩ := leads_append_iff.1 (hfront ▸ hleads)
      obtain ⟨rfl, rfl, -⟩ := (leads_empty_iff rfl).1 hempty
      exact hleads
  have hlong : ∀ n, source.tree.entry? root = some .directory →
      source.tree.Leads n start front root → source.tree.Leads n start (namesOf source.root) root := by
    intro n hdirectory hleads
    rcases hfront with hfront | hfront
    · exact hfront ▸ hleads
    · rw [hfront]
      exact hleads.append ((leads_empty_iff rfl).2 ⟨rfl, rfl, hdirectory⟩)
  constructor
  · rintro ⟨⟨-, hclean, n₀, hn₀, hleads₀⟩, -, hcleanFile, k, hk, hleads⟩
    obtain ⟨n, m, middle, rfl, hleadsFront, hleadsBelow⟩ := leads_append_iff.1 hleads
    cases hleadsFront.unique (hshort n₀ hleads₀)
    obtain ⟨hdirectory, hleadsBelow⟩ := leads_below_iff.1 hleadsBelow
    refine ⟨hroot, hclean, fun name hname hmem => hcleanFile ?_, hdirectory, n, m, hk,
      hlong n hdirectory hleadsFront, hleadsBelow⟩
    exact hnul.2 (.inr ⟨name, hname, hmem⟩)
  · rintro ⟨-, hclean, hcleanNames, hdirectory, n, m, hnm, hleads, hleadsBelow⟩
    refine ⟨⟨hroot, hclean, n, by omega, hleads⟩, hnamed, fun hmem => ?_, n + m, hnm, ?_⟩
    · rcases hnul.1 hmem with hmem | ⟨name, hname, hmem⟩
      · exact hclean hmem
      · exact hcleanNames name hname hmem
    · exact (hshort n hleads).append (leads_below_iff.2 ⟨hdirectory, hleadsBelow⟩)

/-! ## Reading -/

/-- A template path leads to places without links. -/
theorem Leads.linkFree (h : source.Leads path root place)
    (hcurrent : source.tree.LinkFree source.tree.current) :
    source.tree.LinkFree root ∧ source.tree.LinkFree place := by
  obtain ⟨n, m, -, hroot, hplace⟩ := h.ways
  have hfree := hroot.linkFree (hcurrent.origin source.root)
  exact ⟨hfree, hplace.linkFree hfree⟩

/-- At a path that leads to a place the text of a file is read if the place lies below the root
directory. -/
theorem Leads.read_eq_ok_iff (h : source.Leads path root place) : source.read path = .ok text ↔
    root <+: place ∧ source.tree.entry? place = some (.file text) := by
  obtain ⟨hroot, hplace⟩ := resolve_eq_ok_iff_leads.2 h
  rw [← textAt_eq_ok_iff, ← List.isPrefixOf_iff_prefix]
  unfold read
  simp only [hroot, hplace]
  cases root.isPrefixOf place with
  | false => simp
  | true =>
    rcases source.tree.textAt place with fault | found
    · cases fault <;> simp
    · simp

/-- A path is refused if the place lies elsewhere. -/
theorem Leads.read_eq_escapes_iff (h : source.Leads path root place) :
    source.read path = .error (.resolution (.escapes path)) ↔ ¬root <+: place := by
  obtain ⟨hroot, hplace⟩ := resolve_eq_ok_iff_leads.2 h
  rw [← List.isPrefixOf_iff_prefix]
  unfold read
  simp only [hroot, hplace]
  cases root.isPrefixOf place with
  | false => simp
  | true =>
    rcases source.tree.textAt place with fault | found
    · cases fault <;> simp
    · simp

/-- A path that leads nowhere is neither read nor refused. -/
theorem exists_leads
    (h : source.read path = .ok text ∨ source.read path = .error (.resolution (.escapes path))) :
    ∃ root place, source.Leads path root place := by
  unfold read at h
  dsimp only at h
  rcases hroot : source.tree.resolve source.root with fault | root
  · simp [hroot] at h
  rcases hplace : source.tree.resolve (source.fileOf path) with fault | place
  · cases fault <;> simp [hroot, hplace] at h
  · exact ⟨root, place, resolve_eq_ok_iff_leads.1 ⟨hroot, hplace⟩⟩

end FileSource

/-- **Templates are read from below the root only.** A text is read exactly if the path leads, all
links followed, to a file that lies below the root directory, both at their places without links, and
the text is that of the file. A path that leads out of the root directory is refused, whatever is
there. -/
theorem read_confined (source : FileSource) (path : String)
    (hcurrent : source.tree.LinkFree source.tree.current) :
    (∀ text, source.read path = .ok text ↔ ∃ root place, source.Leads path root place ∧
      source.tree.LinkFree root ∧ source.tree.LinkFree place ∧ root <+: place ∧
        source.tree.entry? place = some (.file text)) ∧
      (source.read path = .error (.resolution (.escapes path)) ↔
        ∃ root place, source.Leads path root place ∧ source.tree.LinkFree root ∧
          source.tree.LinkFree place ∧ ¬root <+: place) := by
  refine ⟨fun text => ⟨fun hread => ?_, ?_⟩, fun hread => ?_, ?_⟩
  · obtain ⟨root, place, hleads⟩ := FileSource.exists_leads (.inl hread)
    obtain ⟨hroot, hplace⟩ := hleads.linkFree hcurrent
    exact ⟨root, place, hleads, hroot, hplace, hleads.read_eq_ok_iff.1 hread⟩
  · rintro ⟨root, place, hleads, -, -, hinside⟩
    exact hleads.read_eq_ok_iff.2 hinside
  · have hread' : source.read path = .ok "" ∨
        source.read path = .error (.resolution (.escapes path)) := .inr hread
    obtain ⟨root, place, hleads⟩ := FileSource.exists_leads hread'
    obtain ⟨hroot, hplace⟩ := hleads.linkFree hcurrent
    exact ⟨root, place, hleads, hroot, hplace, hleads.read_eq_escapes_iff.1 hread⟩
  · rintro ⟨root, place, hleads, -, -, houtside⟩
    exact hleads.read_eq_escapes_iff.2 houtside

/-- A root directory behind a link, with a link within it, a link out of it, and a directory beside
it whose name goes on as its own. -/
def linkedSource : FileSource where
  tree := {
    entries := [
      (["srv", "views"], .link "../data/site"),
      (["data", "site", "pages"], .link "../site/inner"),
      (["data", "site", "inner", "home.html"], .file "home"),
      (["data", "site", "out"], .link "/data/sites"),
      (["data", "sites", "secret.html"], .file "secret")]
    current := ["srv"] }
  root := "views/"

/-- The root leads through its link. -/
theorem leads_root_linked : linkedSource.tree.Leads 1
    (origin linkedSource.tree.current linkedSource.root) (namesOf linkedSource.root)
    ["data", "site"] := by
  have hroot : namesOf linkedSource.root = ["views", ""] := by decide
  have htarget : namesOf "../data/site" ++ [""] = ["..", "data", "site", ""] := by decide
  have hlink : linkedSource.tree.entry? (["srv"] ++ ["views"]) = some (.link "../data/site") := rfl
  rw [hroot]
  refine .link rfl ⟨by decide, by decide, by decide⟩ hlink ?_
  rw [htarget]
  exact .up rfl (.down rfl ⟨by decide, by decide, by decide⟩ rfl nofun
    (.down rfl ⟨by decide, by decide, by decide⟩ rfl nofun (.stay rfl (.inl rfl) (.here _))))

/-- A text is read through the links, and the one beside the root directory is not. -/
theorem read_confined_linked :
    linkedSource.tree.LinkFree linkedSource.tree.current ∧
      linkedSource.read "/pages/./x/../home.html" = .ok "home" ∧
      linkedSource.read "out/secret.html" = .error (.resolution (.escapes "out/secret.html")) := by
  have hcurrent : linkedSource.tree.LinkFree linkedSource.tree.current := by
    intro front hfront hne path hlink
    have hdirectory : linkedSource.tree.entry? ["srv"] = some .directory := rfl
    rcases List.prefix_concat_iff.1 (show front <+: [] ++ ["srv"] from hfront) with rfl | hnil
    · cases hdirectory.symm.trans hlink
    · exact hne (List.prefix_nil.1 hnil)
  have hhome : linkedSource.Leads "/pages/./x/../home.html" ["data", "site"]
      ["data", "site", "inner", "home.html"] := by
    have hnames : Path.normalNames "/pages/./x/../home.html" = ["pages", "home.html"] := by decide
    have htarget : namesOf "../site/inner" ++ ["home.html"] =
        ["..", "site", "inner", "home.html"] := by decide
    refine ⟨by decide, by decide, by rw [hnames]; decide, rfl, 1, 1, by decide, leads_root_linked, ?_⟩
    rw [hnames]
    have hlink : linkedSource.tree.entry? (["data", "site"] ++ ["pages"]) =
        some (.link "../site/inner") := rfl
    refine .link rfl ⟨by decide, by decide, by decide⟩ hlink ?_
    rw [htarget]
    exact .up rfl (.down rfl ⟨by decide, by decide, by decide⟩ rfl nofun
      (.down rfl ⟨by decide, by decide, by decide⟩ rfl nofun
        (.down rfl ⟨by decide, by decide, by decide⟩ rfl nofun (.here _))))
  have hsecret : linkedSource.Leads "out/secret.html" ["data", "site"]
      ["data", "sites", "secret.html"] := by
    have hnames : Path.normalNames "out/secret.html" = ["out", "secret.html"] := by decide
    have htarget : namesOf "/data/sites" ++ ["secret.html"] =
        ["", "data", "sites", "secret.html"] := by decide
    refine ⟨by decide, by decide, by rw [hnames]; decide, rfl, 1, 1, by decide, leads_root_linked, ?_⟩
    rw [hnames]
    have hlink : linkedSource.tree.entry? (["data", "site"] ++ ["out"]) =
        some (.link "/data/sites") := rfl
    refine .link rfl ⟨by decide, by decide, by decide⟩ hlink ?_
    rw [htarget]
    exact .stay rfl (.inl rfl) (.down rfl ⟨by decide, by decide, by decide⟩ rfl nofun
      (.down rfl ⟨by decide, by decide, by decide⟩ rfl nofun
        (.down rfl ⟨by decide, by decide, by decide⟩ rfl nofun (.here _))))
  obtain ⟨hroot, hplace⟩ := hhome.linkFree hcurrent
  obtain ⟨-, hother⟩ := hsecret.linkFree hcurrent
  refine ⟨hcurrent, ?_, ?_⟩
  · exact ((read_confined linkedSource _ hcurrent).1 "home").2
      ⟨_, _, hhome, hroot, hplace, by decide, rfl⟩
  · exact (read_confined linkedSource _ hcurrent).2.2 ⟨_, _, hsecret, hroot, hother, by decide⟩

end TemplateEngine
