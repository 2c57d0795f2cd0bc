import TemplateEngine.Proofs.Path
import TemplateEngine.Text.Letter

/-!
# `Path` · Normal forms

Which paths are normal, and what becomes of them.

* **`IsNormal`** says it of the text: a slash in front, no backslash, and between the slashes no
  piece that is empty, `.` or `..`. These are exactly the paths that `normalize` leaves alone
  (`normalize_eq_self_iff`), and exactly the texts of rooted segments (`isNormal_iff_ofSegments`).
* **The last segment** of a normal path and the directory in front of it give the path back
  (`combine_directory_fileName`).
* **Extensions.** A path with an extension added (`withExtension`) has another last segment and is
  otherwise the same (`exists_withExtension`); it stays normal, and gets no second extension.
-/

namespace TemplateEngine.Path

open TemplateEngine.Text

variable {parts before : List (List Char)} {segment cs front back : List Char} {c : Char}
  {path extension : String}

/-! ## Segments that are written out -/

/-- What is cut at slashes is put together again. -/
theorem flatMap_slash_splitOnP (cs : List Char) :
    (cs.splitOnP (· == '/')).flatMap ('/' :: ·) = '/' :: cs := by
  induction cs with
  | nil => simp
  | cons c cs ih =>
    rw [List.splitOnP_cons_eq_if_modifyHead]
    obtain ⟨head, rest, hsplit⟩ :=
      List.exists_cons_of_ne_nil (List.splitOnP_ne_nil (· == '/') cs)
    rw [hsplit] at ih ⊢
    by_cases hc : c = '/'
    · subst hc
      simpa using ih
    · have hbeq : (c == '/') = false := by simpa using hc
      simpa [hbeq] using ih

theorem ofSegments_eq_flatMap (h : parts ≠ []) : ofSegments parts = parts.flatMap ('/' :: ·) := by
  obtain ⟨first, later, rfl⟩ := List.exists_cons_of_ne_nil h
  rfl

theorem ofSegments_concat (parts : List (List Char)) (last : List Char) :
    ofSegments (parts ++ [last]) = parts.flatMap ('/' :: ·) ++ '/' :: last := by
  rw [ofSegments_eq_flatMap (by simp)]
  simp

/-! ## Normalizing -/

/-- A segment is put on those in front of it. -/
theorem push_of_isSegment (h : IsSegment segment) (before : List (List Char)) :
    push before segment = segment :: before := by
  simp [push, h.ne_nil, h.ne_dot, h.ne_dots]

theorem foldl_push_of_isSegment (h : ∀ s ∈ parts, IsSegment s) (before : List (List Char)) :
    parts.foldl push before = parts.reverse ++ before := by
  induction parts generalizing before with
  | nil => rfl
  | cons first later ih =>
    obtain ⟨hfirst, hlater⟩ := List.forall_mem_cons.1 h
    rw [List.foldl_cons, push_of_isSegment hfirst, ih hlater]
    simp

/-- Behind a separator the segments go on from those in front of it. -/
theorem normalSegments_append (hc : isSeparator c) (front back : List Char) :
    normalSegments (front ++ c :: back) =
      ((segments back).foldl push (normalSegments front).reverse).reverse := by
  unfold normalSegments segments
  rw [List.splitOnP_append_cons _ _ hc, List.foldl_append, List.reverse_reverse]

/-- The segments of a path that is written from segments. -/
theorem normalSegments_ofSegments (h : ∀ s ∈ parts, IsSegment s) :
    normalSegments (ofSegments parts) = parts := by
  cases parts with
  | nil => rfl
  | cons first later =>
    have hplain : ∀ s ∈ first :: later, ∀ c ∈ s, isSeparator c = false := fun s hs => (h s hs).plain
    have hskip : push [] [] = [] := rfl
    unfold normalSegments segments
    rw [ofSegments_eq_flatMap (List.cons_ne_nil _ _), splitOnP_flatMap_slash (by decide) hplain,
      List.foldl_cons, hskip, foldl_push_of_isSegment h]
    simp

theorem normalSegments_normalize (path : String) :
    normalSegments (normalize path).toList = normalSegments path.toList := by
  unfold normalize
  rw [String.toList_ofList, normalSegments_ofSegments isSegment_of_mem_normalSegments]

theorem normalize_eq_iff {other : String} :
    normalize path = normalize other ↔
      normalSegments path.toList = normalSegments other.toList := by
  refine ⟨fun h => ?_, fun h => ?_⟩
  · rw [← normalSegments_normalize path, h, normalSegments_normalize]
  · unfold normalize
    rw [h]

theorem normalize_normalize (path : String) : normalize (normalize path) = normalize path :=
  normalize_eq_iff.2 (normalSegments_normalize path)

theorem normalize_ofSegments (h : ∀ s ∈ parts, IsSegment s) :
    normalize (String.ofList (ofSegments parts)) = String.ofList (ofSegments parts) := by
  unfold normalize
  rw [String.toList_ofList, normalSegments_ofSegments h]

/-! ## Normal paths -/

/-- The pieces of a rooted path behind its first slash; the root has none. -/
def pieces (path : String) : List (List Char) :=
  match path.toList.tail with
  | [] => []
  | rest => rest.splitOnP (· == '/')

/-- A path in the form that all paths are brought to. -/
structure IsNormal (path : String) : Prop where
  /-- It starts at the root. -/
  rooted : path.toList.head? = some '/'
  /-- It is not cut at backslashes. -/
  forward : '\\' ∉ path.toList
  /-- No piece of it leads nowhere or upwards. -/
  names : ∀ piece ∈ pieces path, piece ≠ [] ∧ piece ≠ ['.'] ∧ piece ≠ ['.', '.']

/-- The pieces of a path that is written from segments. -/
theorem pieces_ofSegments (h : ∀ s ∈ parts, IsSegment s) :
    pieces (String.ofList (ofSegments parts)) = parts := by
  cases parts with
  | nil => rfl
  | cons first later =>
    have hslash : ∀ s ∈ first :: later, ∀ c ∈ s, (c == '/') = false := fun s hs => (h s hs).slash
    obtain ⟨c, cs, hfirst⟩ := List.exists_cons_of_ne_nil (h first List.mem_cons_self).ne_nil
    have hsplit := splitOnP_flatMap_slash (p := (· == '/')) rfl hslash
    have htail : (String.ofList (ofSegments (first :: later))).toList.tail =
        c :: (cs ++ later.flatMap ('/' :: ·)) := by
      rw [String.toList_ofList, ofSegments_eq_flatMap (List.cons_ne_nil _ _), hfirst]
      simp
    have hwritten : (first :: later).flatMap ('/' :: ·) =
        '/' :: c :: (cs ++ later.flatMap ('/' :: ·)) := by
      rw [hfirst]
      simp
    rw [hwritten, List.splitOnP_cons_eq_if_modifyHead] at hsplit
    unfold pieces
    rw [htail]
    simpa using hsplit

theorem isNormal_ofSegments (h : ∀ s ∈ parts, IsSegment s) :
    IsNormal (String.ofList (ofSegments parts)) where
  rooted := by
    rw [String.toList_ofList]
    cases parts with
    | nil => rfl
    | cons first later => simp [ofSegments]
  forward := by
    rw [String.toList_ofList]
    intro hmem
    cases parts with
    | nil => exact absurd hmem (by decide)
    | cons first later =>
      obtain ⟨s, hs, hback⟩ := List.mem_flatMap.1 hmem
      have hins : '\\' ∈ s := by simpa using hback
      exact Bool.noConfusion (((h s hs).plain _ hins).symm.trans (by decide : _ = true))
  names piece hpiece := by
    rw [pieces_ofSegments h] at hpiece
    exact ⟨(h piece hpiece).ne_nil, (h piece hpiece).ne_dot, (h piece hpiece).ne_dots⟩

/-- A normal path is written from its pieces. -/
theorem IsNormal.eq_ofSegments (h : IsNormal path) :
    path = String.ofList (ofSegments (pieces path)) ∧ ∀ s ∈ pieces path, IsSegment s := by
  obtain ⟨rest, hrest⟩ := List.head?_eq_some_iff.1 h.rooted
  have hnames := h.names
  have hpath : path = String.ofList ('/' :: rest) := by rw [← hrest, String.ofList_toList]
  cases rest with
  | nil =>
    have hnone : pieces path = [] := by simp [pieces, hrest]
    rw [hnone]
    exact ⟨hpath, nofun⟩
  | cons c cs =>
    have hpieces : pieces path = (c :: cs).splitOnP (· == '/') := by simp [pieces, hrest]
    refine ⟨?_, fun s hs => ?_⟩
    · rw [hpieces, ofSegments_eq_flatMap (List.splitOnP_ne_nil _ _), flatMap_slash_splitOnP]
      exact hpath
    · obtain ⟨hnil, hdot, hdots⟩ := hnames s hs
      refine ⟨hnil, hdot, hdots, fun d hd => ?_⟩
      rw [hpieces] at hs
      have hslash : (d == '/') = false := forall_mem_splitOnP (· == '/') _ s hs d hd
      have hback : d ≠ '\\' := by
        rintro rfl
        have hmem := (mem_splitOnP_iff (p := (· == '/')) (by decide) (c :: cs)).2 ⟨s, hs, hd⟩
        exact h.forward (hrest ▸ List.mem_cons_of_mem _ hmem)
      simp [isSeparator, hslash, hback]

/-- A path is normal exactly if it is written from segments. -/
theorem isNormal_iff_ofSegments :
    IsNormal path ↔ ∃ parts, (∀ s ∈ parts, IsSegment s) ∧ path = String.ofList (ofSegments parts) := by
  refine ⟨fun h => ⟨_, h.eq_ofSegments.2, h.eq_ofSegments.1⟩, ?_⟩
  rintro ⟨parts, hparts, rfl⟩
  exact isNormal_ofSegments hparts

/-- All paths are brought to normal form. -/
theorem isNormal_normalize (path : String) : IsNormal (normalize path) :=
  isNormal_ofSegments isSegment_of_mem_normalSegments

/-- The paths that are left alone are those in normal form. -/
theorem normalize_eq_self_iff : normalize path = path ↔ IsNormal path := by
  refine ⟨fun h => h ▸ isNormal_normalize path, fun h => ?_⟩
  obtain ⟨parts, hparts, rfl⟩ := isNormal_iff_ofSegments.1 h
  exact normalize_ofSegments hparts

/-! ## The last segment -/

/-- A normal path other than the root has a last segment. -/
theorem IsNormal.exists_last (h : IsNormal path) (hroot : path ≠ "/") :
    ∃ parts last, (∀ s ∈ parts, IsSegment s) ∧ IsSegment last ∧
      path = String.ofList (ofSegments (parts ++ [last])) := by
  obtain ⟨all, hall, rfl⟩ := isNormal_iff_ofSegments.1 h
  obtain rfl | ⟨parts, last, rfl⟩ := List.eq_nil_or_concat all
  · exact absurd rfl hroot
  · rw [List.concat_eq_append] at hall ⊢
    obtain ⟨hparts, hlast⟩ := List.forall_mem_append.1 hall
    exact ⟨parts, last, hparts, hlast last (List.mem_singleton_self _), rfl⟩

section Last

variable {last : List Char}

theorem fileName_ofSegments (hlast : IsSegment last) :
    fileName (String.ofList (ofSegments (parts ++ [last]))) = last := by
  have hinside : ∀ c ∈ last.reverse, (c != '/') = true := fun c hc => by
    simpa using hlast.slash c (List.mem_reverse.1 hc)
  unfold fileName
  rw [String.toList_ofList, ofSegments_concat, List.reverse_append, List.reverse_cons,
    List.append_assoc, List.takeWhile_append_of_pos hinside]
  simp

theorem directory_ofSegments (hlast : IsSegment last) :
    directory (String.ofList (ofSegments (parts ++ [last]))) = String.ofList (ofSegments parts) := by
  have hinside : ∀ c ∈ last.reverse, (c != '/') = true := fun c hc => by
    simpa using hlast.slash c (List.mem_reverse.1 hc)
  have hdrop : (ofSegments (parts ++ [last])).reverse.dropWhile (· != '/') =
      '/' :: (parts.flatMap ('/' :: ·)).reverse := by
    rw [ofSegments_concat, List.reverse_append, List.reverse_cons, List.append_assoc,
      List.dropWhile_append_of_pos hinside]
    simp
  unfold directory
  rw [String.toList_ofList, hdrop]
  cases parts with
  | nil => rfl
  | cons first later =>
    have hne : (List.flatMap ('/' :: ·) (first :: later)).reverse ≠ [] := by simp
    obtain ⟨c, rest, hrest⟩ := List.exists_cons_of_ne_nil hne
    rw [hrest]
    show String.ofList (c :: rest).reverse = _
    rw [← hrest, List.reverse_reverse, ofSegments_eq_flatMap (List.cons_ne_nil _ _)]

/-- A normal path is what its last segment stands for in its directory. -/
theorem combine_directory_fileName (h : IsNormal path) (hroot : path ≠ "/") :
    combine (directory path) (String.ofList (fileName path)) = path := by
  obtain ⟨parts, last, hparts, hlast, rfl⟩ := h.exists_last hroot
  have hall : ∀ s ∈ parts ++ [last], IsSegment s :=
    List.forall_mem_append.2 ⟨hparts, by simpa using hlast⟩
  rw [directory_ofSegments hlast, fileName_ofSegments hlast]
  have hhead : last.head? ≠ some '/' := fun hslash =>
    Bool.noConfusion (hlast.slash '/' (List.mem_of_mem_head? hslash))
  have hsegments : normalSegments (ofSegments parts ++ '/' :: last) = parts ++ [last] := by
    have hsingle : segments last = [last] := List.splitOnP_eq_singleton hlast.plain
    rw [normalSegments_append (by decide), normalSegments_ofSegments hparts, hsingle,
      List.foldl_cons, List.foldl_nil, push_of_isSegment hlast, List.reverse_cons,
      List.reverse_reverse]
  unfold combine normalize
  rw [String.toList_ofList, if_neg hhead]
  simp [hsegments]

/-! ## Extensions -/

/-- A dot with letters or digits behind it. -/
def IsExtension (extension : String) : Prop :=
  ∃ name : List Char, name ≠ [] ∧ (∀ c ∈ name, isAlphanumeric c) ∧ extension.toList = '.' :: name

/-- An extension is not cut. -/
theorem IsExtension.plain (h : IsExtension extension) :
    ∀ c ∈ extension.toList, isSeparator c = false := by
  obtain ⟨name, -, hname, hwritten⟩ := h
  rw [hwritten]
  refine List.forall_mem_cons.2 ⟨by decide, fun c hc => ?_⟩
  by_contra hsep
  rw [Bool.not_eq_false] at hsep
  have hcases : c = '/' ∨ c = '\\' := by simpa [isSeparator] using hsep
  rcases hcases with rfl | rfl
  · exact absurd (hname _ hc) (by decide)
  · exact absurd (hname _ hc) (by decide)

/-- An extension alone is a segment. -/
theorem IsExtension.isSegment (h : IsExtension extension) : IsSegment extension.toList := by
  have hplain := h.plain
  obtain ⟨name, hne, hname, hwritten⟩ := h
  rw [hwritten] at hplain ⊢
  refine ⟨by simp, by simpa using hne, ?_, hplain⟩
  -- A dot is neither a letter nor a digit.
  intro hdots
  obtain rfl : name = ['.'] := (List.cons.inj hdots).2
  exact absurd (hname '.' (List.mem_singleton_self _)) (by decide)

/-- What is added to a path is added to its last segment. -/
theorem fileName_append (h : '/' ∉ extension.toList) (path : String) :
    fileName (path ++ extension) = fileName path ++ extension.toList := by
  have hinside : ∀ c ∈ extension.toList.reverse, (c != '/') = true := fun c hc =>
    bne_iff_ne.2 fun heq => h (heq ▸ List.mem_reverse.1 hc)
  unfold fileName
  rw [String.toList_append, List.reverse_append, List.takeWhile_append_of_pos hinside]
  simp

/-- With an extension, a path has another last segment and is otherwise the same. -/
theorem exists_withExtension (parts : List (List Char)) (hlast : IsSegment last)
    (hplain : ∀ c ∈ extension.toList, isSeparator c = false) :
    ∃ named, IsSegment named ∧
      withExtension extension (String.ofList (ofSegments (parts ++ [last]))) =
        String.ofList (ofSegments (parts ++ [named])) := by
  unfold withExtension
  rw [fileName_ofSegments hlast]
  by_cases hnamed : (last.contains '.' || extension.isEmpty) = true
  · exact ⟨last, hlast, if_pos hnamed⟩
  · obtain ⟨hdot, -⟩ : '.' ∉ last ∧ ¬extension.isEmpty := by simpa using hnamed
    refine ⟨last ++ extension.toList, ?_, ?_⟩
    · -- It starts with a character that is no dot.
      obtain ⟨c, cs, rfl⟩ := List.exists_cons_of_ne_nil hlast.ne_nil
      have hc : c ≠ '.' := fun heq => hdot (heq ▸ List.mem_cons_self)
      refine ⟨by simp, by simp [hc], by simp [hc], fun d hd => ?_⟩
      rcases List.mem_append.1 hd with hd | hd
      · exact hlast.plain d hd
      · exact hplain d hd
    · rw [if_neg hnamed, ofSegments_concat, ofSegments_concat]
      refine String.toList_inj.1 ?_
      simp

/-- A normal path with an extension is normal. -/
theorem IsExtension.isNormal_withExtension (hext : IsExtension extension) (h : IsNormal path) :
    IsNormal (withExtension extension path) := by
  by_cases hroot : path = "/"
  · subst hroot
    have hne : extension.isEmpty = false := by
      obtain ⟨name, -, -, hwritten⟩ := hext
      rw [String.isEmpty_eq_false_iff]
      rintro rfl
      cases hwritten
    have hadded : withExtension extension "/" = String.ofList (ofSegments [extension.toList]) := by
      have hname : fileName "/" = [] := rfl
      unfold withExtension
      rw [hname, hne]
      refine String.toList_inj.1 ?_
      simp [ofSegments]
    rw [hadded]
    exact isNormal_ofSegments (by simpa using hext.isSegment)
  · obtain ⟨parts, last, hparts, hlast, rfl⟩ := h.exists_last hroot
    obtain ⟨named, hnamed, hwith⟩ := exists_withExtension parts hlast hext.plain
    rw [hwith]
    exact isNormal_ofSegments (List.forall_mem_append.2 ⟨hparts, by simpa using hnamed⟩)

/-- A path gets no second extension. -/
theorem IsExtension.withExtension_withExtension (hext : IsExtension extension) (path : String) :
    withExtension extension (withExtension extension path) = withExtension extension path := by
  have hslash : '/' ∉ extension.toList := fun hmem =>
    Bool.noConfusion (hext.plain '/' hmem)
  have hdot : '.' ∈ extension.toList := by
    obtain ⟨name, -, -, hwritten⟩ := hext
    rw [hwritten]
    exact List.mem_cons_self
  by_cases hnamed : ((fileName path).contains '.' || extension.isEmpty) = true
  · have hsame : withExtension extension path = path := if_pos hnamed
    rw [hsame, hsame]
  · have hadded : withExtension extension path = path ++ extension := if_neg hnamed
    rw [hadded]
    refine if_pos ?_
    rw [fileName_append hslash]
    simp [hdot]

end Last

end TemplateEngine.Path
