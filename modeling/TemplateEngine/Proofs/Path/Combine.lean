import Mathlib.Data.List.DropRight
import TemplateEngine.Proofs.Path.Normal

/-!
# `Path` · Paths in directories

What a path stands for in a directory.

* **`Course`**: what a path does in any directory whatever: so many directories are left, and then
  names are entered. A segment changes the course as it changes the segments in front of it
  (`push_lead`), so a path behind another one takes the last segments of that one away and puts its
  own there (`normalSegments_append_climbs`).
* **Laws of `combine`**: the directory may be normalized (`combine_normalize`), two steps are one
  (`combine_combine`), and a path above the root is the root (`normalize_climbing`).
* **`IsWithin`**: a path without `..` stays in its directory (`isWithin_combine`), unless a slash in
  front makes the directory be forgotten. That this makes no difference is rare
  (`combine_eq_append_iff`).
-/

namespace TemplateEngine.Path

variable {before : List (List Char)} {segment cs front back : List Char} {c : Char}
  {dir path relative : String}

/-! ## Courses -/

/-- Where a path leads from any directory. -/
structure Course where
  /-- How many directories it leaves. -/
  up : Nat
  /-- The names that it enters then, of which the last comes first. -/
  down : List (List Char)

namespace Course

/-- Where the course leads from the segments in front of it. -/
def lead (course : Course) (before : List (List Char)) : List (List Char) :=
  course.down ++ before.drop course.up

/-- The course with one more segment. -/
def push (course : Course) (segment : List Char) : Course :=
  if segment = [] ∨ segment = ['.'] then course
  else if segment = ['.', '.'] then
    match course.down with
    | [] => ⟨course.up + 1, []⟩
    | _ :: down => ⟨course.up, down⟩
  else ⟨course.up, segment :: course.down⟩

/-- A segment goes on from where the course has led. -/
theorem push_lead (course : Course) (before : List (List Char)) (segment : List Char) :
    Path.push (course.lead before) segment = (course.push segment).lead before := by
  obtain ⟨up, down⟩ := course
  unfold Path.push push
  by_cases hstay : segment = [] ∨ segment = ['.']
  · simp [hstay]
  · by_cases hup : segment = ['.', '.']
    · cases down with
      | nil => simp [hup, lead]
      | cons name down => simp [hup, lead]
    · simp [hstay, hup, lead]

theorem foldl_push_lead (course : Course) (before pieces : List (List Char)) :
    pieces.foldl Path.push (course.lead before) = (pieces.foldl push course).lead before := by
  induction pieces generalizing course with
  | nil => rfl
  | cons piece pieces ih => rw [List.foldl_cons, push_lead, ih, List.foldl_cons]

/-- Without `..` no directory is left. -/
theorem up_foldl_push {pieces : List (List Char)} (h : ∀ s ∈ pieces, s ≠ ['.', '.'])
    (course : Course) : (pieces.foldl push course).up = course.up := by
  induction pieces generalizing course with
  | nil => rfl
  | cons piece pieces ih =>
    obtain ⟨hpiece, hrest⟩ := List.forall_mem_cons.1 h
    rw [List.foldl_cons, ih hrest]
    unfold push
    rw [if_neg hpiece]
    split <;> rfl

end Course

/-- The course of a path. -/
def course (cs : List Char) : Course := (segments cs).foldl Course.push ⟨0, []⟩

/-- How many of the directories in front of it a path leaves. -/
def climbs (cs : List Char) : Nat := (course cs).up

theorem foldl_push_segments (before : List (List Char)) (cs : List Char) :
    (segments cs).foldl push before = (course cs).lead before :=
  (Course.foldl_push_lead ⟨0, []⟩ before (segments cs))

/-- What a path enters are its own segments. -/
theorem normalSegments_eq_down (cs : List Char) :
    normalSegments cs = (course cs).down.reverse := by
  unfold normalSegments
  rw [foldl_push_segments, Course.lead, List.drop_nil, List.append_nil]

/-- A path behind another one takes some of its last segments away and goes on with its own. -/
theorem normalSegments_append_climbs (hc : isSeparator c) (front back : List Char) :
    normalSegments (front ++ c :: back) =
      (normalSegments front).rdrop (climbs back) ++ normalSegments back := by
  rw [normalSegments_append hc, foldl_push_segments, Course.lead, List.reverse_append,
    normalSegments_eq_down back, List.rdrop_eq_reverse_drop_reverse]
  rfl

theorem climbs_eq_zero (h : ∀ s ∈ segments cs, s ≠ ['.', '.']) : climbs cs = 0 :=
  Course.up_foldl_push h ⟨0, []⟩

/-! ## Directories -/

theorem combine_rooted (h : relative.toList.head? = some '/') :
    combine dir relative = normalize relative := if_pos h

theorem combine_relative (h : relative.toList.head? ≠ some '/') :
    combine dir relative = normalize (dir ++ "/" ++ relative) := if_neg h

/-- The segments of a path that is written behind a directory. -/
theorem normalSegments_below (dir relative : String) :
    normalSegments (dir ++ "/" ++ relative).toList =
      (normalSegments dir.toList).rdrop (climbs relative.toList) ++
        normalSegments relative.toList := by
  have hwritten : (dir ++ "/" ++ relative).toList = dir.toList ++ '/' :: relative.toList := by simp
  rw [hwritten, normalSegments_append_climbs (by decide)]

theorem normalize_below_congr {other : String} (h : normalize dir = normalize other)
    (relative : String) :
    normalize (dir ++ "/" ++ relative) = normalize (other ++ "/" ++ relative) := by
  rw [normalize_eq_iff, normalSegments_below, normalSegments_below, normalize_eq_iff.1 h]

/-- A directory may be normalized first. -/
theorem combine_normalize (dir relative : String) :
    combine (normalize dir) relative = combine dir relative := by
  by_cases hhead : relative.toList.head? = some '/'
  · rw [combine_rooted hhead, combine_rooted hhead]
  · rw [combine_relative hhead, combine_relative hhead,
      normalize_below_congr (normalize_normalize dir)]

/-- A path that is read step by step is read at once. -/
theorem combine_combine {a b : String} (ha : a ≠ "") (hb : b.toList.head? ≠ some '/')
    (dir : String) : combine (combine dir a) b = combine dir (a ++ "/" ++ b) := by
  obtain ⟨c, cs, hcons⟩ := List.exists_cons_of_ne_nil (mt String.toList_eq_nil_iff.1 ha)
  have hhead : (a ++ "/" ++ b).toList.head? = a.toList.head? := by simp [hcons]
  rw [combine_relative hb]
  by_cases hrooted : a.toList.head? = some '/'
  · rw [combine_rooted hrooted, combine_rooted (hhead.trans hrooted),
      normalize_below_congr (normalize_normalize a)]
  · have hassoc : dir ++ "/" ++ (a ++ "/" ++ b) = dir ++ "/" ++ a ++ "/" ++ b := by
      simp [String.append_assoc]
    rw [combine_relative hrooted, combine_relative (fun h => hrooted (hhead.symm.trans h)),
      normalize_below_congr (normalize_normalize _), hassoc]

/-! ## Above the root -/

/-- Behind a front that ends with a separator, the segments go on from those of the front. -/
theorem normalSegments_append_of_last (hfront : ∀ c ∈ front.getLast?, isSeparator c)
    (back : List Char) :
    normalSegments (front ++ back) =
      ((segments back).foldl push (normalSegments front).reverse).reverse := by
  obtain rfl | ⟨front, c, rfl⟩ := List.eq_nil_or_concat front
  · rfl
  · rw [List.concat_eq_append] at hfront ⊢
    have hc : isSeparator c := hfront c (by simp)
    have hnothing : normalSegments (front ++ [c]) = normalSegments front := by
      rw [normalSegments_append hc]
      exact List.reverse_reverse _
    rw [hnothing, List.append_assoc, List.singleton_append, normalSegments_append hc]

/-- At the root, a segment `..` has no effect. -/
theorem normalize_climbing {front back : String}
    (hfront : ∀ c ∈ front.toList.getLast?, isSeparator c)
    (hback : ∀ c ∈ back.toList.head?, isSeparator c) (hroot : normalize front = "/") :
    normalize (front ++ ".." ++ back) = normalize (front ++ back) := by
  have hempty : normalize front = normalize "" := hroot
  have hnone : normalSegments front.toList = [] := normalize_eq_iff.1 hempty
  have hwritten : (front ++ ".." ++ back).toList = front.toList ++ '.' :: '.' :: back.toList := by
    simp
  rw [normalize_eq_iff, hwritten, String.toList_append, normalSegments_append_of_last hfront,
    normalSegments_append_of_last hfront, hnone]
  cases hcs : back.toList with
  | nil => rfl
  | cons d rest =>
    have hd : isSeparator d := hback d (by simp [hcs])
    have hdots : segments ('.' :: '.' :: d :: rest) = ['.', '.'] :: segments rest :=
      List.splitOnP_append_cons ['.', '.'] rest hd
    have hnothing : segments (d :: rest) = [] :: segments rest :=
      List.splitOnP_append_cons [] rest hd
    rw [hdots, hnothing]
    rfl

/-! ## Staying in a directory -/

/-- A path stands for a directory or for something in it. -/
def IsWithin (dir path : String) : Prop :=
  normalSegments dir.toList <+: normalSegments path.toList

/-- What is read in a directory without `..` is in it. -/
theorem isWithin_combine (hrelative : relative.toList.head? ≠ some '/')
    (hdots : ∀ s ∈ segments relative.toList, s ≠ ['.', '.']) (dir : String) :
    IsWithin dir (combine dir relative) := by
  unfold IsWithin
  rw [combine_relative hrelative, normalSegments_normalize, normalSegments_below,
    climbs_eq_zero hdots, List.rdrop_zero]
  exact List.prefix_append _ _

/-- A slash in front makes a directory be forgotten, which makes no difference exactly if the path
leaves all of it. -/
theorem combine_eq_append_iff :
    combine dir relative = normalize (dir ++ "/" ++ relative) ↔
      (relative.toList.head? = some '/' →
        (normalSegments dir.toList).length ≤ climbs relative.toList) := by
  by_cases hhead : relative.toList.head? = some '/'
  · rw [combine_rooted hhead, normalize_eq_iff, normalSegments_below, List.self_eq_append_left,
      List.rdrop, List.take_eq_nil_iff, forall_prop_of_true hhead]
    refine ⟨?_, fun h => .inl (Nat.sub_eq_zero_of_le h)⟩
    rintro (h | h)
    · exact Nat.sub_eq_zero_iff_le.1 h
    · simp [h]
  · rw [combine_relative hhead]
    exact iff_of_true rfl fun h => absurd h hhead

end TemplateEngine.Path
