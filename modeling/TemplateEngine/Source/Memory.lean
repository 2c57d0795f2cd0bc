import TemplateEngine.Dictionary
import TemplateEngine.Error
import TemplateEngine.Path

/-!
# `Source` · Templates in memory

Template texts under normalized paths. `read_add`: a template that was added is read under every
path with the same normal form, and no other path is changed; after it was removed (`read_remove`), it is
read under none of them. `mem_of_read`: what is read of a list of templates is the text of one of
them.
-/

namespace TemplateEngine

/-- Template texts in memory. -/
structure MemorySource where
  /-- The texts under their normalized paths. -/
  texts : Dictionary String
  deriving Inhabited

namespace MemorySource

/-- No templates. -/
def empty : MemorySource := ⟨.empty⟩

/-- Adds a template, or replaces the one at its path. -/
def add (source : MemorySource) (path text : String) : MemorySource :=
  ⟨source.texts.insert (Path.normalize path) text⟩

/-- Removes the template at a path. -/
def remove (source : MemorySource) (path : String) : MemorySource :=
  ⟨source.texts.erase (Path.normalize path)⟩

/-- The text of the template at a path. -/
def read (source : MemorySource) (path : String) : Except Error String :=
  let key := Path.normalize path
  match source.texts.find? key with
  | some text => .ok text
  | none => .error (.resolution (.notFound key))

/-- The templates of a list, of which the last with one path counts. -/
def ofList (templates : List (String × String)) : MemorySource :=
  templates.foldl (fun source (path, text) => source.add path text) empty

/-- Reading after adding. -/
theorem read_add (source : MemorySource) (path other text : String) :
    (source.add path text).read other =
      if Path.normalize other = Path.normalize path then .ok text else source.read other := by
  by_cases h : Path.normalize other = Path.normalize path
  · simp [read, add, Dictionary.find?_insert, h]
  · simp [read, add, Dictionary.find?_insert, h]

/-- Reading after removing. -/
theorem read_remove (source : MemorySource) (path other : String) :
    (source.remove path).read other =
      if Path.normalize other = Path.normalize path then
        .error (.resolution (.notFound (Path.normalize other)))
      else source.read other := by
  by_cases h : Path.normalize other = Path.normalize path
  · simp [read, remove, Dictionary.find?_erase, h]
  · simp [read, remove, Dictionary.find?_erase, h]

theorem mem_of_read_foldl {templates : List (String × String)} {path text : String}
    (source : MemorySource)
    (h : (templates.foldl (fun source (path, text) => source.add path text) source).read path =
      .ok text) :
    (∃ entry ∈ templates, entry.2 = text) ∨ source.read path = .ok text := by
  induction templates generalizing source with
  | nil => exact .inr h
  | cons entry templates ih =>
    rcases ih _ h with ⟨other, hmem, htext⟩ | hread
    · exact .inl ⟨other, List.mem_cons_of_mem entry hmem, htext⟩
    · rw [read_add] at hread
      split at hread
      · cases hread
        exact .inl ⟨entry, List.mem_cons_self .., rfl⟩
      · exact .inr hread

/-- What is read of a list of templates is the text of one of them. -/
theorem mem_of_read {templates : List (String × String)} {path text : String}
    (h : (ofList templates).read path = .ok text) : ∃ entry ∈ templates, entry.2 = text := by
  rcases mem_of_read_foldl empty h with hmem | hread
  · exact hmem
  · cases hread

end MemorySource

end TemplateEngine
