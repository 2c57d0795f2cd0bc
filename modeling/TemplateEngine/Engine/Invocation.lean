import TemplateEngine.Context

/-!
# `Engine` · Invocations

An include or a view, whether it is written as a directive or as a server tag.

A tag's attribute `$path` is the path, `$` and `$expression` are expressions, `$data-name` sets a
member of the data, other names with a dollar sign are refused, and all others are plain
attributes.
-/

namespace TemplateEngine

open TemplateEngine.Text TemplateEngine.Template

/-- The invocation of a nested template. -/
structure Invocation where
  /-- How the template relates to its caller. -/
  kind : ChildKind
  /-- Its path as it is written. -/
  path : String
  /-- Texts that are set in its data first. -/
  data : List (String × String)
  /-- Expressions that are evaluated with its data then. -/
  expressions : List String
  /-- Plain attributes. -/
  attributes : List (String × String)
  /-- The body of a paired tag. -/
  body : Option SlotId
  deriving Inhabited

namespace Invocation

/-- The invocation that a directive writes. -/
def ofDirective (kind : ChildKind) (path : String) (expression : Option String) : Invocation :=
  ⟨kind, path, [], expression.toList, [], none⟩

/-- The kind of nested template that a tag invokes. -/
def kindOf? (tag : String) : Option ChildKind :=
  match tag with
  | "include" => some .shared
  | "view" => some .fresh
  | _ => none

/-- What the attributes of a tag say, read from left to right; the last path counts. -/
structure Parameters where
  /-- The path. -/
  path : Option String
  /-- Members of the data. -/
  data : List (String × String)
  /-- Expressions. -/
  expressions : List String
  /-- Plain attributes. -/
  plain : List (String × String)

/-- The name of a member of the data that an attribute sets. -/
def dataName? (name : String) : Option String :=
  ("$data-".toList.isPrefixOf? name.toList).map String.ofList

/-- Reads one more attribute of a tag. -/
def Parameters.add (tag : String) (p : Parameters) (named : String × String) :
    Except StructuralFault Parameters :=
  let (name, value) := named
  if name = "$path" then .ok { p with path := some value }
  else if name = "$" ∨ name = "$expression" then
    .ok { p with expressions := p.expressions ++ [value] }
  else
    match dataName? name with
    | some member => .ok { p with data := p.data ++ [(member, value)] }
    | none =>
      if name.toList.head? = some '$' then .error (.unknownParameter name tag)
      else .ok { p with plain := p.plain ++ [named] }

/-- The invocation that a tag writes. -/
def ofTag (tag : ServerTag) (body : Option SlotId) : Except StructuralFault Invocation := do
  match kindOf? tag.name with
  | none => .error (.unknownTag tag.name)
  | some kind =>
    let p ← tag.attributes.foldlM (Parameters.add tag.name) ⟨none, [], [], []⟩
    match p.path with
    | some path =>
      if (trim path.toList).isEmpty then .error (.missingPath tag.name)
      else .ok ⟨kind, path, p.data, p.expressions, p.plain, body⟩
    | none => .error (.missingPath tag.name)

end Invocation

end TemplateEngine
