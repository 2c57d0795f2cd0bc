import TemplateEngine.Text.Blank

/-!
# `Template` · Positions

The line and the column of a byte offset, both counted from one; columns count characters, and
only a line feed ends a line. An offset behind the end counts as the end, and so does one that is
not between two characters.
-/

namespace TemplateEngine.Template

/-- A place in a text. -/
structure Position where
  /-- The line, from one. -/
  line : Nat
  /-- The character of the line, from one. -/
  column : Nat
  deriving Repr, DecidableEq, Inhabited

/-- The start of a text that takes exactly `bytes` bytes, if there is one. -/
def takeBytes? (bytes : Nat) (cs : List Char) : Option (List Char) :=
  if bytes = 0 then some []
  else
    match cs with
    | [] => none
    | c :: rest =>
      if c.utf8Size ≤ bytes then (takeBytes? (bytes - c.utf8Size) rest).map (c :: ·) else none

/-- The place after a text that starts at `position`. -/
def Position.after (position : Position) : List Char → Position
  | [] => position
  | c :: rest =>
    if c = '\n' then after ⟨position.line + 1, 1⟩ rest
    else after ⟨position.line, position.column + 1⟩ rest

/-- The place of a byte offset of a source. -/
def Position.ofOffset (source : String) (offset : Nat) : Position :=
  Position.after ⟨1, 1⟩ ((takeBytes? offset source.toList).getD source.toList)

end TemplateEngine.Template
