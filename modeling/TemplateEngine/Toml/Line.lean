import TemplateEngine.Reader
import TemplateEngine.Toml.Fault

/-!
# `Toml` · Lines and gaps

What stands between the parts of a document that carry meaning.

* **Lines** (`nextLine?`): behind a statement only blanks and a comment may stand, and the document
  may end there.
* **Gaps** (`gap?`) are blanks, comments and line terminators within an array. A comment has to end
  with its line, so it cannot be the last thing in a document.
-/

namespace TemplateEngine.Toml

open TemplateEngine.Text

/-- A blank within a line. -/
def isBlank (c : Char) : Bool := c == ' ' || c == '\t'

/-- A character that a text or a comment may hold. -/
def isTextChar (c : Char) : Bool := c == '\t' || (32 ≤ c.toNat && c.toNat != 127)

/-- A quote that a text may start with. -/
def isQuote (c : Char) : Bool := c == '"' || c == '\x27'

/-- Takes a character off. -/
def take? (c : Char) : (cs : List Char) → Option (Shorter cs)
  | [] => none
  | d :: rest => if c = d then some (.tail d rest) else none

/-- Takes a line terminator off. -/
def lineEnd? : (cs : List Char) → Option (Shorter cs)
  | '\n' :: rest => some (.tail _ rest)
  | '\r' :: '\n' :: rest => some (.cons (.tail _ rest))
  | _ => none

/-- Takes a comment off. -/
def dropComment : (cs : List Char) → NoLonger cs
  | '#' :: rest => (dropLeading isTextChar rest).cons.noLonger
  | cs => .all cs

/-- What follows the line that a text starts with, if anything does. -/
def nextLine? (expected : List String) (cs : List Char) : Except Fault (Option (Shorter cs)) :=
  let blanks := dropLeading isBlank cs
  let left := blanks.onward (dropComment blanks.val)
  match lineEnd? left.val with
  | some next => .ok (some (left.trans next))
  | none =>
    if left.val = [] then .ok none else .error (.here left.val { expected := expected })

/-- Takes blanks, comments and line terminators off. -/
def gap? (cs : List Char) : Except Fault (NoLonger cs) :=
  let blanks := dropLeading isBlank cs
  let left := blanks.onward (dropComment blanks.val)
  match lineEnd? left.val with
  | some ⟨next, hn⟩ => do
    let rest ← gap? next
    return (left.trans ⟨next, hn⟩ : Shorter cs).noLonger.onward rest
  | none =>
    if blanks.val.head? = some '#' ∨ blanks.val.head? = some '\r' then
      .error (.here (left.val.drop 1) {})
    else .ok blanks
termination_by cs.length
decreasing_by exact Nat.lt_of_lt_of_le hn left.property

end TemplateEngine.Toml
